import SealedReceipts.Binary64

/-!
# Shortest decimal text

A number is written with the fewest decimal digits that read back to it, and among those with the
digits nearest to it. The digits are found in exact arithmetic: a decimal grid `10 ^ k` is tried
from the coarsest on, and the first grid that has a point among the reals rounding to the number
gives the text.

The text is positional for every magnitude: no exponent, and no point behind a whole number.
-/

namespace SealedReceipts

namespace Binary64

/-- A decimal number `digits * 10 ^ exponent`. -/
structure Decimal where
  digits : Nat
  exponent : Int
  deriving DecidableEq, Repr

namespace Shortest

/-- The reals that round to a count `units`, in quarters of a unit: from half the spacing below
(a quarter where the spacing halves) to half the spacing above. The ends belong to them when the
significand is even. -/
structure Interval where
  low : Nat
  value : Nat
  high : Nat
  closed : Bool

/-- The interval of a positive count. -/
def interval (units : Nat) : Interval :=
  let step := spacing units
  let leading := units = Nat.pow 2 units.log2 ∧ 1 < step
  { low := 4 * units - if leading then step else 2 * step
    value := 4 * units
    high := 4 * units + 2 * step
    closed := units / step % 2 = 0 }

/-- Whether the point `c * 10 ^ k`, that is `c * num / den` quarter units, rounds to the number. -/
def Interval.has (i : Interval) (c num den : Nat) : Bool :=
  if i.closed then decide (i.low * den ≤ c * num ∧ c * num ≤ i.high * den)
  else decide (i.low * den < c * num ∧ c * num < i.high * den)

/-- The size of the grid step `10 ^ k` in quarter units, as a quotient. -/
def gridStep (k : Int) : Nat × Nat :=
  if 0 ≤ k then (4 * one * Nat.pow 10 k.toNat, 1) else (4 * one, Nat.pow 10 (-k).toNat)

/-- The point of the grid `10 ^ k` that rounds to the number, the nearer of the two around it, the
upper one of a tie. -/
def onGrid? (i : Interval) (k : Int) : Option Decimal :=
  let (num, den) := gridStep k
  let below := i.value * den / num
  let lower := decide (0 < below) && i.has below num den
  let upper := i.has (below + 1) num den
  if lower && upper then
    let toLower := i.value * den - below * num
    let toUpper := (below + 1) * num - i.value * den
    some ⟨if toUpper ≤ toLower then below + 1 else below, k⟩
  else if lower then some ⟨below, k⟩
  else if upper then some ⟨below + 1, k⟩
  else none

/-- Every positive count lies between `10 ^ (-324)` and `10 ^ 309`, and a grid finer than its
spacing always has a point. -/
def coarsest : Int := 309

def grids : Nat := 660

end Shortest

/-- The shortest decimal that reads back to a positive count. -/
def shortest (units : Nat) : Decimal :=
  let i := Shortest.interval units
  ((List.range Shortest.grids).findSome? fun (n : Nat) =>
    Shortest.onGrid? i (Shortest.coarsest - (n : Int))).getD
    ⟨0, 0⟩

/-- The positional text of a decimal: zeros fill up to the point, and the point is left out when
nothing follows it. -/
def Decimal.text (d : Decimal) : String :=
  let digits := toString d.digits
  if 0 ≤ d.exponent then digits ++ String.ofList (List.replicate d.exponent.toNat '0')
  else
    let places := (-d.exponent).toNat
    let padded := String.ofList (List.replicate (places + 1 - digits.length) '0') ++ digits
    let chars := padded.toList
    let split := chars.length - places
    String.ofList (chars.take split) ++ "." ++ String.ofList (chars.drop split)

/-- The shortest text that reads back to the number. -/
def text : Binary64 → String
  | .nan => "NaN"
  | .infinite s => if s then "-inf" else "inf"
  | .finite s u _ =>
    let magnitude := if u = 0 then "0" else (shortest u).text
    if s then "-" ++ magnitude else magnitude

end Binary64

end SealedReceipts
