/-!
# Binary64 numbers

Amounts are IEEE 754 binary64 numbers. A finite one is kept as a sign and a magnitude counted in
*units* of `2 ^ -1074`, the smallest positive magnitude, so that sums, products and quotients are
whole-number arithmetic followed by one rounding.

A count is representable when it stays below `2 ^ 2098` units and has at most 53 significant
bits. Every operation rounds its exact result to the nearest such count, a tie to the even one,
and gives an infinity when the rounded count is too large.

`ofBits` and `toBits` relate the numbers to their 64-bit interchange words.
-/

namespace SealedReceipts

namespace Binary64

/-- The count of units in the number one. -/
def one : Nat := Nat.pow 2 1074

/-- The significant bits of a normal number. -/
def precision : Nat := 53

/-- The distance between neighbouring counts around `units`: the last of 53 bits that begin with
the leading bit, and never less than one unit. -/
def spacing (units : Nat) : Nat := Nat.pow 2 (units.log2 + 1 - precision)

def Representable (units : Nat) : Prop :=
  units < Nat.pow 2 2098 ∧ spacing units ∣ units

instance (units : Nat) : Decidable (Representable units) := by
  unfold Representable; infer_instance

end Binary64

/-- A binary64 number. All not-a-number words count as one. -/
inductive Binary64 where
  | nan
  | infinite (negative : Bool)
  | finite (negative : Bool) (units : Nat) (representable : Binary64.Representable units)
  deriving DecidableEq

namespace Binary64

/-! ## Rounding -/

/-- The quotient `n / d` as the nearest whole number, a half to the even neighbour. -/
def roundHalfEven (n d : Nat) : Nat :=
  let below := n / d
  let twice := 2 * (n % d)
  if twice < d ∨ (twice = d ∧ below % 2 = 0) then below else below + 1

/-- The quotient `n / d` as the nearest count of 53 significant bits. -/
def roundUnits (n d : Nat) : Nat :=
  let step := spacing (n / d)
  roundHalfEven n (d * step) * step

/-- The number nearest to `n / d` units under a sign. A rounded count always has few enough bits,
so one that is not representable is too large, and the number is infinite. -/
def ofQuotient (negative : Bool) (n d : Nat) : Binary64 :=
  if h : Representable (roundUnits n d) then .finite negative (roundUnits n d) h
  else .infinite negative

/-- The number nearest to a natural number. -/
def ofNat (n : Nat) : Binary64 := ofQuotient false (n * one) 1

instance (n : Nat) : OfNat Binary64 n := ⟨ofNat n⟩

/-- Zero below zero, where a sum over nothing starts. -/
def minusZero : Binary64 := ofQuotient true 0 1

instance : Inhabited Binary64 := ⟨0⟩

/-! ## Arithmetic -/

/-- The exact difference of two counts under the sign of the larger; equal counts give plus
zero. -/
def ofDifference (positive negative : Nat) : Binary64 :=
  if positive < negative then ofQuotient true (negative - positive) 1
  else ofQuotient false (positive - negative) 1

/-- Addition. Infinities of unlike sign have no sum. -/
def add : Binary64 → Binary64 → Binary64
  | .nan, _ | _, .nan => .nan
  | .infinite s, .infinite t => if s = t then .infinite s else .nan
  | .infinite s, .finite .. => .infinite s
  | .finite .., .infinite t => .infinite t
  | .finite s a _, .finite t b _ =>
    if s = t then ofQuotient s (a + b) 1
    else if s then ofDifference b a
    else ofDifference a b

/-- Multiplication. An infinity times zero has no product. -/
def mul : Binary64 → Binary64 → Binary64
  | .nan, _ | _, .nan => .nan
  | .infinite s, .infinite t => .infinite (s != t)
  | .infinite s, .finite t b _ => if b = 0 then .nan else .infinite (s != t)
  | .finite s a _, .infinite t => if a = 0 then .nan else .infinite (s != t)
  | .finite s a _, .finite t b _ => ofQuotient (s != t) (a * b) one

/-- Division. Zero by zero and infinity by infinity have no quotient; any other number by zero is
infinite. -/
def div : Binary64 → Binary64 → Binary64
  | .nan, _ | _, .nan => .nan
  | .infinite _, .infinite _ => .nan
  | .infinite s, .finite t _ _ => .infinite (s != t)
  | .finite s _ _, .infinite t => ofQuotient (s != t) 0 1
  | .finite s a _, .finite t b _ =>
    if b = 0 then
      if a = 0 then .nan else .infinite (s != t)
    else ofQuotient (s != t) (a * one) b

instance : Add Binary64 := ⟨add⟩
instance : Mul Binary64 := ⟨mul⟩
instance : Div Binary64 := ⟨div⟩

/-- The number without the part behind the binary point, its sign kept. -/
def trunc : Binary64 → Binary64
  | .nan => .nan
  | .infinite s => .infinite s
  | .finite s u _ => ofQuotient s (u / one * one) 1

/-- The same magnitude under the other sign. -/
def neg : Binary64 → Binary64
  | .nan => .nan
  | .infinite s => .infinite !s
  | .finite s u h => .finite (!s) u h

/-! ## Order -/

def isFinite : Binary64 → Bool
  | .finite .. => true
  | _ => false

def isNaN : Binary64 → Bool
  | .nan => true
  | _ => false

/-- The signed count of a finite number; both zeros count nothing. -/
def signedUnits (negative : Bool) (units : Nat) : Int :=
  if negative then -(units : Int) else units

/-- Strictly below. Nothing compares with not-a-number. -/
def lt : Binary64 → Binary64 → Bool
  | .nan, _ | _, .nan => false
  | .infinite s, .infinite t => s && !t
  | .infinite s, .finite .. => s
  | .finite .., .infinite t => !t
  | .finite s a _, .finite t b _ => decide (signedUnits s a < signedUnits t b)

def le : Binary64 → Binary64 → Bool
  | .nan, _ | _, .nan => false
  | .infinite s, .infinite t => s || !t
  | .infinite s, .finite .. => s
  | .finite .., .infinite t => !t
  | .finite s a _, .finite t b _ => decide (signedUnits s a ≤ signedUnits t b)

/-- The whole ones in the magnitude of a finite number. -/
def wholePart : Binary64 → Nat
  | .finite _ u _ => u / one
  | _ => 0

/-! ## Interchange words -/

def signBit (negative : Bool) : Nat := if negative then Nat.pow 2 63 else 0

/-- The magnitude bits of a count: a count below `2 ^ 52` is its own word; a larger one gives its
exponent, then its 52 bits behind the leading one. -/
def magnitudeBits (units : Nat) : Nat :=
  if units < Nat.pow 2 52 then units
  else (units.log2 - 52) * Nat.pow 2 52 + units / spacing units

/-- The interchange word; not-a-number is the quiet one without a payload. -/
def toBits : Binary64 → UInt64
  | .nan => 0x7ff8000000000000
  | .infinite s => UInt64.ofNat (signBit s + 0x7ff0000000000000)
  | .finite s u _ => UInt64.ofNat (signBit s + magnitudeBits u)

/-- The number that an interchange word stands for. -/
def ofBits (word : UInt64) : Binary64 :=
  let negative := Nat.pow 2 63 ≤ word.toNat
  let exponent := word.toNat / Nat.pow 2 52 % Nat.pow 2 11
  let fraction := word.toNat % Nat.pow 2 52
  if exponent = 2047 then
    if fraction = 0 then .infinite negative else .nan
  else if exponent = 0 then ofQuotient negative fraction 1
  else ofQuotient negative ((Nat.pow 2 52 + fraction) * Nat.pow 2 (exponent - 1)) 1

end Binary64

end SealedReceipts
