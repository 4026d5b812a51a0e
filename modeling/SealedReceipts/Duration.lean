import SealedReceipts.Digits

/-!
# Durations

Spans of time in nanoseconds, and the text that shows one in the largest unit it reaches: as many
decimals as it takes, without zeros behind the last that counts.
-/

namespace SealedReceipts

structure Duration where
  nanoseconds : Nat
  deriving DecidableEq, Repr

namespace Duration

def ofMilliseconds (n : Nat) : Duration := ⟨n * 1000000⟩

def ofSeconds (n : Nat) : Duration := ⟨n * 1000000000⟩

instance : LT Duration := ⟨fun a b => a.nanoseconds < b.nanoseconds⟩

instance (a b : Duration) : Decidable (a < b) :=
  inferInstanceAs (Decidable (a.nanoseconds < b.nanoseconds))

/-- The units with the power of ten of each in nanoseconds, the largest first. -/
def units : List (Nat × String) :=
  [(9, "s"), (6, "ms"), (3, "µs"), (0, "ns")]

/-- The digits behind the point, without the zeros at their end. -/
def decimals (places part : Nat) : String :=
  let digits := (Digits.padded places part).toList.reverse.dropWhile (· == '0')
  if digits.isEmpty then "" else "." ++ String.ofList digits.reverse

/-- The span in a unit of `10 ^ places` nanoseconds. -/
def textIn (d : Duration) (places : Nat) (name : String) : String :=
  let unit := Nat.pow 10 places
  toString (d.nanoseconds / unit) ++ decimals places (d.nanoseconds % unit) ++ name

/-- The span in the largest unit that it reaches. -/
def text (d : Duration) : String :=
  match units.find? fun (places, _) => Nat.pow 10 places ≤ d.nanoseconds with
  | some (places, name) => d.textIn places name
  | none => d.textIn 0 "ns"

end Duration

end SealedReceipts
