/-!
# Decimal digits

Natural numbers as ASCII decimal digits: written with zeros in front up to a width, and read with
any number of them.
-/

namespace SealedReceipts

namespace Digits

/-- The digits of a number, with zeros in front up to `width`. -/
def padded (width n : Nat) : String :=
  let digits := toString n
  String.ofList (List.replicate (width - digits.length) '0') ++ digits

def digit? (c : Char) : Option Nat :=
  if '0' ≤ c ∧ c ≤ '9' then some (c.toNat - '0'.toNat) else none

def values? (text : List Char) : Option (List Nat) :=
  text.mapM digit?

/-- The number that decimal digits write. -/
def decimal (values : List Nat) : Nat :=
  values.foldl (fun n d => 10 * n + d) 0

/-- The number of a text of one or more ASCII digits. -/
def number? (text : List Char) : Option Nat :=
  if text.isEmpty then none else (values? text).map decimal

end Digits

end SealedReceipts
