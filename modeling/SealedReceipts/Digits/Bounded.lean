import SealedReceipts.Digits

/-!
# Bounded numerals

Decimal numerals of numbers up to a bound, with an optional sign in front. A numeral is read from
its left, and the first thing that is wrong with it is reported: a character that is no digit, or
a digit that makes the number pass its bound.
-/

namespace SealedReceipts

namespace Digits

/-- Why a text is not the numeral of a number within bounds. -/
inductive NumeralFault where
  | empty
  | notADigit
  | tooLarge
  | tooSmall
  deriving DecidableEq, Repr

def NumeralFault.message : NumeralFault → String
  | .empty => "cannot parse integer from empty string"
  | .notADigit => "invalid digit found in string"
  | .tooLarge => "number too large to fit in target type"
  | .tooSmall => "number too small to fit in target type"

/-- Continues a number with digits, up to a bound. `beyond` is the fault of passing it. -/
def extend (bound : Nat) (beyond : NumeralFault) (n : Nat) : List Char → Except NumeralFault Nat
  | [] => .ok n
  | c :: rest =>
    match digit? c with
    | none => .error .notADigit
    | some d => if bound < 10 * n + d then .error beyond else extend bound beyond (10 * n + d) rest

/-- The number of one digit or more. -/
def magnitude (bound : Nat) (beyond : NumeralFault) (digits : List Char) :
    Except NumeralFault Nat :=
  if digits.isEmpty then .error .notADigit else extend bound beyond 0 digits

/-- A natural number up to a bound. It may have a plus sign. -/
def natural (bound : Nat) : List Char → Except NumeralFault Nat
  | [] => .error .empty
  | '+' :: digits => magnitude bound .tooLarge digits
  | digits => magnitude bound .tooLarge digits

/-- A whole number not below the negative of a bound, and below the bound. -/
def integer (bound : Nat) : List Char → Except NumeralFault Int
  | '-' :: digits => (magnitude bound .tooSmall digits).map fun n => -(n : Int)
  | text => (natural (bound - 1) text).map Int.ofNat

end Digits

end SealedReceipts
