import SealedReceipts.Binary64.FromDecimal
import SealedReceipts.Digits

/-!
# Numbers of a document

A numeral is a number as a document writes it: digits before and behind the point and an exponent.
One without point and exponent is a whole number as long as it fits a machine word of 64 bits;
every other is a binary64 number, and has no value when it is too large for one.
-/

namespace SealedReceipts

namespace Json

/-- A number as it is written. -/
structure Numeral where
  negative : Bool
  whole : List Nat
  fraction : List Nat
  exponent : Option (Bool × List Nat)
  deriving DecidableEq, Repr

/-- The value of a numeral. -/
inductive Number where
  | whole (n : Int)
  | real (x : Binary64)
  deriving DecidableEq

namespace Numeral

/-- Takes digits into a significand as long as it keeps to 64 bits, and counts those left over. -/
def takeDigits (significand : Nat) : List Nat → Nat × Nat
  | [] => (significand, 0)
  | d :: rest =>
    if 10 * significand + d < UInt64.size then takeDigits (10 * significand + d) rest
    else (significand, rest.length + 1)

/-- Exponents from here on are all alike: the number is zero or too large. -/
def hugeExponent : Nat := 0x80000000

/-- The number of an exponent's digits, or `hugeExponent` when it is larger. -/
def exponentSize (digits : List Nat) : Nat :=
  digits.foldl (fun n d => min (10 * n + d) hugeExponent) 0

def exponentValue (n : Numeral) : Int :=
  match n.exponent with
  | none => 0
  | some (true, digits) => -(exponentSize digits : Int)
  | some (false, digits) => exponentSize digits

/-- The binary64 number. Digits that the significand has no room for are dropped: those before the
point raise the exponent by one each, those behind it do not count. -/
def real? (n : Numeral) : Option Binary64 :=
  let (s, dropped) := takeDigits 0 n.whole
  let (s, ignored) := takeDigits s n.fraction
  let places : Int := (dropped : Int) - ((n.fraction.length : Int) - (ignored : Int))
  Binary64.ofDecimal? n.negative s (places + n.exponentValue)

/-- The whole number of a numeral without point and exponent, if it fits: up to `2 ^ 64 - 1`, or
from `-2 ^ 63` to minus one. Minus zero is no whole number. -/
def whole? (n : Numeral) : Option Int :=
  if n.fraction.isEmpty && n.exponent.isNone then
    match takeDigits 0 n.whole with
    | (s, 0) =>
      if !n.negative then some (s : Int)
      else if 0 < s ∧ s ≤ 0x8000000000000000 then some (-(s : Int))
      else none
    | _ => none
  else none

def number? (n : Numeral) : Option Number :=
  match n.whole? with
  | some i => some (.whole i)
  | none => n.real?.map .real

end Numeral

def Number.toReal : Number → Binary64
  | .whole n => Binary64.ofQuotient (n < 0) (n.natAbs * Binary64.one) 1
  | .real x => x

end Json

end SealedReceipts
