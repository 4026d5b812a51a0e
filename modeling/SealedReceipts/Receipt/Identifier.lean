import SealedReceipts.Calendar

/-!
# Identifiers of a receipt

Four identifiers are texts on the receipt and 32-bit numbers in its stored form:

| identifier | text | number |
|---|---|---|
| report number | `Z0001` | 1 |
| transaction id | `TX202501150042` | 42, under the date of the receipt |
| registration id | `0123456789` | 123456789 |
| serial | `F0042` | 42 |

A text may have any number of zeros in front of its digits; the written form has just enough to
reach four digits, or ten.

The patterns are those of section 4.1 of the specification, the written forms those of its section
11.
-/

namespace SealedReceipts

namespace Identifier

open Digits (padded)

/-! ## Written forms -/

def reportNumber (n : UInt32) : String := "Z" ++ padded 4 n.toNat

def transactionId (t : Timestamp) (n : UInt32) : String :=
  "TX" ++ t.date.compact ++ padded 4 n.toNat

def registrationId (n : UInt32) : String := padded 10 n.toNat

def serial (n : UInt32) : String := "F" ++ padded 4 n.toNat

/-! ## Reading -/

/-- One or more ASCII digits whose number has at most 32 bits. -/
def number? (text : List Char) : Option UInt32 :=
  (Digits.number? text).bind fun n => if n < UInt32.size then some (UInt32.ofNat n) else none

/-- What follows the characters `start` at the front of a text. -/
def after? (start : List Char) (text : List Char) : Option (List Char) :=
  if start.isPrefixOf text then some (text.drop start.length) else none

def reportNumber? (text : String) : Option UInt32 :=
  after? ['Z'] text.toList >>= number?

def registrationId? (text : String) : Option UInt32 :=
  number? text.toList

def serial? (text : String) : Option UInt32 :=
  after? ['F'] text.toList >>= number?

def dateLength : Nat := 8

/-- The date and the sequence number of a text of the form of a transaction id: eight digits that
name a day of the calendar, then the number. -/
def transactionParts? (text : String) : Option (List Char × UInt32) := do
  let rest ← after? ['T', 'X'] text.toList
  let date := rest.take dateLength
  let digits ← Digits.values? date
  if date.length = dateLength ∧ (Date.ofDigits digits).IsValid then
    let n ← number? (rest.drop dateLength)
    some (date, n)
  else none

inductive TransactionFault where
  | pattern
  | date (expected : String)
  deriving DecidableEq, Repr

/-- The sequence number of a transaction id dated like the moment `t`. The form is checked before
the date is compared. -/
def transactionId? (text : String) (t : Timestamp) : Except TransactionFault UInt32 :=
  match transactionParts? text with
  | none => .error .pattern
  | some (date, n) =>
    let expected := t.date.compact
    if String.ofList date = expected then .ok n else .error (.date expected)

end Identifier

end SealedReceipts
