import SealedReceipts.Bytes

/-!
# Percent escapes

A byte is escaped as a percent sign and two hexadecimal digits. In reading, a percent sign without
two digits behind it stands for itself. Query strings are forms: names and values, separated by
ampersands, in which a plus sign stands for a blank.
-/

namespace SealedReceipts

namespace Percent

/-! ## Reading -/

/-- Reads bytes onto those read before, last first. -/
def decodeOnto (read : Bytes) : Bytes → Bytes
  | [] => read.reverse
  | 0x25 :: x :: y :: rest =>
    match Bytes.hexValue? (Char.ofNat x.toNat), Bytes.hexValue? (Char.ofNat y.toNat) with
    | some high, some low => decodeOnto (UInt8.ofNat (16 * high + low) :: read) rest
    | _, _ => decodeOnto (0x25 :: read) (x :: y :: rest)
  | b :: rest => decodeOnto (b :: read) rest
  termination_by bytes => bytes.length
  decreasing_by all_goals simp only [List.length_cons]; omega

def decode (text : String) : Bytes := decodeOnto [] (Bytes.ofText text)

def decodeText? (text : String) : Option String := Bytes.toText? (decode text)

/-! ## Writing -/

/-- A byte as a percent sign and two upper-case digits. -/
def escapeByte (b : UInt8) : List Char :=
  ['%', (Nat.digitChar (b.toNat / 16)).toUpper, (Nat.digitChar (b.toNat % 16)).toUpper]

/-- A character, escaped byte by byte if it is not plain ASCII or if `isEscaped` says so. -/
def encodeChar (isEscaped : Char → Bool) (c : Char) : List Char :=
  if c.toNat < 0x20 || 0x7e < c.toNat || isEscaped c then
    (Bytes.ofText (String.singleton c)).flatMap escapeByte
  else [c]

/-! ## Forms -/

/-- The text of bytes, whatever they are. A byte that belongs to no character becomes the
replacement character. -/
def toTextLossy (bytes : Bytes) : String :=
  String.ofList ((Bytes.chars bytes).map (·.getD '\ufffd'))

def decodeFormText (text : String) : String :=
  toTextLossy (decode (text.map fun c => if c = '+' then ' ' else c))

/-- The names and values of a form. A part without an equals sign is a name with an empty value; an
empty part is nothing. -/
def decodeForm (text : String) : List (String × String) :=
  (text.splitOn "&").filterMap fun part =>
    if part.isEmpty then none
    else
      let (name, value) := part.toList.span (· ≠ '=')
      some (decodeFormText (String.ofList name), decodeFormText (String.ofList (value.drop 1)))

end Percent

end SealedReceipts
