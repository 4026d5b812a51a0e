/-!
# Text on a terminal

A terminal takes some characters of a text as orders: controls, and whole sequences that begin with
the escape control. A text that is meant to be read is freed of them, blanks apart. What it was to
change of the text around it then stays as it is.
-/

namespace SealedReceipts

namespace Text

namespace Terminal

/-- The controls that are blanks: they are read and not obeyed. -/
def isBlankControl (c : Char) : Bool := c == '\t' || c == '\n' || c == '\x0c' || c == '\r'

/-- Whether a character outside of sequences is read. -/
def isReadable (c : Char) : Bool := isBlankControl c || (0x20 ≤ c.toNat && c.toNat != 0x7f)

/-- What a terminal waits for: text, what kind of sequence has begun, the end of one that names a
set of characters, that of one with numbers, the end of the numbers in front of an order to the
device, or that of the text of an order, to the device or to the system. -/
inductive Mode where
  | text
  | kind
  | charset
  | numbers
  | deviceNumbers
  | deviceText
  | systemText
  deriving DecidableEq, Repr

namespace Mode

/-- Whether a blank control in a sequence is none of its characters. -/
def letsBlanksThrough : Mode → Bool
  | .text | .kind | .charset | .numbers => true
  | .deviceNumbers | .deviceText | .systemText => false

/-- The mode behind the first character of a sequence. -/
def ofKind (c : Char) : Mode :=
  if c = '[' then .numbers
  else if c = ']' then .systemText
  else if c = 'P' then .deviceNumbers
  else if "X^_".contains c then .deviceText
  else if ' ' ≤ c ∧ c ≤ '/' then .charset
  else if '0' ≤ c ∧ c ≤ '~' then .text
  else .kind

/-- The byte that ends the text of an order to the device, also as a part of a character. -/
def deviceEnd : UInt8 := 0x9c

/-- The mode behind a character that is not read. -/
def next (mode : Mode) (c : Char) : Mode :=
  if c = '\x18' ∨ c = '\x1a' then .text
  else if c = '\x1b' then .kind
  else
    match mode with
    | .text => .text
    | .kind => ofKind c
    | .charset => if '0' ≤ c ∧ c ≤ '~' then .text else .charset
    | .numbers => if '@' ≤ c ∧ c ≤ '~' then .text else .numbers
    | .deviceNumbers => if '@' ≤ c ∧ c ≤ '~' then .deviceText else .deviceNumbers
    | .deviceText => if (String.singleton c).toUTF8.toList.contains deviceEnd then .text else mode
    | .systemText => if c = '\x07' then .text else .systemText

end Mode

/-- The readable characters of a text. A blank control lets characters through to the next one that
is not readable, and the sequence around it goes on behind that; a character beyond ASCII ends the
sequence. -/
def readable (mode : Mode) (through : Bool) : List Char → List Char
  | [] => []
  | c :: rest =>
    if (through || mode = .text) && isReadable c then
      c :: readable (if 0x80 ≤ c.toNat then .text else mode) true rest
    else if mode.letsBlanksThrough && isBlankControl c then c :: readable mode true rest
    else readable (mode.next c) false rest

end Terminal

/-- What is to be read of a text that stands between others. -/
def readable (text : String) : String := String.ofList (Terminal.readable .text false text.toList)

end Text

end SealedReceipts
