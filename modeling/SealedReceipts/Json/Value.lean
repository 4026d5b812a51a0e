import SealedReceipts.Binary64.Shortest

/-!
# Values to write

What this library writes as JSON, and its text: no blanks between tokens, names in the order they
are given. In a text the quote, the backslash and the controls are escaped, and nothing else. A
number that is not finite is written as null.
-/

namespace SealedReceipts

namespace Json

/-- A value to write. -/
inductive Value where
  | null
  | natural (n : Nat)
  | real (x : Binary64)
  | text (s : String)
  | array (elements : List Value)
  | object (members : List (String × Value))

namespace Value

/-- A text, or null for none. -/
def ofText? (s : Option String) : Value :=
  match s with
  | some s => .text s
  | none => .null

/-- A finite number, or null. -/
def ofReal (x : Binary64) : Value :=
  if x.isFinite then .real x else .null

/-! ## Text -/

def escape (c : Char) : List Char :=
  if c = '"' then ['\\', '"']
  else if c = '\\' then ['\\', '\\']
  else if c = '\x08' then ['\\', 'b']
  else if c = '\x0c' then ['\\', 'f']
  else if c = '\n' then ['\\', 'n']
  else if c = '\r' then ['\\', 'r']
  else if c = '\t' then ['\\', 't']
  else if c.toNat < 0x20 then
    ['\\', 'u', '0', '0', Nat.digitChar (c.toNat / 16), Nat.digitChar (c.toNat % 16)]
  else [c]

def quote (s : String) : List Char :=
  '"' :: s.toList.flatMap escape ++ ['"']

mutual

def chars : Value → List Char
  | .null => ['n', 'u', 'l', 'l']
  | .natural n => (toString n).toList
  | .real x => if x.isFinite then x.text.toList else ['n', 'u', 'l', 'l']
  | .text s => quote s
  | .array elements => '[' :: elementChars elements ++ [']']
  | .object members => '\x7b' :: memberChars members ++ ['\x7d']

/-- Elements with commas between them. -/
def elementChars : List Value → List Char
  | [] => []
  | [v] => v.chars
  | v :: rest => v.chars ++ ',' :: elementChars rest

/-- Members with commas between them. -/
def memberChars : List (String × Value) → List Char
  | [] => []
  | [(name, v)] => quote name ++ ':' :: v.chars
  | (name, v) :: rest => quote name ++ ':' :: v.chars ++ ',' :: memberChars rest

end

def render (v : Value) : String := String.ofList v.chars

end Value

end Json

end SealedReceipts
