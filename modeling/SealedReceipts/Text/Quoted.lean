import SealedReceipts.Text.Mark
import SealedReceipts.Text.Unprintable

/-!
# Quoted text

A text in a message stands between double quotes. The quote, the backslash and the common controls
have an escape of two characters; a character that has no glyph, or that would extend the quote
mark before it, is written by its code point; all others stand for themselves.
-/

namespace SealedReceipts

namespace Text

/-- A code point in hexadecimal, without zeros in front. -/
def escapeCode (c : Char) : List Char :=
  ['\\', 'u', '{'] ++ Nat.toDigits 16 c.toNat ++ ['}']

def escape (c : Char) : List Char :=
  if c = '"' then ['\\', '"']
  else if c = '\\' then ['\\', '\\']
  else if c = '\n' then ['\\', 'n']
  else if c = '\r' then ['\\', 'r']
  else if c = '\t' then ['\\', 't']
  else if c.toNat = 0 then ['\\', '0']
  else if isUnprintable c || isExtending c then escapeCode c
  else [c]

def quoted (text : String) : String :=
  String.ofList ('"' :: text.toList.flatMap escape ++ ['"'])

end Text

end SealedReceipts
