import SealedReceipts.Bytes
import SealedReceipts.Text.Fields
import SealedReceipts.Web.Domain.Direction
import SealedReceipts.Web.Domain.Joining
import SealedReceipts.Web.Domain.Mapping
import SealedReceipts.Web.Punycode

/-!
# Domain names

A host name is brought into its ASCII form: its characters are replaced by what they stand for,
labels with others than ASCII are written in punycode, and a name with a character that has a
meaning of its own in a URL is refused. A label that is already in punycode has to stand for the
label that it would be written for.

Names of ASCII letters alone, as nearly all are, take no part in the rules on direction where they
stand in front.
-/

namespace SealedReceipts

namespace Web

namespace Domain

/-- Characters that no host may contain. -/
def isForbiddenInHost (c : Char) : Bool :=
  c.toNat == 0 || "\t\n\r #/:<>?@[\\]^|".toList.contains c

/-- Characters that no domain name may contain. -/
def isForbidden (c : Char) : Bool :=
  isForbiddenInHost c || c.toNat < 0x20 || c == '%' || c.toNat == 0x7f

def isAscii (text : List Char) : Bool := text.all fun c => c.toNat < 0x80

/-- A label: its characters, and its ASCII form. -/
structure Label where
  shown : List Char
  written : List Char
  deriving DecidableEq, Repr

/-- The most characters of a label that is written in punycode. -/
def maxShown : Nat := 1000

/-- The most characters of a label in punycode, without its mark. -/
def maxWritten : Nat := 2000

/-- What every label in punycode begins with. -/
def aceMark : List Char := ['x', 'n', '-', '-']

def isLabel (label : List Char) : Bool :=
  !label.any isForbidden && !label.head?.any Text.isMark && joinersFit [] label &&
    (isAscii label || label.length ≤ maxShown)

/-- The label of its ASCII form in punycode. -/
def ofWritten? (written : List Char) : Option Label := do
  let steps := written.drop aceMark.length
  if !isAscii steps || written.getLast? == some '-' || maxWritten < steps.length then none
  else
    let shown ← Punycode.decode? steps
    if mapText? shown = some shown ∧ isLabel shown then some { shown, written } else none

/-- The label of mapped characters. -/
def ofMapped? (label : List Char) : Option Label :=
  if aceMark.isPrefixOf label then ofWritten? label
  else if !isLabel label then none
  else if isAscii label then some { shown := label, written := label }
  else some { shown := label, written := aceMark ++ Punycode.encode label }

/-- The labels of a piece of a name between two dots: other characters may stand for dots. -/
def labels? (piece : List Char) : Option (List Label) := do
  (Text.fields '.' (← mapText? piece)).mapM ofMapped?

/-- Whether a piece of a name is a label as it stands. -/
def isPlain (piece : List Char) : Bool :=
  match piece with
  | [] => true
  | first :: rest =>
    first.isLower && rest.all (fun c => c.isLower || c.isDigit || c == '-') &&
      piece.getLast? != some '-' && (piece.drop 2).take 2 != ['-', '-']

def toAscii? (name : Bytes) : Option String := do
  let pieces := Text.fields '.' (← Bytes.toText? name).toList
  let plain := pieces.takeWhile isPlain
  let labels := (← (pieces.drop plain.length).mapM labels?).flatten
  if haveDirection (labels.map Label.shown) then
    some (String.ofList (['.'].intercalate (plain ++ labels.map Label.written)))
  else none

end Domain

end Web

end SealedReceipts
