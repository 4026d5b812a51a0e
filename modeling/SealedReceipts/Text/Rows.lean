/-!
# Tables written as text

Long tables are written as text: rows end at a semicolon, the cells of a row at a comma, and a cell
is a list of hexadecimal numbers between blanks.
-/

namespace SealedReceipts

namespace Text

namespace Rows

def digit? (c : Char) : Option Nat :=
  if '0' ≤ c ∧ c ≤ '9' then some (c.toNat - '0'.toNat)
  else if 'a' ≤ c ∧ c ≤ 'f' then some (c.toNat - 'a'.toNat + 10)
  else none

/-- How far the reader has come: what it has read, last first, of the row, of its cell and of the
number under way. -/
structure Progress where
  rows : List (List (List Nat)) := []
  row : List (List Nat) := []
  cell : List Nat := []
  number : Option Nat := none

namespace Progress

def endNumber (p : Progress) : Progress :=
  match p.number with
  | none => p
  | some n => { p with cell := n :: p.cell, number := none }

def endCell (p : Progress) : Progress :=
  let p := p.endNumber
  { p with row := p.cell.reverse :: p.row, cell := [] }

def endRow (p : Progress) : Progress :=
  let p := p.endCell
  { p with rows := p.row.reverse :: p.rows, row := [] }

/-- Reads one character. -/
def read (p : Progress) (c : Char) : Progress :=
  if c = ';' then p.endRow
  else if c = ',' then p.endCell
  else
    match digit? c with
    | none => p.endNumber
    | some d => { p with number := some (16 * p.number.getD 0 + d) }

end Progress

/-- The rows of some lines, each of which begins a row. -/
def ofLines (lines : List String) : List (List (List Nat)) :=
  lines.flatMap fun line => (line.foldl Progress.read {}).endRow.rows.reverse

end Rows

end Text

end SealedReceipts
