import SealedReceipts.Text.CombiningClass
import SealedReceipts.Text.Composite

/-!
# Composed text

The same letter may be written as one character or as a letter and its marks, in several orders.
The composed form of a text is the same for all of them: characters are taken apart, marks are put
in the order of their classes, and what composes is composed again.
-/

namespace SealedReceipts

namespace Text

namespace Composed

/-- Marks in the order of their classes; those of one class keep theirs. -/
def sortMarks (marks : List Nat) : List Nat :=
  marks.mergeSort fun a b => combiningClass a ≤ combiningClass b

/-- Sorts the marks behind each letter. -/
def order (codes : List Nat) : List Nat :=
  let (marks, rest) := codes.foldr (fun code (marks, rest) =>
    if combiningClass code = 0 then ([], code :: (sortMarks marks ++ rest))
    else (code :: marks, rest)) ([], [])
  sortMarks marks ++ rest

/-- How far the composing has come: what is done, last first, the letter that marks may still go
with, and the marks behind it that do not, last first. -/
structure Progress where
  done : List Nat := []
  letter : Option Nat := none
  marks : List Nat := []

namespace Progress

/-- Everything so far, last first. -/
def all (p : Progress) : List Nat := p.marks ++ p.letter.toList ++ p.done

/-- Whether a mark behind the letter stands between it and a character of a class. -/
def isBlocked (p : Progress) (charClass : Nat) : Bool :=
  p.marks.head?.any fun mark => charClass ≤ combiningClass mark

/-- Composes a character with the letter, or puts it behind it. -/
def add (p : Progress) (code : Nat) : Progress :=
  let charClass := combiningClass code
  let composite := if p.isBlocked charClass then none else p.letter.bind (Composite.compose? · code)
  match composite with
  | some letter => { p with letter := some letter }
  | none =>
    if charClass = 0 then { done := p.all, letter := some code }
    else if p.letter.isNone then { p with done := code :: p.done }
    else { p with marks := code :: p.marks }

end Progress

end Composed

def composed (text : List Char) : List Char :=
  let codes := Composed.order (text.flatMap fun c => Composite.decompose c.toNat)
  (codes.foldl Composed.Progress.add {}).all.reverse.map Char.ofNat

end Text

end SealedReceipts
