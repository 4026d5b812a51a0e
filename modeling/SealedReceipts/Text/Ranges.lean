/-!
# Tables over code points

A property of characters as a table of ranges of code points. A table is written down by the
values of the property, with the spans of each value, and searched by halving.
-/

namespace SealedReceipts

namespace Text

/-- Code points from the first to the last. -/
abbrev Span := Nat × Nat

/-- Spans in ascending order, each with a value. -/
structure Ranges (α : Type) where
  entries : Array (Span × α)

namespace Ranges

variable {α : Type}

/-- The table of some values with the spans of each. -/
def ofClasses (classes : List (α × List Span)) : Ranges α :=
  let entries := classes.flatMap fun (value, spans) => spans.map fun span => (span, value)
  ⟨(entries.mergeSort fun a b => a.1.1 ≤ b.1.1).toArray⟩

/-- Looks for a code point among the entries from `low` up to `high`, without the last. -/
def search (entries : Array (Span × α)) (code low high : Nat) : Option α :=
  if low < high then
    let middle := low + (high - low) / 2
    match entries[middle]? with
    | none => none
    | some ((first, last), value) =>
      if code < first then search entries code low middle
      else if last < code then search entries code (middle + 1) high
      else some value
  else none
termination_by high - low

def find? (table : Ranges α) (code : Nat) : Option α :=
  search table.entries code 0 table.entries.size

def contains (table : Ranges α) (code : Nat) : Bool := (table.find? code).isSome

end Ranges

end Text

end SealedReceipts
