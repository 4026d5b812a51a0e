import Mathlib.Data.List.Basic

/-!
# The first calls of a run

What a run has come to after its first calls is computed from the front of a list. Such a front
grows by the next call, and stays when there is none.
-/

namespace SealedReceipts

namespace Runs

variable {α β : Type} {l : List α} {a : α} {i n : Nat}

theorem take_succ (h : l[n]? = some a) : l.take (n + 1) = l.take n ++ [a] := by
  rw [List.take_add_one, h]
  rfl

theorem take_succ_of_end (h : l[n]? = none) : l.take (n + 1) = l.take n := by
  rw [List.take_add_one, h, Option.toList_none, List.append_nil]

theorem foldl_take_succ (h : l[n]? = some a) (f : β → α → β) (b : β) :
    (l.take (n + 1)).foldl f b = f ((l.take n).foldl f b) a := by
  rw [take_succ h, List.foldl_concat]

theorem foldl_take_succ_of_end (h : l[n]? = none) (f : β → α → β) (b : β) :
    (l.take (n + 1)).foldl f b = (l.take n).foldl f b := by
  rw [take_succ_of_end h]

/-- What lies behind a call that was made. -/
theorem drop_take_succ (hi : i < n) (h : l[n]? = some a) :
    (l.take (n + 1)).drop (i + 1) = (l.take n).drop (i + 1) ++ [a] := by
  have hlt : n < l.length := (List.getElem?_eq_some_iff.1 h).1
  have hlength : i + 1 ≤ (l.take n).length := by
    rw [List.length_take]
    omega
  rw [take_succ h, List.drop_append_of_le_length hlength]

end Runs

end SealedReceipts
