import Mathlib.Logic.ExistsUnique
import SealedReceipts.OneTimeKey
import SealedReceipts.Proofs.Bank.Call
import SealedReceipts.Proofs.Runs

/-!
# Every accepted receipt leaves the store once

A run is a store that starts empty and the calls that are made of it, each with the clock reading it
is made with. The calls of several clients arrive in some order, and a run is any such order. A call
is known by its number, and so is the submission that it makes: keys, ids and whole receipts come
back after they were removed, so none of them would tell two submissions apart.

A submission is held for as long as its own receipt is under its key at every moment since it was
accepted. It leaves with the call after which the key is free, and the call is a collection that is
answered with the receipt or a sweep.
-/

namespace SealedReceipts

namespace Bank

namespace Store

variable {κ : Type} [BEq κ] [Hashable κ]

/-! ## Runs -/

/-- The calls made of a store that starts empty, in their order. -/
structure Run (κ : Type) where
  maxAge : Nat
  calls : List (Call κ)

namespace Run

/-- The store after the first `n` calls. -/
def store (r : Run κ) (n : Nat) : Store κ :=
  (r.calls.take n).foldl (fun store call => (store.perform call).2) (empty r.maxAge)

def answer? (r : Run κ) (n : Nat) : Option Answer :=
  r.calls[n]?.map fun call => ((r.store n).perform call).1

/-- The answers to the first `n` calls, counted and added up. -/
def total (r : Run κ) (count : Answer → Nat) : Nat → Nat
  | 0 => 0
  | n + 1 => r.total count n + (r.answer? n).elim 0 count

def accepted (r : Run κ) (n : Nat) : Nat := r.total Answer.arrivals n

/-- How many of the first `n` calls were collections that returned a receipt. -/
def collected (r : Run κ) (n : Nat) : Nat := r.total Answer.handedOut n

/-- What the sweeps in the first `n` calls returned, added up. -/
def swept (r : Run κ) (n : Nat) : Nat := r.total Answer.dropped n

variable {r : Run κ} {i j n : Nat} {key : κ} {receipt : StoredReceipt} {call : Call κ}

theorem store_zero (r : Run κ) : r.store 0 = empty r.maxAge := rfl

theorem store_succ (h : r.calls[n]? = some call) :
    r.store (n + 1) = ((r.store n).perform call).2 :=
  Runs.foldl_take_succ h _ _

theorem store_succ_of_end (h : r.calls[n]? = none) : r.store (n + 1) = r.store n :=
  Runs.foldl_take_succ_of_end h _ _

theorem answer?_eq (h : r.calls[n]? = some call) :
    r.answer? n = some ((r.store n).perform call).1 := by
  rw [answer?, h]
  rfl

theorem total_succ (count : Answer → Nat) (h : r.calls[n]? = some call) :
    r.total count (n + 1) = r.total count n + count ((r.store n).perform call).1 := by
  rw [total, answer?_eq h]
  rfl

theorem total_succ_of_end (count : Answer → Nat) (h : r.calls[n]? = none) :
    r.total count (n + 1) = r.total count n := by
  rw [total, answer?, h]
  rfl

/-! ## The situations of a submission -/

/-- Call `i` submits a receipt under a key and is accepted. -/
structure Accepted (r : Run κ) (i : Nat) (key : κ) (receipt : StoredReceipt) : Prop where
  call : r.calls[i]? = some
    (.submit key receipt.payload receipt.receiptId receipt.webhookUrl receipt.storedAt)
  answer : r.answer? i = some .accepted

/-- The receipt of submission `i` is under its key from then on until after the first `n` calls. -/
def Held (r : Run κ) (i : Nat) (key : κ) (receipt : StoredReceipt) (n : Nat) : Prop :=
  ∀ m, i < m → m ≤ n → (r.store m).byKey[key]? = some receipt

/-- The receipt of submission `i` is under its key until call `j`, which removes it. -/
structure LeavesAt (r : Run κ) (i : Nat) (key : κ) (receipt : StoredReceipt) (j : Nat) : Prop where
  later : i < j
  held : r.Held i key receipt j
  gone : (r.store (j + 1)).byKey[key]? = none

/-- Call `j` collects the receipt of submission `i`. -/
structure CollectedAt (r : Run κ) (i : Nat) (key : κ) (receipt : StoredReceipt) (j : Nat) : Prop
    extends LeavesAt r i key receipt j where
  call : ∃ asked, (asked == key) = true ∧ r.calls[j]? = some (.collect asked)
  answer : r.answer? j = some (.collected (some receipt))

/-- Call `j` sweeps the receipt of submission `i`. -/
structure DroppedAt (r : Run κ) (i : Nat) (key : κ) (receipt : StoredReceipt) (j : Nat) : Prop
    extends LeavesAt r i key receipt j where
  call : ∃ now, r.calls[j]? = some (.sweep now)

variable {other : κ} {receipt' : StoredReceipt} {i' j' : Nat}

theorem held_succ (h : r.Held i key receipt n)
    (hthere : (r.store (n + 1)).byKey[key]? = some receipt) : r.Held i key receipt (n + 1) := by
  intro m hm hle
  rcases Nat.lt_or_eq_of_le hle with hlt | rfl
  · exact h m hm (by omega)
  · exact hthere

theorem LeavesAt.not_held (h : r.LeavesAt i key receipt j) (hn : j < n) :
    ¬ r.Held i key receipt n := by
  intro hheld
  have hthere := hheld (j + 1) (by have := h.later; omega) hn
  rw [h.gone] at hthere
  exact absurd hthere (by simp)

/-- A submission leaves once. -/
theorem LeavesAt.unique (h : r.LeavesAt i key receipt j) (h' : r.LeavesAt i key receipt j') :
    j = j' := by
  rcases Nat.lt_trichotomy j j' with hlt | heq | hgt
  · exact absurd h'.held (h.not_held hlt)
  · exact heq
  · exact absurd h.held (h'.not_held hgt)

theorem CollectedAt.not_droppedAt (h : r.CollectedAt i key receipt j) :
    ¬ r.DroppedAt i key receipt j' := by
  intro h'
  obtain rfl := h.toLeavesAt.unique h'.toLeavesAt
  obtain ⟨asked, -, hcollect⟩ := h.call
  obtain ⟨now, hsweep⟩ := h'.call
  rw [hcollect] at hsweep
  exact absurd hsweep (by simp)

variable [EquivBEq κ] [LawfulHashable κ]

theorem Accepted.held (h : r.Accepted i key receipt) : r.Held i key receipt (i + 1) := by
  intro m hm hle
  obtain rfl : m = i + 1 := by omega
  have hanswer := h.answer
  rw [answer?_eq h.call, Option.some.injEq] at hanswer
  rw [store_succ h.call, (perform_submit_accepted hanswer).2, put_byKey]
  exact Std.HashMap.getElem?_insert_self

/-- Nothing is under the key of a submission when it is accepted. -/
theorem Accepted.free (h : r.Accepted i key receipt) (heq : (other == key) = true) :
    (r.store i).byKey[other]? ≠ some receipt' := by
  have hanswer := h.answer
  rw [answer?_eq h.call, Option.some.injEq] at hanswer
  have hfree := (perform_submit_accepted hanswer).1
  rw [← Std.HashMap.contains_congr heq, Std.HashMap.contains_eq_isSome_getElem?] at hfree
  intro hthere
  rw [hthere] at hfree
  exact Bool.noConfusion hfree

/-- The step of a run for a submission that is held: it stays, or the call is the one with which it
leaves. -/
theorem Held.step (h : r.Held i key receipt n) (hn : i < n) :
    r.Held i key receipt (n + 1) ∨ r.CollectedAt i key receipt n ∨ r.DroppedAt i key receipt n := by
  have hthere := h n hn (Nat.le_refl n)
  cases hcall : r.calls[n]? with
  | none =>
    left
    exact held_succ h (by rw [store_succ_of_end hcall, hthere])
  | some call =>
    rcases perform_held hthere call with hstay | ⟨hgone, hcollect | hsweep⟩
    · left
      exact held_succ h (by rw [store_succ hcall, hstay])
    · right; left
      obtain ⟨asked, heq, rfl, hanswer⟩ := hcollect
      exact ⟨⟨hn, h, by rw [store_succ hcall, hgone]⟩, ⟨asked, heq, hcall⟩,
        by rw [answer?_eq hcall, hanswer]⟩
    · right; right
      obtain ⟨now, rfl⟩ := hsweep
      exact ⟨⟨hn, h, by rw [store_succ hcall, hgone]⟩, ⟨now, hcall⟩⟩

/-- An accepted submission is held, or was collected or swept before. -/
theorem Accepted.situation (h : r.Accepted i key receipt) (hn : i < n) :
    r.Held i key receipt n ∨ (∃ j < n, r.CollectedAt i key receipt j) ∨
      ∃ j < n, r.DroppedAt i key receipt j := by
  induction n with
  | zero => omega
  | succ n ih =>
    rcases Nat.lt_or_eq_of_le (Nat.le_of_lt_succ hn) with hlt | rfl
    · rcases ih hlt with hheld | ⟨j, hj, hcollected⟩ | ⟨j, hj, hdropped⟩
      · rcases hheld.step hlt with hstay | hcollected | hdropped
        · exact .inl hstay
        · exact .inr (.inl ⟨n, by omega, hcollected⟩)
        · exact .inr (.inr ⟨n, by omega, hdropped⟩)
      · exact .inr (.inl ⟨j, by omega, hcollected⟩)
      · exact .inr (.inr ⟨j, by omega, hdropped⟩)
    · exact .inl h.held

/-! ## Where a receipt in the store came from -/

/-- Whatever is under a key is the receipt of an accepted submission that is held since. -/
theorem exists_accepted (h : (r.store n).byKey[key]? = some receipt) :
    ∃ i asked, i < n ∧ (asked == key) = true ∧ r.Accepted i asked receipt ∧
      r.Held i asked receipt n := by
  induction n with
  | zero =>
    rw [store_zero, empty_getElem?] at h
    exact absurd h (by simp)
  | succ n ih =>
    cases hcall : r.calls[n]? with
    | none =>
      have hbefore := h
      rw [store_succ_of_end hcall] at hbefore
      obtain ⟨i, asked, hi, heq, haccepted, hheld⟩ := ih hbefore
      refine ⟨i, asked, by omega, heq, haccepted, ?_⟩
      exact held_succ hheld (by rw [Std.HashMap.getElem?_congr heq, h])
    | some call =>
      have hafter := h
      rw [store_succ hcall] at hafter
      rcases perform_origin hafter with hbefore | ⟨asked, heq, hanswer, rfl⟩
      · obtain ⟨i, asked, hi, heq, haccepted, hheld⟩ := ih hbefore
        refine ⟨i, asked, by omega, heq, haccepted, ?_⟩
        exact held_succ hheld (by rw [Std.HashMap.getElem?_congr heq, h])
      · have haccepted : r.Accepted n asked receipt :=
          ⟨hcall, by rw [answer?_eq hcall, hanswer]⟩
        exact ⟨n, asked, by omega, heq, haccepted, haccepted.held⟩

/-- Two submissions that are held at one moment under one key are the same. -/
theorem Accepted.unique (h : r.Accepted i key receipt) (h' : r.Accepted i' other receipt')
    (hheld : r.Held i key receipt n) (hheld' : r.Held i' other receipt' n)
    (hi : i < n) (hi' : i' < n) (heq : (key == other) = true) : i = i' := by
  rcases Nat.lt_trichotomy i i' with hlt | hsame | hgt
  · exact absurd (hheld i' hlt (by omega)) (h'.free heq)
  · exact hsame
  · exact absurd (hheld' i hgt (by omega)) (h.free (BEq.symm heq))

/-! ## The ledger -/

/-- At every moment the accepted submissions are those collected, those swept and those stored. -/
theorem accepted_eq (r : Run κ) (n : Nat) :
    r.accepted n = r.collected n + r.swept n + (r.store n).byKey.size := by
  unfold accepted collected swept
  induction n with
  | zero => simp [total, store_zero]
  | succ n ih =>
    cases hcall : r.calls[n]? with
    | none => simp only [total_succ_of_end _ hcall, store_succ_of_end hcall, ih]
    | some call =>
      have hstep := perform_size (r.store n) call
      simp only [total_succ _ hcall, store_succ hcall]
      omega

/-- A collection of the key of a submission that is held collects it. -/
theorem Held.collectedAt {asked : κ} (h : r.Held i key receipt n) (hn : i < n)
    (heq : (asked == key) = true) (hcall : r.calls[n]? = some (.collect asked)) :
    r.CollectedAt i key receipt n := by
  have hthere := h n hn (Nat.le_refl n)
  have hgone : (r.store (n + 1)).byKey[key]? = none := by
    rw [store_succ hcall]
    exact (remove_getElem? (r.store n) asked key).trans (if_pos heq)
  have hanswer : r.answer? n = some (.collected (some receipt)) := by
    rw [answer?_eq hcall]
    simp only [perform, collect]
    rw [Std.HashMap.getElem?_congr heq, hthere]
  exact ⟨⟨hn, h, hgone⟩, ⟨asked, heq, hcall⟩, hanswer⟩

/-- A collection that returns a receipt collects one submission. -/
theorem exists_collectedAt {asked : κ} (hcall : r.calls[j]? = some (.collect asked))
    (hanswer : r.answer? j = some (.collected (some receipt))) :
    ∃! i, ∃ key, r.Accepted i key receipt ∧ r.CollectedAt i key receipt j := by
  have hperform := hanswer
  rw [answer?_eq hcall, Option.some.injEq] at hperform
  obtain ⟨i, key, hi, heq, haccepted, hheld⟩ := exists_accepted (perform_collected hperform)
  refine ⟨i, ⟨key, haccepted, hheld.collectedAt hi (BEq.symm heq) hcall⟩, ?_⟩
  rintro i' ⟨key', haccepted', hcollected'⟩
  obtain ⟨asked', heq', hcall'⟩ := hcollected'.call
  rw [hcall, Option.some.injEq, Call.collect.injEq] at hcall'
  obtain rfl := hcall'
  exact haccepted'.unique haccepted hcollected'.held hheld hcollected'.later hi
    (BEq.trans (BEq.symm heq') (BEq.symm heq))

/-- **Every accepted receipt is collected at most once, and none is lost.** In every run, whatever
the order of the calls and whatever the clock shows:

* a submission that was accepted is at every later moment in exactly one of three situations: it is
  held with the content it was submitted with, one collection of its key returned it, or one sweep
  dropped it;
* a collection that returns a receipt collects exactly one submission with that content;
* as long as a submission neither was collected nor dropped, a collection of its key collects it;
* the accepted submissions are as many as the collections that returned a receipt, the results of
  the sweeps and the receipts in the store together. -/
theorem leaves_once (r : Run κ) :
    (∀ i key receipt, r.Accepted i key receipt → ∀ n, i < n →
      (r.Held i key receipt n ∧ (∀ j < n, ¬ r.CollectedAt i key receipt j) ∧
          ∀ j < n, ¬ r.DroppedAt i key receipt j) ∨
        (¬ r.Held i key receipt n ∧ (∃! j, j < n ∧ r.CollectedAt i key receipt j) ∧
          ∀ j < n, ¬ r.DroppedAt i key receipt j) ∨
        (¬ r.Held i key receipt n ∧ (∀ j < n, ¬ r.CollectedAt i key receipt j) ∧
          ∃! j, j < n ∧ r.DroppedAt i key receipt j)) ∧
    (∀ j asked receipt, r.calls[j]? = some (.collect asked) →
      r.answer? j = some (.collected (some receipt)) →
        ∃! i, ∃ key, r.Accepted i key receipt ∧ r.CollectedAt i key receipt j) ∧
    (∀ i key receipt n asked, r.Accepted i key receipt → i < n → (asked == key) = true →
      r.calls[n]? = some (.collect asked) →
      (∀ j < n, ¬ r.CollectedAt i key receipt j ∧ ¬ r.DroppedAt i key receipt j) →
        r.CollectedAt i key receipt n) ∧
    ∀ n now, r.accepted n = r.collected n + r.swept n + ((r.store n).stats now).stored := by
  refine ⟨?situation, ?collections, ?between, fun n _ => r.accepted_eq n⟩
  case situation =>
    intro i key receipt haccepted n hn
    rcases haccepted.situation hn with hheld | ⟨j, hj, hcollected⟩ | ⟨j, hj, hdropped⟩
    · left
      exact ⟨hheld, fun j hj h => h.not_held hj hheld, fun j hj h => h.not_held hj hheld⟩
    · right; left
      refine ⟨hcollected.not_held hj, ⟨j, ⟨hj, hcollected⟩, ?_⟩, fun _ _ => hcollected.not_droppedAt⟩
      rintro j' ⟨-, hcollected'⟩
      exact hcollected'.toLeavesAt.unique hcollected.toLeavesAt
    · right; right
      refine ⟨hdropped.not_held hj, fun _ _ h => h.not_droppedAt hdropped, j, ⟨hj, hdropped⟩, ?_⟩
      rintro j' ⟨-, hdropped'⟩
      exact hdropped'.toLeavesAt.unique hdropped.toLeavesAt
  case collections =>
    intro j asked receipt hcall hanswer
    exact exists_collectedAt hcall hanswer
  case between =>
    intro i key receipt n asked haccepted hn heq hcall hstays
    rcases haccepted.situation hn with hheld | ⟨j, hj, hcollected⟩ | ⟨j, hj, hdropped⟩
    · exact hheld.collectedAt hn heq hcall
    · exact absurd hcollected (hstays j hj).1
    · exact absurd hdropped (hstays j hj).2

/-- A receipt submitted under the generator of the curve, and two collections of it. -/
def submittedOnce : Run OneTimeKey where
  maxAge := 1000
  calls :=
    [.submit (.ofPoint Curve.generator) [1, 2, 3] "r-1" none 5,
     .collect (.ofPoint Curve.generator),
     .collect (.ofPoint Curve.generator)]

theorem leaves_once_submittedOnce :
    submittedOnce.Accepted 0 (.ofPoint Curve.generator) ⟨[1, 2, 3], "r-1", none, 5⟩ ∧
      submittedOnce.CollectedAt 0 (.ofPoint Curve.generator) ⟨[1, 2, 3], "r-1", none, 5⟩ 1 ∧
      ¬ submittedOnce.CollectedAt 0 (.ofPoint Curve.generator) ⟨[1, 2, 3], "r-1", none, 5⟩ 2 ∧
      submittedOnce.accepted 3 =
        submittedOnce.collected 3 + submittedOnce.swept 3 +
          ((submittedOnce.store 3).stats 9).stored := by
  obtain ⟨-, -, hbetween, hledger⟩ := leaves_once submittedOnce
  have haccepted : submittedOnce.Accepted 0 (.ofPoint Curve.generator)
      ⟨[1, 2, 3], "r-1", none, 5⟩ := by
    refine ⟨rfl, ?_⟩
    rw [answer?_eq rfl, store_zero]
    simp [perform, submit, empty]
  have hcollected : submittedOnce.CollectedAt 0 (.ofPoint Curve.generator)
      ⟨[1, 2, 3], "r-1", none, 5⟩ 1 := by
    refine hbetween _ _ _ 1 (.ofPoint Curve.generator) haccepted (by omega) BEq.rfl rfl ?_
    intro j hj
    obtain rfl : j = 0 := by omega
    exact ⟨fun h => absurd h.later (by omega), fun h => absurd h.later (by omega)⟩
  refine ⟨haccepted, hcollected, fun h => ?_, hledger 3 9⟩
  exact absurd (h.toLeavesAt.unique hcollected.toLeavesAt) (by omega)

end Run

end Store

end Bank

end SealedReceipts
