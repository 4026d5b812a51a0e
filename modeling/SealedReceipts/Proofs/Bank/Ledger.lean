import SealedReceipts.Bank.Ledger
import SealedReceipts.Proofs.Bank.Call

/-!
# What a ledger holds after a call

The entries of a ledger are distinct in their keys and in their ids, so a search for either is
answered by one entry at most. A call keeps some of the entries or adds one; the key and the id of
an entry that it removes are free after it.
-/

namespace SealedReceipts

namespace Bank

/-! ## Searches that one entry answers at most -/

section Searches

variable {α : Type} {found kept : α → Bool} {entries : List α}

theorem find?_eq_some_of_unique (hunique : entries.Pairwise fun a b => found a → ¬ found b) {e : α}
    (he : e ∈ entries) (hfound : found e) : entries.find? found = some e := by
  induction entries with
  | nil => cases he
  | cons first entries ih =>
    obtain ⟨hfirst, hrest⟩ := List.pairwise_cons.1 hunique
    rcases List.mem_cons.1 he with rfl | he
    · exact List.find?_cons_of_pos hfound
    · rw [List.find?_cons_of_neg fun h => hfirst e he h hfound]
      exact ih hrest he

theorem eq_of_unique (hunique : entries.Pairwise fun a b => found a → ¬ found b) {e other : α}
    (he : e ∈ entries) (hfound : found e) (hother : other ∈ entries) (hfound' : found other) :
    e = other := by
  have hfind := find?_eq_some_of_unique hunique he hfound
  rw [find?_eq_some_of_unique hunique hother hfound', Option.some.injEq] at hfind
  exact hfind.symm

/-- Among the entries that are kept, the search finds its entry if that is kept. -/
theorem find?_filter_of_unique (hunique : entries.Pairwise fun a b => found a → ¬ found b) :
    (entries.filter kept).find? found = (entries.find? found).filter kept := by
  cases hfind : entries.find? found with
  | none =>
    rw [Option.filter_none, List.find?_eq_none]
    intro e he
    exact List.find?_eq_none.1 hfind e (List.mem_filter.1 he).1
  | some e =>
    have hmem := List.mem_of_find?_eq_some hfind
    have hfound := List.find?_some hfind
    rw [Option.filter_some]
    split
    · next hkept =>
      exact find?_eq_some_of_unique (hunique.filter kept) (List.mem_filter.2 ⟨hmem, hkept⟩) hfound
    · next hkept =>
      rw [List.find?_eq_none]
      intro other hother hfound'
      obtain ⟨hother, hkept'⟩ := List.mem_filter.1 hother
      obtain rfl := eq_of_unique hunique hmem hfound hother hfound'
      exact hkept hkept'

/-- Without the entry that answers the search there is one entry less. -/
theorem length_eq_of_unique (hunique : entries.Pairwise fun a b => found a → ¬ found b) {e : α}
    (hfind : entries.find? found = some e) :
    entries.length = (entries.filter fun a => !found a).length + 1 := by
  induction entries with
  | nil => cases hfind
  | cons first entries ih =>
    obtain ⟨hfirst, hrest⟩ := List.pairwise_cons.1 hunique
    cases hfound : found first with
    | true =>
      have hkept : (entries.filter fun a => !found a) = entries := by
        rw [List.filter_eq_self]
        intro other hother
        simpa using hfirst other hother hfound
      simp [hfound, hkept]
    | false =>
      rw [List.find?_cons_of_neg (by simp [hfound])] at hfind
      simp [hfound, ih hrest hfind]

end Searches

namespace Ledger

variable {κ : Type} [BEq κ]

def withKey? (ledger : Ledger κ) (key : κ) : Option (Entry κ) :=
  ledger.entries.find? fun e => e.key == key

def withId? (ledger : Ledger κ) (receiptId : String) : Option (Entry κ) :=
  ledger.entries.find? fun e => e.receipt.receiptId == receiptId

/-- The ledger with an entry more. -/
def put (ledger : Ledger κ) (key : κ) (receipt : StoredReceipt) : Ledger κ :=
  { ledger with entries := ledger.entries ++ [⟨key, receipt⟩] }

def remove (ledger : Ledger κ) (key : κ) : Ledger κ := (ledger.collect key).2

def perform (ledger : Ledger κ) : Store.Call κ → Store.Answer × Ledger κ
  | .submit key payload receiptId webhookUrl now =>
    match ledger.submit key payload receiptId webhookUrl now with
    | .ok after => (.accepted, after)
    | .error fault => (.refused fault, ledger)
  | .collect key => (.collected (ledger.collect key).1, (ledger.collect key).2)
  | .sweep now => (.swept (ledger.sweep now).1, (ledger.sweep now).2)
  | .stats now => (.counted (ledger.stats now), ledger)

def KeyFree (ledger : Ledger κ) (key : κ) : Prop := ∀ e ∈ ledger.entries, ¬ (e.key == key) = true

def IdFree (ledger : Ledger κ) (receiptId : String) : Prop :=
  ∀ e ∈ ledger.entries, e.receipt.receiptId ≠ receiptId

/-- No two entries have a key or an id in common. -/
structure Distinct (ledger : Ledger κ) : Prop where
  keys : ledger.entries.Pairwise fun a b => ¬ (a.key == b.key) = true
  ids : ledger.entries.Pairwise fun a b => a.receipt.receiptId ≠ b.receipt.receiptId

variable {ledger : Ledger κ} {e : Entry κ} {key : κ}

theorem withKey?_eq_some (h : ledger.withKey? key = some e) :
    e ∈ ledger.entries ∧ (e.key == key) = true :=
  ⟨List.mem_of_find?_eq_some h, List.find?_some (p := fun e : Entry κ => e.key == key) h⟩

omit [BEq κ] in
theorem withId?_eq_some {receiptId : String} (h : ledger.withId? receiptId = some e) :
    e ∈ ledger.entries ∧ (e.receipt.receiptId == receiptId) = true :=
  ⟨List.mem_of_find?_eq_some h,
    List.find?_some (p := fun e : Entry κ => e.receipt.receiptId == receiptId) h⟩

theorem Distinct.unique_key [EquivBEq κ] (h : ledger.Distinct) (key : κ) :
    ledger.entries.Pairwise fun a b => (a.key == key) = true → ¬ (b.key == key) = true :=
  h.keys.imp fun hne ha hb => hne (BEq.trans ha (BEq.symm hb))

theorem Distinct.unique_id (h : ledger.Distinct) (receiptId : String) :
    ledger.entries.Pairwise fun a b =>
      (a.receipt.receiptId == receiptId) = true → ¬ (b.receipt.receiptId == receiptId) = true := by
  refine h.ids.imp fun hne ha hb => hne ?_
  rw [beq_iff_eq.1 ha, beq_iff_eq.1 hb]

/-- Among distinct entries, to have the key of one is to have its id. -/
theorem Distinct.beq_key_eq_beq_id [EquivBEq κ] (h : ledger.Distinct) {other : Entry κ}
    {receiptId : String} (he : e ∈ ledger.entries) (hkey : (e.key == key) = true)
    (hother : other ∈ ledger.entries) (hid : (other.receipt.receiptId == receiptId) = true) :
    (other.key == key) = (e.receipt.receiptId == receiptId) := by
  rw [Bool.eq_iff_iff]
  constructor
  · intro hkey'
    obtain rfl := eq_of_unique (h.unique_key key) he hkey hother hkey'
    exact hid
  · intro hid'
    obtain rfl := eq_of_unique (h.unique_id receiptId) he hid' hother hid
    exact hkey

/-! ## What a call does to the entries -/

omit [BEq κ] in
theorem any_id_eq_false {receiptId : String} :
    (ledger.entries.any fun e => e.receipt.receiptId == receiptId) = false ↔
      ledger.IdFree receiptId := by
  simp [IdFree]

theorem any_key_eq_false :
    (ledger.entries.any fun e => e.key == key) = false ↔ ledger.KeyFree key := by
  simp [KeyFree]

theorem submit_eq_ok_of_free {payload : Bytes} {receiptId : String} {webhookUrl : Option String}
    {now : Nat} (hid : ledger.IdFree receiptId) (hkey : ledger.KeyFree key) :
    ledger.submit key payload receiptId webhookUrl now =
      .ok (ledger.put key { payload, receiptId, webhookUrl, storedAt := now }) := by
  simp only [submit, any_id_eq_false.2 hid, any_key_eq_false.2 hkey, Bool.false_eq_true, ↓reduceIte,
    put]

/-- A call keeps some of the entries, or all of them and adds one. -/
theorem perform_entries (ledger : Ledger κ) (call : Store.Call κ) :
    (∃ kept, (ledger.perform call).2.entries = ledger.entries.filter kept) ∨
      ∃ e, (ledger.perform call).2.entries = ledger.entries ++ [e] := by
  have hall : ledger.entries = ledger.entries.filter fun _ => true :=
    (List.filter_eq_self.2 fun _ _ => rfl).symm
  cases call with
  | submit key payload receiptId webhookUrl now =>
    cases hsubmit : ledger.submit key payload receiptId webhookUrl now with
    | error fault =>
      left
      exact ⟨_, by simpa only [perform, hsubmit] using hall⟩
    | ok after =>
      right
      refine ⟨⟨key, { payload, receiptId, webhookUrl, storedAt := now }⟩, ?_⟩
      simp only [perform, hsubmit]
      unfold submit at hsubmit
      split at hsubmit
      · cases hsubmit
      · split at hsubmit
        · cases hsubmit
        · cases hsubmit
          rfl
  | collect key => exact .inl ⟨_, rfl⟩
  | sweep now => exact .inl ⟨_, rfl⟩
  | stats now => exact .inl ⟨_, hall⟩

/-- The key and the id of an entry that a call removes are free after it. -/
theorem Distinct.free_of_removed [EquivBEq κ] (h : ledger.Distinct) {call : Store.Call κ}
    (hbefore : e ∈ ledger.entries) (hafter : e ∉ (ledger.perform call).2.entries) :
    (ledger.perform call).2.KeyFree e.key ∧
      (ledger.perform call).2.IdFree e.receipt.receiptId := by
  rcases ledger.perform_entries call with ⟨kept, hkept⟩ | ⟨new, hnew⟩
  · constructor
    · intro other hother hsame
      have hmem := hother
      rw [hkept] at hmem
      obtain rfl := eq_of_unique (h.unique_key e.key) hbefore BEq.rfl (List.mem_filter.1 hmem).1
        hsame
      exact hafter hother
    · intro other hother hsame
      have hmem := hother
      rw [hkept] at hmem
      obtain rfl := eq_of_unique (h.unique_id e.receipt.receiptId) hbefore BEq.rfl
        (List.mem_filter.1 hmem).1 (beq_iff_eq.2 hsame)
      exact hafter hother
  · refine absurd ?_ hafter
    rw [hnew]
    exact List.mem_append_left _ hbefore

/-- Removing keys one after another keeps the entries that have none of them. -/
theorem removeAll_eq (keys : List κ) (ledger : Ledger κ) :
    keys.foldl remove ledger =
      { ledger with
        entries := ledger.entries.filter fun e => !keys.any fun key => e.key == key } := by
  induction keys generalizing ledger with
  | nil =>
    simp only [List.foldl_nil, List.any_nil, Bool.not_false]
    rw [List.filter_eq_self.2 fun _ _ => rfl]
  | cons key keys ih =>
    rw [List.foldl_cons, ih, remove, collect]
    simp only [List.filter_filter, List.any_cons, Bool.not_or, Bool.and_comm]

end Ledger

end Bank

end SealedReceipts
