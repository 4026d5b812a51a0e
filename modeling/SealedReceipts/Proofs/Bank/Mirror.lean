import SealedReceipts.OneTimeKey
import SealedReceipts.Proofs.Bank.History
import SealedReceipts.Proofs.Bank.Ledger

/-!
# A store answers as a ledger does

A ledger is one list of entries, and every operation of it looks through the whole list. A store
looks receipts up by key and keys up by id instead. `Store.Mirrors` says that the two hold the same:
either map of the store finds what a search of the list finds, so that the index of ids is the exact
inverse of the map of keys. Every call keeps this and is answered alike, whatever ids and keys were
used and given up before.
-/

namespace SealedReceipts

namespace Bank

namespace Store

variable {κ : Type} [BEq κ] [Hashable κ]

/-! ## Stores and ledgers that hold the same -/

/-- The maps of the store find what a search of the ledger finds. -/
structure Mirrors (store : Store κ) (ledger : Ledger κ) : Prop where
  maxAge : store.maxAge = ledger.maxAge
  byKey : ∀ key, store.byKey[key]? = (ledger.withKey? key).map (·.receipt)
  keysById : ∀ receiptId, store.keysById[receiptId]? = (ledger.withId? receiptId).map (·.key)
  size : store.byKey.size = ledger.entries.length
  distinct : ledger.Distinct

theorem empty_mirrors (maxAge : Nat) : (empty maxAge : Store κ).Mirrors (Ledger.empty maxAge) where
  maxAge := rfl
  byKey _ := empty_getElem? maxAge _
  keysById _ := Std.HashMap.getElem?_empty
  size := empty_size maxAge
  distinct := ⟨.nil, .nil⟩

variable {store : Store κ} {ledger : Ledger κ} {key : κ} {receipt : StoredReceipt}

theorem Mirrors.contains_id (h : store.Mirrors ledger) (receiptId : String) :
    store.keysById.contains receiptId =
      ledger.entries.any fun e => e.receipt.receiptId == receiptId := by
  rw [Std.HashMap.contains_eq_isSome_getElem?, h.keysById, Option.isSome_map, Ledger.withId?,
    List.isSome_find?]

variable [EquivBEq κ] [LawfulHashable κ]

theorem Mirrors.contains_key (h : store.Mirrors ledger) (key : κ) :
    store.byKey.contains key = ledger.entries.any fun e => e.key == key := by
  rw [Std.HashMap.contains_eq_isSome_getElem?, h.byKey, Option.isSome_map, Ledger.withKey?,
    List.isSome_find?]

omit [LawfulHashable κ] in
/-- A receipt is found under the key of its entry. -/
theorem Mirrors.getElem?_key (h : store.Mirrors ledger) {e : Ledger.Entry κ}
    (he : e ∈ ledger.entries) : store.byKey[e.key]? = some e.receipt := by
  have hfind : ledger.withKey? e.key = some e :=
    find?_eq_some_of_unique (h.distinct.unique_key e.key) he BEq.rfl
  rw [h.byKey, hfind]
  rfl

omit [LawfulHashable κ] in
/-- The index of ids has the ids of the receipts in the store. -/
theorem Mirrors.contains_id_iff (h : store.Mirrors ledger) (receiptId : String) :
    store.keysById.contains receiptId = true ↔ store.HasId receiptId := by
  rw [h.contains_id, List.any_eq_true]
  constructor
  · rintro ⟨e, he, hid⟩
    exact ⟨e.key, e.receipt, h.getElem?_key he, beq_iff_eq.1 hid⟩
  · rintro ⟨key, receipt, hstored, rfl⟩
    rw [h.byKey] at hstored
    obtain ⟨e, hfind, rfl⟩ := Option.map_eq_some_iff.1 hstored
    exact ⟨e, (Ledger.withKey?_eq_some hfind).1, BEq.rfl⟩

/-! ## One entry more, one entry less -/

theorem Mirrors.put (h : store.Mirrors ledger) (hid : ledger.IdFree receipt.receiptId)
    (hkey : ledger.KeyFree key) : (store.put key receipt).Mirrors (ledger.put key receipt) := by
  refine ⟨h.maxAge, ?byKey, ?keysById, ?size, ⟨?keys, ?ids⟩⟩
  case byKey =>
    intro other
    rw [put_byKey, Std.HashMap.getElem?_insert, Ledger.withKey?, Ledger.put, List.find?_append]
    split
    · next heq =>
      have hnone : ledger.entries.find? (fun e => e.key == other) = none := by
        rw [List.find?_eq_none]
        intro e he hother
        exact hkey e he (BEq.trans hother (BEq.symm heq))
      simp [hnone, heq]
    · next heq =>
      rw [h.byKey, Ledger.withKey?]
      simp [heq]
  case keysById =>
    intro receiptId
    rw [Store.put, Std.HashMap.getElem?_insert, Ledger.withId?, Ledger.put, List.find?_append]
    split
    · next heq =>
      have hnone : ledger.entries.find? (fun e => e.receipt.receiptId == receiptId) = none := by
        rw [List.find?_eq_none, ← beq_iff_eq.1 heq]
        simpa [Ledger.IdFree] using hid
      simp [hnone, heq]
    · next heq =>
      rw [h.keysById, Ledger.withId?]
      simp [heq]
  case size =>
    have hnew : ¬ key ∈ store.byKey := by
      rw [← Std.HashMap.contains_iff_mem, h.contains_key, Ledger.any_key_eq_false.2 hkey]
      exact Bool.false_ne_true
    rw [put_byKey, Std.HashMap.size_insert, if_neg hnew, h.size, Ledger.put]
    simp
  case keys =>
    refine List.pairwise_append.2 ⟨h.distinct.keys, List.pairwise_singleton _ _, ?_⟩
    simpa [Ledger.KeyFree] using hkey
  case ids =>
    refine List.pairwise_append.2 ⟨h.distinct.ids, List.pairwise_singleton _ _, ?_⟩
    simpa [Ledger.IdFree] using hid

theorem Mirrors.remove (h : store.Mirrors ledger) (key : κ) :
    (store.remove key).Mirrors (ledger.remove key) := by
  have hdistinct : (ledger.remove key).Distinct :=
    ⟨h.distinct.keys.filter _, h.distinct.ids.filter _⟩
  cases hfind : ledger.withKey? key with
  | none =>
    have hnone : store.byKey[key]? = none := by
      rw [h.byKey, hfind]
      rfl
    have hledger : ledger.remove key = ledger := by
      have hall : ledger.entries.filter (fun e => !(e.key == key)) = ledger.entries := by
        rw [List.filter_eq_self]
        intro e he
        simpa using List.find?_eq_none.1 hfind e he
      simp only [Ledger.remove, Ledger.collect, hall]
    rw [hledger]
    simpa only [Store.remove, hnone] using h
  | some e =>
    obtain ⟨he, hekey⟩ := Ledger.withKey?_eq_some hfind
    have hsome : store.byKey[key]? = some e.receipt := by
      rw [h.byKey, hfind]
      rfl
    refine ⟨?maxAge, ?byKey, ?keysById, ?size, hdistinct⟩
    case maxAge =>
      simp only [Store.remove, hsome, Ledger.remove, Ledger.collect]
      exact h.maxAge
    case byKey =>
      intro other
      rw [remove_getElem?, Ledger.withKey?, Ledger.remove, Ledger.collect,
        find?_filter_of_unique (h.distinct.unique_key other), ← Ledger.withKey?, h.byKey]
      cases hother : ledger.withKey? other with
      | none => simp
      | some found =>
        obtain ⟨-, hfound⟩ := Ledger.withKey?_eq_some hother
        have heq : (found.key == key) = (key == other) := by
          rw [Bool.eq_iff_iff]
          exact ⟨fun hk => BEq.trans (BEq.symm hk) hfound,
            fun hk => BEq.trans hfound (BEq.symm hk)⟩
        rw [Option.filter_some, heq]
        cases key == other <;> rfl
    case keysById =>
      intro receiptId
      have hkeys : (store.remove key).keysById = store.keysById.erase e.receipt.receiptId := by
        simp only [Store.remove, hsome]
      rw [hkeys, Std.HashMap.getElem?_erase, Ledger.withId?, Ledger.remove, Ledger.collect,
        find?_filter_of_unique (h.distinct.unique_id receiptId), ← Ledger.withId?, h.keysById]
      cases hother : ledger.withId? receiptId with
      | none => simp
      | some found =>
        obtain ⟨hmem, hid⟩ := Ledger.withId?_eq_some hother
        -- the entry with the key is the one with its id
        rw [Option.filter_some, h.distinct.beq_key_eq_beq_id he hekey hmem hid]
        cases e.receipt.receiptId == receiptId <;> rfl
    case size =>
      have hlength := length_eq_of_unique (h.distinct.unique_key key) hfind
      have hsize := remove_size hsome
      rw [h.size, hlength] at hsize
      exact (Nat.succ.inj hsize).symm

/-! ## A sweep -/

theorem Mirrors.removeAll (h : store.Mirrors ledger) (keys : List κ) :
    (keys.foldl Store.remove store).Mirrors (keys.foldl Ledger.remove ledger) := by
  induction keys generalizing store ledger with
  | nil => exact h
  | cons key keys ih => exact ih (h.remove key)

omit [EquivBEq κ] [LawfulHashable κ] in
theorem Mirrors.isExpired_eq (h : store.Mirrors ledger) (now : Nat) (e : Ledger.Entry κ) :
    store.isExpired now e.receipt = ledger.isExpired now e := by
  rw [Store.isExpired, Ledger.isExpired, StoredReceipt.age, h.maxAge]

/-- The ledger drops in one pass what the store removes key by key. -/
theorem Mirrors.sweep (h : store.Mirrors ledger) (now : Nat) :
    (store.sweep now).2.Mirrors (ledger.sweep now).2 := by
  have hsweep : (ledger.sweep now).2 = (store.expiredKeys now).foldl Ledger.remove ledger := by
    rw [Ledger.removeAll_eq]
    change { ledger with entries := _ } = _
    congr 1
    refine List.filter_congr fun e he => ?_
    have hany : ((store.expiredKeys now).any fun key => e.key == key) = ledger.isExpired now e := by
      rw [← h.isExpired_eq, Bool.eq_iff_iff]
      simp only [BEq.comm (a := e.key)]
      rw [expiredKeys_any_beq, h.getElem?_key he]
      simp
    rw [hany]
  rw [hsweep]
  exact h.removeAll (store.expiredKeys now)

theorem Mirrors.length_expiredKeys (h : store.Mirrors ledger) (now : Nat) :
    (store.expiredKeys now).length = ledger.entries.countP (ledger.isExpired now) := by
  have hstore := sweep_size store now
  have hledger := List.length_eq_countP_add_countP (ledger.isExpired now) (l := ledger.entries)
  have hafter := (h.sweep now).size
  rw [h.size, hafter] at hstore
  simp only [Store.sweep, Ledger.sweep, List.countP_eq_length_filter, Bool.not_eq_true,
    Bool.decide_eq_false] at hstore hledger hafter ⊢
  omega

/-! ## Every call -/

/-- **One call.** A store and a ledger that hold the same give one answer, and hold the same after
it. -/
theorem Mirrors.perform (h : store.Mirrors ledger) (call : Call κ) :
    (store.perform call).1 = (ledger.perform call).1 ∧
      (store.perform call).2.Mirrors (ledger.perform call).2 := by
  cases call with
  | submit key payload receiptId webhookUrl now =>
    by_cases hid : ledger.IdFree receiptId
    · by_cases hkey : ledger.KeyFree key
      · have hledger : ledger.submit key payload receiptId webhookUrl now =
            .ok (ledger.put key { payload, receiptId, webhookUrl, storedAt := now }) :=
          Ledger.submit_eq_ok_of_free hid hkey
        have hstore : store.submit key payload receiptId webhookUrl now =
            .ok (store.put key { payload, receiptId, webhookUrl, storedAt := now }) := by
          refine submit_eq_ok_iff.2 ⟨?_, ?_, rfl⟩
          · rw [h.contains_id, Ledger.any_id_eq_false.2 hid]
          · rw [h.contains_key, Ledger.any_key_eq_false.2 hkey]
        simp only [Store.perform, Ledger.perform, hstore, hledger]
        exact ⟨trivial, h.put hid hkey⟩
      · have hused : (ledger.entries.any fun e => e.key == key) = true := by
          rw [← Bool.not_eq_false, Ledger.any_key_eq_false]
          exact hkey
        have hfree := Ledger.any_id_eq_false.2 hid
        simp [Store.perform, Ledger.perform, Store.submit, Ledger.submit, h.contains_id,
          h.contains_key, hfree, hused, h]
    · have hused : (ledger.entries.any fun e => e.receipt.receiptId == receiptId) = true := by
        rw [← Bool.not_eq_false, Ledger.any_id_eq_false]
        exact hid
      simp [Store.perform, Ledger.perform, Store.submit, Ledger.submit, h.contains_id, hused, h]
  | collect key =>
    refine ⟨?_, h.remove key⟩
    simp only [Store.perform, Ledger.perform, Store.collect, Ledger.collect, h.byKey]
    rfl
  | sweep now =>
    refine ⟨?_, h.sweep now⟩
    simp only [Store.perform, Ledger.perform, Store.sweep, Ledger.sweep, h.length_expiredKeys]
  | stats now =>
    refine ⟨?_, h⟩
    simp only [Store.perform, Ledger.perform, Store.stats, Ledger.stats, h.size,
      h.length_expiredKeys]

end Store

namespace Store.Run

variable {κ : Type} [BEq κ]

/-! ## Every run -/

/-- The ledger after the first `n` calls of a run. -/
def ledger [Hashable κ] (r : Run κ) (n : Nat) : Ledger κ :=
  (r.calls.take n).foldl (fun ledger call => (ledger.perform call).2) (.empty r.maxAge)

variable [Hashable κ] {r : Run κ} {n : Nat} {call : Call κ}

/-- What the ledger answers to a call of a run. -/
def ledgerAnswer? (r : Run κ) (n : Nat) : Option Answer :=
  r.calls[n]?.map fun call => ((r.ledger n).perform call).1

theorem ledger_succ (h : r.calls[n]? = some call) :
    r.ledger (n + 1) = ((r.ledger n).perform call).2 :=
  Runs.foldl_take_succ h _ _

theorem ledger_succ_of_end (h : r.calls[n]? = none) : r.ledger (n + 1) = r.ledger n :=
  Runs.foldl_take_succ_of_end h _ _

variable [EquivBEq κ] [LawfulHashable κ]

theorem store_mirrors (r : Run κ) (n : Nat) : (r.store n).Mirrors (r.ledger n) := by
  induction n with
  | zero => exact empty_mirrors r.maxAge
  | succ n ih =>
    cases hcall : r.calls[n]? with
    | none => rwa [store_succ_of_end hcall, ledger_succ_of_end hcall]
    | some call =>
      rw [store_succ hcall, ledger_succ hcall]
      exact (ih.perform call).2

/-- A submission whose key and id are free in the ledger is accepted by the store. -/
theorem submit_accepted {key : κ} {receiptId : String} (hkey : (r.ledger n).KeyFree key)
    (hid : (r.ledger n).IdFree receiptId) (payload : Bytes) (webhookUrl : Option String)
    (now : Nat) :
    ((r.store n).perform (.submit key payload receiptId webhookUrl now)).1 = .accepted := by
  rw [((r.store_mirrors n).perform _).1, Ledger.perform, Ledger.submit_eq_ok_of_free hid hkey]

omit [EquivBEq κ] [LawfulHashable κ] in
/-- A call that is refused changes nothing. -/
theorem store_succ_of_refused {fault : StoreFault} (h : r.answer? n = some (.refused fault)) :
    r.store (n + 1) = r.store n := by
  cases hcall : r.calls[n]? with
  | none => exact store_succ_of_end hcall
  | some call =>
    rw [answer?_eq hcall, Option.some.injEq] at h
    rw [store_succ hcall]
    cases call with
    | submit key payload receiptId webhookUrl now =>
      cases hsubmit : (r.store n).submit key payload receiptId webhookUrl now with
      | ok after => simp [perform, hsubmit] at h
      | error fault => simp only [perform, hsubmit]
    | collect key => simp [perform] at h
    | sweep now => simp [perform] at h
    | stats now => simp [perform] at h

/-- **The index changes no behaviour.** In every run of submissions, collections, sweeps and counts,
whatever the clock shows:

* each call is answered as the ledger answers it, which keeps one list and searches it;
* a submission that is refused leaves the store as it was;
* the key and the id of an entry that a collection or a sweep removes can be used again at once:
  together, or either of them with a partner that is free. -/
theorem answers_as_ledger (r : Run κ) :
    (∀ n, r.answer? n = r.ledgerAnswer? n) ∧
    (∀ n fault, r.answer? n = some (.refused fault) → r.store (n + 1) = r.store n) ∧
    ∀ n e, e ∈ (r.ledger n).entries → e ∉ (r.ledger (n + 1)).entries →
      ∀ key receiptId, ((e.key == key) = true ∨ (r.ledger (n + 1)).KeyFree key) →
        (e.receipt.receiptId = receiptId ∨ (r.ledger (n + 1)).IdFree receiptId) →
          ∀ payload webhookUrl now,
            ((r.store (n + 1)).perform (.submit key payload receiptId webhookUrl now)).1 =
              .accepted := by
  refine ⟨?answers, fun n fault => store_succ_of_refused, ?reuse⟩
  case answers =>
    intro n
    cases hcall : r.calls[n]? with
    | none => simp only [answer?, ledgerAnswer?, hcall, Option.map_none]
    | some call =>
      rw [answer?_eq hcall, ledgerAnswer?, hcall, ((r.store_mirrors n).perform call).1]
      rfl
  case reuse =>
    intro n e hbefore hafter key receiptId hkey hid
    have hcall : ∃ call, r.calls[n]? = some call := by
      refine Option.ne_none_iff_exists'.1 fun hend => hafter ?_
      rwa [ledger_succ_of_end hend]
    obtain ⟨call, hcall⟩ := hcall
    rw [ledger_succ hcall] at hafter
    have hfree := (r.store_mirrors n).distinct.free_of_removed hbefore hafter
    rw [← ledger_succ hcall] at hfree
    refine submit_accepted ?_ ?_
    · rcases hkey with hsame | hfreeKey
      · intro other hother heq
        exact hfree.1 other hother (BEq.trans heq (BEq.symm hsame))
      · exact hfreeKey
    · rcases hid with rfl | hfreeId
      · exact hfree.2
      · exact hfreeId

/-- An id that wanders: it is refused beside itself, collected, and then used under another key. -/
def wanderingId : Run OneTimeKey where
  maxAge := 1000
  calls :=
    [.submit (.ofPoint Curve.generator) [1, 2, 3] "r-1" none 5,
     .submit (.ofPoint (Curve.Secret.publicPoint ⟨2, by decide, by decide⟩)) [4] "r-1" none 6,
     .collect (.ofPoint Curve.generator),
     .submit (.ofPoint (Curve.Secret.publicPoint ⟨2, by decide, by decide⟩)) [4] "r-1" none 7,
     .stats 1008]

theorem answers_as_ledger_wanderingId :
    wanderingId.answer? 1 = some (.refused (.duplicateId "r-1")) ∧
      wanderingId.store 2 = wanderingId.store 1 ∧
      wanderingId.answer? 2 = some (.collected (some ⟨[1, 2, 3], "r-1", none, 5⟩)) ∧
      wanderingId.answer? 3 = some .accepted ∧
      wanderingId.answer? 4 = some (.counted ⟨1, 1⟩) := by
  obtain ⟨hanswers, hrefused, -⟩ := answers_as_ledger wanderingId
  have hsecond : wanderingId.answer? 1 = some (.refused (.duplicateId "r-1")) := by
    rw [hanswers 1]
    decide +kernel
  refine ⟨hsecond, hrefused 1 _ hsecond, ?_, ?_, ?_⟩
  · rw [hanswers 2]
    decide +kernel
  · rw [hanswers 3]
    decide +kernel
  · rw [hanswers 4]
    decide +kernel

end Store.Run

end Bank

end SealedReceipts
