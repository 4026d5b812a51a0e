import SealedReceipts.Proofs.Bank.Mirror

/-!
# A sweep drops exactly the expired receipts

A sweep reads the clock, waits for the store, lists the keys of the expired receipts in whatever
order the map has them, and then removes these keys one after another. So the receipts that it drops
are settled by the reading and by what is in the store when it has it: neither the order of the list
nor a reading that is old by then makes it drop a receipt that is not expired.
-/

namespace SealedReceipts

namespace Bank

namespace Store

variable {κ : Type} [BEq κ] [Hashable κ]

/-! ## Sweeps that go their own way -/

/-- The expired keys among receipts that are gone through in the given order. -/
def expiredAlong (store : Store κ) (now : Nat) (order : List (κ × StoredReceipt)) : List κ :=
  (order.filter fun (_, receipt) => store.isExpired now receipt).map (·.1)

/-- A sweep that goes through the receipts in the given order. -/
def sweepAlong (store : Store κ) (now : Nat) (order : List (κ × StoredReceipt)) : Nat × Store κ :=
  ((store.expiredAlong now order).length, (store.expiredAlong now order).foldl remove store)

def afterCalls (store : Store κ) (calls : List (Call κ)) : Store κ :=
  calls.foldl (fun store call => (store.perform call).2) store

/-- A sweep that reads the clock, and gets the store only when other calls have been made. -/
def sweepBehind (store : Store κ) (reading : Nat) (between : List (Call κ)) : Nat × Store κ :=
  (store.afterCalls between).sweep reading

/-- Two stores that every look-up finds the same in. -/
structure Alike (a b : Store κ) : Prop where
  maxAge : a.maxAge = b.maxAge
  byKey : ∀ key : κ, a.byKey[key]? = b.byKey[key]?
  keysById : ∀ receiptId : String, a.keysById[receiptId]? = b.keysById[receiptId]?
  size : a.byKey.size = b.byKey.size

variable {store : Store κ} {ledger : Ledger κ} {key : κ} {receipt : StoredReceipt} {now : Nat}

/-- The order of a sweep is one of the orders in which the map can be gone through. -/
theorem sweepAlong_toList (store : Store κ) (now : Nat) :
    store.sweepAlong now store.byKey.toList = store.sweep now := rfl

theorem isExpired_iff : store.isExpired now receipt = true ↔ store.maxAge < now - receipt.storedAt :=
  decide_eq_true_iff

theorem isExpired_eq_false_iff :
    store.isExpired now receipt = false ↔ now - receipt.storedAt ≤ store.maxAge := by
  rw [← Bool.not_eq_true, isExpired_iff, Nat.not_lt]

/-! ## The maximum age -/

theorem remove_maxAge (store : Store κ) (key : κ) : (store.remove key).maxAge = store.maxAge := by
  unfold remove
  split <;> rfl

theorem removeAll_maxAge (keys : List κ) (store : Store κ) :
    (keys.foldl remove store).maxAge = store.maxAge := by
  induction keys generalizing store with
  | nil => rfl
  | cons key keys ih => rw [List.foldl_cons, ih, remove_maxAge]

theorem perform_maxAge (store : Store κ) (call : Call κ) :
    (store.perform call).2.maxAge = store.maxAge := by
  cases call with
  | submit key payload receiptId webhookUrl now =>
    cases hsubmit : store.submit key payload receiptId webhookUrl now with
    | error fault => simp only [perform, hsubmit]
    | ok after =>
      obtain ⟨-, -, rfl⟩ := submit_eq_ok_iff.1 hsubmit
      simp only [perform, hsubmit, put]
  | collect key => exact store.remove_maxAge key
  | sweep now => exact removeAll_maxAge (store.expiredKeys now) store
  | stats now => rfl

theorem afterCalls_maxAge (store : Store κ) (calls : List (Call κ)) :
    (store.afterCalls calls).maxAge = store.maxAge := by
  induction calls generalizing store with
  | nil => rfl
  | cons call calls ih =>
    rw [afterCalls, List.foldl_cons, ← afterCalls, ih, perform_maxAge]

theorem Run.store_maxAge (r : Run κ) (n : Nat) : (r.store n).maxAge = r.maxAge :=
  afterCalls_maxAge (empty r.maxAge) (r.calls.take n)

variable [EquivBEq κ] [LawfulHashable κ]

/-! ## What is dropped and what stays -/

/-- A receipt is dropped exactly if it is older than the maximum age. -/
theorem sweep_drops_iff (h : store.byKey[key]? = some receipt) :
    (store.sweep now).2.byKey[key]? = none ↔ store.maxAge < now - receipt.storedAt := by
  rw [sweep_getElem?, h, Option.filter_some, ← isExpired_iff]
  cases store.isExpired now receipt <;> simp

/-- The receipts behind a sweep are those before it that are not expired, as they were. -/
theorem sweep_keeps_iff : (store.sweep now).2.byKey[key]? = some receipt ↔
    store.byKey[key]? = some receipt ∧ now - receipt.storedAt ≤ store.maxAge := by
  rw [sweep_getElem?, Option.filter_eq_some_iff, Bool.not_eq_true', isExpired_eq_false_iff]

omit [EquivBEq κ] [LawfulHashable κ] in
theorem sweep_maxAge (store : Store κ) (now : Nat) : (store.sweep now).2.maxAge = store.maxAge :=
  removeAll_maxAge (store.expiredKeys now) store

/-- Behind a sweep nothing is expired at the moment of the sweep. -/
theorem expiredKeys_sweep (store : Store κ) (now : Nat) :
    (store.sweep now).2.expiredKeys now = [] := by
  refine List.eq_nil_iff_forall_not_mem.2 fun key hkey => ?_
  obtain ⟨receipt, hreceipt, hexpired⟩ := expiredKeys_held hkey
  rw [isExpired_iff, sweep_maxAge] at hexpired
  exact absurd (sweep_keeps_iff.1 hreceipt).2 (Nat.not_le.2 hexpired)

/-- Behind a sweep none is counted as expired. -/
theorem expired_sweep (store : Store κ) (now : Nat) :
    ((store.sweep now).2.stats now).expired = 0 := by
  rw [stats, expiredKeys_sweep, List.length_nil]

/-- A receipt that is not too old when it would be removed is not dropped, however old the reading
of the clock is. -/
theorem sweepBehind_keeps {reading removal : Nat} {between : List (Call κ)}
    (hlater : reading ≤ removal)
    (hstored : (store.afterCalls between).byKey[key]? = some receipt)
    (hyoung : removal - receipt.storedAt ≤ store.maxAge) :
    (store.sweepBehind reading between).2.byKey[key]? = some receipt := by
  refine sweep_keeps_iff.2 ⟨hstored, ?_⟩
  rw [afterCalls_maxAge]
  omega

/-! ## What is guarded -/

omit [LawfulHashable κ] in
theorem Mirrors.submit_of_hasId (h : store.Mirrors ledger) {receiptId : String}
    (hid : store.HasId receiptId) (key : κ) (payload : Bytes) (webhookUrl : Option String)
    (now : Nat) :
    store.submit key payload receiptId webhookUrl now = .error (.duplicateId receiptId) := by
  rw [submit, if_pos ((h.contains_id_iff receiptId).2 hid)]

omit [LawfulHashable κ] in
theorem Mirrors.submit_of_key (h : store.Mirrors ledger) {receiptId : String}
    (hid : ¬ store.HasId receiptId) (hkey : store.byKey.contains key = true) (payload : Bytes)
    (webhookUrl : Option String) (now : Nat) :
    store.submit key payload receiptId webhookUrl now = .error .keyInUse := by
  rw [submit, if_neg (mt (h.contains_id_iff receiptId).1 hid), if_pos hkey]

/-! ## The order of a sweep -/

omit [EquivBEq κ] [LawfulHashable κ] in
theorem Mirrors.alike {a b : Store κ} (ha : a.Mirrors ledger) (hb : b.Mirrors ledger) :
    a.Alike b where
  maxAge := ha.maxAge.trans hb.maxAge.symm
  byKey key := (ha.byKey key).trans (hb.byKey key).symm
  keysById receiptId := (ha.keysById receiptId).trans (hb.keysById receiptId).symm
  size := ha.size.trans hb.size.symm

omit [EquivBEq κ] [LawfulHashable κ] in
theorem expiredAlong_perm {order : List (κ × StoredReceipt)} (h : order.Perm store.byKey.toList) :
    (store.expiredAlong now order).Perm (store.expiredKeys now) :=
  (h.filter _).map _

/-- In whatever order the receipts are gone through, as many are dropped and the same stay. -/
theorem Mirrors.sweepAlong_alike (h : store.Mirrors ledger) {order : List (κ × StoredReceipt)}
    (horder : order.Perm store.byKey.toList) :
    (store.sweepAlong now order).1 = (store.sweep now).1 ∧
      (store.sweepAlong now order).2.Alike (store.sweep now).2 := by
  have hkeys : (store.expiredAlong now order).Perm (store.expiredKeys now) :=
    expiredAlong_perm horder
  refine ⟨hkeys.length_eq, ?_⟩
  have hledger : (store.expiredAlong now order).foldl Ledger.remove ledger =
      (store.expiredKeys now).foldl Ledger.remove ledger := by
    simp only [Ledger.removeAll_eq, hkeys.any_eq]
  have halong := h.removeAll (store.expiredAlong now order)
  rw [hledger] at halong
  exact halong.alike (h.removeAll (store.expiredKeys now))

end Store

namespace Store.Run

variable {κ : Type} [BEq κ] [Hashable κ] [EquivBEq κ] [LawfulHashable κ]

/-- **A sweep drops exactly the expired receipts.** In every store that a run leads to, and at every
reading of the clock:

* a receipt is dropped exactly if its age is above the maximum, and what stays is what was there and
  is not older, with payload, id, webhook and time as they were;
* what stays is guarded, its id and its key are refused, and no other id is in the index;
* a sweep returns the number of expired receipts that is counted at that moment, and takes as many;
  behind it none is counted, and a second sweep finds none;
* when calls are made between the reading and the removal, no receipt is dropped that is not above
  the maximum age when it would be removed;
* a sweep goes through the map in the order that the map has, and in every other order as many are
  dropped and the same stay. -/
theorem sweep_drops_exactly_expired (r : Run κ) (n now : Nat) :
    (∀ (key : κ) (receipt : StoredReceipt), (r.store n).byKey[key]? = some receipt →
      (((r.store n).sweep now).2.byKey[key]? = none ↔ r.maxAge < now - receipt.storedAt)) ∧
    (∀ (key : κ) (receipt : StoredReceipt),
      ((r.store n).sweep now).2.byKey[key]? = some receipt ↔
      (r.store n).byKey[key]? = some receipt ∧ now - receipt.storedAt ≤ r.maxAge) ∧
    (∀ (key : κ) (receipt : StoredReceipt),
      ((r.store n).sweep now).2.byKey[key]? = some receipt →
      ∀ asked payload receiptId webhookUrl later,
        ((r.store n).sweep now).2.submit asked payload receipt.receiptId webhookUrl later =
            .error (.duplicateId receipt.receiptId) ∧
          ((asked == key) = true → ¬ ((r.store n).sweep now).2.HasId receiptId →
            ((r.store n).sweep now).2.submit asked payload receiptId webhookUrl later =
              .error .keyInUse)) ∧
    (∀ receiptId, ((r.store n).sweep now).2.keysById.contains receiptId = true ↔
      ((r.store n).sweep now).2.HasId receiptId) ∧
    (((r.store n).sweep now).1 = ((r.store n).stats now).expired ∧
      ((r.store n).stats now).stored =
        ((r.store n).sweep now).1 + (((r.store n).sweep now).2.stats now).stored ∧
      (((r.store n).sweep now).2.stats now).expired = 0 ∧
      (((r.store n).sweep now).2.sweep now).1 = 0) ∧
    (∀ between removal (key : κ) (receipt : StoredReceipt), now ≤ removal →
      ((r.store n).afterCalls between).byKey[key]? = some receipt →
      removal - receipt.storedAt ≤ r.maxAge →
        ((r.store n).sweepBehind now between).2.byKey[key]? = some receipt) ∧
    (r.store n).sweepAlong now (r.store n).byKey.toList = (r.store n).sweep now ∧
    ∀ order, order.Perm (r.store n).byKey.toList →
      ((r.store n).sweepAlong now order).1 = ((r.store n).sweep now).1 ∧
        ((r.store n).sweepAlong now order).2.Alike ((r.store n).sweep now).2 := by
  have hmirrors := r.store_mirrors n
  have hafter := hmirrors.sweep now
  have hmaxAge := r.store_maxAge n
  have hsize := (r.store n).sweep_size now
  have hnone := (r.store n).expired_sweep now
  refine ⟨?dropped, ?kept, ?guarded, hafter.contains_id_iff, ?counted, ?behind,
    (r.store n).sweepAlong_toList now, fun order horder => hmirrors.sweepAlong_alike horder⟩
  case counted => exact ⟨rfl, hsize, hnone, hnone⟩
  case dropped =>
    intro key receipt hstored
    rw [sweep_drops_iff hstored, hmaxAge]
  case kept =>
    intro key receipt
    rw [sweep_keeps_iff, hmaxAge]
  case guarded =>
    intro key receipt hstays asked payload receiptId webhookUrl later
    refine ⟨hafter.submit_of_hasId ⟨key, receipt, hstays, rfl⟩ asked payload webhookUrl later, ?_⟩
    intro hsame hid
    refine hafter.submit_of_key hid ?_ payload webhookUrl later
    rw [Std.HashMap.contains_congr hsame, contains_key_iff]
    exact ⟨receipt, hstays⟩
  case behind =>
    intro between removal key receipt hlater hstored hyoung
    exact sweepBehind_keeps hlater hstored (hmaxAge.symm ▸ hyoung)

/-- The keys of an old and of a young receipt. -/
def oldKey : OneTimeKey := .ofPoint Curve.generator

def youngKey : OneTimeKey :=
  .ofPoint (Curve.Secret.publicPoint ⟨2, Nat.two_pos, Nat.le_of_ble_eq_true rfl⟩)

/-- Two submissions 1195 milliseconds apart, and a collection of the older one. -/
def oldAndYoung : Run OneTimeKey where
  maxAge := 1000
  calls :=
    [.submit oldKey [1, 2, 3] "r-1" none 5, .submit youngKey [4] "r-2" none 1200, .collect oldKey]

/-- At 1500 the older receipt is dropped and the younger stays under its key and id. The younger one
also stays when the older is collected before the sweep gets the store, at 2200, when it is exactly
as old as a receipt may be. -/
theorem sweep_drops_exactly_expired_oldAndYoung :
    (((oldAndYoung.store 2).sweep 1500).2.byKey[oldKey]? = none ∧
      ((oldAndYoung.store 2).sweep 1500).2.byKey[youngKey]? = some ⟨[4], "r-2", none, 1200⟩) ∧
    (((oldAndYoung.store 2).sweep 1500).2.submit oldKey [] "r-2" none 1501 =
        .error (.duplicateId "r-2") ∧
      ((oldAndYoung.store 2).sweep 1500).2.submit youngKey [] "r-1" none 1501 = .error .keyInUse ∧
      (((oldAndYoung.store 2).sweep 1500).2.sweep 1500).1 = 0) ∧
    ((oldAndYoung.store 2).sweepBehind 1500 [.collect oldKey]).2.byKey[youngKey]? =
      some ⟨[4], "r-2", none, 1200⟩ ∧
    ((oldAndYoung.store 2).sweepAlong 1500 (oldAndYoung.store 2).byKey.toList.reverse).2.Alike
      ((oldAndYoung.store 2).sweep 1500).2 := by
  obtain ⟨hdropped, hkept, hguarded, hindex, ⟨-, -, -, hagain⟩, hbehind, -, horder⟩ :=
    sweep_drops_exactly_expired oldAndYoung 2 1500
  have hold : (oldAndYoung.store 2).byKey[oldKey]? = some ⟨[1, 2, 3], "r-1", none, 5⟩ := by
    rw [(oldAndYoung.store_mirrors 2).byKey]
    decide +kernel
  have hyoung : (oldAndYoung.store 2).byKey[youngKey]? = some ⟨[4], "r-2", none, 1200⟩ := by
    rw [(oldAndYoung.store_mirrors 2).byKey]
    decide +kernel
  have hcollected : ((oldAndYoung.store 2).afterCalls [.collect oldKey]).byKey[youngKey]? =
      some ⟨[4], "r-2", none, 1200⟩ := by
    change (oldAndYoung.store 3).byKey[youngKey]? = _
    rw [(oldAndYoung.store_mirrors 3).byKey]
    decide +kernel
  have hstays := (hkept youngKey _).2 ⟨hyoung, by decide⟩
  have hfree : ¬ ((oldAndYoung.store 2).sweep 1500).2.HasId "r-1" := by
    rw [← hindex, ((oldAndYoung.store_mirrors 2).sweep 1500).contains_id]
    decide +kernel
  exact ⟨⟨(hdropped oldKey _ hold).2 (by decide), hstays⟩,
    ⟨(hguarded youngKey _ hstays oldKey [] "r-2" none 1501).1,
      (hguarded youngKey _ hstays youngKey [] "r-1" none 1501).2 BEq.rfl hfree, hagain⟩,
    hbehind _ 2200 youngKey _ (by decide) hcollected (by decide),
    (horder _ (List.reverse_perm _)).2⟩

end Store.Run

end Bank

end SealedReceipts
