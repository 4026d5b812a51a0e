import Mathlib.Data.List.Nodup
import SealedReceipts.Proofs.Bank.KeyText
import SealedReceipts.Proofs.Bank.Mirror

/-!
# The two maps of a store are inverse to each other

A store looks receipts up by key and keys up by id, and every operation edits one map after the
other. In every store that a run leads to, an id leads to a key exactly if a receipt with this id is
under the key (`Mirrors.inverse`). From this alone no two receipts have one id (`Inverse.nodup_ids`)
and the maps are of one size (`Inverse.size_eq`).
-/

namespace SealedReceipts

instance : LawfulBEq OneTimeKey where
  eq_of_beq := OneTimeKey.eq_of_beq

namespace Bank

namespace Store

variable {κ : Type} [BEq κ] [Hashable κ] {store : Store κ} {ledger : Ledger κ} {key : κ}
  {receipt : StoredReceipt} {receiptId : String}

/-- An id leads to a key exactly if a receipt with the id is under the key. -/
def Inverse (store : Store κ) : Prop :=
  ∀ (receiptId : String) (key : κ), store.keysById[receiptId]? = some key ↔
    ∃ receipt : StoredReceipt, store.byKey[key]? = some receipt ∧ receipt.receiptId = receiptId

/-- The ids of the receipts, each as often as a receipt has it. -/
def ids (store : Store κ) : List String := store.byKey.toList.map fun e => e.2.receiptId

theorem Inverse.getElem?_id (h : store.Inverse) (hstored : store.byKey[key]? = some receipt) :
    store.keysById[receipt.receiptId]? = some key :=
  (h receipt.receiptId key).2 ⟨receipt, hstored, rfl⟩

variable [LawfulBEq κ]

/-- The entry with an id and the entry with the key of that entry are one. -/
theorem Mirrors.inverse (h : store.Mirrors ledger) : store.Inverse := by
  intro receiptId key
  rw [h.keysById]
  constructor
  · intro hfound
    obtain ⟨e, hfind, rfl⟩ := Option.map_eq_some_iff.1 hfound
    obtain ⟨he, hid⟩ := Ledger.withId?_eq_some hfind
    exact ⟨e.receipt, h.getElem?_key he, beq_iff_eq.1 hid⟩
  · rintro ⟨receipt, hstored, rfl⟩
    rw [h.byKey] at hstored
    obtain ⟨e, hfind, rfl⟩ := Option.map_eq_some_iff.1 hstored
    obtain ⟨he, hkey⟩ := Ledger.withKey?_eq_some hfind
    have hbyId : ledger.withId? e.receipt.receiptId = some e :=
      find?_eq_some_of_unique (h.distinct.unique_id e.receipt.receiptId) he BEq.rfl
    rw [hbyId, Option.map_some, eq_of_beq hkey]

theorem mem_ids_iff :
    receiptId ∈ store.ids ↔
      ∃ (key : κ) (receipt : StoredReceipt), store.byKey[key]? = some receipt ∧
        receipt.receiptId = receiptId := by
  simp [ids, Std.HashMap.mem_toList_iff_getElem?_eq_some]

variable [LawfulHashable κ]

/-- No two receipts have one id: it leads to one key. -/
theorem Inverse.nodup_ids (h : store.Inverse) : store.ids.Nodup := by
  have hentries : store.byKey.toList.Nodup := by
    refine Std.HashMap.distinct_keys_toList.imp fun {a b} hne heq => ?_
    rw [heq, BEq.rfl] at hne
    cases hne
  refine hentries.map_on ?_
  rintro ⟨key, receipt⟩ hmem ⟨other, receipt'⟩ hmem' (hid : receipt.receiptId = receipt'.receiptId)
  have hstored := Std.HashMap.mem_toList_iff_getElem?_eq_some.1 hmem
  have hstored' := Std.HashMap.mem_toList_iff_getElem?_eq_some.1 hmem'
  have hkey := h.getElem?_id hstored
  rw [hid, h.getElem?_id hstored'] at hkey
  obtain rfl := Option.some.inj hkey
  obtain rfl := Option.some.inj (hstored.symm.trans hstored')
  rfl

/-- The index has the ids of the receipts. -/
theorem Inverse.keys_perm (h : store.Inverse) : store.keysById.keys.Perm store.ids := by
  refine (List.perm_ext_iff_of_nodup Std.HashMap.nodup_keys h.nodup_ids).2 fun receiptId => ?_
  rw [Std.HashMap.mem_keys, Std.HashMap.mem_iff_isSome_getElem?, Option.isSome_iff_exists,
    mem_ids_iff]
  exact exists_congr (h receiptId)

theorem Inverse.size_eq (h : store.Inverse) : store.keysById.size = store.byKey.size := by
  have hlength := h.keys_perm.length_eq
  rwa [ids, List.length_map, Std.HashMap.length_keys, Std.HashMap.length_toList] at hlength

end Store

namespace Store.Run

/-- **The two maps stay inverse to each other.** After any submissions, collections, sweeps and
counts, whatever the clock shows:

* the id of a receipt leads to the key that the receipt is under;
* an id leads to a key only if a receipt with this id is under the key;
* no two receipts have one id, and the maps are of one size;
* a submission that is refused for its id or its key leaves both maps as they were. -/
theorem maps_stay_inverse (r : Run OneTimeKey) (n : Nat) :
    (∀ (key : OneTimeKey) (receipt : StoredReceipt), (r.store n).byKey[key]? = some receipt →
      (r.store n).keysById[receipt.receiptId]? = some key) ∧
    (∀ (receiptId : String) (key : OneTimeKey), (r.store n).keysById[receiptId]? = some key →
      ∃ receipt : StoredReceipt, (r.store n).byKey[key]? = some receipt ∧
        receipt.receiptId = receiptId) ∧
    (r.store n).ids.Nodup ∧
    (r.store n).keysById.size = (r.store n).byKey.size ∧
    ∀ fault, r.answer? n = some (.refused fault) →
      (r.store (n + 1)).byKey = (r.store n).byKey ∧
        (r.store (n + 1)).keysById = (r.store n).keysById := by
  have hinverse := (r.store_mirrors n).inverse
  refine ⟨fun key receipt => hinverse.getElem?_id, fun receiptId key => (hinverse receiptId key).1,
    hinverse.nodup_ids, hinverse.size_eq, fun fault hrefused => ?_⟩
  rw [store_succ_of_refused hrefused]
  exact ⟨rfl, rfl⟩

/-- The id that wanders is refused beside itself and leads to its first key as before; in the end it
leads to its second key. -/
theorem maps_stay_inverse_wanderingId :
    (wanderingId.answer? 1 = some (.refused (.duplicateId "r-1")) ∧
      (wanderingId.store 2).keysById["r-1"]? = some (.ofPoint Curve.generator)) ∧
    (wanderingId.store 4).keysById["r-1"]? =
      some (.ofPoint (Curve.Secret.publicPoint ⟨2, by decide, by decide⟩)) ∧
    (wanderingId.store 4).keysById.size = (wanderingId.store 4).byKey.size := by
  obtain ⟨hfirst, -, -, -, hrefused⟩ := maps_stay_inverse wanderingId 1
  obtain ⟨hlast, -, -, hsize, -⟩ := maps_stay_inverse wanderingId 4
  have hanswer : wanderingId.answer? 1 = some (.refused (.duplicateId "r-1")) := by
    rw [answer?_eq rfl, ((wanderingId.store_mirrors 1).perform _).1]
    decide +kernel
  have hstored : (wanderingId.store 1).byKey[OneTimeKey.ofPoint Curve.generator]? =
      some ⟨[1, 2, 3], "r-1", none, 5⟩ := by
    rw [(wanderingId.store_mirrors 1).byKey]
    decide +kernel
  have hmoved : (wanderingId.store 4).byKey[OneTimeKey.ofPoint
      (Curve.Secret.publicPoint ⟨2, by decide, by decide⟩)]? = some ⟨[4], "r-1", none, 7⟩ := by
    rw [(wanderingId.store_mirrors 4).byKey]
    decide +kernel
  refine ⟨⟨hanswer, ?_⟩, hlast _ _ hmoved, hsize⟩
  rw [(hrefused _ hanswer).2]
  exact hfirst _ _ hstored

end Store.Run

end Bank

end SealedReceipts
