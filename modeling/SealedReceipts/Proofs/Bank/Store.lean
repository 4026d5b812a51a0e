import SealedReceipts.Bank.Store

/-!
# What a store holds after a call

A store is known by what it holds under each key. Every operation is described here by the receipts
under the keys of the store it leaves and by how many there are. A sweep first lists the keys of the
expired receipts and then removes them one after another, so that its law rests on the list: its
keys are distinct, and a key is equal to one of them exactly when an expired receipt is under it.
-/

namespace SealedReceipts

namespace Bank

namespace Store

variable {κ : Type} [BEq κ] [Hashable κ] {store : Store κ}

@[simp] theorem put_byKey (store : Store κ) (key : κ) (receipt : StoredReceipt) :
    (store.put key receipt).byKey = store.byKey.insert key receipt := rfl

/-- A submission is accepted exactly when its id and its key are free. -/
theorem submit_eq_ok_iff {key : κ} {payload : Bytes} {receiptId : String}
    {webhookUrl : Option String} {now : Nat} {after : Store κ} :
    store.submit key payload receiptId webhookUrl now = .ok after ↔
      store.keysById.contains receiptId = false ∧ store.byKey.contains key = false ∧
        store.put key { payload, receiptId, webhookUrl, storedAt := now } = after := by
  unfold submit
  cases hid : store.keysById.contains receiptId with
  | true => simp
  | false =>
    cases hkey : store.byKey.contains key with
    | true => simp
    | false => simp

/-- A submission is refused exactly when its id or its key is taken. -/
theorem exists_submit_error_iff {key : κ} {payload : Bytes} {receiptId : String}
    {webhookUrl : Option String} {now : Nat} :
    (∃ fault, store.submit key payload receiptId webhookUrl now = .error fault) ↔
      store.keysById.contains receiptId = true ∨ store.byKey.contains key = true := by
  unfold submit
  cases hid : store.keysById.contains receiptId with
  | true => simp
  | false =>
    cases hkey : store.byKey.contains key with
    | true => simp
    | false => simp

def HasId (store : Store κ) (receiptId : String) : Prop :=
  ∃ (key : κ) (receipt : StoredReceipt), store.byKey[key]? = some receipt ∧
    receipt.receiptId = receiptId

@[simp] theorem empty_getElem? (maxAge : Nat) (key : κ) :
    (empty maxAge : Store κ).byKey[key]? = none :=
  Std.HashMap.getElem?_empty

@[simp] theorem empty_size (maxAge : Nat) : (empty maxAge : Store κ).byKey.size = 0 :=
  Std.HashMap.size_empty

variable [EquivBEq κ] [LawfulHashable κ]

theorem contains_key_iff {key : κ} :
    store.byKey.contains key = true ↔ ∃ receipt, store.byKey[key]? = some receipt := by
  rw [Std.HashMap.contains_eq_isSome_getElem?, Option.isSome_iff_exists]

/-! ## One key removed -/

theorem remove_getElem? (store : Store κ) (key other : κ) :
    (store.remove key).byKey[other]? = if key == other then none else store.byKey[other]? := by
  cases hkey : store.byKey[key]? with
  | some receipt =>
    simp only [remove, hkey]
    exact Std.HashMap.getElem?_erase
  | none =>
    simp only [remove, hkey]
    split
    · next heq => rw [← Std.HashMap.getElem?_congr heq, hkey]
    · rfl

theorem remove_size {key : κ} {receipt : StoredReceipt} (h : store.byKey[key]? = some receipt) :
    store.byKey.size = (store.remove key).byKey.size + 1 := by
  have hmem : key ∈ store.byKey := by
    rw [Std.HashMap.mem_iff_isSome_getElem?, h]
    rfl
  have hpos : store.byKey.size ≠ 0 := by
    intro hzero
    have hempty : store.byKey.isEmpty = true := by
      rw [Std.HashMap.isEmpty_eq_size_eq_zero, hzero]
      rfl
    exact Std.HashMap.not_mem_of_isEmpty hempty hmem
  have herase : (store.remove key).byKey = store.byKey.erase key := by
    simp only [remove, h]
  rw [herase, Std.HashMap.size_erase, if_pos hmem]
  omega

/-! ## Many keys removed -/

theorem removeAll_getElem? (keys : List κ) (store : Store κ) (key : κ) :
    (keys.foldl remove store).byKey[key]? =
      if keys.any (· == key) then none else store.byKey[key]? := by
  induction keys generalizing store with
  | nil => rfl
  | cons head keys ih =>
    rw [List.foldl_cons, ih, remove_getElem?, List.any_cons]
    cases keys.any (· == key) <;> cases head == key <;> rfl

/-- Distinct keys with a receipt under each take as many receipts with them. -/
theorem removeAll_size (keys : List κ) (store : Store κ)
    (hdistinct : keys.Pairwise fun a b => (a == b) = false)
    (hheld : ∀ key ∈ keys, ∃ receipt, store.byKey[key]? = some receipt) :
    store.byKey.size = keys.length + (keys.foldl remove store).byKey.size := by
  induction keys generalizing store with
  | nil => simp
  | cons head keys ih =>
    obtain ⟨hhead, hdistinct⟩ := List.pairwise_cons.1 hdistinct
    obtain ⟨receipt, hreceipt⟩ := hheld head List.mem_cons_self
    have hrest : ∀ key ∈ keys, ∃ receipt, (store.remove head).byKey[key]? = some receipt := by
      intro key hkey
      rw [remove_getElem?, hhead key hkey]
      exact hheld key (List.mem_cons_of_mem head hkey)
    have hsize := ih (store.remove head) hdistinct hrest
    rw [remove_size hreceipt, hsize, List.foldl_cons, List.length_cons]
    omega

/-! ## The expired receipts -/

theorem mem_expiredKeys {now : Nat} {key : κ} :
    key ∈ store.expiredKeys now ↔
      ∃ receipt, (key, receipt) ∈ store.byKey.toList ∧ store.isExpired now receipt = true := by
  simp [expiredKeys]

theorem expiredKeys_distinct (store : Store κ) (now : Nat) :
    (store.expiredKeys now).Pairwise fun a b => (a == b) = false := by
  unfold expiredKeys
  rw [List.pairwise_map]
  exact Std.HashMap.distinct_keys_toList.filter _

theorem expiredKeys_held {now : Nat} {key : κ} (h : key ∈ store.expiredKeys now) :
    ∃ receipt, store.byKey[key]? = some receipt ∧ store.isExpired now receipt = true := by
  obtain ⟨receipt, hmem, hexpired⟩ := mem_expiredKeys.1 h
  refine ⟨receipt, ?_, hexpired⟩
  exact Std.HashMap.getElem?_eq_some_iff_exists_beq_and_mem_toList.2 ⟨key, BEq.rfl, hmem⟩

theorem expiredKeys_any_beq {now : Nat} {key : κ} :
    (store.expiredKeys now).any (· == key) = true ↔
      ∃ receipt, store.byKey[key]? = some receipt ∧ store.isExpired now receipt = true := by
  rw [List.any_eq_true]
  constructor
  · rintro ⟨found, hfound, heq⟩
    obtain ⟨receipt, hreceipt, hexpired⟩ := expiredKeys_held hfound
    exact ⟨receipt, by rw [← Std.HashMap.getElem?_congr heq, hreceipt], hexpired⟩
  · rintro ⟨receipt, hreceipt, hexpired⟩
    obtain ⟨found, heq, hmem⟩ :=
      Std.HashMap.getElem?_eq_some_iff_exists_beq_and_mem_toList.1 hreceipt
    exact ⟨found, mem_expiredKeys.2 ⟨receipt, hmem, hexpired⟩, BEq.symm heq⟩

/-- **A sweep drops the expired receipts and no other.** -/
theorem sweep_getElem? (store : Store κ) (now : Nat) (key : κ) :
    (store.sweep now).2.byKey[key]? =
      store.byKey[key]?.filter fun receipt => !store.isExpired now receipt := by
  show ((store.expiredKeys now).foldl remove store).byKey[key]? = _
  rw [removeAll_getElem?]
  cases hkey : store.byKey[key]? with
  | none => simp
  | some receipt =>
    have hany : (store.expiredKeys now).any (· == key) = true ↔
        store.isExpired now receipt = true := by
      rw [expiredKeys_any_beq, hkey]
      simp
    rw [Option.filter_some, Bool.eq_iff_iff.2 hany]
    cases store.isExpired now receipt <;> rfl

theorem sweep_size (store : Store κ) (now : Nat) :
    store.byKey.size = (store.sweep now).1 + (store.sweep now).2.byKey.size := by
  refine removeAll_size (store.expiredKeys now) store (store.expiredKeys_distinct now) ?_
  intro key hkey
  obtain ⟨receipt, hreceipt, -⟩ := expiredKeys_held hkey
  exact ⟨receipt, hreceipt⟩

end Store

end Bank

end SealedReceipts
