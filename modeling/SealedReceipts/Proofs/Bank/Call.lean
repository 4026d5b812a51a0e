import SealedReceipts.Proofs.Bank.Store

/-!
# The calls of a store

A call as a value, what its caller is told, and what one call does to the receipts in the store:
which of them it can remove, where those that it leaves came from, and how many there are.
-/

namespace SealedReceipts

namespace Bank

namespace Store

variable {κ : Type} [BEq κ] [Hashable κ]

/-- A call of a store, with the reading of the clock. -/
inductive Call (κ : Type) where
  | submit (key : κ) (payload : Bytes) (receiptId : String) (webhookUrl : Option String) (now : Nat)
  | collect (key : κ)
  | sweep (now : Nat)
  | stats (now : Nat)

/-- What a caller is told. -/
inductive Answer where
  | accepted
  | refused (fault : StoreFault)
  | collected (receipt? : Option StoredReceipt)
  | swept (count : Nat)
  | counted (stats : StoreStats)
  deriving DecidableEq, Repr

def perform (store : Store κ) : Call κ → Answer × Store κ
  | .submit key payload receiptId webhookUrl now =>
    match store.submit key payload receiptId webhookUrl now with
    | .ok after => (.accepted, after)
    | .error fault => (.refused fault, store)
  | .collect key => (.collected (store.collect key).1, (store.collect key).2)
  | .sweep now => (.swept (store.sweep now).1, (store.sweep now).2)
  | .stats now => (.counted (store.stats now), store)

/-- How many receipts came into the store with an answer. -/
def Answer.arrivals : Answer → Nat
  | .accepted => 1
  | _ => 0

/-- How many receipts were handed out with an answer. -/
def Answer.handedOut : Answer → Nat
  | .collected (some _) => 1
  | _ => 0

/-- How many receipts an answer reports as swept. -/
def Answer.dropped : Answer → Nat
  | .swept count => count
  | _ => 0

theorem perform_submit_accepted {store : Store κ} {key : κ} {payload : Bytes} {receiptId : String}
    {webhookUrl : Option String} {now : Nat}
    (h : (store.perform (.submit key payload receiptId webhookUrl now)).1 = .accepted) :
    store.byKey.contains key = false ∧
      (store.perform (.submit key payload receiptId webhookUrl now)).2 =
        store.put key { payload, receiptId, webhookUrl, storedAt := now } := by
  cases hsubmit : store.submit key payload receiptId webhookUrl now with
  | error fault => simp [perform, hsubmit] at h
  | ok after =>
    obtain ⟨-, hfree, rfl⟩ := submit_eq_ok_iff.1 hsubmit
    exact ⟨hfree, by simp only [perform, hsubmit]⟩

theorem perform_accepted_iff {store : Store κ} {key : κ} {payload : Bytes} {receiptId : String}
    {webhookUrl : Option String} {now : Nat} :
    (store.perform (.submit key payload receiptId webhookUrl now)).1 = .accepted ↔
      store.keysById.contains receiptId = false ∧ store.byKey.contains key = false := by
  cases hsubmit : store.submit key payload receiptId webhookUrl now with
  | error fault =>
    have htaken := exists_submit_error_iff.1 ⟨fault, hsubmit⟩
    simp only [perform, hsubmit, reduceCtorEq, false_iff]
    rintro ⟨hid, hkey⟩
    simp [hid, hkey] at htaken
  | ok after =>
    obtain ⟨hid, hkey, -⟩ := submit_eq_ok_iff.1 hsubmit
    simp only [perform, hsubmit, hid, hkey, and_self]

/-- A collection that is answered with a receipt found it under the key. -/
theorem perform_collected {store : Store κ} {asked : κ} {receipt : StoredReceipt}
    (h : (store.perform (.collect asked)).1 = .collected (some receipt)) :
    store.byKey[asked]? = some receipt := by
  simpa only [perform, collect, Answer.collected.injEq] using h

variable [EquivBEq κ] [LawfulHashable κ]

/-- A receipt under a key stays there, or the call removes it: a collection of the key that is
answered with it, or a sweep. -/
theorem perform_held {store : Store κ} {key : κ} {receipt : StoredReceipt}
    (h : store.byKey[key]? = some receipt) (call : Call κ) :
    (store.perform call).2.byKey[key]? = some receipt ∨
      (store.perform call).2.byKey[key]? = none ∧
        ((∃ asked, (asked == key) = true ∧ call = .collect asked ∧
            (store.perform call).1 = .collected (some receipt)) ∨
          ∃ now, call = .sweep now) := by
  cases call with
  | submit asked payload receiptId webhookUrl now =>
    left
    cases hsubmit : store.submit asked payload receiptId webhookUrl now with
    | error fault => simpa only [perform, hsubmit] using h
    | ok after =>
      obtain ⟨-, hfree, rfl⟩ := submit_eq_ok_iff.1 hsubmit
      have hne : (asked == key) = false := by
        refine Bool.eq_false_iff.2 fun heq => ?_
        rw [Std.HashMap.contains_congr heq, Std.HashMap.contains_eq_isSome_getElem?, h] at hfree
        exact Bool.noConfusion hfree
      simp only [perform, hsubmit, put_byKey]
      rw [Std.HashMap.getElem?_insert, hne]
      exact h
  | collect asked =>
    have hafter := remove_getElem? store asked key
    cases heq : asked == key with
    | false =>
      left
      rw [heq] at hafter
      exact hafter.trans h
    | true =>
      right
      rw [heq] at hafter
      have hanswer : store.byKey[asked]? = some receipt := by
        rw [Std.HashMap.getElem?_congr heq, h]
      exact ⟨hafter, .inl ⟨asked, heq, rfl, by simp only [perform, collect, hanswer]⟩⟩
  | sweep now =>
    have hafter := sweep_getElem? store now key
    rw [h, Option.filter_some] at hafter
    cases hexpired : store.isExpired now receipt with
    | false =>
      left
      rw [hexpired] at hafter
      exact hafter
    | true =>
      right
      rw [hexpired] at hafter
      exact ⟨hafter, .inr ⟨now, rfl⟩⟩
  | stats now => exact .inl h

/-- A receipt under a key was there before the call, or the call put it there. -/
theorem perform_origin {store : Store κ} {key : κ} {receipt : StoredReceipt} {call : Call κ}
    (h : (store.perform call).2.byKey[key]? = some receipt) :
    store.byKey[key]? = some receipt ∨
      ∃ asked, (asked == key) = true ∧ (store.perform call).1 = .accepted ∧
        call = .submit asked receipt.payload receipt.receiptId receipt.webhookUrl
          receipt.storedAt := by
  cases call with
  | submit asked payload receiptId webhookUrl now =>
    cases hsubmit : store.submit asked payload receiptId webhookUrl now with
    | error fault =>
      left
      simpa only [perform, hsubmit] using h
    | ok after =>
      obtain ⟨-, -, rfl⟩ := submit_eq_ok_iff.1 hsubmit
      simp only [perform, hsubmit, put_byKey] at h ⊢
      rw [Std.HashMap.getElem?_insert] at h
      cases heq : asked == key with
      | false =>
        left
        rw [heq] at h
        exact h
      | true =>
        right
        rw [heq] at h
        obtain rfl := Option.some.inj h
        exact ⟨asked, heq, trivial, rfl⟩
  | collect asked =>
    left
    have hafter := (remove_getElem? store asked key).symm.trans h
    split at hafter
    · exact absurd hafter (by simp)
    · exact hafter
  | sweep now =>
    left
    have hafter := (sweep_getElem? store now key).symm.trans h
    exact (Option.filter_eq_some_iff.1 hafter).1
  | stats now => exact .inl h

/-- No call makes a receipt out of nothing or loses one without saying so. -/
theorem perform_size (store : Store κ) (call : Call κ) :
    store.byKey.size + (store.perform call).1.arrivals =
      (store.perform call).1.handedOut + (store.perform call).1.dropped +
        (store.perform call).2.byKey.size := by
  cases call with
  | submit key payload receiptId webhookUrl now =>
    cases hsubmit : store.submit key payload receiptId webhookUrl now with
    | error fault => simp [perform, hsubmit, Answer.arrivals, Answer.handedOut, Answer.dropped]
    | ok after =>
      obtain ⟨-, hfree, rfl⟩ := submit_eq_ok_iff.1 hsubmit
      have hnew : ¬ key ∈ store.byKey := by
        rw [← Std.HashMap.contains_iff_mem, hfree]
        exact Bool.false_ne_true
      simp only [perform, hsubmit, put_byKey, Answer.arrivals, Answer.handedOut, Answer.dropped]
      rw [Std.HashMap.size_insert, if_neg hnew]
      omega
  | collect key =>
    cases hkey : store.byKey[key]? with
    | none =>
      simp [perform, collect, remove, hkey, Answer.arrivals, Answer.handedOut, Answer.dropped]
    | some receipt =>
      have hsize := remove_size hkey
      simp only [perform, collect, hkey, Answer.arrivals, Answer.handedOut, Answer.dropped]
      omega
  | sweep now =>
    have hsize := sweep_size store now
    simp only [perform, Answer.arrivals, Answer.handedOut, Answer.dropped]
    omega
  | stats now => simp [perform, Answer.arrivals, Answer.handedOut, Answer.dropped]

end Store

end Bank

end SealedReceipts
