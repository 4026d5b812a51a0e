import SealedReceipts.Proofs.Bank.Mirror
import SealedReceipts.Proofs.Register.LocalBank

/-!
# The bank in process and the store

A register can submit to a bank in its own process or to the store of a bank service. The one keeps
a list, which it searches for the key of a submission and then for its id; the other keeps two maps
and looks for the id first. Two such banks match when they hold the entries of one ledger, in which
no key and no id comes twice. Every request keeps this, and both reply alike to it, but that each
names the conflict that it looks for first when there are two.
-/

namespace SealedReceipts

namespace Bank

/-! ## Requests and replies -/

/-- What either bank is asked: to keep a receipt that bears an id, or to hand out the one under a
key. The webhook and the reading of the clock are for the store alone. -/
inductive Request where
  | submit (key : OneTimeKey) (payload : Bytes) (receiptId : String) (webhookUrl : Option String)
      (now : Nat)
  | collect (key : OneTimeKey)

/-- What either bank replies. Of a receipt it is told what both keep: the payload and the id. -/
inductive Reply where
  | accepted
  | refused (fault : StoreFault)
  | collected (content? : Option (Bytes × Option String))
  deriving DecidableEq

/-- A refusal in the words of the store. -/
def faultOf : LocalBank.Refusal → StoreFault
  | .keyInUse => .keyInUse
  | .duplicateId id => .duplicateId id

end Bank

open Bank

/-- The reply of the bank in process, and the bank behind it. -/
def LocalBank.reply (bank : LocalBank) : Request → Reply × LocalBank
  | .submit key payload receiptId _ _ =>
    match bank.submit { key, payload, trackingId := some receiptId } with
    | .ok after => (.accepted, after)
    | .error refusal => (.refused (faultOf refusal), bank)
  | .collect key =>
    (.collected ((bank.collect key).1.map fun s => (s.payload, s.trackingId)),
      (bank.collect key).2)

/-- The reply of the store, and the store behind it. -/
def Bank.Store.reply (store : Store OneTimeKey) : Request → Reply × Store OneTimeKey
  | .submit key payload receiptId webhookUrl now =>
    match store.submit key payload receiptId webhookUrl now with
    | .ok after => (.accepted, after)
    | .error fault => (.refused fault, store)
  | .collect key =>
    (.collected ((store.collect key).1.map fun receipt => (receipt.payload, some receipt.receiptId)),
      (store.collect key).2)

/-! ## Either bank by its contents -/

namespace LocalBank

variable {bank : LocalBank} {key : OneTimeKey} {payload : Bytes} {receiptId : String}
  {webhookUrl : Option String} {now : Nat}

/-- A submission waits under the key. -/
def KeyInUse (bank : LocalBank) (key : OneTimeKey) : Prop :=
  ∃ s ∈ bank.submissions, (s.key == key) = true

/-- A submission bears the id. -/
def IdInUse (bank : LocalBank) (receiptId : String) : Prop :=
  ∃ s ∈ bank.submissions, s.trackingId = some receiptId

theorem reply_of_keyInUse (h : bank.KeyInUse key) :
    bank.reply (.submit key payload receiptId webhookUrl now) = (.refused .keyInUse, bank) := by
  simp only [reply, submit, isSome_find?.2 h, ↓reduceIte, faultOf]

theorem reply_of_idInUse (hkey : ¬ bank.KeyInUse key) (hid : bank.IdInUse receiptId) :
    bank.reply (.submit key payload receiptId webhookUrl now) =
      (.refused (.duplicateId receiptId), bank) := by
  simp only [reply, submit, mt isSome_find?.1 hkey, hasId_iff.2 hid, ↓reduceIte,
    Bool.false_eq_true, faultOf]

theorem reply_of_free (hkey : ¬ bank.KeyInUse key) (hid : ¬ bank.IdInUse receiptId) :
    bank.reply (.submit key payload receiptId webhookUrl now) =
      (.accepted, ⟨bank.submissions ++ [⟨key, payload, some receiptId⟩]⟩) := by
  simp only [reply, submit, mt isSome_find?.1 hkey, mt hasId_iff.1 hid, ↓reduceIte,
    Bool.false_eq_true]

end LocalBank

namespace Bank

namespace Store

variable {store : Store OneTimeKey} {key : OneTimeKey} {payload : Bytes} {receiptId : String}
  {webhookUrl : Option String} {now : Nat}

theorem reply_of_idInUse (h : store.keysById.contains receiptId = true) :
    store.reply (.submit key payload receiptId webhookUrl now) =
      (.refused (.duplicateId receiptId), store) := by
  simp only [reply, submit, h, ↓reduceIte]

theorem reply_of_keyInUse (hid : store.keysById.contains receiptId = false)
    (hkey : store.byKey.contains key = true) :
    store.reply (.submit key payload receiptId webhookUrl now) = (.refused .keyInUse, store) := by
  simp only [reply, submit, hid, hkey, ↓reduceIte, Bool.false_eq_true]

theorem reply_of_free (hid : store.keysById.contains receiptId = false)
    (hkey : store.byKey.contains key = false) :
    store.reply (.submit key payload receiptId webhookUrl now) =
      (.accepted, store.put key { payload, receiptId, webhookUrl, storedAt := now }) := by
  simp only [reply, submit, hid, hkey, ↓reduceIte, Bool.false_eq_true]

end Store

/-- An entry of a ledger as a submission to a bank in process. -/
def Ledger.Entry.submission (e : Ledger.Entry OneTimeKey) : Submission :=
  ⟨e.key, e.receipt.payload, some e.receipt.receiptId⟩

end Bank

/-! ## A bank in process and a ledger -/

namespace LocalBank

/-- The submissions of the bank are the entries of the ledger. -/
def Copies (bank : LocalBank) (ledger : Ledger OneTimeKey) : Prop :=
  bank.submissions = ledger.entries.map Ledger.Entry.submission

section Copies

variable {bank : LocalBank} {ledger : Ledger OneTimeKey}

theorem Copies.mem_iff (h : bank.Copies ledger) {s : Submission} :
    s ∈ bank.submissions ↔ ∃ e ∈ ledger.entries, e.submission = s := by
  rw [h, List.mem_map]

theorem Copies.keyFree_iff (h : bank.Copies ledger) (key : OneTimeKey) :
    ledger.KeyFree key ↔ ¬ bank.KeyInUse key := by
  simp [KeyInUse, Ledger.KeyFree, h.mem_iff, Ledger.Entry.submission]

theorem Copies.idFree_iff (h : bank.Copies ledger) (receiptId : String) :
    ledger.IdFree receiptId ↔ ¬ bank.IdInUse receiptId := by
  simp [IdInUse, Ledger.IdFree, h.mem_iff, Ledger.Entry.submission]

theorem Copies.size (h : bank.Copies ledger) : bank.size = ledger.entries.length := by
  rw [LocalBank.size, h, List.length_map]

theorem Copies.put (h : bank.Copies ledger) (key : OneTimeKey) (receipt : StoredReceipt) :
    Copies ⟨bank.submissions ++ [⟨key, receipt.payload, some receipt.receiptId⟩]⟩
      (ledger.put key receipt) := by
  rw [Copies, Ledger.put, List.map_append, ← h]
  rfl

/-- A search of the submissions finds that of the entry that a search of the entries finds. -/
theorem Copies.find? (h : bank.Copies ledger) (key : OneTimeKey) :
    bank.find? key = (ledger.withKey? key).map Ledger.Entry.submission := by
  rw [LocalBank.find?, h, List.find?_map]
  rfl

theorem Copies.remove (h : bank.Copies ledger) (key : OneTimeKey) :
    (bank.collect key).2.Copies (ledger.remove key) := by
  rw [Copies, collect, h, List.filter_map]
  rfl

end Copies

/-! ## A bank in process and a store -/

/-- The bank in process and the store hold the entries of one ledger. -/
def Matches (bank : LocalBank) (store : Store OneTimeKey) : Prop :=
  ∃ ledger, bank.Copies ledger ∧ store.Mirrors ledger

variable {bank : LocalBank} {store : Store OneTimeKey}

theorem empty_matches (maxAge : Nat) : empty.Matches (Store.empty maxAge) :=
  ⟨Ledger.empty maxAge, rfl, Store.empty_mirrors maxAge⟩

theorem Matches.contains_key (h : bank.Matches store) (key : OneTimeKey) :
    store.byKey.contains key = true ↔ bank.KeyInUse key := by
  obtain ⟨ledger, hcopies, hmirrors⟩ := h
  rw [hmirrors.contains_key, ← Bool.not_eq_false, Ledger.any_key_eq_false, hcopies.keyFree_iff,
    not_not]

theorem Matches.contains_id (h : bank.Matches store) (receiptId : String) :
    store.keysById.contains receiptId = true ↔ bank.IdInUse receiptId := by
  obtain ⟨ledger, hcopies, hmirrors⟩ := h
  rw [hmirrors.contains_id, ← Bool.not_eq_false, Ledger.any_id_eq_false, hcopies.idFree_iff,
    not_not]

theorem Matches.size (h : bank.Matches store) (now : Nat) :
    bank.size = (store.stats now).stored := by
  obtain ⟨ledger, hcopies, hmirrors⟩ := h
  rw [hcopies.size, Store.stats, hmirrors.size]

theorem Matches.lacks_key (h : bank.Matches store) {key : OneTimeKey}
    (hkey : ¬ bank.KeyInUse key) : store.byKey.contains key = false :=
  Bool.eq_false_iff.2 (mt (h.contains_key key).1 hkey)

theorem Matches.lacks_id (h : bank.Matches store) {receiptId : String}
    (hid : ¬ bank.IdInUse receiptId) : store.keysById.contains receiptId = false :=
  Bool.eq_false_iff.2 (mt (h.contains_id receiptId).1 hid)

/-- A submission under a key and an id that are both free. -/
theorem Matches.put (h : bank.Matches store) {key : OneTimeKey} (receipt : StoredReceipt)
    (hkey : ¬ bank.KeyInUse key) (hid : ¬ bank.IdInUse receipt.receiptId) :
    Matches ⟨bank.submissions ++ [⟨key, receipt.payload, some receipt.receiptId⟩]⟩
      (store.put key receipt) := by
  obtain ⟨ledger, hcopies, hmirrors⟩ := h
  exact ⟨ledger.put key receipt, hcopies.put key receipt,
    hmirrors.put ((hcopies.idFree_iff _).2 hid) ((hcopies.keyFree_iff key).2 hkey)⟩

theorem Matches.remove (h : bank.Matches store) (key : OneTimeKey) :
    (bank.collect key).2.Matches (store.remove key) := by
  obtain ⟨ledger, hcopies, hmirrors⟩ := h
  exact ⟨ledger.remove key, hcopies.remove key, hmirrors.remove key⟩

theorem Matches.find? (h : bank.Matches store) (key : OneTimeKey) :
    ((bank.find? key).map fun s => (s.payload, s.trackingId)) =
      store.byKey[key]?.map fun receipt => (receipt.payload, some receipt.receiptId) := by
  obtain ⟨ledger, hcopies, hmirrors⟩ := h
  rw [hcopies.find?, hmirrors.byKey, Option.map_map, Option.map_map]
  rfl

/-! ## One request -/

/-- **One submission.** Both reply the same to it, or its key and its id are both in use and each
names the conflict that it looks for first; and they still hold the same afterwards. -/
theorem Matches.submit (h : bank.Matches store) (key : OneTimeKey) (payload : Bytes)
    (receiptId : String) (webhookUrl : Option String) (now : Nat) :
    let request := Request.submit key payload receiptId webhookUrl now
    (bank.reply request).2.Matches (store.reply request).2 ∧
      ((bank.reply request).1 = (store.reply request).1 ∨
        bank.KeyInUse key ∧ bank.IdInUse receiptId ∧
          (bank.reply request).1 = .refused .keyInUse ∧
          (store.reply request).1 = .refused (.duplicateId receiptId)) := by
  dsimp only
  by_cases hkey : bank.KeyInUse key
  · rw [reply_of_keyInUse hkey]
    by_cases hid : bank.IdInUse receiptId
    · rw [Store.reply_of_idInUse ((h.contains_id receiptId).2 hid)]
      exact ⟨h, .inr ⟨hkey, hid, rfl, rfl⟩⟩
    · rw [Store.reply_of_keyInUse (h.lacks_id hid) ((h.contains_key key).2 hkey)]
      exact ⟨h, .inl rfl⟩
  · by_cases hid : bank.IdInUse receiptId
    · rw [reply_of_idInUse hkey hid, Store.reply_of_idInUse ((h.contains_id receiptId).2 hid)]
      exact ⟨h, .inl rfl⟩
    · rw [reply_of_free hkey hid, Store.reply_of_free (h.lacks_id hid) (h.lacks_key hkey)]
      exact ⟨h.put ⟨payload, receiptId, webhookUrl, now⟩ hkey hid, .inl rfl⟩

theorem Matches.reply_collect (h : bank.Matches store) (key : OneTimeKey) :
    (bank.reply (.collect key)).1 = (store.reply (.collect key)).1 :=
  congrArg Reply.collected (h.find? key)

/-- Banks that hold the same still do after a request. -/
theorem Matches.next (h : bank.Matches store) (request : Request) :
    (bank.reply request).2.Matches (store.reply request).2 := by
  cases request with
  | submit key payload receiptId webhookUrl now =>
    exact (h.submit key payload receiptId webhookUrl now).1
  | collect key => exact h.remove key

end LocalBank

/-! ## Every run -/

namespace Bank

/-- The same requests made of a bank in process and of a store, both empty at first. -/
structure Twins where
  maxAge : Nat
  requests : List Request

namespace Twins

/-- The bank in process after the first `n` requests. -/
def inProcess (t : Twins) (n : Nat) : LocalBank :=
  (t.requests.take n).foldl (fun bank request => (bank.reply request).2) .empty

/-- The store after the first `n` requests. -/
def store (t : Twins) (n : Nat) : Store OneTimeKey :=
  (t.requests.take n).foldl (fun store request => (store.reply request).2) (.empty t.maxAge)

/-- What the bank in process replies to a request. -/
def inProcessReply? (t : Twins) (n : Nat) : Option Reply :=
  t.requests[n]?.map fun request => ((t.inProcess n).reply request).1

/-- What the store replies to a request. -/
def storeReply? (t : Twins) (n : Nat) : Option Reply :=
  t.requests[n]?.map fun request => ((t.store n).reply request).1

theorem hold_the_same (t : Twins) (n : Nat) : (t.inProcess n).Matches (t.store n) := by
  induction n with
  | zero => exact LocalBank.empty_matches t.maxAge
  | succ n ih =>
    unfold inProcess store
    cases hrequest : t.requests[n]? with
    | none => rwa [Runs.foldl_take_succ_of_end hrequest, Runs.foldl_take_succ_of_end hrequest]
    | some request =>
      rw [Runs.foldl_take_succ hrequest, Runs.foldl_take_succ hrequest]
      exact ih.next request

/-- The key and the id of a submission are both in use when it arrives, and each bank names the
conflict that it looks for first. -/
def NamedApart (t : Twins) (n : Nat) : Prop :=
  ∃ key payload receiptId webhookUrl now,
    t.requests[n]? = some (.submit key payload receiptId webhookUrl now) ∧
    (t.inProcess n).KeyInUse key ∧ (t.inProcess n).IdInUse receiptId ∧
    t.inProcessReply? n = some (.refused .keyInUse) ∧
    t.storeReply? n = some (.refused (.duplicateId receiptId))

theorem same_reply_or_namedApart (t : Twins) (n : Nat) :
    t.inProcessReply? n = t.storeReply? n ∨ t.NamedApart n := by
  have hsame := t.hold_the_same n
  cases hrequest : t.requests[n]? with
  | none => simp only [inProcessReply?, storeReply?, hrequest, Option.map_none, true_or]
  | some request =>
    have hinProcess : t.inProcessReply? n = some ((t.inProcess n).reply request).1 := by
      rw [inProcessReply?, hrequest, Option.map_some]
    have hstore : t.storeReply? n = some ((t.store n).reply request).1 := by
      rw [storeReply?, hrequest, Option.map_some]
    cases request with
    | collect key => exact .inl (by rw [hinProcess, hstore, hsame.reply_collect])
    | submit key payload receiptId webhookUrl now =>
      rcases (hsame.submit key payload receiptId webhookUrl now).2 with
        hreply | ⟨hkey, hid, hfirst, hsecond⟩
      · exact .inl (by rw [hinProcess, hstore, hreply])
      · exact .inr ⟨key, payload, receiptId, webhookUrl, now, hrequest, hkey, hid,
          hinProcess.trans (congrArg some hfirst), hstore.trans (congrArg some hsecond)⟩

/-- A reply that refuses nothing is given by both or by neither. -/
theorem reply_iff (t : Twins) (n : Nat) {reply : Reply} (h : ∀ fault, reply ≠ .refused fault) :
    t.inProcessReply? n = some reply ↔ t.storeReply? n = some reply := by
  rcases t.same_reply_or_namedApart n with
    hsame | ⟨key, payload, receiptId, webhookUrl, now, -, -, -, hinProcess, hstore⟩
  · rw [hsame]
  · rw [hinProcess, hstore, Option.some.injEq, Option.some.injEq]
    exact ⟨fun hrefused => absurd hrefused.symm (h _), fun hrefused => absurd hrefused.symm (h _)⟩

/-- **The two banks agree.** Of any submissions that bear an id and any collections, made of both
from empty:

* a submission is accepted by the one exactly when it is accepted by the other;
* a collection is handed the same receipt by both, with its payload and id, or by neither;
* after every request they count as many receipts, whatever the clock shows;
* their replies differ in nothing but the conflict they name, when the key and the id of a
  submission are both in use. -/
theorem reply_alike (t : Twins) :
    (∀ n, t.inProcessReply? n = some .accepted ↔ t.storeReply? n = some .accepted) ∧
    (∀ n content?, t.inProcessReply? n = some (.collected content?) ↔
      t.storeReply? n = some (.collected content?)) ∧
    (∀ n now, (t.inProcess n).size = ((t.store n).stats now).stored) ∧
    ∀ n, t.inProcessReply? n = t.storeReply? n ∨ t.NamedApart n := by
  refine ⟨fun n => ?_, fun n content? => ?_, fun n now => ?_, t.same_reply_or_namedApart⟩
  · exact t.reply_iff n fun _ => nofun
  · exact t.reply_iff n fun _ => nofun
  · exact (t.hold_the_same n).size now

end Twins

end Bank

end SealedReceipts
