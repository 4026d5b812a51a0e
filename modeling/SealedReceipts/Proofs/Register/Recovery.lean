import SealedReceipts.Proofs.Receipt.Ends
import SealedReceipts.Proofs.Receipt.Identifier
import SealedReceipts.Proofs.Receipt.RoundTrip
import SealedReceipts.Proofs.Register.AllOrNothing
import SealedReceipts.Proofs.Seal.Draws

/-!
# What was issued is recovered

From the register through the bank to the receiver: the submission of an issued receipt is in the
bank under the receiver's key, the receiver's secret opens it, the signed receipt behind it splits
into the stored form and what the signer said to its hash, and the stored form is decoded to the
receipt that was issued, up to minor units.
-/

namespace SealedReceipts

/-! ## Each boundary by itself -/

/-- What a bank took is what it has under the key. -/
theorem LocalBank.collect_of_submit {bank after : LocalBank} {s : Submission}
    (h : bank.submit s = .ok after) : (after.collect s.key).1 = some s := by
  obtain ⟨hfree, rfl⟩ := LocalBank.taken_of_submit h
  rw [LocalBank.find?] at hfree
  rw [LocalBank.collect, LocalBank.find?, List.find?_append, hfree]
  simp

theorem Services.submit_of_submitLocally {bank after : LocalBank} {s : Submission}
    (h : (submitLocally s bank).value = (.ok (), after)) : bank.submit s = .ok after := by
  unfold submitLocally at h
  dsimp only at h
  split at h
  · next taken hsubmit =>
    cases h
    exact hsubmit
  · cases h

theorem Draft.paymentMethod_of_validate {draft : Draft} {method : String}
    (h : draft.validate = .ok method) : draft.paymentMethod = some method := by
  unfold Draft.validate at h
  split at h
  · cases h
  split at h
  · cases h
  · next hmethod =>
    split at h
    · cases h
    · split at h
      · cases h
      · rw [hmethod, Except.ok.inj h]

/-! ## The receipt that comes back -/

attribute [ext] ReceiptMetadata

/-- The same receipt, its amounts cut to minor units. -/
structure Receipt.SameInMinorUnits (r restored : Receipt) : Prop where
  metadata : restored.toReceiptMetadata = r.toReceiptMetadata
  items : List.Forall₂ LineItem.RestoredAs r.items restored.items
  tax : r.taxBreakdown.RestoredAs restored.taxBreakdown
  totalAmount : Money.RestoredAs r.totalAmount restored.totalAmount
  paymentMethod : restored.paymentMethod = r.paymentMethod

namespace Issuance

/-- A stamped receipt has a stored form only within the years of four digits. -/
theorem stamp_year {numbers : SequenceNumbers} {now : Timestamp} {store : StoreInfo}
    {items : List LineItem} {method : String} {w : ReceiptRecord}
    (h : (stamp numbers now store items method).StoredAs w) :
    0 ≤ now.truncated.date.year ∧ now.truncated.date.year ≤ 9999 :=
  ⟨Timestamp.year_nonneg (h.seconds ▸ Int.natCast_nonneg _),
    Identifier.year_le_of_transactionId? h.sequence⟩

/-- Of a stamped receipt the stored form keeps all but what is less than a minor unit: its moment is
whole seconds, and its identifiers are written forms. -/
theorem stamp_sameInMinorUnits {numbers : SequenceNumbers} {now : Timestamp} {store : StoreInfo}
    {items : List LineItem} {method : String} {w : ReceiptRecord}
    (h : (stamp numbers now store items method).StoredAs w) :
    (stamp numbers now store items method).SameInMinorUnits w.receipt := by
  have hrestored := h.restored
  have hyear := stamp_year h
  have hmetadata : w.receipt.toReceiptMetadata =
      (stamp numbers now store items method).toReceiptMetadata := by
    apply ReceiptMetadata.ext
    case reportNumber =>
      exact Identifier.eq_of_rewritten Identifier.reportNumber?_reportNumber hrestored.reportNumber
    case transactionId =>
      obtain ⟨n, hread, hwritten⟩ := hrestored.transactionId
      have hback := Identifier.transactionId?_transactionId numbers.receipt hyear
      obtain rfl := Except.ok.inj (hback.symm.trans hread)
      exact hwritten
    case timestamp => exact hrestored.timestamp
    case registrationId =>
      exact Identifier.eq_of_rewritten Identifier.registrationId?_registrationId
        hrestored.registrationId
    case storeName => exact hrestored.storeName
    case storeAddress => exact hrestored.storeAddress
    case serial => exact Identifier.eq_of_rewritten Identifier.serial?_serial hrestored.serial
  exact ⟨hmetadata, hrestored.items, hrestored.tax, hrestored.totalAmount, hrestored.paymentMethod⟩

namespace Attempt

variable {β : Type} {a : Attempt β}

theorem receipt?_eq_some {receipt : Receipt} (h : a.receipt? = some receipt) :
    ∃ method, a.draft.paymentMethod = some method ∧
      receipt = stamp a.register.sequence.numbers a.now a.register.store a.draft.items method := by
  obtain ⟨method, hmethod, rfl⟩ := Option.map_eq_some_iff.1 h
  exact ⟨method, Draft.paymentMethod_of_validate (Checks.toOption_eq_some.1 hmethod), rfl⟩

/-- What a payload is made of. -/
theorem payload?_eq_some {receipt : Receipt} {receiver : OneTimeKey} {payload : Bytes}
    (hreceipt : a.receipt? = some receipt) (hreceiver : a.receiver? = some receiver)
    (h : a.payload? = some payload) :
    ∃ binary signature signed, receipt.encode = .ok binary ∧
      (a.register.services.sign (Sha256.hash binary) a.register.bank).value = .ok signature ∧
      Signed.assemble binary signature = .ok signed ∧
      (Seal.sealFor receiver.point signed a.entropy).1 = .ok payload := by
  simp only [payload?, signed?, signature?, hash?, binary?, hreceipt, hreceiver, Option.bind_some,
    Option.bind_eq_some_iff, Option.map_eq_some_iff, Checks.toOption_eq_some] at h
  obtain ⟨signed, ⟨binary, hencode, signature, ⟨_, ⟨binary', hencode', rfl⟩, answer, hwithin,
    hanswer⟩, hsigned⟩, hsealed⟩ := h
  obtain rfl : binary = binary' := Except.ok.inj (hencode.symm.trans hencode')
  exact ⟨binary, signature, signed, hencode, (within?_eq_some hwithin).trans hanswer, hsigned,
    hsealed⟩

end Attempt

end Issuance

open Issuance in
/-- **What was issued is recovered.** Let a register with a bank in its own process issue its draft
to the public point of a secret `d`. If the register says that it issued a receipt, then, whatever
the random draws, the signer, the clock, the counters and the contents of the bank are:

* the bank has a submission under the key of that point, with the transaction id of the receipt;
* `d` opens its payload, and what is opened splits into the stored form of the receipt and just the
  signature that the signer gives to the hash of the stored form;
* the stored form is decoded to the same receipt in minor units;
* the receipt has the lines of the draft, its payment method, and the details of the store, whose
  registration id is read off it. -/
theorem Register.issued_receipt_recovered (r : Register LocalBank)
    (hlocal : ∀ s bank, (r.services.submit s bank).value = (Services.submitLocally s bank).value)
    {draft : Draft} (hopen : r.state = .opened draft) (d : Curve.Secret) (now : Timestamp)
    (entropy : Seal.Entropy) {receipt : Receipt}
    (hissued : (r.issue d.publicPoint.compressed now entropy).result = .ok receipt) :
    ∃ s signed binary signature restored,
      ((r.issue d.publicPoint.compressed now entropy).register.bank.collect
        (OneTimeKey.ofPoint d.publicPoint)).1 = some s ∧
      s.trackingId = some receipt.transactionId ∧
      Seal.openWith d s.payload = .ok signed ∧
      Signed.split signed = .ok (binary, signature) ∧
      receipt.encode = .ok binary ∧
      (r.services.sign (Sha256.hash binary) r.bank).value = .ok signature ∧
      Receipt.decode binary = .ok restored ∧
      receipt.SameInMinorUnits restored ∧
      receipt.items = draft.items ∧
      draft.paymentMethod = some receipt.paymentMethod ∧
      receipt.storeName = r.store.name ∧
      receipt.storeAddress = r.store.address ∧
      receipt.registrationId = Identifier.registrationId r.store.registrationId ∧
      Identifier.registrationId? receipt.registrationId = some r.store.registrationId := by
  generalize hi : r.issue d.publicPoint.compressed now entropy = i at hissued ⊢
  simp only [issue, hopen] at hi
  let a : Attempt LocalBank := ⟨r, draft, d.publicPoint.compressed, now, entropy⟩
  rcases Attempt.issueDraft_course (a := a) hi with
    ⟨receipt', hreceipt, hresult, -, hcompletes⟩ | ⟨stage, hfails, -⟩
  case inr =>
    obtain ⟨fault, hresult, -⟩ := hfails.result
    cases hresult.symm.trans hissued
  obtain rfl : receipt' = receipt := Except.ok.inj (hresult.symm.trans hissued)
  obtain ⟨s, hs, haccepted⟩ := hcompletes.bank
  obtain ⟨receiver, receipt'', payload, hreceiver, hreceipt', hpayload, rfl⟩ :=
    Attempt.submission?_eq_some.1 hs
  obtain rfl : receipt' = receipt'' := Option.some.inj (hreceipt.symm.trans hreceipt')
  obtain rfl : OneTimeKey.ofPoint d.publicPoint = receiver :=
    Except.ok.inj ((OneTimeKey.ofCompressed_compressed d.publicPoint).symm.trans
      (Checks.toOption_eq_some.1 hreceiver))
  -- the bank
  have hsubmit : r.bank.submit
      { key := OneTimeKey.ofPoint d.publicPoint, payload,
        trackingId := some receipt'.transactionId } = .ok i.register.bank :=
    Services.submit_of_submitLocally ((hlocal _ _).symm.trans haccepted)
  have hcollect := LocalBank.collect_of_submit hsubmit
  -- the payload
  obtain ⟨binary, signature, signed, hencode, hsign, hassemble, hsealed⟩ :=
    Attempt.payload?_eq_some hreceipt hreceiver hpayload
  obtain ⟨e, nonce, -, hnonce, rfl⟩ := Seal.sealFor_eq_ok hsealed
  have hopened := Seal.openWith_sealWith (Seal.agree d e) hnonce signed
  -- the receipt
  obtain ⟨method, hmethod, hstamp⟩ := Attempt.receipt?_eq_some hreceipt
  obtain ⟨w, ⟨hstored, hstorable⟩, hbytes⟩ := Receipt.encode_eq_ok_iff.1 hencode
  have hdecode : Receipt.decode binary = .ok w.receipt :=
    Receipt.decode_eq_ok_iff.2 ⟨w, hstorable, hbytes.symm, rfl⟩
  subst hstamp
  exact ⟨_, signed, binary, signature, w.receipt, hcollect, rfl, hopened,
    Signed.split_of_assemble hassemble, hencode, hsign, hdecode, stamp_sameInMinorUnits hstored,
    rfl, hmethod, rfl, rfl, rfl, Identifier.registrationId?_registrationId _⟩

/-- A receiver with a small secret. -/
def Curve.Secret.seven : Curve.Secret := ⟨7, by decide, by decide⟩

theorem Register.issued_receipt_recovered_till :
    ∃ receipt s signed binary signature restored,
      ((till 64).issue Curve.Secret.seven.publicPoint.compressed ⟨1736933400, 500⟩
        (List.replicate 200 7)).result = .ok receipt ∧
      (((till 64).issue Curve.Secret.seven.publicPoint.compressed ⟨1736933400, 500⟩
        (List.replicate 200 7)).register.bank.collect
          (OneTimeKey.ofPoint Curve.Secret.seven.publicPoint)).1 = some s ∧
      Seal.openWith Curve.Secret.seven s.payload = .ok signed ∧
      Signed.split signed = .ok (binary, signature) ∧
      signature = List.replicate 64 0 ∧
      Receipt.decode binary = .ok restored ∧ receipt.SameInMinorUnits restored ∧
      Identifier.registrationId? receipt.registrationId =
        some (till 64).store.registrationId := by
  have hok : ((till 64).issue Curve.Secret.seven.publicPoint.compressed ⟨1736933400, 500⟩
      (List.replicate 200 7)).result.isOk = true := by decide +kernel
  cases hissued : ((till 64).issue Curve.Secret.seven.publicPoint.compressed ⟨1736933400, 500⟩
      (List.replicate 200 7)).result with
  | error fault => rw [hissued] at hok; cases hok
  | ok receipt =>
    obtain ⟨s, signed, binary, signature, restored, hcollect, -, hopened, hsplit, -, hsign, hdecode,
      hsame, -, -, -, -, -, hregistration⟩ :=
      issued_receipt_recovered (till 64) (fun _ _ => rfl) rfl Curve.Secret.seven
        ⟨1736933400, 500⟩ (List.replicate 200 7) hissued
    exact ⟨receipt, s, signed, binary, signature, restored, rfl, hcollect, hopened, hsplit,
      (Except.ok.inj hsign).symm, hdecode, hsame, hregistration⟩

end SealedReceipts
