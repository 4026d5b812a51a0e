import SealedReceipts.Proofs.Receipt.IdentifierForm
import SealedReceipts.Proofs.Register.Calls

/-!
# The submission of an issuance

An issuance asks its bank at most once, with its last step. When it asks, the submission is for the
receiver and bears the id of the stamped receipt, and the issuance ends as the bank answers; when it
does not, the bank is left as it is and the fault is not that of submitting.
-/

namespace SealedReceipts

namespace Issuance

def Question.submission? : Question → Option Submission
  | .sign _ => none
  | .submit s => some s

namespace Outcome

variable {α β : Type}

/-- What the bank was asked to take. -/
def submission? (o : Outcome α β) : Option Submission := o.asked.findSome? Question.submission?

/-- The bank was asked to take a submission, and its answer was the outcome. -/
structure Submits (o : Outcome α β) (services : Services β) (limit : Duration) (bank : β)
    (s : Submission) : Prop where
  asked : o.submission? = some s
  result : (submission services limit s bank).1 = o.result.map fun _ => ()
  bank : (submission services limit s bank).2 = o.bank

/-- The bank was not asked, because an earlier step failed. -/
structure StopsBefore (o : Outcome α β) (bank : β) : Prop where
  asked : o.submission? = none
  bank : o.bank = bank
  fault : ∃ fault, o.result = .error fault ∧ fault.step ≠ some .submit

end Outcome

variable {β : Type} {services : Services β} {timeouts : Timeouts} {bank : β} {receiver : OneTimeKey}
  {entropy : Seal.Entropy}

theorem signAndSubmit_submission {trackingId : String} {binary : Bytes} {o : Outcome Unit β}
    (ho : signAndSubmit services timeouts bank receiver trackingId entropy binary = o) :
    (∃ signed payload, (Seal.sealFor receiver.point signed entropy).1 = .ok payload ∧
      o.Submits services timeouts.bank bank ⟨receiver, payload, some trackingId⟩) ∨
    o.StopsBefore bank := by
  unfold signAndSubmit at ho
  cases hsign : answerOf .sign timeouts.signer .signer
      (services.sign (Sha256.hash binary) bank) with
  | error fault =>
    have hstep : fault.step = some .sign := answerOf_step (fun _ => rfl) hsign
    simp only [hsign] at ho
    subst ho
    exact .inr ⟨rfl, rfl, fault, rfl, by simp [hstep]⟩
  | ok signature =>
  cases hassemble : Signed.assemble binary signature with
  | error e =>
    simp only [hsign, hassemble] at ho
    subst ho
    exact .inr ⟨rfl, rfl, _, rfl, by simp [RegisterFault.step]⟩
  | ok signed =>
  cases hseal : (Seal.sealFor receiver.point signed entropy).1 with
  | error e =>
    simp only [hsign, hassemble, hseal] at ho
    subst ho
    exact .inr ⟨rfl, rfl, _, rfl, by simp [RegisterFault.step]⟩
  | ok payload =>
    simp only [hsign, hassemble, hseal] at ho
    subst ho
    refine .inl ⟨signed, payload, hseal, rfl, ?_, rfl⟩
    cases (submission services timeouts.bank ⟨receiver, payload, some trackingId⟩ bank).1 <;> rfl

/-- What the submission of a receipt is: for the receiver, with the id of the receipt and the sealed
form of something. The receipt has a stored form. -/
structure IsSubmissionOf (s : Submission) (receiver : OneTimeKey) (entropy : Seal.Entropy)
    (receipt : Receipt) : Prop where
  key : s.key = receiver
  trackingId : s.trackingId = some receipt.transactionId
  encoded : ∃ binary, receipt.encode = .ok binary
  sealed : ∃ signed, (Seal.sealFor receiver.point signed entropy).1 = .ok s.payload

theorem deliver_submission {receipt : Receipt} {o : Outcome Unit β}
    (ho : deliver services timeouts bank receiver entropy receipt = o) :
    (∃ s, IsSubmissionOf s receiver entropy receipt ∧ o.Submits services timeouts.bank bank s) ∨
      o.StopsBefore bank := by
  unfold deliver at ho
  cases hencode : receipt.encode with
  | error e =>
    simp only [hencode] at ho
    subst ho
    exact .inr ⟨rfl, rfl, _, rfl, by simp [RegisterFault.step]⟩
  | ok binary =>
    simp only [hencode] at ho
    rcases signAndSubmit_submission ho with ⟨signed, payload, hseal, hsubmits⟩ | hstops
    · exact .inl ⟨_, ⟨rfl, rfl, ⟨binary, hencode⟩, signed, hseal⟩, hsubmits⟩
    · exact .inr hstops

theorem step_of_unchecked {draft : Draft} {receiverKey : Bytes} {fault : RegisterFault}
    (h : check draft receiverKey = .error fault) : fault.step = some .validate := by
  unfold check at h
  split at h
  · cases h
    rfl
  · split at h
    · cases h
      rfl
    · cases h

theorem check_eq_ok_iff {draft : Draft} {receiverKey : Bytes} {method : String} :
    check draft receiverKey = .ok (method, receiver) ↔
      draft.validate = .ok method ∧ OneTimeKey.ofCompressed receiverKey = .ok receiver := by
  unfold check
  cases draft.validate with
  | error defect => simp
  | ok method =>
    cases OneTimeKey.ofCompressed receiverKey <;> simp

/-- The course of an issuance, by what it asks its bank. -/
theorem issueDraft_submission {r : Register β} {draft : Draft} {receiverKey : Bytes}
    {now : Timestamp} {i : Register.Issued β}
    (hi : r.issueDraft draft receiverKey now entropy = i) :
    (∃ method receiver s, check draft receiverKey = .ok (method, receiver) ∧
      IsSubmissionOf s receiver entropy
        (stamp r.sequence.numbers now r.store draft.items method) ∧
      i.outcome.Submits r.services r.timeouts.bank r.bank s) ∨
    i.outcome.StopsBefore r.bank := by
  cases hcheck : check draft receiverKey with
  | error fault =>
    rw [r.issueDraft_of_unchecked hcheck] at hi
    subst hi
    exact .inr ⟨rfl, rfl, fault, rfl, by simp [step_of_unchecked hcheck]⟩
  | ok checked =>
    obtain ⟨method, receiver⟩ := checked
    simp only [Register.issueDraft, hcheck] at hi
    generalize ho : deliver r.services r.timeouts r.bank receiver entropy
      (stamp r.sequence.numbers now r.store draft.items method) = o at hi
    rcases deliver_submission ho with ⟨s, hs, hsubmits⟩ | ⟨hnone, hkept, fault, hfault, hstep⟩
    · refine .inl ⟨method, receiver, s, rfl, hs, ?_⟩
      cases hresult : o.result with
      | error fault | ok _ =>
        simp only [hresult] at hi
        subst hi
        exact ⟨hsubmits.asked, by rw [hsubmits.result, hresult]; rfl, hsubmits.bank⟩
    · simp only [hfault] at hi
      subst hi
      exact .inr ⟨hnone, hkept, fault, rfl, hstep⟩

/-- What an issuance asks the bank to take is the submission of the receipt that it has stamped for
the open draft. -/
theorem issue_submits {r : Register β} {receiverKey : Bytes} {now : Timestamp} {s : Submission}
    (h : (r.issue receiverKey now entropy).outcome.submission? = some s) :
    ∃ draft method receiver, r.state = .opened draft ∧
      check draft receiverKey = .ok (method, receiver) ∧
      IsSubmissionOf s receiver entropy
        (stamp r.sequence.numbers now r.store draft.items method) ∧
      (r.issue receiverKey now entropy).outcome.Submits r.services r.timeouts.bank r.bank s := by
  cases hopen : r.state with
  | noReceipt | issuing | closed receipt =>
    simp [Register.issue, hopen, Register.Issued.outcome, Outcome.submission?] at h
  | opened draft =>
    simp only [Register.issue, hopen] at h ⊢
    rcases issueDraft_submission (r := r) rfl with
      ⟨method, receiver, s', hcheck, hs, hsubmits⟩ | hstops
    · obtain rfl := Option.some.inj (hsubmits.asked.symm.trans h)
      exact ⟨draft, method, receiver, rfl, hcheck, hs, hsubmits⟩
    · cases hstops.asked.symm.trans h

/-- An issuance that does not ask the bank leaves it as it is. -/
theorem bank_of_issue {r : Register β} {receiverKey : Bytes} {now : Timestamp}
    (h : (r.issue receiverKey now entropy).outcome.submission? = none) :
    (r.issue receiverKey now entropy).register.bank = r.bank := by
  cases hopen : r.state with
  | noReceipt | issuing | closed receipt => simp only [Register.issue, hopen]
  | opened draft =>
    simp only [Register.issue, hopen] at h ⊢
    rcases issueDraft_submission (r := r) rfl with ⟨_, _, s, -, -, hsubmits⟩ | hstops
    · cases hsubmits.asked.symm.trans h
    · exact hstops.bank

/-- A stamped receipt that was encoded is dated in a year of four digits. -/
theorem IsSubmissionOf.year {s : Submission} {numbers : SequenceNumbers} {now : Timestamp}
    {store : StoreInfo} {items : List LineItem} {method : String}
    (h : IsSubmissionOf s receiver entropy (stamp numbers now store items method)) :
    0 ≤ now.truncated.date.year ∧ now.truncated.date.year ≤ 9999 := by
  obtain ⟨binary, hencode⟩ := h.encoded
  obtain ⟨w, ⟨hstored, -⟩, -⟩ := Receipt.encode_eq_ok_iff.1 hencode
  exact stamp_year hstored

end Issuance

end SealedReceipts
