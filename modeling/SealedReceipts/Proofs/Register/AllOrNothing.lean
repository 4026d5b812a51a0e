import Mathlib.Data.Multiset.AddSub
import SealedReceipts.Proofs.Checks
import SealedReceipts.Proofs.Register.Issuance

/-!
# Issuing is all or nothing

An issuance that fails leaves the bank as it was and the register without a receipt; one that
succeeds puts one submission into the bank and closes the register on the receipt. All that is asked
of the bank is that it stores nothing of a submission that it refuses, and a submission that it
takes beside what it holds. A bank in the register's own process does.
-/

namespace SealedReceipts

variable {β : Type}

/-! ## Banks -/

/-- What the contents of a bank become when it answers a submission. A submission that it is too
late for counts as one that was not made. -/
structure Services.Keeps (services : Services β) (contents : β → Multiset Submission) : Prop where
  refused : ∀ {s bank fault after}, (services.submit s bank).value = (.error fault, after) →
    contents after = contents bank
  accepted : ∀ {s bank after}, (services.submit s bank).value = (.ok (), after) →
    contents after = s ::ₘ contents bank

/-- What a bank in the register's own process holds, in no order. -/
def LocalBank.contents (bank : LocalBank) : Multiset Submission := bank.submissions

/-- A bank takes what nothing is in the way of, and keeps it behind the rest. -/
theorem LocalBank.taken_of_submit {bank after : LocalBank} {s : Submission}
    (h : bank.submit s = .ok after) :
    bank.find? s.key = none ∧ after = ⟨bank.submissions ++ [s]⟩ := by
  unfold LocalBank.submit at h
  split at h
  · cases h
  · next hfree =>
    refine ⟨by simpa using hfree, ?_⟩
    split at h
    · split at h
      · cases h
      · exact (Except.ok.inj h).symm
    · exact (Except.ok.inj h).symm

theorem LocalBank.submit_eq_ok {bank after : LocalBank} {s : Submission}
    (h : bank.submit s = .ok after) : after.contents = s ::ₘ bank.contents := by
  obtain ⟨-, rfl⟩ := LocalBank.taken_of_submit h
  exact Quot.sound (List.perm_append_singleton s bank.submissions)

/-- A bank in the register's own process keeps its contents, whatever time it takes. -/
theorem Services.keeps_of_local {services : Services LocalBank}
    (h : ∀ s bank, (services.submit s bank).value = (Services.submitLocally s bank).value) :
    services.Keeps LocalBank.contents where
  refused := by
    intro s bank fault after hvalue
    rw [h, submitLocally] at hvalue
    split at hvalue
    · cases hvalue
    · cases hvalue
      rfl
  accepted := by
    intro s bank after hvalue
    rw [h, submitLocally] at hvalue
    split at hvalue
    · next hsubmit =>
      cases hvalue
      exact LocalBank.submit_eq_ok hsubmit
    · cases hvalue

namespace Issuance

namespace Attempt

variable {α : Type} {a : Attempt β} {stage : Stage} {o : Outcome α β}
  {contents : β → Multiset Submission}

theorem Fails.contents_eq (h : a.Fails stage o) (hbank : a.register.services.Keeps contents) :
    contents o.bank = contents a.register.bank := by
  rcases h.bank with hsame | ⟨s, fault, hrefused⟩
  · rw [hsame]
  · exact hbank.refused hrefused

/-- The stages that a failing issuance reaches are those up to the one it fails at. -/
theorem Fails.reaches_iff (h : a.Fails stage o) {other : Stage} :
    a.Reaches other ↔ other.rank ≤ stage.rank := by
  constructor
  · intro hreaches
    by_cases hlt : stage.rank < other.rank
    · exact absurd (hreaches stage hlt) h.fails
    · omega
  · intro hle earlier hlt
    exact h.reaches earlier (by omega)

theorem Reaches.exists_hash (h : a.Reaches .sign) : ∃ hash, a.hash? = some hash := by
  have hbinary : a.binary?.isSome := h .encode (by decide)
  obtain ⟨binary, hbinary⟩ := Option.isSome_iff_exists.1 hbinary
  exact ⟨Sha256.hash binary, by rw [hash?, hbinary]; rfl⟩

/-- What a submission is made of. -/
theorem submission?_eq_some {s : Submission} :
    a.submission? = some s ↔
      ∃ receiver receipt payload, a.receiver? = some receiver ∧ a.receipt? = some receipt ∧
        a.payload? = some payload ∧
        s = { key := receiver, payload, trackingId := some receipt.transactionId } := by
  simp only [submission?, Option.bind_eq_some_iff, Option.map_eq_some_iff]
  constructor
  · rintro ⟨receiver, hreceiver, receipt, hreceipt, payload, hpayload, hs⟩
    exact ⟨receiver, receipt, payload, hreceiver, hreceipt, hpayload, hs.symm⟩
  · rintro ⟨receiver, receipt, payload, hreceiver, hreceipt, hpayload, hs⟩
    exact ⟨receiver, hreceiver, receipt, hreceipt, payload, hpayload, hs.symm⟩

theorem Reaches.exists_submission (h : a.Reaches .submit) : ∃ s, a.submission? = some s := by
  have hreceiver : a.receiver?.isSome := h .receiverKey (by decide)
  have hmethod : a.method?.isSome := h .validate (by decide)
  have hpayload : a.payload?.isSome := h .seal (by decide)
  obtain ⟨receiver, hreceiver⟩ := Option.isSome_iff_exists.1 hreceiver
  obtain ⟨method, hmethod⟩ := Option.isSome_iff_exists.1 hmethod
  obtain ⟨payload, hpayload⟩ := Option.isSome_iff_exists.1 hpayload
  have hreceipt : a.receipt? = some (stamp a.register.sequence.numbers a.now a.register.store
      a.draft.items method) := by
    rw [receipt?, hmethod]
    rfl
  exact ⟨_, submission?_eq_some.2 ⟨receiver, _, payload, hreceiver, hreceipt, hpayload, rfl⟩⟩

/-- The bank behind an issuance that completes has the submission of the receipt. -/
theorem Completes.contents_eq {receipt : Receipt} (h : a.Completes o)
    (hbank : a.register.services.Keeps contents) (hreceipt : a.receipt? = some receipt) :
    ∃ s, contents o.bank = s ::ₘ contents a.register.bank ∧
      OneTimeKey.ofCompressed a.receiverKey = .ok s.key ∧
      s.trackingId = some receipt.transactionId := by
  obtain ⟨s, hs, haccepted⟩ := h.bank
  obtain ⟨receiver, receipt', payload, hreceiver, hreceipt', -, rfl⟩ := submission?_eq_some.1 hs
  rw [hreceipt, Option.some.injEq] at hreceipt'
  subst hreceipt'
  exact ⟨_, hbank.accepted haccepted, Checks.toOption_eq_some.1 hreceiver, rfl⟩

/-- The signer is asked once if its stage is reached and never else, and so is the bank after it. -/
theorem questions_eq (hsign : a.Reaches .sign ↔ Stage.sign.rank ≤ stage.rank)
    (hsubmit : a.Reaches .submit ↔ Stage.submit.rank ≤ stage.rank) :
    ∃ signs submits, a.questions stage = signs ++ submits ∧
      ((a.Reaches .sign ∧ ∃ hash, a.hash? = some hash ∧ signs = [.sign hash]) ∨
        ¬ a.Reaches .sign ∧ signs = []) ∧
      ((a.Reaches .submit ∧ ∃ s, a.submission? = some s ∧ submits = [.submit s]) ∨
        ¬ a.Reaches .submit ∧ submits = []) := by
  refine ⟨_, _, rfl, ?_, ?_⟩
  · by_cases h : a.Reaches .sign
    · obtain ⟨hash, hhash⟩ := h.exists_hash
      exact .inl ⟨h, hash, hhash, by rw [if_pos (hsign.1 h), hhash]; rfl⟩
    · exact .inr ⟨h, if_neg fun hle => h (hsign.2 hle)⟩
  · by_cases h : a.Reaches .submit
    · obtain ⟨s, hs⟩ := h.exists_submission
      exact .inl ⟨h, s, hs, by rw [if_pos (hsubmit.1 h), hs]; rfl⟩
    · exact .inr ⟨h, if_neg fun hle => h (hsubmit.2 hle)⟩

end Attempt

end Issuance

open Issuance in
/-- **Issuing is all or nothing.** Whatever the draft, the key, the clock, the random draws and the
answers of the collaborators are:

* an issuance that fails leaves the contents of the bank as they were and the register without a
  receipt, and its fault names the step of the first stage that does not pass;
* an issuance that succeeds adds one submission to the contents of the bank, under the receiver's
  key and with the id of the receipt, and closes the register on the receipt;
* the signer is asked once if validation, the receiver's key and the encoding pass, and else not at
  all; the bank is asked once, after the signer, if signing, assembling and sealing pass as well,
  and else not at all. -/
theorem Register.issue_all_or_nothing {contents : β → Multiset Submission} (r : Register β)
    (hbank : r.services.Keeps contents) {draft : Draft} (hopen : r.state = .opened draft)
    (receiverKey : Bytes) (now : Timestamp) (entropy : Seal.Entropy) :
    let a : Attempt β := ⟨r, draft, receiverKey, now, entropy⟩
    let i := r.issue receiverKey now entropy
    (∀ fault, i.result = .error fault →
      contents i.register.bank = contents r.bank ∧
        i.register.status = .noReceipt ∧ i.register.lastIssued? = none ∧
        ∃ stage, a.Reaches stage ∧ ¬ a.Passes stage ∧ fault.step = some stage.step) ∧
    (∀ receipt, i.result = .ok receipt →
      (∃ s, contents i.register.bank = s ::ₘ contents r.bank ∧
          OneTimeKey.ofCompressed receiverKey = .ok s.key ∧
          s.trackingId = some receipt.transactionId) ∧
        i.register.status = .closed ∧ i.register.lastIssued? = some receipt ∧
        ∀ stage, a.Passes stage) ∧
    ∃ signs submits, i.asked = signs ++ submits ∧
      ((a.Reaches .sign ∧ ∃ hash, a.hash? = some hash ∧ signs = [.sign hash]) ∨
        ¬ a.Reaches .sign ∧ signs = []) ∧
      ((a.Reaches .submit ∧ ∃ s, a.submission? = some s ∧ submits = [.submit s]) ∨
        ¬ a.Reaches .submit ∧ submits = []) := by
  intro a i
  have hi : r.issueDraft draft receiverKey now entropy = i := by
    simp only [i, issue, hopen]
  rcases Attempt.issueDraft_course (a := a) hi with
    ⟨receipt, hreceipt, hresult, hstate, hcompletes⟩ | ⟨stage, hfails, hstate⟩
  · refine ⟨?_, ?_, ?_⟩
    · intro fault hfault
      rw [hresult] at hfault
      cases hfault
    · intro receipt' hreceipt'
      rw [hresult, Except.ok.injEq] at hreceipt'
      subst hreceipt'
      refine ⟨hcompletes.contents_eq hbank hreceipt, ?_, ?_, hcompletes.passes⟩
      · simp only [status, hstate]
      · simp only [lastIssued?, hstate]
    · have hreaches : ∀ other, a.Reaches other := fun _ earlier _ => hcompletes.passes earlier
      have hasked : i.asked = a.questions .submit := hcompletes.asked
      rw [hasked]
      exact Attempt.questions_eq ⟨fun _ => by decide, fun _ => hreaches .sign⟩
        ⟨fun _ => by decide, fun _ => hreaches .submit⟩
  · refine ⟨?_, ?_, ?_⟩
    · intro fault hfault
      obtain ⟨fault', hresult, hstep⟩ := hfails.result
      have hsame : fault' = fault := Except.error.inj (hresult.symm.trans hfault)
      subst hsame
      refine ⟨hfails.contents_eq hbank, ?_, ?_, stage, hfails.reaches, hfails.fails, hstep⟩
      · simp only [status, hstate]
      · simp only [lastIssued?, hstate]
    · intro receipt hreceipt
      obtain ⟨fault, hresult, -⟩ := hfails.result
      have hboth := hresult.symm.trans hreceipt
      cases hboth
    · have hasked : i.asked = a.questions stage := hfails.asked
      rw [hasked]
      exact Attempt.questions_eq hfails.reaches_iff hfails.reaches_iff

/-- A register with a line rung up, whose signer gives that many bytes for a signature. -/
def Register.till (signatureLength : Nat) : Register LocalBank where
  services :=
    { sign := fun _ _ => { value := .ok (List.replicate signatureLength 0) }
      submit := Services.submitLocally }
  bank := .empty
  sequence := {}
  store := { registrationId := 7, name := "Café", address := "" }
  catalog := .empty
  timeouts := {}
  state := .opened
    { items := [LineItem.ofPrice 1 2 (Money.ofMinor 250) .reduced], paymentMethod := some "CARD" }

/-- What comes of issuing the line of a till to the generator of the curve. -/
def Register.tillIssued (signatureLength : Nat) : Register.Issued LocalBank :=
  (till signatureLength).issue Curve.generator.compressed ⟨1736933400, 500⟩ (List.replicate 200 7)

/-- A signature that is too short leaves the bank empty, one of the right length fills it. -/
theorem Register.issue_all_or_nothing_till :
    ((tillIssued 63).result = .error (.assemble ⟨63⟩) ∧
        (tillIssued 63).register.bank.contents = 0 ∧
        (tillIssued 63).register.lastIssued? = none) ∧
      ∃ receipt s, (tillIssued 64).result = .ok receipt ∧
        receipt.transactionId = "TX202501150001" ∧
        (tillIssued 64).register.bank.contents = {s} ∧
        s.trackingId = some "TX202501150001" := by
  have hkeeps : ∀ length, (till length).services.Keeps LocalBank.contents :=
    fun length => Services.keeps_of_local fun _ _ => rfl
  have hempty : ∀ length, (till length).bank.contents = 0 := fun _ => rfl
  constructor
  · have hall := issue_all_or_nothing (till 63) (hkeeps 63) rfl Curve.generator.compressed
      ⟨1736933400, 500⟩ (List.replicate 200 7)
    rw [← tillIssued] at hall
    have hresult : (tillIssued 63).result = .error (.assemble ⟨63⟩) := by decide +kernel
    obtain ⟨hcontents, -, hlast, -⟩ := hall.1 _ hresult
    exact ⟨hresult, hcontents.trans (hempty 63), hlast⟩
  · have hall := issue_all_or_nothing (till 64) (hkeeps 64) rfl Curve.generator.compressed
      ⟨1736933400, 500⟩ (List.replicate 200 7)
    rw [← tillIssued] at hall
    have hid : (tillIssued 64).result.map (·.transactionId) = .ok "TX202501150001" := by
      decide +kernel
    obtain ⟨receipt, hresult, hid⟩ := Checks.map_eq_ok.1 hid
    obtain ⟨⟨s, hcontents, -, htracking⟩, -⟩ := hall.2.1 _ hresult
    rw [hempty] at hcontents
    rw [hid] at htracking
    exact ⟨receipt, s, hresult, hid, hcontents, htracking⟩

end SealedReceipts
