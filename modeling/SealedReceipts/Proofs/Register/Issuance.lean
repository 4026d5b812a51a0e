import SealedReceipts.Proofs.Register.Attempt

/-!
# Issuing is all or nothing

An issuance passes every stage, or it ends at the first stage that does not pass. The course of each
function of the issuance is one of these two, and which one it is says everything about its outcome:
the questions that were asked, the result, and the bank that is left.
-/

namespace SealedReceipts

namespace Issuance

/-! ## Answers of the collaborators -/

section Answers

variable {α β : Type} {limit : Duration}

theorem answerOf_toOption (step : IssueStep) (limit : Duration)
    (blame : ServiceFault → RegisterFault) (answer : Timed (Except ServiceFault α)) :
    (answerOf step limit blame answer).toOption = (answer.within? limit).bind Except.toOption := by
  unfold answerOf
  cases answer.within? limit with
  | none => rfl
  | some value => cases value <;> rfl

/-- A late answer and a failure are both blamed on the step. -/
theorem answerOf_step {step : IssueStep} {blame : ServiceFault → RegisterFault}
    (hblame : ∀ fault, (blame fault).step = some step) {answer : Timed (Except ServiceFault α)}
    {fault : RegisterFault} (h : answerOf step limit blame answer = .error fault) :
    fault.step = some step := by
  unfold answerOf at h
  cases hwithin : answer.within? limit with
  | none =>
    rw [hwithin] at h
    cases h
    rfl
  | some value =>
    rw [hwithin] at h
    cases value with
    | error service =>
      cases h
      exact hblame service
    | ok a => cases h

theorem within?_eq_some {t : Timed α} {value : α} (h : t.within? limit = some value) :
    t.value = value := by
  unfold Timed.within? at h
  split at h
  · cases h
  · exact Option.some.inj h

end Answers

/-! ## The course of an issuance -/

namespace Attempt

variable {α β : Type} (a : Attempt β)

/-- A stage is the first that does not pass, and the outcome is as it must be then: the fault names
the step of the stage, and the bank is the one from before or what a refused submission left. -/
structure Fails (stage : Stage) (o : Outcome α β) : Prop where
  reaches : a.Reaches stage
  fails : ¬ a.Passes stage
  result : ∃ fault, o.result = .error fault ∧ fault.step = some stage.step
  asked : o.asked = a.questions stage
  bank : o.bank = a.register.bank ∨
    ∃ s fault, (a.register.services.submit s a.register.bank).value = (.error fault, o.bank)

/-- Every stage passes, and the outcome is as it must be then. -/
structure Completes (o : Outcome α β) : Prop where
  passes : ∀ stage, a.Passes stage
  asked : o.asked = a.questions .submit
  bank : ∃ s, a.submission? = some s ∧
    (a.register.services.submit s a.register.bank).value = (.ok (), o.bank)

/-- Nothing is in front of the first stage. -/
theorem reaches_validate : a.Reaches .validate := by
  intro earlier hlt
  exact absurd hlt (Nat.not_lt_zero _)

variable {a}

theorem reaches_succ {stage next : Stage} (h : a.Reaches stage) (hnext : next.rank = stage.rank + 1)
    (hpasses : a.Passes stage) : a.Reaches next := by
  intro earlier hlt
  rcases Nat.lt_or_eq_of_le (Nat.le_of_lt_succ (hnext ▸ hlt)) with hbefore | hsame
  · exact h earlier hbefore
  · rw [Stage.rank_injective hsame]
    exact hpasses

variable {receiver : OneTimeKey} {receipt : Receipt} {binary : Bytes} {s : Submission}

/-- The course of submitting, the last stage. -/
theorem submission_course (hreaches : a.Reaches .submit) (hs : a.submission? = some s)
    {o : Outcome Unit β} (hasked : o.asked = a.questions .submit)
    (ho : submission a.register.services a.register.timeouts.bank s a.register.bank =
      (o.result, o.bank)) :
    (o.result = .ok () ∧ a.Completes o) ∨ a.Fails .submit o := by
  have hpasses : a.Passes .submit ↔
      (((a.register.services.submit s a.register.bank).within? a.register.timeouts.bank).bind
        fun answer => answer.1.toOption.map fun _ => answer.2).isSome = true := by
    simp only [Passes, accepted?, hs, Option.bind_some]
  unfold submission at ho
  generalize hwithin :
    (a.register.services.submit s a.register.bank).within? a.register.timeouts.bank = answer?
      at ho hpasses
  cases answer? with
  | none =>
    obtain ⟨hresult, hbank⟩ := Prod.mk.inj ho
    refine .inr ⟨hreaches, ?_, ⟨_, hresult.symm, rfl⟩, hasked, .inl hbank.symm⟩
    rw [hpasses]
    exact Bool.false_ne_true
  | some answer =>
    obtain ⟨answer, bank⟩ := answer
    have hvalue := within?_eq_some hwithin
    cases answer with
    | error fault =>
      obtain ⟨hresult, rfl⟩ := Prod.mk.inj ho
      refine .inr ⟨hreaches, ?_, ⟨_, hresult.symm, rfl⟩, hasked, .inr ⟨s, fault, hvalue⟩⟩
      rw [hpasses]
      exact Bool.false_ne_true
    | ok _ =>
      obtain ⟨hresult, rfl⟩ := Prod.mk.inj ho
      refine .inl ⟨hresult.symm, ?_, hasked, s, hs, hvalue⟩
      intro stage
      by_cases hlast : stage = .submit
      · subst hlast
        rw [hpasses]
        rfl
      · exact hreaches stage (by cases stage <;> simp_all [Stage.rank])

/-- The course from signing on. -/
theorem signAndSubmit_course (hreaches : a.Reaches .sign) (hreceiver : a.receiver? = some receiver)
    (hreceipt : a.receipt? = some receipt) (hbinary : a.binary? = some binary) {o : Outcome Unit β}
    (ho : signAndSubmit a.register.services a.register.timeouts a.register.bank receiver
      receipt.transactionId a.entropy binary = o) :
    (o.result = .ok () ∧ a.Completes o) ∨ ∃ stage, a.Fails stage o := by
  have hhash : a.hash? = some (Sha256.hash binary) := by rw [hash?, hbinary]; rfl
  have hsignature : a.signature? = (answerOf .sign a.register.timeouts.signer .signer
      (a.register.services.sign (Sha256.hash binary) a.register.bank)).toOption := by
    rw [signature?, hhash, answerOf_toOption]
    rfl
  unfold signAndSubmit at ho
  cases hsign : answerOf .sign a.register.timeouts.signer .signer
      (a.register.services.sign (Sha256.hash binary) a.register.bank) with
  | error fault =>
    simp only [hsign] at ho hsignature
    subst ho
    have hstep : fault.step = some .sign := answerOf_step (fun _ => rfl) hsign
    refine .inr ⟨.sign, hreaches, ?_, ⟨fault, rfl, hstep⟩, ?_, .inl rfl⟩
    · simp [Passes, hsignature, Except.toOption]
    · simp [questions, Stage.rank, hhash]
  | ok signature =>
  simp only [hsign, Except.toOption] at ho hsignature
  have hreaches : a.Reaches .assemble := reaches_succ hreaches rfl (by simp [Passes, hsignature])
  have hsigned : a.signed? = (Signed.assemble binary signature).toOption := by
    rw [signed?, hbinary, hsignature]
    rfl
  cases hassemble : Signed.assemble binary signature with
  | error e =>
    simp only [hassemble] at ho hsigned
    subst ho
    refine .inr ⟨.assemble, hreaches, ?_, ⟨.assemble e, rfl, rfl⟩, ?_, .inl rfl⟩
    · simp [Passes, hsigned, Except.toOption]
    · simp [questions, Stage.rank, hhash]
  | ok signed =>
  simp only [hassemble, Except.toOption] at ho hsigned
  have hreaches : a.Reaches .seal := reaches_succ hreaches rfl (by simp [Passes, hsigned])
  have hpayload : a.payload? = (Seal.sealFor receiver.point signed a.entropy).1.toOption := by
    rw [payload?, hreceiver, hsigned]
    rfl
  cases hseal : (Seal.sealFor receiver.point signed a.entropy).1 with
  | error e =>
    simp only [hseal] at ho hpayload
    subst ho
    refine .inr ⟨.seal, hreaches, ?_, ⟨.sealing e, rfl, rfl⟩, ?_, .inl rfl⟩
    · simp [Passes, hpayload, Except.toOption]
    · simp [questions, Stage.rank, hhash]
  | ok payload =>
  simp only [hseal, Except.toOption] at ho hpayload
  have hreaches : a.Reaches .submit := reaches_succ hreaches rfl (by simp [Passes, hpayload])
  have hsubmission : a.submission? =
      some { key := receiver, payload, trackingId := some receipt.transactionId } := by
    rw [submission?, hreceiver, hreceipt, hpayload]
    rfl
  generalize hanswer : submission a.register.services a.register.timeouts.bank
    { key := receiver, payload, trackingId := some receipt.transactionId } a.register.bank = answer
      at ho
  have hasked : o.asked = a.questions .submit := by
    rw [← ho]
    simp [questions, Stage.rank, hhash, hsubmission]
  have hafter : answer = (o.result, o.bank) := by rw [← ho]
  rcases submission_course hreaches hsubmission hasked (hanswer.trans hafter) with
    hcompletes | hfails
  · exact .inl hcompletes
  · exact .inr ⟨.submit, hfails⟩

/-- The course behind stamping. -/
theorem deliver_course (hreaches : a.Reaches .encode) (hreceiver : a.receiver? = some receiver)
    (hreceipt : a.receipt? = some receipt) {o : Outcome Unit β}
    (ho : deliver a.register.services a.register.timeouts a.register.bank receiver a.entropy
      receipt = o) :
    (o.result = .ok () ∧ a.Completes o) ∨ ∃ stage, a.Fails stage o := by
  unfold deliver at ho
  have hbinary : a.binary? = receipt.encode.toOption := by
    rw [binary?, hreceipt]
    rfl
  cases hencode : receipt.encode with
  | error e =>
    simp only [hencode] at ho hbinary
    subst ho
    refine .inr ⟨.encode, hreaches, ?_, ⟨.encode e, rfl, rfl⟩, ?_, .inl rfl⟩
    · simp [Passes, hbinary, Except.toOption]
    · simp [questions, Stage.rank]
  | ok binary =>
    simp only [hencode, Except.toOption] at ho hbinary
    have hreaches : a.Reaches .sign := reaches_succ hreaches rfl (by simp [Passes, hbinary])
    exact signAndSubmit_course hreaches hreceiver hreceipt hbinary ho

/-- The course of a whole issuance, and the state it leaves the register in. -/
theorem issueDraft_course {i : Register.Issued β}
    (hi : a.register.issueDraft a.draft a.receiverKey a.now a.entropy = i) :
    (∃ receipt, a.receipt? = some receipt ∧ i.result = .ok receipt ∧
        i.register.state = .closed receipt ∧ a.Completes i.outcome) ∨
      ∃ stage, a.Fails stage i.outcome ∧ i.register.state = .noReceipt := by
  unfold Register.issueDraft check at hi
  cases hvalidate : a.draft.validate with
  | error defect =>
    simp only [hvalidate] at hi
    subst hi
    have hfault : (RegisterFault.notReady defect).step = some Stage.validate.step := rfl
    refine .inr ⟨.validate, ⟨a.reaches_validate, ?_, ⟨_, rfl, hfault⟩, ?_, .inl rfl⟩, rfl⟩
    · simp [Passes, method?, hvalidate, Except.toOption]
    · simp [Register.Issued.outcome, questions, Stage.rank]
  | ok method =>
  have hmethod : a.method? = some method := by rw [method?, hvalidate]; rfl
  have hreaches : a.Reaches .receiverKey :=
    reaches_succ a.reaches_validate rfl (by simp [Passes, hmethod])
  cases hkey : OneTimeKey.ofCompressed a.receiverKey with
  | error e =>
    simp only [hvalidate, hkey] at hi
    subst hi
    refine .inr ⟨.receiverKey, ⟨hreaches, ?_, ⟨.invalidReceiverKey e, rfl, rfl⟩, ?_, .inl rfl⟩, rfl⟩
    · simp [Passes, receiver?, hkey, Except.toOption]
    · simp [Register.Issued.outcome, questions, Stage.rank]
  | ok receiver =>
  have hreceiver : a.receiver? = some receiver := by rw [receiver?, hkey]; rfl
  have hreaches : a.Reaches .encode := reaches_succ hreaches rfl (by simp [Passes, hreceiver])
  have hreceipt : a.receipt? = some (stamp a.register.sequence.numbers a.now a.register.store
      a.draft.items method) := by
    rw [receipt?, hmethod]
    rfl
  simp only [hvalidate, hkey] at hi
  generalize ho : deliver a.register.services a.register.timeouts a.register.bank receiver a.entropy
    (stamp a.register.sequence.numbers a.now a.register.store a.draft.items method) = o at hi
  rcases deliver_course hreaches hreceiver hreceipt ho with ⟨hok, hcompletes⟩ | ⟨stage, hfails⟩
  · simp only [hok] at hi
    subst hi
    exact .inl ⟨_, hreceipt, rfl, rfl, hcompletes.passes, hcompletes.asked, hcompletes.bank⟩
  · obtain ⟨fault, herror, hstep⟩ := hfails.result
    simp only [herror] at hi
    subst hi
    exact .inr ⟨stage,
      ⟨hfails.reaches, hfails.fails, ⟨fault, rfl, hstep⟩, hfails.asked, hfails.bank⟩, rfl⟩

end Attempt

/-! ## The questions leave nothing out -/

section Questions

variable {β : Type} {services services' : Services β} {timeouts : Timeouts} {bank : β}
  {receiver : OneTimeKey} {entropy : Seal.Entropy}

/-- Two pairs of collaborators that give the same answers to some questions. -/
structure AgreeOn (services services' : Services β) (bank : β) (asked : List Question) : Prop where
  sign : ∀ {hash}, .sign hash ∈ asked → services'.sign hash bank = services.sign hash bank
  submit : ∀ {s}, .submit s ∈ asked → services'.submit s bank = services.submit s bank

theorem signAndSubmit_congr {trackingId : String} {binary : Bytes} {o : Outcome Unit β}
    (ho : signAndSubmit services timeouts bank receiver trackingId entropy binary = o)
    (h : AgreeOn services services' bank o.asked) :
    signAndSubmit services' timeouts bank receiver trackingId entropy binary = o := by
  subst ho
  unfold signAndSubmit at h ⊢
  cases hsign : answerOf .sign timeouts.signer .signer
      (services.sign (Sha256.hash binary) bank) with
  | error fault =>
    simp only [hsign] at h ⊢
    rw [h.sign (by simp), hsign]
  | ok signature =>
  cases hassemble : Signed.assemble binary signature with
  | error e =>
    simp only [hsign, hassemble] at h ⊢
    rw [h.sign (by simp), hsign]
    simp only [hassemble]
  | ok signed =>
  cases hseal : (Seal.sealFor receiver.point signed entropy).1 with
  | error e =>
    simp only [hsign, hassemble, hseal] at h ⊢
    rw [h.sign (by simp), hsign]
    simp only [hassemble, hseal]
  | ok payload =>
    simp only [hsign, hassemble, hseal] at h ⊢
    rw [h.sign (by simp), hsign]
    simp only [hassemble, hseal, submission]
    rw [h.submit (by simp)]

theorem deliver_congr {receipt : Receipt} {o : Outcome Unit β}
    (ho : deliver services timeouts bank receiver entropy receipt = o)
    (h : AgreeOn services services' bank o.asked) :
    deliver services' timeouts bank receiver entropy receipt = o := by
  unfold deliver at ho ⊢
  cases hencode : receipt.encode with
  | error e =>
    simp only [hencode] at ho ⊢
    exact ho
  | ok binary =>
    simp only [hencode] at ho ⊢
    exact signAndSubmit_congr ho h

/-- **The questions leave nothing out.** An issuance depends on its collaborators only through their
answers to the questions that were asked. -/
theorem issueDraft_congr {r : Register β} {draft : Draft} {receiverKey : Bytes} {now : Timestamp}
    (h : AgreeOn r.services services' r.bank
      (r.issueDraft draft receiverKey now entropy).asked) :
    (Register.issueDraft { r with services := services' } draft receiverKey now entropy).outcome =
      (r.issueDraft draft receiverKey now entropy).outcome := by
  unfold Register.issueDraft at h ⊢
  cases hcheck : check draft receiverKey with
  | error fault => rfl
  | ok checked =>
    obtain ⟨method, receiver⟩ := checked
    simp only [hcheck] at h ⊢
    generalize ho : deliver r.services r.timeouts r.bank receiver entropy
      (stamp r.sequence.numbers now r.store draft.items method) = o at h ⊢
    have hsame : AgreeOn r.services services' r.bank o.asked := by
      cases hresult : o.result with
      | error fault => simpa only [hresult] using h
      | ok _ => simpa only [hresult] using h
    rw [deliver_congr ho hsame]
    cases o.result <;> rfl

end Questions

end Issuance

end SealedReceipts
