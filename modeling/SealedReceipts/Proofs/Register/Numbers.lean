import Mathlib.Data.Nat.Count
import SealedReceipts.Proofs.Register.States
import SealedReceipts.Proofs.Register.Submissions

/-!
# Numbers are used up by stamping

An issuance of an open draft that passes its checks, for a valid key, stamps a receipt, and uses up
the next receipt number with it, whatever becomes of the receipt. Nothing else takes a number, and
nothing but closing a report changes the number of the report. So the counters are known from how
many receipts were stamped and how many reports were closed, and every stamped receipt bears the
number that is as far behind the first as receipts were stamped before it.
-/

namespace SealedReceipts

/-- The receipt bears the numbers, and whoever reads it finds them: that of the report, and that of
the receipt in its serial and behind the date of its transaction id. In the years of four digits the
transaction id has the form that is read back as a whole. -/
structure Receipt.Numbered (receipt : Receipt) (numbers : SequenceNumbers) : Prop where
  reportNumber : receipt.reportNumber = Identifier.reportNumber numbers.report
  reportRead : Identifier.reportNumber? receipt.reportNumber = some numbers.report
  transactionId : receipt.transactionId =
    Identifier.transactionId receipt.timestamp numbers.receipt
  transactionSpelled : Identifier.Spells (['T', 'X'] ++ receipt.timestamp.date.compact.toList)
    receipt.transactionId numbers.receipt
  transactionRead : 0 ≤ receipt.timestamp.date.year ∧ receipt.timestamp.date.year ≤ 9999 →
    Identifier.transactionId? receipt.transactionId receipt.timestamp = .ok numbers.receipt
  serial : receipt.serial = Identifier.serial numbers.receipt
  serialRead : Identifier.serial? receipt.serial = some numbers.receipt

namespace Issuance

theorem stamp_numbered (numbers : SequenceNumbers) (now : Timestamp) (store : StoreInfo)
    (items : List LineItem) (method : String) :
    (stamp numbers now store items method).Numbered numbers where
  reportNumber := rfl
  reportRead := Identifier.reportNumber?_reportNumber numbers.report
  transactionId := rfl
  transactionSpelled := Identifier.spells_transactionId now.truncated numbers.receipt
  transactionRead := Identifier.transactionId?_transactionId numbers.receipt
  serial := rfl
  serialRead := Identifier.serial?_serial numbers.receipt

end Issuance

namespace Register

variable {β : Type}

/-! ## What a call stamps -/

def Call.isCloseReport : Call β → Bool
  | .closeReport => true
  | _ => false

/-- The receipt that a call stamps. It does if it is an issuance, a draft is open and passes
validation, and the receiver's key is a compressed point. -/
def Call.stamped? (r : Register β) : Call β → Option Receipt
  | .issue _ receiverKey now _ => do
    let draft ← r.draft?
    let method ← draft.validate.toOption
    let _receiver ← (OneTimeKey.ofCompressed receiverKey).toOption
    return Issuance.stamp r.sequence.numbers now r.store draft.items method
  | _ => none

variable {r after : Register β} {c : Call β} {answer : Except RegisterFault Answer}
  {services : Services β} {receiverKey : Bytes} {now : Timestamp} {entropy : Seal.Entropy}
  {draft : Draft} {receipt : Receipt}

theorem Call.stamped?_issue_eq_some :
    Call.stamped? r (.issue services receiverKey now entropy) = some receipt ↔
      ∃ draft method receiver, r.draft? = some draft ∧
        Issuance.check draft receiverKey = .ok (method, receiver) ∧
        receipt = Issuance.stamp r.sequence.numbers now r.store draft.items method := by
  simp only [stamped?, Option.bind_eq_bind, Option.bind_eq_some_iff, Option.pure_def,
    Option.some.injEq, Checks.toOption_eq_some, Issuance.check_eq_ok_iff]
  constructor
  · rintro ⟨draft, hdraft, method, hmethod, receiver, hreceiver, rfl⟩
    exact ⟨draft, method, receiver, hdraft, ⟨hmethod, hreceiver⟩, rfl⟩
  · rintro ⟨draft, method, receiver, hdraft, ⟨hmethod, hreceiver⟩, rfl⟩
    exact ⟨draft, hdraft, method, hmethod, receiver, hreceiver, rfl⟩

theorem Call.stamped?_of_checked {checked : String × OneTimeKey} (hopen : r.state = .opened draft)
    (hcheck : Issuance.check draft receiverKey = .ok checked) :
    Call.stamped? r (.issue services receiverKey now entropy) =
      some (Issuance.stamp r.sequence.numbers now r.store draft.items checked.1) :=
  Call.stamped?_issue_eq_some.2
    ⟨draft, checked.1, checked.2, draft?_eq_some.2 hopen, hcheck, rfl⟩

theorem Call.stamped?_of_unchecked {fault : RegisterFault} (hopen : r.state = .opened draft)
    (hcheck : Issuance.check draft receiverKey = .error fault) :
    Call.stamped? r (.issue services receiverKey now entropy) = none := by
  rw [Option.eq_none_iff_forall_ne_some]
  intro receipt hstamped
  obtain ⟨other, _, _, hother, hchecked, -⟩ := Call.stamped?_issue_eq_some.1 hstamped
  obtain rfl := Option.some.inj ((draft?_eq_some.2 hopen).symm.trans hother)
  cases hcheck.symm.trans hchecked

theorem Call.stamped?_of_idle (hidle : r.IsIdle) (c : Call β) : c.stamped? r = none := by
  cases c with
  | issue services receiverKey now entropy =>
    rw [stamped?, hidle.draft?_eq_none]
    rfl
  | start | ring | setPaymentMethod | cancel | closeReport | elsewhere => rfl

/-- A call takes the next receipt number if it stamps a receipt, and the next report number if it
closes the report. -/
theorem Transition.sequence_eq (h : Transition r c answer after) :
    after.sequence =
      { report := r.sequence.report + if c.isCloseReport then 1 else 0
        nextReceipt := r.sequence.nextReceipt + if (c.stamped? r).isSome then 1 else 0 } := by
  cases h with
  | started | startedTwice | rung | paid | cancelled | elsewhere =>
    simp [Call.isCloseReport, Call.stamped?]
  | notOpen hidle hneeds =>
    have hreport : c.isCloseReport = false := by
      cases c <;> first | rfl | exact hneeds.elim
    simp [hreport, Call.stamped?_of_idle hidle]
  | reportClosed => simp [Call.isCloseReport, Call.stamped?, closeReport, Sequence.closeReport]
  | issued hopen hcheck | failed hopen hcheck =>
    rw [Call.stamped?_of_checked hopen hcheck]
    simp [Call.isCloseReport, Sequence.advance]
  | unchecked hopen hcheck =>
    rw [Call.stamped?_of_unchecked hopen hcheck]
    simp [Call.isCloseReport]

/-- From its stamping on an issuance is about the stamped receipt: what is asked, what comes of it
and what becomes of the bank. -/
theorem issue_of_stamped
    (h : Call.stamped? r (.issue services receiverKey now entropy) = some receipt) :
    ∃ receiver, OneTimeKey.ofCompressed receiverKey = .ok receiver ∧
      (issue { r with services } receiverKey now entropy).outcome =
        let o := Issuance.deliver services r.timeouts r.bank receiver entropy receipt
        ⟨o.asked, o.result.map fun _ => receipt, o.bank⟩ := by
  obtain ⟨draft, method, receiver, hdraft, hcheck, rfl⟩ := Call.stamped?_issue_eq_some.1 h
  refine ⟨receiver, (Issuance.check_eq_ok_iff.1 hcheck).2, ?_⟩
  rw [issue_of_opened (draft?_eq_some.1 hdraft)]
  simp only [issueDraft, hcheck]
  generalize Issuance.deliver services r.timeouts r.bank receiver entropy _ = o
  cases hresult : o.result with
  | error fault | ok _ => simp [Issued.outcome, discard, Except.map]

/-- A receipt is given only by the call that stamps it. -/
theorem stamped?_of_receipt (hstatus : r.status ≠ .issuing)
    (h : (r.perform c).1 = .ok (.receipt receipt)) : c.stamped? r = some receipt := by
  have htransition := perform_transition hstatus c
  rw [h] at htransition
  obtain ⟨services, receiverKey, now, entropy, checked, draft, rfl, hopen, hcheck, -⟩ :=
    htransition.issued_of_receipt
  obtain ⟨stamped, hstamped⟩ :
      ∃ stamped, Call.stamped? r (.issue services receiverKey now entropy) = some stamped :=
    ⟨_, Call.stamped?_of_checked hopen hcheck⟩
  obtain ⟨receiver, -, houtcome⟩ := issue_of_stamped hstamped
  obtain ⟨given, hgiven, hreceipt⟩ := Checks.map_eq_ok.1 h
  obtain rfl := Answer.receipt.inj hreceipt
  obtain ⟨-, -, hsame⟩ := Checks.map_eq_ok.1 ((congrArg (·.result) houtcome).symm.trans hgiven)
  rw [hstamped, hsame]

/-! ## Numbers on every run -/

namespace Run

def stamped? (run : Run β) (n : Nat) : Option Receipt :=
  run.calls[n]?.bind (Call.stamped? (run.register n))

/-- How many of the first `n` calls stamp a receipt. -/
def stampings (run : Run β) (n : Nat) : Nat := Nat.count (fun i => (run.stamped? i).isSome) n

/-- How many of the first `n` calls close the report. -/
def closings (run : Run β) (n : Nat) : Nat := (run.calls.take n).countP Call.isCloseReport

variable {run : Run β} {i j n : Nat} {other : Receipt}

theorem stamped?_eq (h : run.calls[n]? = some c) :
    run.stamped? n = c.stamped? (run.register n) := by
  rw [stamped?, h, Option.bind_some]

theorem stampings_succ (run : Run β) (n : Nat) :
    run.stampings (n + 1) = run.stampings n + if (run.stamped? n).isSome then 1 else 0 :=
  Nat.count_succ _ _

theorem closings_succ (h : run.calls[n]? = some c) :
    run.closings (n + 1) = run.closings n + if c.isCloseReport then 1 else 0 := by
  rw [closings, Runs.take_succ h, List.countP_append, closings, List.countP_singleton]

theorem sequence_eq (run : Run β) (n : Nat) :
    (run.register n).sequence =
      { report := run.unused.sequence.report + UInt32.ofNat (run.closings n)
        nextReceipt := run.unused.sequence.nextReceipt + UInt32.ofNat (run.stampings n) } := by
  induction n with
  | zero => simp [register_zero, closings, stampings]
  | succ n ih =>
    cases hcall : run.calls[n]? with
    | none =>
      have hstamped : run.stamped? n = none := by
        rw [stamped?, hcall]
        rfl
      have hclosings : run.closings (n + 1) = run.closings n := by
        rw [closings, Runs.take_succ_of_end hcall, closings]
      rw [register_succ_of_end hcall, ih, stampings_succ, hclosings, hstamped]
      rfl
    | some c =>
      rw [(transition hcall).sequence_eq, ih, stampings_succ, closings_succ hcall,
        stamped?_eq hcall]
      simp only [UInt32.ofNat_add, UInt32.add_assoc, apply_ite UInt32.ofNat]
      rfl

theorem nextReceipt_eq (run : Run β) (n : Nat) :
    (run.register n).sequence.nextReceipt =
      run.unused.sequence.nextReceipt + UInt32.ofNat (run.stampings n) := by
  rw [run.sequence_eq]

theorem exists_issue_of_stamped (h : run.stamped? n = some receipt) :
    ∃ services receiverKey now entropy,
      run.calls[n]? = some (.issue services receiverKey now entropy) ∧
      Call.stamped? (run.register n) (.issue services receiverKey now entropy) = some receipt := by
  obtain ⟨c, hcall, hstamped⟩ := Option.bind_eq_some_iff.1 h
  cases c with
  | start | ring | setPaymentMethod | cancel | closeReport | elsewhere => cases hstamped
  | issue services receiverKey now entropy => exact ⟨_, _, _, _, hcall, hstamped⟩

/-- A stamped receipt bears the number of the report and the next receipt number. -/
theorem numbered_of_stamped (h : run.stamped? n = some receipt) :
    receipt.Numbered
      { report := (run.register n).sequence.report
        receipt := run.unused.sequence.nextReceipt + UInt32.ofNat (run.stampings n) } := by
  obtain ⟨services, receiverKey, now, entropy, -, hstamped⟩ := exists_issue_of_stamped h
  obtain ⟨draft, method, receiver, -, -, rfl⟩ := Call.stamped?_issue_eq_some.1 hstamped
  rw [← run.nextReceipt_eq]
  exact Issuance.stamp_numbered _ _ _ _ _

/-- Behind a stamped receipt the receipt counter is another, as long as it has not come around. -/
theorem nextReceipt_ne (hi : run.stamped? i = some receipt) (hlt : i < j)
    (hnear : run.stampings j < run.stampings i + 2 ^ 32) :
    (run.register i).sequence.nextReceipt ≠ (run.register j).sequence.nextReceipt := by
  have hmore : run.stampings i < run.stampings j := by
    have hup := run.stampings_succ i
    have hmono : run.stampings (i + 1) ≤ run.stampings j := Nat.count_monotone _ hlt
    rw [hi] at hup
    simp only [Option.isSome_some, if_true] at hup
    omega
  rw [run.nextReceipt_eq, run.nextReceipt_eq, Ne, UInt32.add_right_inj]
  intro hsame
  have hround := congrArg UInt32.toNat hsame
  simp only [UInt32.toNat_ofNat'] at hround
  omega

theorem serial_ne (hi : run.stamped? i = some receipt) (hj : run.stamped? j = some other)
    (hlt : i < j) (hnear : run.stampings j < run.stampings i + 2 ^ 32) :
    receipt.serial ≠ other.serial := by
  rw [(numbered_of_stamped hi).serial, (numbered_of_stamped hj).serial, Ne, Identifier.serial_inj,
    ← run.nextReceipt_eq, ← run.nextReceipt_eq]
  exact nextReceipt_ne hi hlt hnear

/-- **Numbers are used up by stamping.** Whatever calls are made of a register that was not used,
whatever its counters are at first, and whatever the signer, the bank and the clock are at each
issuance:

* the receipt counter has gone up, around the numbers of 32 bits, by how many issuances have found
  an open draft that passes validation and been given a compressed point for a key;
* the number of the report has gone up by how many times the report was closed;
* such an issuance stamps a receipt with the number of the report at that time, and with the receipt
  number that is as far behind the first as there were such issuances before it, in the serial and
  in the transaction id; these are the numbers that are read off the texts of the receipt;
* what is asked of the signer and of the bank then, what is answered and what becomes of the bank is
  what delivering that receipt gives, be it a success or a failure; and no other receipt is ever
  given;
* of two such issuances that are fewer than `2 ^ 32` apart the serials differ. -/
theorem numbers_used_by_stamping (run : Run β) :
    (∀ n, (run.register n).sequence.nextReceipt.toNat =
      (run.unused.sequence.nextReceipt.toNat + run.stampings n) % 2 ^ 32) ∧
    (∀ n, (run.register n).sequence.report.toNat =
      (run.unused.sequence.report.toNat + run.closings n) % 2 ^ 32) ∧
    (∀ n receipt, run.stamped? n = some receipt → receipt.Numbered
      { report := (run.register n).sequence.report
        receipt := run.unused.sequence.nextReceipt + UInt32.ofNat (run.stampings n) }) ∧
    (∀ n receipt, run.stamped? n = some receipt →
      ∃ services receiverKey now entropy receiver,
        run.calls[n]? = some (.issue services receiverKey now entropy) ∧
        receipt.timestamp = now.truncated ∧
        OneTimeKey.ofCompressed receiverKey = .ok receiver ∧
        (issue { run.register n with services } receiverKey now entropy).outcome =
          let o := Issuance.deliver services (run.register n).timeouts (run.register n).bank
            receiver entropy receipt
          ⟨o.asked, o.result.map fun _ => receipt, o.bank⟩) ∧
    (∀ n receipt, run.answer? n = some (.ok (.receipt receipt)) →
      run.stamped? n = some receipt) ∧
    ∀ i j receipt other, run.stamped? i = some receipt → run.stamped? j = some other → i < j →
      run.stampings j < run.stampings i + 2 ^ 32 → receipt.serial ≠ other.serial := by
  refine ⟨fun n => ?_, fun n => ?_, fun n receipt => numbered_of_stamped, ?delivered, ?given,
    fun i j receipt other => serial_ne⟩
  · rw [run.nextReceipt_eq, UInt32.toNat_add, UInt32.toNat_ofNat', Nat.add_mod_mod]
  · rw [run.sequence_eq, UInt32.toNat_add, UInt32.toNat_ofNat', Nat.add_mod_mod]
  case delivered =>
    intro n receipt h
    obtain ⟨services, receiverKey, now, entropy, hcall, hstamped⟩ := exists_issue_of_stamped h
    obtain ⟨receiver, hreceiver, houtcome⟩ := issue_of_stamped hstamped
    obtain ⟨draft, method, _, -, -, rfl⟩ := Call.stamped?_issue_eq_some.1 hstamped
    exact ⟨services, receiverKey, now, entropy, receiver, hcall, rfl, hreceiver, houtcome⟩
  case given =>
    intro n receipt h
    obtain ⟨c, hcall, hanswer⟩ := Option.map_eq_some_iff.1 h
    rw [stamped?_eq hcall]
    exact stamped?_of_receipt (run.status_ne_issuing n) hanswer

/-- A tea is rung up and issued under a key, with signatures of some length. -/
def teaSigned (signatureLength : Nat) (receiverKey : Bytes) : List (Call LocalBank) :=
  [.start, .ring ⟨2, 1, none⟩, .setPaymentMethod "CASH",
    .issue (till signatureLength).services receiverKey ⟨1736933400, 0⟩ (List.replicate 200 7)]

/-- A till at its last receipt number. The first tea is issued for a key of no point and the second
is signed too short; the report is closed, and the third goes well. -/
def lastNumber : Run LocalBank where
  unused := { (atTill []).unused with sequence := { report := 7, nextReceipt := 4294967295 } }
  unused_state := rfl
  calls := teaSigned 64 (List.replicate 33 0) ++ teaSigned 63 Curve.generator.compressed ++
    .closeReport :: teaSigned 64 Curve.generator.compressed

/-- The first tea leaves the number to the second, which uses it up although it fails; the third
begins anew, under the next report, as can be read off it. -/
theorem numbers_used_by_stamping_lastNumber :
    ∃ second third, lastNumber.stamped? 3 = none ∧ lastNumber.stamped? 7 = some second ∧
      lastNumber.answer? 7 = some (.error (.assemble ⟨63⟩)) ∧
      lastNumber.answer? 12 = some (.ok (.receipt third)) ∧
      lastNumber.stamped? 12 = some third ∧
      second.Numbered { report := 7, receipt := 4294967295 } ∧
      third.Numbered { report := 8, receipt := 0 } ∧
      Identifier.reportNumber? third.reportNumber = some 8 ∧
      Identifier.transactionId? third.transactionId third.timestamp = .ok 0 ∧
      Identifier.serial? third.serial = some 0 ∧ second.serial ≠ third.serial ∧
      (lastNumber.register 13).sequence.nextReceipt.toNat = 1 := by
  obtain ⟨hcounter, -, hnumbered, hdelivered, hgiven, hserials⟩ :=
    numbers_used_by_stamping lastNumber
  have hfirst : lastNumber.stamped? 3 = none := by
    rw [← Option.isNone_iff_eq_none]
    decide +kernel
  have hsecond : (lastNumber.stamped? 7).isSome = true := by decide +kernel
  obtain ⟨second, hsecond⟩ := Option.isSome_iff_exists.1 hsecond
  have hfailed : lastNumber.answer? 7 = some (.error (.assemble ⟨63⟩)) := by decide +kernel
  have hshown : (lastNumber.register 13).lastIssued?.isSome ∧ lastNumber.answer? 12 =
      (lastNumber.register 13).lastIssued?.map fun receipt => .ok (.receipt receipt) := by
    decide +kernel
  obtain ⟨third, hthird⟩ := Option.isSome_iff_exists.1 hshown.1
  have hanswer : lastNumber.answer? 12 = some (.ok (.receipt third)) := by
    rw [hshown.2, hthird]
    rfl
  have hstamped := hgiven 12 third hanswer
  have hcounts : lastNumber.stampings 7 = 0 ∧ lastNumber.stampings 12 = 1 ∧
      lastNumber.stampings 13 = 2 := by
    decide +kernel
  have hreports : (lastNumber.register 7).sequence.report = 7 ∧
      (lastNumber.register 12).sequence.report = 8 := by
    decide +kernel
  have hlast := hnumbered 7 second hsecond
  have hnext := hnumbered 12 third hstamped
  rw [hcounts.1, hreports.1] at hlast
  rw [hcounts.2.1, hreports.2] at hnext
  obtain ⟨_, _, _, _, _, hcall, htime, -⟩ := hdelivered 12 third hstamped
  have hyear : 0 ≤ third.timestamp.date.year ∧ third.timestamp.date.year ≤ 9999 := by
    obtain ⟨-, -, rfl, -⟩ := Call.issue.inj (Option.some.inj hcall)
    rw [htime]
    decide +kernel
  refine ⟨second, third, hfirst, hsecond, hfailed, hanswer, hstamped, hlast, hnext,
    hnext.reportRead, hnext.transactionRead hyear, hnext.serialRead, ?_, ?_⟩
  · exact hserials 7 12 second third hsecond hstamped (by decide) (by omega)
  · rw [hcounter 13, hcounts.2.2]
    rfl

end Run

end Register

end SealedReceipts
