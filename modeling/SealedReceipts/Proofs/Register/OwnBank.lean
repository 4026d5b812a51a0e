import SealedReceipts.Proofs.Register.LocalBank
import SealedReceipts.Proofs.Register.Numbers

/-!
# A register never collides with itself

A register has a bank in its own process for itself: it starts empty, the register submits to it,
and submissions are taken from it. The bank may refuse a submission for its key or for its id. The
id has the day and the number of the receipt in it, and the numbers of a register come around only
after all numbers of 32 bits, so with fewer issuances than that no two submissions have one id, and
what is left is the key.
-/

namespace SealedReceipts

/-- A bank in the register's own process is never late. -/
theorem Issuance.submission_local {services : Services LocalBank}
    (h : services.submit = Services.submitLocally) (limit : Duration) (s : Submission)
    (bank : LocalBank) :
    submission services limit s bank =
      match bank.submit s with
      | .ok after => (.ok (), after)
      | .error refusal => (.error (.bank (.refused refusal)), bank) := by
  have hintime : ¬ limit < (⟨0⟩ : Duration) := Nat.not_lt_zero _
  rw [submission, h, Services.submitLocally, Timed.within?]
  dsimp only
  rw [if_neg hintime]
  cases bank.submit s <;> rfl

namespace Register

/-- What a call asks the bank to take. -/
def Call.submission? {β : Type} (r : Register β) : Call β → Option Submission
  | .issue services receiverKey now entropy =>
    (Register.issue { r with services } receiverKey now entropy).outcome.submission?
  | _ => none

def Call.isIssue {β : Type} : Call β → Bool
  | .issue .. => true
  | _ => false

/-- Somebody takes what the bank has under a key. -/
def Call.take (key : OneTimeKey) : Call LocalBank := .elsewhere fun bank => (bank.collect key).2

/-- What is taken under the one key is what is taken under the other. -/
theorem Call.beq_of_take_eq {key other : OneTimeKey} (h : Call.take key = Call.take other)
    (s : Submission) : (s.key == key) = (s.key == other) := by
  have hchange : (LocalBank.collect ⟨[s]⟩ key).2 = (LocalBank.collect ⟨[s]⟩ other).2 := by
    simp only [Call.take, Call.elsewhere.injEq] at h
    exact congrFun h ⟨[s]⟩
  simp only [LocalBank.collect, LocalBank.mk.injEq, List.filter_cons, List.filter_nil] at hchange
  cases hkey : s.key == key <;> cases hother : s.key == other <;> simp_all

/-! ## What a call does to the bank -/

section Steps

variable {β : Type} {r after : Register β} {c : Call β} {answer : Except RegisterFault Answer}
  {s : Submission}

open Issuance in
/-- A call that asks the bank to take something is an issuance that has stamped a receipt, and the
bank's answer is its own. -/
theorem perform_of_submission (h : c.submission? r = some s) :
    ∃ services receiverKey now entropy receiver method, ∃ draft : Draft,
      ∃ result : Except RegisterFault Receipt, c = .issue services receiverKey now entropy ∧
      OneTimeKey.ofCompressed receiverKey = .ok receiver ∧
      IsSubmissionOf s receiver entropy
        (stamp r.sequence.numbers now r.store draft.items method) ∧
      (r.perform c).1 = result.map .receipt ∧
      (submission services r.timeouts.bank s r.bank).1 = result.map (fun _ => ()) ∧
      (submission services r.timeouts.bank s r.bank).2 = (r.perform c).2.bank := by
  cases c with
  | start | ring | setPaymentMethod | cancel | closeReport | elsewhere => cases h
  | issue services receiverKey now entropy =>
    obtain ⟨draft, method, receiver, hopen, hcheck, hs, hsubmits⟩ := issue_submits h
    exact ⟨services, receiverKey, now, entropy, receiver, method, draft,
      (Register.issue { r with services } receiverKey now entropy).result, rfl,
      (check_eq_ok_iff.1 hcheck).2, hs, rfl, hsubmits.result, hsubmits.bank⟩

theorem Transition.bank_eq (h : Transition r c answer after) (hissue : c.isIssue = false)
    (helse : ∀ change, c ≠ .elsewhere change) : after.bank = r.bank := by
  cases h with
  | issued | failed => cases hissue
  | elsewhere => exact absurd rfl (helse _)
  | started | startedTwice | notOpen | rung | paid | cancelled | reportClosed | unchecked => rfl

/-- The bank changes only when it is asked to take something, or used by somebody else. -/
theorem bank_of_no_submission (hstatus : r.status ≠ .issuing) (h : c.submission? r = none)
    (helse : ∀ change, c ≠ .elsewhere change) : (r.perform c).2.bank = r.bank := by
  cases c with
  | elsewhere change => exact absurd rfl (helse change)
  | issue services receiverKey now entropy => exact Issuance.bank_of_issue h
  | start | ring | setPaymentMethod | cancel | closeReport =>
    exact (perform_transition hstatus _).bank_eq rfl helse

/-- A call that asks the bank to take something stamps a receipt. -/
theorem Call.exists_stamped?_of_submission (h : c.submission? r = some s) :
    ∃ receipt, c.stamped? r = some receipt := by
  cases c with
  | start | ring | setPaymentMethod | cancel | closeReport | elsewhere => cases h
  | issue services receiverKey now entropy =>
    obtain ⟨draft, method, receiver, hopen, hcheck, -⟩ := Issuance.issue_submits h
    exact ⟨_, Call.stamped?_of_checked hopen hcheck⟩

/-- Only an issuance stamps a receipt. -/
theorem Call.isIssue_of_stamped {receipt : Receipt} (h : c.stamped? r = some receipt) :
    c.isIssue = true := by
  cases c with
  | start | ring | setPaymentMethod | cancel | closeReport | elsewhere => cases h
  | issue => rfl

end Steps

/-! ## Runs -/

namespace Run

/-- The bank is in the register's own process and empty at first, and nobody else uses it but to
take submissions. -/
structure OwnsBank (run : Run LocalBank) : Prop where
  empty : run.unused.bank = .empty
  own : ∀ services receiverKey now entropy,
    .issue services receiverKey now entropy ∈ run.calls → services.submit = Services.submitLocally
  taken : ∀ change, .elsewhere change ∈ run.calls → ∃ key, Call.elsewhere change = Call.take key

section

variable {β : Type}

def submission? (run : Run β) (n : Nat) : Option Submission :=
  run.calls[n]?.bind (Call.submission? (run.register n))

/-- How many of the first `n` calls are issuances. -/
def issues (run : Run β) (n : Nat) : Nat := (run.calls.take n).countP Call.isIssue

variable {run : Run β} {c : Call β} {i j n : Nat} {s other : Submission}

theorem exists_call_of_submission (h : run.submission? n = some s) :
    ∃ c, run.calls[n]? = some c ∧ c.submission? (run.register n) = some s :=
  Option.bind_eq_some_iff.1 h

/-! ## Numbers -/

theorem issues_succ (h : run.calls[n]? = some c) :
    run.issues (n + 1) = run.issues n + if c.isIssue then 1 else 0 := by
  rw [issues, Runs.take_succ h, List.countP_append, issues, List.countP_singleton]

theorem stampings_le_issues (run : Run β) (n : Nat) : run.stampings n ≤ run.issues n := by
  induction n with
  | zero => simp [stampings, issues]
  | succ n ih =>
    rw [stampings_succ]
    cases hstamped : run.stamped? n with
    | none =>
      have hmono : run.issues n ≤ run.issues (n + 1) :=
        (List.take_sublist_take_left (Nat.le_succ n)).countP_le
      exact ih.trans hmono
    | some receipt =>
      obtain ⟨c, hcall, hstamps⟩ := Option.bind_eq_some_iff.1 hstamped
      rw [issues_succ hcall, Call.isIssue_of_stamped hstamps]
      exact Nat.succ_le_succ ih

/-- The id of a submission is that of a moment in the years of four digits and the next number. -/
theorem trackingId_of_submission (h : run.submission? n = some s) :
    ∃ t : Timestamp, (0 ≤ t.date.year ∧ t.date.year ≤ 9999) ∧
      s.trackingId =
        some (Identifier.transactionId t (run.register n).sequence.nextReceipt) := by
  obtain ⟨c, -, hs⟩ := exists_call_of_submission h
  obtain ⟨services, receiverKey, now, entropy, receiver, method, draft, result, -, -, hs, -⟩ :=
    perform_of_submission hs
  exact ⟨now.truncated, hs.year, hs.trackingId⟩

/-- No two submissions have one id, as long as the numbers do not come around. -/
theorem trackingId_ne (hfew : run.calls.countP Call.isIssue < 2 ^ 32)
    (hi : run.submission? i = some s) (hj : run.submission? j = some other) (hlt : i < j) :
    s.trackingId ≠ other.trackingId := by
  intro hsame
  obtain ⟨t, hyear, hs⟩ := trackingId_of_submission hi
  obtain ⟨t', hyear', hother⟩ := trackingId_of_submission hj
  rw [hs, hother, Option.some.injEq] at hsame
  have hnumber := ((Identifier.transactionId_inj hyear hyear').1 hsame).2
  obtain ⟨c, hcall, hasked⟩ := exists_call_of_submission hi
  obtain ⟨receipt, hstamped⟩ := Call.exists_stamped?_of_submission hasked
  have hbound : run.issues j ≤ run.calls.countP Call.isIssue :=
    (List.take_sublist j run.calls).countP_le
  have hfewer := run.stampings_le_issues j
  exact nextReceipt_ne ((stamped?_eq hcall).trans hstamped) hlt (by omega) hnumber

end

/-! ## Contents of the bank -/

/-- The bank has taken a submission with call `i`, and it was not taken from there since. -/
structure Waits (run : Run LocalBank) (i n : Nat) (s : Submission) : Prop where
  earlier : i < n
  submitted : run.submission? i = some s
  accepted : ∃ receipt, run.answer? i = some (.ok (.receipt receipt))
  untaken : ∀ j, i < j → j < n → ∀ key, run.calls[j]? = some (.take key) → (s.key == key) = false

variable {run : Run LocalBank} {c : Call LocalBank} {i n : Nat} {s : Submission}

theorem waits_succ_iff : run.Waits i (n + 1) s ↔
    (i = n ∧ run.submission? n = some s ∧
      ∃ receipt, run.answer? n = some (.ok (.receipt receipt))) ∨
    (run.Waits i n s ∧
      ∀ key, run.calls[n]? = some (.take key) → (s.key == key) = false) := by
  constructor
  · intro h
    rcases Nat.lt_or_eq_of_le (Nat.le_of_lt_succ h.earlier) with hlt | rfl
    · exact .inr ⟨⟨hlt, h.submitted, h.accepted, fun j hi hj => h.untaken j hi (by omega)⟩,
        h.untaken n hlt (Nat.lt_succ_self n)⟩
    · exact .inl ⟨rfl, h.submitted, h.accepted⟩
  · rintro (⟨rfl, hsubmitted, haccepted⟩ | ⟨h, huntaken⟩)
    · exact ⟨Nat.lt_succ_self i, hsubmitted, haccepted, fun j hi hj => by omega⟩
    · refine ⟨Nat.lt_succ_of_lt h.earlier, h.submitted, h.accepted, fun j hi hj => ?_⟩
      rcases Nat.lt_or_eq_of_le (Nat.le_of_lt_succ hj) with hlt | rfl
      · exact h.untaken j hi hlt
      · exact huntaken

/-- The answer to an issuance that asks the bank is that of the bank. -/
theorem bank_of_submission (hown : run.OwnsBank) (h : run.submission? n = some s) :
    (∃ receipt, run.answer? n = some (.ok (.receipt receipt)) ∧
      (run.register n).bank.submit s = .ok (run.register (n + 1)).bank) ∨
    ∃ refusal, run.answer? n = some (.error (.bank (.refused refusal))) ∧
      (run.register n).bank.submit s = .error refusal ∧
      (run.register (n + 1)).bank = (run.register n).bank := by
  obtain ⟨c, hcall, hs⟩ := exists_call_of_submission h
  obtain ⟨services, receiverKey, now, entropy, _, _, _, result, rfl, -, -, hanswer, hresult,
    hbank⟩ := perform_of_submission hs
  have hlocal := hown.own services receiverKey now entropy (List.mem_of_getElem? hcall)
  rw [Issuance.submission_local hlocal] at hresult hbank
  rw [answer?_eq hcall, hanswer, register_succ hcall, ← hbank]
  cases hsubmit : (run.register n).bank.submit s with
  | ok after =>
    rw [hsubmit] at hresult
    cases result with
    | error fault => cases hresult
    | ok receipt => exact .inl ⟨receipt, rfl, rfl⟩
  | error refusal =>
    rw [hsubmit] at hresult
    cases result with
    | error fault =>
      cases hresult
      exact .inr ⟨refusal, rfl, rfl, rfl⟩
    | ok receipt => cases hresult

/-- A call that asks the bank to take something takes nothing from it. -/
theorem not_take_of_submission (h : run.submission? n = some s) {key : OneTimeKey} :
    run.calls[n]? ≠ some (.take key) := by
  obtain ⟨c, hcall, hs⟩ := exists_call_of_submission h
  rw [hcall]
  rintro ⟨⟩
  cases hs

/-- What the bank holds behind a call: what it has taken with it, and of the rest what is not taken
from it. -/
theorem mem_bank_succ_iff (hown : run.OwnsBank) :
    s ∈ (run.register (n + 1)).bank.submissions ↔
      (run.submission? n = some s ∧ ∃ receipt, run.answer? n = some (.ok (.receipt receipt))) ∨
      (s ∈ (run.register n).bank.submissions ∧
        ∀ key, run.calls[n]? = some (.take key) → (s.key == key) = false) := by
  cases hs : run.submission? n with
  | some asked =>
    have htake : ∀ key, run.calls[n]? = some (.take key) → (s.key == key) = false :=
      fun key h => absurd h (not_take_of_submission hs)
    rcases bank_of_submission hown hs with
      ⟨receipt, hanswer, hsubmit⟩ | ⟨refusal, hanswer, -, hbank⟩
    · rw [(LocalBank.taken_of_submit hsubmit).2, List.mem_append, List.mem_singleton, hanswer]
      constructor
      · rintro (hold | rfl)
        · exact .inr ⟨hold, htake⟩
        · exact .inl ⟨rfl, receipt, rfl⟩
      · rintro (⟨hsame, -⟩ | ⟨hold, -⟩)
        · exact .inr (Option.some.inj hsame).symm
        · exact .inl hold
    · rw [hbank, hanswer]
      constructor
      · exact fun hold => .inr ⟨hold, htake⟩
      · rintro (⟨-, receipt, haccepted⟩ | ⟨hold, -⟩)
        · cases haccepted
        · exact hold
  | none =>
    simp only [reduceCtorEq, false_and, false_or]
    cases hcall : run.calls[n]? with
    | none => simp [register_succ_of_end hcall]
    | some c =>
      by_cases helse : ∃ change, c = .elsewhere change
      · obtain ⟨change, rfl⟩ := helse
        obtain ⟨key, htake⟩ := hown.taken change (List.mem_of_getElem? hcall)
        rw [register_succ hcall, htake]
        simp only [perform, Call.take, LocalBank.collect, List.mem_filter, Bool.not_eq_true']
        constructor
        · rintro ⟨hold, hkey⟩
          refine ⟨hold, fun other hother => ?_⟩
          rwa [← Call.beq_of_take_eq (Option.some.inj hother)]
        · rintro ⟨hold, htaken⟩
          exact ⟨hold, htaken key rfl⟩
      · have hnone : c.submission? (run.register n) = none := by
          rwa [submission?, hcall] at hs
        have hbank := bank_of_no_submission (run.status_ne_issuing n) hnone
          fun change h => helse ⟨change, h⟩
        rw [register_succ hcall, hbank]
        constructor
        · refine fun hold => ⟨hold, fun key h => ?_⟩
          exact absurd ⟨_, Option.some.inj h⟩ helse
        · exact And.left

/-- What the bank holds are the submissions that it has taken and that were not taken from it
since. -/
theorem mem_bank_iff (hown : run.OwnsBank) :
    s ∈ (run.register n).bank.submissions ↔ ∃ i, run.Waits i n s := by
  induction n with
  | zero =>
    rw [register_zero, hown.empty]
    constructor
    · intro h
      cases h
    · rintro ⟨i, hwaits⟩
      exact absurd hwaits.earlier (Nat.not_lt_zero i)
  | succ n ih =>
    rw [mem_bank_succ_iff hown, ih]
    simp only [waits_succ_iff, exists_or, exists_eq_left, exists_and_right]

/-- **A register never collides with itself.** Let a register have a bank in its own process for
itself, and let fewer than `2 ^ 32` of the calls made of it be issuances. Whatever its counters are
at first, whatever the clock shows at each call, and whatever the signer does:

* the bank holds the submissions that it has taken and that were not taken from it since;
* the bank never refuses a submission for its id: an issuance that submits fails exactly if a
  submission under the receiver's key waits in the bank, and the fault says so;
* the id of a submission is that of the moment and of the next number, and no two submissions have
  one id;
* within the years of four digits an id determines its day and its number. -/
theorem never_collides_with_itself (run : Run LocalBank) (hown : run.OwnsBank)
    (hfew : run.calls.countP Call.isIssue < 2 ^ 32) :
    (∀ n s, s ∈ (run.register n).bank.submissions ↔ ∃ i, run.Waits i n s) ∧
    (∀ n s, run.submission? n = some s →
      (∀ id, (run.register n).bank.submit s ≠ .error (.duplicateId id)) ∧
      ((∃ fault, run.answer? n = some (.error fault)) ↔
        ∃ i other, run.Waits i n other ∧ (other.key == s.key) = true) ∧
      ∀ fault, run.answer? n = some (.error fault) → fault = .bank (.refused .keyInUse)) ∧
    (∀ n s, run.submission? n = some s → ∃ services receiverKey now entropy,
      run.calls[n]? = some (.issue services receiverKey now entropy) ∧
      OneTimeKey.ofCompressed receiverKey = .ok s.key ∧
      s.trackingId =
        some (Identifier.transactionId now.truncated (run.register n).sequence.nextReceipt)) ∧
    (∀ i j s other, run.submission? i = some s → run.submission? j = some other → i ≠ j →
      s.trackingId ≠ other.trackingId) ∧
    ∀ (t other : Timestamp) (n m : UInt32), (0 ≤ t.date.year ∧ t.date.year ≤ 9999) →
      (0 ≤ other.date.year ∧ other.date.year ≤ 9999) →
      (Identifier.transactionId t n = Identifier.transactionId other m ↔
        t.date = other.date ∧ n = m) := by
  have hids : ∀ i j s other, run.submission? i = some s → run.submission? j = some other → i ≠ j →
      s.trackingId ≠ other.trackingId := by
    intro i j s other hi hj hne
    rcases Nat.lt_or_gt_of_ne hne with hlt | hgt
    · exact trackingId_ne hfew hi hj hlt
    · exact (trackingId_ne hfew hj hi hgt).symm
  refine ⟨fun n s => mem_bank_iff hown, ?answers, ?asked, hids,
    fun t other n m => Identifier.transactionId_inj⟩
  case answers =>
    intro n s hs
    have hnew : ∀ other ∈ (run.register n).bank.submissions, other.trackingId ≠ s.trackingId := by
      intro other hother
      obtain ⟨i, hwaits⟩ := (mem_bank_iff hown).1 hother
      exact hids i n other s hwaits.submitted hs (Nat.ne_of_lt hwaits.earlier)
    have hwaiting : (∃ i other, run.Waits i n other ∧ (other.key == s.key) = true) ↔
        ∃ other ∈ (run.register n).bank.submissions, (other.key == s.key) = true := by
      simp only [mem_bank_iff hown, ← exists_and_right]
      exact exists_comm
    rw [hwaiting]
    rcases LocalBank.submit_of_new_id hnew with ⟨hkey, hsubmit⟩ | ⟨hkey, hsubmit⟩
    · rcases bank_of_submission hown hs with ⟨_, -, htaken⟩ | ⟨refusal, hanswer, hrefused, -⟩
      · cases hsubmit.symm.trans htaken
      · obtain rfl := Except.error.inj (hsubmit.symm.trans hrefused)
        rw [hanswer, hsubmit]
        refine ⟨by simp, ⟨fun _ => hkey, fun _ => ⟨_, rfl⟩⟩, fun fault h => ?_⟩
        exact (Except.error.inj (Option.some.inj h)).symm
    · rcases bank_of_submission hown hs with ⟨receipt, hanswer, -⟩ | ⟨refusal, -, hrefused, -⟩
      · rw [hanswer, hsubmit]
        refine ⟨by simp, ⟨?_, ?_⟩, fun fault h => by cases h⟩
        · rintro ⟨fault, ⟨⟩⟩
        · rintro ⟨other, hother, hsame⟩
          cases (hkey other hother).symm.trans hsame
      · cases hsubmit.symm.trans hrefused
  case asked =>
    intro n s hs
    obtain ⟨c, hcall, hs⟩ := exists_call_of_submission hs
    obtain ⟨services, receiverKey, now, entropy, receiver, _, _, _, rfl, hreceiver, hs, -⟩ :=
      perform_of_submission hs
    exact ⟨services, receiverKey, now, entropy, hcall, hs.key ▸ hreceiver, hs.trackingId⟩

/-- A tea is rung up and issued to the generator of the curve, at a second. -/
def teaTo (second : Int) : List (Call LocalBank) :=
  [.start, .ring ⟨2, 1, none⟩, .setPaymentMethod "CASH",
    .issue (till 64).services Curve.generator.compressed ⟨second, 0⟩ (List.replicate 200 7)]

/-- Three teas for one receiver, who takes the first receipt before the third is issued. The clock
goes backwards. -/
def threeTeas : Run LocalBank :=
  atTill (teaTo 1736933400 ++ teaTo 1736933401 ++
    .take (OneTimeKey.ofPoint Curve.generator) :: teaTo 1736933300)

/-- The second tea finds the first in the bank, the third does not, and no id comes twice. -/
theorem never_collides_with_itself_threeTeas :
    ∃ i first second third, threeTeas.Waits i 7 first ∧
      threeTeas.submission? 7 = some second ∧ threeTeas.submission? 12 = some third ∧
      threeTeas.answer? 7 = some (.error (.bank (.refused .keyInUse))) ∧
      (¬ ∃ i other, threeTeas.Waits i 12 other ∧ (other.key == third.key) = true) ∧
      second.trackingId ≠ third.trackingId := by
  have hown : threeTeas.OwnsBank := by
    refine ⟨rfl, ?_, ?_⟩
    · intro services receiverKey now entropy h
      simp [threeTeas, atTill, teaTo, Call.take] at h
      rcases h with ⟨rfl, -⟩ | ⟨rfl, -⟩ | ⟨rfl, -⟩ <;> rfl
    · intro change h
      refine ⟨OneTimeKey.ofPoint Curve.generator, ?_⟩
      simpa [threeTeas, atTill, teaTo] using h
  obtain ⟨-, hsubmits, -, hids, -⟩ := never_collides_with_itself threeTeas hown (by decide)
  have hasked : (threeTeas.submission? 7).isSome ∧ (threeTeas.submission? 12).isSome := by
    decide +kernel
  obtain ⟨second, hsecond⟩ := Option.isSome_iff_exists.1 hasked.1
  obtain ⟨third, hthird⟩ := Option.isSome_iff_exists.1 hasked.2
  have hrefused : threeTeas.answer? 7 = some (.error (.bank (.refused .keyInUse))) := by
    decide +kernel
  have haccepted : (threeTeas.answer? 12).map Except.isOk = some true := by
    decide +kernel
  obtain ⟨i, first, hwaits, -⟩ := (hsubmits 7 second hsecond).2.1.1 ⟨_, hrefused⟩
  refine ⟨i, first, second, third, hwaits, hsecond, hthird, hrefused, ?_, ?_⟩
  · rw [← (hsubmits 12 third hthird).2.1]
    rintro ⟨fault, hfault⟩
    rw [hfault] at haccepted
    cases haccepted
  · exact hids 7 12 second third hsecond hthird (by decide)

end Run

end Register

end SealedReceipts
