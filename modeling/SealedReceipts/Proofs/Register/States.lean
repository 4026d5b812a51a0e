import SealedReceipts.Proofs.Register.Calls
import SealedReceipts.Proofs.Runs

/-!
# The states of a register on every run

A run is a register that was not used yet and the calls that are made of it. A call is known by its
number. The draft that is open after some calls was begun by one of them, and is what the calls
behind that one make of an empty draft; the receipt that the register shows as its last was given by
one of them, and no draft was begun behind that one.
-/

namespace SealedReceipts

namespace Register

variable {β : Type}

/-! ## What is open and closed behind a call -/

namespace Transition

variable {r after : Register β} {c : Call β} {answer : Except RegisterFault Answer}
  {draft : Draft} {receipt : Receipt}

/-- No call leaves a register in the middle of an issuance. -/
theorem status_ne_issuing (h : Transition r c answer after) (hbefore : r.status ≠ .issuing) :
    after.status ≠ .issuing := by
  cases h with
  | startedTwice | notOpen | reportClosed | elsewhere => exact hbefore
  | started | rung | paid | cancelled | issued | failed | unchecked => simp [status]

theorem catalog_eq (h : Transition r c answer after) : after.catalog = r.catalog := by
  cases h <;> rfl

/-- A start is accepted without an open draft. -/
theorem not_opened_of_start (h : Transition r .start (.ok .done) after) : r.status ≠ .opened := by
  cases h with
  | started hidle => rcases hidle with hstatus | hstatus <;> rw [hstatus] <;> decide

/-- A draft that is open behind a call was just begun, or is what the call makes of the one
before. -/
theorem draft_of_opened (h : Transition r c answer after) (hopen : after.state = .opened draft) :
    (c = .start ∧ answer = .ok .done ∧ r.IsIdle ∧ draft = {}) ∨
      ∃ earlier, r.state = .opened earlier ∧ draft = c.onDraft r.catalog earlier := by
  cases h with
  | started hidle =>
    cases hopen
    exact .inl ⟨rfl, rfl, hidle, rfl⟩
  | startedTwice | reportClosed | elsewhere => exact .inr ⟨draft, hopen, rfl⟩
  | notOpen hidle => simp [IsIdle, status, hopen] at hidle
  | rung hbefore | paid hbefore =>
    cases hopen
    exact .inr ⟨_, hbefore, rfl⟩
  | cancelled | issued | failed | unchecked => cases hopen

/-- A receipt that is shown as the last behind a call was just given, or was shown before. -/
theorem receipt_of_closed (h : Transition r c answer after)
    (hclosed : after.state = .closed receipt) :
    answer = .ok (.receipt receipt) ∨
      (r.state = .closed receipt ∧ c ≠ .start ∧ ∀ other, answer ≠ .ok (.receipt other)) := by
  cases h with
  | started | rung | paid | cancelled | failed | unchecked => cases hclosed
  | startedTwice hopen => simp [hopen] at hclosed
  | notOpen _ hneeds =>
    refine .inr ⟨hclosed, ?_, fun other h => by cases h⟩
    rintro rfl
    exact hneeds
  | reportClosed | elsewhere =>
    exact .inr ⟨hclosed, (by simp), (by simp)⟩
  | issued =>
    cases hclosed
    exact .inl rfl

/-- A receipt is given by an issuance of an open draft that passes its checks. -/
theorem issued_of_receipt (h : Transition r c (.ok (.receipt receipt)) after) :
    ∃ services receiverKey now entropy checked draft,
      c = .issue services receiverKey now entropy ∧ r.state = .opened draft ∧
      Issuance.check draft receiverKey = .ok checked ∧ receipt.items = draft.items ∧
      draft.paymentMethod = some receipt.paymentMethod ∧ after.state = .closed receipt := by
  generalize hanswer : (.ok (.receipt receipt) : Except RegisterFault Answer) = answer at h
  cases h with
  | started | startedTwice | notOpen | paid | cancelled | reportClosed | failed | unchecked
  | elsewhere => cases hanswer
  | @rung draft e =>
    cases hline : (draft.ring r.catalog e).1 with
    | error fault | ok line => rw [hline] at hanswer; cases hanswer
  | issued hopen hcheck hitems hmethod =>
    cases hanswer
    exact ⟨_, _, _, _, _, _, rfl, hopen, hcheck, hitems, hmethod, rfl⟩

/-- A receipt is given for an open draft, has its lines and its payment method, and is shown as the
last from then on. -/
theorem of_receipt (h : Transition r c (.ok (.receipt receipt)) after) :
    after.state = .closed receipt ∧ ∃ draft, r.state = .opened draft ∧
      receipt.items = draft.items ∧ draft.paymentMethod = some receipt.paymentMethod := by
  obtain ⟨_, _, _, _, _, draft, -, hopen, -, hitems, hmethod, hclosed⟩ := h.issued_of_receipt
  exact ⟨hclosed, draft, hopen, hitems, hmethod⟩

/-- Only a new draft takes the place of the receipt that is shown as the last. -/
theorem closed_stays (h : Transition r c answer after) (hclosed : r.state = .closed receipt)
    (hstart : c ≠ .start) : after.state = .closed receipt := by
  cases h with
  | started => exact absurd rfl hstart
  | notOpen | reportClosed | elsewhere => exact hclosed
  | startedTwice hopen | rung hopen | paid hopen | cancelled hopen | issued hopen | failed hopen
  | unchecked hopen => cases hopen.symm.trans hclosed

end Transition

/-! ## Runs -/

/-- A register without a receipt, and the calls made of it, in their order. -/
structure Run (β : Type) where
  unused : Register β
  unused_state : unused.state = .noReceipt
  calls : List (Call β)

namespace Run

/-- The register after the first `n` calls. -/
def register (run : Run β) (n : Nat) : Register β :=
  (run.calls.take n).foldl (fun r c => (r.perform c).2) run.unused

def answer? (run : Run β) (n : Nat) : Option (Except RegisterFault Answer) :=
  run.calls[n]?.map fun c => ((run.register n).perform c).1

/-- Call `i` begins a draft that is open ever since, and the calls behind it, up to the first `n`,
make the draft that is then open out of an empty one. -/
structure Begins (run : Run β) (i n : Nat) (draft : Draft) : Prop where
  earlier : i < n
  call : run.calls[i]? = some .start
  answer : run.answer? i = some (.ok .done)
  opened : ∀ m, i < m → m ≤ n → (run.register m).status = .opened
  draft_eq : draft =
    ((run.calls.take n).drop (i + 1)).foldl (Call.onDraft run.unused.catalog) {}

/-- Call `i` is answered with a receipt, and up to the first `n` calls no later one is, nor begins a
draft. -/
structure IssuesLast (run : Run β) (i n : Nat) (receipt : Receipt) : Prop where
  earlier : i < n
  answer : run.answer? i = some (.ok (.receipt receipt))
  last : ∀ j, i < j → j < n → run.calls[j]? ≠ some .start ∧
    ∀ other, run.answer? j ≠ some (.ok (.receipt other))

variable {run : Run β} {c : Call β} {i j n : Nat} {draft : Draft} {receipt : Receipt}

theorem register_zero (run : Run β) : run.register 0 = run.unused := rfl

theorem register_succ (h : run.calls[n]? = some c) :
    run.register (n + 1) = ((run.register n).perform c).2 :=
  Runs.foldl_take_succ h _ _

theorem register_succ_of_end (h : run.calls[n]? = none) :
    run.register (n + 1) = run.register n :=
  Runs.foldl_take_succ_of_end h _ _

theorem answer?_eq (h : run.calls[n]? = some c) :
    run.answer? n = some ((run.register n).perform c).1 := by
  rw [answer?, h]
  rfl

/-- Between its calls a register is not in the middle of an issuance. -/
theorem status_ne_issuing (run : Run β) (n : Nat) : (run.register n).status ≠ .issuing := by
  induction n with
  | zero => simp [register_zero, status, run.unused_state]
  | succ n ih =>
    cases hcall : run.calls[n]? with
    | none => rwa [register_succ_of_end hcall]
    | some c =>
      rw [register_succ hcall]
      exact (perform_transition ih c).status_ne_issuing ih

theorem transition (h : run.calls[n]? = some c) :
    Transition (run.register n) c ((run.register n).perform c).1 (run.register (n + 1)) := by
  rw [register_succ h]
  exact perform_transition (run.status_ne_issuing n) c

theorem transition_of_answer {answer : Except RegisterFault Answer}
    (h : run.answer? n = some answer) :
    ∃ c, run.calls[n]? = some c ∧ Transition (run.register n) c answer (run.register (n + 1)) := by
  obtain ⟨c, hcall, rfl⟩ := Option.map_eq_some_iff.1 h
  exact ⟨c, hcall, transition hcall⟩

theorem catalog_eq (run : Run β) (n : Nat) : (run.register n).catalog = run.unused.catalog := by
  induction n with
  | zero => rfl
  | succ n ih =>
    cases hcall : run.calls[n]? with
    | none => rwa [register_succ_of_end hcall]
    | some c => exact (transition hcall).catalog_eq.trans ih

/-! ## Where a draft comes from -/

/-- The open draft was begun by one of the calls. -/
theorem exists_begins (h : (run.register n).state = .opened draft) : ∃ i, run.Begins i n draft := by
  induction n generalizing draft with
  | zero => simp [register_zero, run.unused_state] at h
  | succ n ih =>
    cases hcall : run.calls[n]? with
    | none =>
      rw [register_succ_of_end hcall] at h
      obtain ⟨i, hbegins⟩ := ih h
      refine ⟨i, Nat.lt_succ_of_lt hbegins.earlier, hbegins.call, hbegins.answer, ?_, ?_⟩
      · intro m hm hle
        rcases Nat.lt_or_eq_of_le hle with hlt | rfl
        · exact hbegins.opened m hm (Nat.le_of_lt_succ hlt)
        · rw [register_succ_of_end hcall, status, h]
      · rw [Runs.take_succ_of_end hcall]
        exact hbegins.draft_eq
    | some c =>
      have hstatus : (run.register (n + 1)).status = .opened := by rw [status, h]
      rcases (transition hcall).draft_of_opened h with
        ⟨rfl, hanswer, -, rfl⟩ | ⟨earlier, hopen, rfl⟩
      · refine ⟨n, Nat.lt_succ_self n, hcall, by rw [answer?_eq hcall, hanswer], ?_, ?_⟩
        · intro m hm hle
          obtain rfl : m = n + 1 := by omega
          exact hstatus
        · rw [List.drop_eq_nil_of_le (by simp)]
          rfl
      · obtain ⟨i, hbegins⟩ := ih hopen
        refine ⟨i, Nat.lt_succ_of_lt hbegins.earlier, hbegins.call, hbegins.answer, ?_, ?_⟩
        · intro m hm hle
          rcases Nat.lt_or_eq_of_le hle with hlt | rfl
          · exact hbegins.opened m hm (Nat.le_of_lt_succ hlt)
          · exact hstatus
        · rw [Runs.drop_take_succ hbegins.earlier hcall, List.foldl_concat, ← hbegins.draft_eq,
            run.catalog_eq]

/-- At most one call has begun the open draft: the register had none when it was made. -/
theorem Begins.unique {draft' : Draft} (h : run.Begins i n draft) (h' : run.Begins j n draft') :
    i = j := by
  have hnot_opened : ∀ {i draft}, run.Begins i n draft → (run.register i).status ≠ .opened := by
    intro i draft h
    obtain ⟨c, hcall, htransition⟩ := transition_of_answer h.answer
    obtain rfl := Option.some.inj (h.call.symm.trans hcall)
    exact htransition.not_opened_of_start
  rcases Nat.lt_trichotomy i j with hlt | heq | hgt
  · exact absurd (h.opened j hlt (Nat.le_of_lt h'.earlier)) (hnot_opened h')
  · exact heq
  · exact absurd (h'.opened i hgt (Nat.le_of_lt h.earlier)) (hnot_opened h)

theorem draft?_eq_some_iff : (run.register n).draft? = some draft ↔ ∃ i, run.Begins i n draft := by
  constructor
  · exact fun h => exists_begins (draft?_eq_some.1 h)
  · rintro ⟨i, hbegins⟩
    have hstatus := hbegins.opened n hbegins.earlier (Nat.le_refl n)
    cases hopen : (run.register n).state with
    | noReceipt | issuing | closed receipt => simp [status, hopen] at hstatus
    | opened other =>
      obtain ⟨j, hother⟩ := exists_begins hopen
      obtain rfl := hbegins.unique hother
      rw [draft?, hopen, hbegins.draft_eq, hother.draft_eq]

/-! ## Where a receipt comes from -/

/-- The receipt that is shown as the last was given by one of the calls. -/
theorem exists_issuesLast (h : (run.register n).state = .closed receipt) :
    ∃ i, run.IssuesLast i n receipt := by
  induction n generalizing receipt with
  | zero => simp [register_zero, run.unused_state] at h
  | succ n ih =>
    cases hcall : run.calls[n]? with
    | none =>
      rw [register_succ_of_end hcall] at h
      obtain ⟨i, hlast⟩ := ih h
      refine ⟨i, Nat.lt_succ_of_lt hlast.earlier, hlast.answer, fun j hj hlt => ?_⟩
      rcases Nat.lt_or_eq_of_le (Nat.le_of_lt_succ hlt) with hlt | rfl
      · exact hlast.last j hj hlt
      · simp [answer?, hcall]
    | some c =>
      rcases (transition hcall).receipt_of_closed h with hanswer | ⟨hclosed, hstart, hnone⟩
      · refine ⟨n, Nat.lt_succ_self n, by rw [answer?_eq hcall, hanswer], fun j hj hlt => ?_⟩
        omega
      · obtain ⟨i, hlast⟩ := ih hclosed
        refine ⟨i, Nat.lt_succ_of_lt hlast.earlier, hlast.answer, fun j hj hlt => ?_⟩
        rcases Nat.lt_or_eq_of_le (Nat.le_of_lt_succ hlt) with hlt | rfl
        · exact hlast.last j hj hlt
        · rw [hcall, answer?_eq hcall]
          exact ⟨fun h => hstart (Option.some.inj h),
            fun other h => hnone other (Option.some.inj h)⟩

theorem IssuesLast.closed (h : run.IssuesLast i n receipt) :
    (run.register n).state = .closed receipt := by
  have hgiven : (run.register (i + 1)).state = .closed receipt := by
    obtain ⟨c, -, htransition⟩ := transition_of_answer h.answer
    exact htransition.of_receipt.1
  obtain ⟨later, rfl⟩ : ∃ later, n = i + 1 + later := ⟨n - (i + 1), by have := h.earlier; omega⟩
  -- no call behind the issuance begins a draft
  suffices ∀ k ≤ later, (run.register (i + 1 + k)).state = .closed receipt from
    this later (Nat.le_refl later)
  intro k hk
  induction k with
  | zero => exact hgiven
  | succ k ih =>
    have hclosed := ih (by omega)
    cases hcall : run.calls[i + 1 + k]? with
    | none => rw [← Nat.add_assoc, register_succ_of_end hcall, hclosed]
    | some c =>
      have hstart := (h.last (i + 1 + k) (by omega) (by omega)).1
      rw [hcall] at hstart
      exact (transition hcall).closed_stays hclosed fun heq => hstart (by rw [heq])

theorem lastIssued?_eq_some_iff :
    (run.register n).lastIssued? = some receipt ↔ ∃ i, run.IssuesLast i n receipt := by
  constructor
  · intro h
    unfold lastIssued? at h
    split at h
    · next hclosed =>
      obtain rfl := Option.some.inj h
      exact exists_issuesLast hclosed
    · cases h
  · rintro ⟨i, hlast⟩
    rw [lastIssued?, hlast.closed]

/-- **A register follows its states on every run.** Whatever calls are made of a register that was
not used, and whatever the signer and the bank are at each issuance:

* between the calls the register is never in the middle of an issuance, it shows a draft exactly
  while one is open, and a last receipt exactly while it is closed on one;
* each call is answered, and leaves the register, as the transitions say: without an open draft the
  calls that need one are refused, and leave the state, the counters and the bank as they are;
* the draft that is open was begun by an accepted start, was open ever since, and is what the calls
  behind the start make of an empty draft, so nothing of a draft that was cancelled or could not be
  issued is on it;
* the last receipt is what the latest issuance gave, and no draft was begun since;
* a receipt is given for the open draft, and has its lines and its payment method. -/
theorem follows_its_states (run : Run β) :
    (∀ n, (run.register n).status ≠ .issuing ∧
      ((run.register n).draft?.isSome ↔ (run.register n).status = .opened) ∧
      ((run.register n).lastIssued?.isSome ↔ (run.register n).status = .closed)) ∧
    (∀ n c, run.calls[n]? = some c → ∃ answer, run.answer? n = some answer ∧
      Transition (run.register n) c answer (run.register (n + 1))) ∧
    (∀ n draft, (run.register n).draft? = some draft ↔ ∃ i, run.Begins i n draft) ∧
    (∀ n receipt, (run.register n).lastIssued? = some receipt ↔
      ∃ i, run.IssuesLast i n receipt) ∧
    ∀ n receipt, run.answer? n = some (.ok (.receipt receipt)) →
      ∃ draft i, run.Begins i n draft ∧ receipt.items = draft.items ∧
        draft.paymentMethod = some receipt.paymentMethod := by
  refine ⟨fun n => ⟨run.status_ne_issuing n, ?_, ?_⟩, ?_, fun _ _ => draft?_eq_some_iff,
    fun _ _ => lastIssued?_eq_some_iff, ?receipts⟩
  · cases hstate : (run.register n).state <;> simp [draft?, status, hstate]
  · cases hstate : (run.register n).state <;> simp [lastIssued?, status, hstate]
  · exact fun n c hcall => ⟨_, answer?_eq hcall, transition hcall⟩
  case receipts =>
    intro n receipt hanswer
    obtain ⟨c, -, htransition⟩ := transition_of_answer hanswer
    obtain ⟨-, draft, hopen, hitems, hmethod⟩ := htransition.of_receipt
    obtain ⟨i, hbegins⟩ := exists_begins hopen
    exact ⟨draft, i, hbegins, hitems, hmethod⟩

/-- What is called on a till with the goods of the counter. -/
def atTill (calls : List (Call LocalBank)) : Run LocalBank where
  unused := { till 64 with catalog := counter.catalog, state := .noReceipt }
  unused_state := rfl
  calls := calls

/-- Two coffees are cancelled, and a tea is issued, which is then asked for once more. -/
def shift : Run LocalBank :=
  atTill
    [.start, .ring ⟨1, 2, none⟩, .cancel, .start, .ring ⟨2, 1, none⟩, .setPaymentMethod "CASH",
      .issue (till 64).services Curve.generator.compressed ⟨1736933400, 500⟩
        (List.replicate 200 7),
      .issue (till 64).services Curve.generator.compressed ⟨1736933401, 0⟩
        (List.replicate 200 8)]

/-- Only the tea is on the receipt, and the register still shows it. -/
theorem follows_its_states_shift :
    ∃ receipt i, shift.IssuesLast i 8 receipt ∧
      (receipt.items.map fun line => (line.categoryId, line.quantity)) = [(2, 1)] ∧
      shift.answer? 7 = some (.error .noOpenReceipt) ∧
      Transition (shift.register 2) .cancel (.ok .done) (shift.register 3) := by
  obtain ⟨-, hcalls, -, hlast, -⟩ := follows_its_states shift
  have hshown : (shift.register 8).lastIssued?.map
      (fun receipt => receipt.items.map fun line => (line.categoryId, line.quantity)) =
      some [(2, 1)] := by
    decide +kernel
  obtain ⟨receipt, hreceipt, hitems⟩ := Option.map_eq_some_iff.1 hshown
  obtain ⟨i, hissued⟩ := (hlast 8 receipt).1 hreceipt
  obtain ⟨answer, hanswer, hcancel⟩ := hcalls 2 .cancel rfl
  have hdone : shift.answer? 2 = some (.ok .done) := by decide +kernel
  obtain rfl := Option.some.inj (hanswer.symm.trans hdone)
  exact ⟨receipt, i, hissued, hitems, by decide +kernel, hcancel⟩

end Run

end Register

end SealedReceipts
