import SealedReceipts.Proofs.Register.Recovery
import SealedReceipts.Proofs.Register.Sales

/-!
# What a call does to a register

A register is called to start a draft, to ring up an entry, to note the payment method, to cancel,
to close the report and to issue; between its calls others may use its bank.
`Register.Transition` says what each call is answered and what it leaves, by what the register has
in hand; every call goes as it says (`Register.perform_transition`).
-/

namespace SealedReceipts

/-- The answer to an entry on a draft, and the draft behind it. -/
def Draft.ring (catalog : Catalog) (draft : Draft) (e : Entry) :
    Except RegisterFault LineItem × Draft :=
  match Register.lineFor catalog e.categoryId e.quantity e.price with
  | .error fault => (.error fault, draft)
  | .ok item =>
    match draft.addItem? item with
    | none => (.error .quantityOverflow, draft)
    | some (line, after) => (.ok line, after)

namespace Register

/-- What is asked of a register. An issuance finds the collaborators as they are at that time. -/
inductive Call (β : Type) where
  | start
  | ring (e : Entry)
  | setPaymentMethod (method : String)
  | cancel
  | closeReport
  | issue (services : Services β) (receiverKey : Bytes) (now : Timestamp) (entropy : Seal.Entropy)
  /-- The bank is used by somebody else, and changes. -/
  | elsewhere (change : β → β)

/-- What a register answers if it does what it is asked. -/
inductive Answer where
  | done
  | line (line : LineItem)
  | receipt (receipt : Receipt)
  deriving DecidableEq

variable {β : Type}

def Call.NeedsDraft : Call β → Prop
  | .start | .closeReport | .elsewhere _ => False
  | .ring _ | .setPaymentMethod _ | .cancel | .issue .. => True

/-- What a call that does not end the draft makes of it. -/
def Call.onDraft (catalog : Catalog) (draft : Draft) : Call β → Draft
  | .ring e => (draft.ring catalog e).2
  | .setPaymentMethod method => draft.setPaymentMethod method
  | _ => draft

/-- The answer of a call that gives nothing back, and the register behind it. -/
def settle (r : Register β) (after : Except RegisterFault (Register β)) :
    Except RegisterFault Answer × Register β :=
  match after with
  | .ok after => (.ok .done, after)
  | .error fault => (.error fault, r)

def perform (r : Register β) : Call β → Except RegisterFault Answer × Register β
  | .start => r.settle r.start
  | .ring e => ((r.ring e).1.map .line, (r.ring e).2)
  | .setPaymentMethod method => r.settle (r.setPaymentMethod method)
  | .cancel => r.settle r.cancel
  | .closeReport => (.ok .done, r.closeReport)
  | .issue services receiverKey now entropy =>
    let i := issue { r with services } receiverKey now entropy
    (i.result.map .receipt, { i.register with services := r.services })
  | .elsewhere change => (.ok .done, { r with bank := change r.bank })

/-- The register has no draft in hand, and is not about to issue one. -/
def IsIdle (r : Register β) : Prop := r.status = .noReceipt ∨ r.status = .closed

/-- How a call goes. -/
inductive Transition (r : Register β) : Call β → Except RegisterFault Answer → Register β → Prop
  | started : r.IsIdle → Transition r .start (.ok .done) { r with state := .opened {} }
  | startedTwice {draft : Draft} : r.state = .opened draft →
      Transition r .start (.error (.invalidState .opened)) r
  | notOpen {c : Call β} : r.IsIdle → c.NeedsDraft → Transition r c (.error .noOpenReceipt) r
  | rung {draft : Draft} {e : Entry} : r.state = .opened draft →
      Transition r (.ring e) ((draft.ring r.catalog e).1.map .line)
        { r with state := .opened (draft.ring r.catalog e).2 }
  | paid {draft : Draft} {method : String} : r.state = .opened draft →
      Transition r (.setPaymentMethod method) (.ok .done)
        { r with state := .opened (draft.setPaymentMethod method) }
  | cancelled {draft : Draft} : r.state = .opened draft →
      Transition r .cancel (.ok .done) { r with state := .noReceipt }
  | reportClosed : Transition r .closeReport (.ok .done) r.closeReport
  | issued {draft : Draft} {services : Services β} {receiverKey : Bytes} {now : Timestamp}
      {entropy : Seal.Entropy} {checked : String × OneTimeKey} {receipt : Receipt} {bank : β} :
      r.state = .opened draft → Issuance.check draft receiverKey = .ok checked →
      receipt.items = draft.items → draft.paymentMethod = some receipt.paymentMethod →
      Transition r (.issue services receiverKey now entropy) (.ok (.receipt receipt))
        { r with bank, sequence := r.sequence.advance, state := .closed receipt }
  | failed {draft : Draft} {services : Services β} {receiverKey : Bytes} {now : Timestamp}
      {entropy : Seal.Entropy} {checked : String × OneTimeKey} {fault : RegisterFault} {bank : β} :
      r.state = .opened draft → Issuance.check draft receiverKey = .ok checked →
      Transition r (.issue services receiverKey now entropy) (.error fault)
        { r with bank, sequence := r.sequence.advance, state := .noReceipt }
  | unchecked {draft : Draft} {services : Services β} {receiverKey : Bytes} {now : Timestamp}
      {entropy : Seal.Entropy} {fault : RegisterFault} :
      r.state = .opened draft → Issuance.check draft receiverKey = .error fault →
      Transition r (.issue services receiverKey now entropy) (.error fault)
        { r with state := .noReceipt }
  | elsewhere {change : β → β} :
      Transition r (.elsewhere change) (.ok .done) { r with bank := change r.bank }

variable {r : Register β}

/-! ## Each call -/

theorem IsIdle.draft?_eq_none (h : r.IsIdle) : r.draft? = none := by
  cases hstate : r.state with
  | opened draft => simp [IsIdle, status, hstate] at h
  | noReceipt | issuing | closed receipt => simp only [draft?, hstate]

theorem draft?_eq_some {draft : Draft} : r.draft? = some draft ↔ r.state = .opened draft := by
  cases hstate : r.state with
  | noReceipt | issuing | closed receipt | opened other => simp [draft?, hstate]

/-- Without an open draft the calls that need one are refused. -/
theorem perform_of_idle (h : r.IsIdle) {c : Call β} (hneeds : c.NeedsDraft) :
    r.perform c = (.error .noOpenReceipt, r) := by
  cases c with
  | start | closeReport | elsewhere => exact hneeds.elim
  | ring e =>
    have hrefused := ring_of_not_open h.draft?_eq_none e
    have hsame := ring_error hrefused
    rw [perform, hrefused, hsame]
    rfl
  | setPaymentMethod | cancel =>
    cases hstate : r.state with
    | opened draft | issuing => simp [IsIdle, status, hstate] at h
    | noReceipt | closed receipt =>
      simp only [perform, setPaymentMethod, cancel, settle, hstate]
  | issue services receiverKey now entropy =>
    have hissue : issue { r with services } receiverKey now entropy =
        ⟨[], .error .noOpenReceipt, { r with services }⟩ := by
      cases hstate : r.state with
      | opened draft | issuing => simp [IsIdle, status, hstate] at h
      | noReceipt | closed receipt => simp only [issue]
    simp only [perform, hissue, Except.map]

/-- On an open draft an entry goes by the draft and the catalog. -/
theorem ring_of_opened {draft : Draft} (hopen : r.state = .opened draft) (e : Entry) :
    r.ring e = ((draft.ring r.catalog e).1,
      { r with state := .opened (draft.ring r.catalog e).2 }) := by
  have hsame : r = { r with state := .opened draft } := by rw [← hopen]
  simp only [ring, addItem, hopen, Draft.ring]
  cases hline : lineFor r.catalog e.categoryId e.quantity e.price with
  | error fault => simp only [← hsame]
  | ok item =>
    cases hadd : draft.addItem? item with
    | none => simp only [hadd, ← hsame]
    | some added => simp only [hadd]

/-- An issuance that stops at the checks in front of stamping gives the draft up. -/
theorem issueDraft_of_unchecked (r : Register β) {draft : Draft} {receiverKey : Bytes}
    {fault : RegisterFault} (h : Issuance.check draft receiverKey = .error fault) (now : Timestamp)
    (entropy : Seal.Entropy) :
    r.issueDraft draft receiverKey now entropy =
      ⟨[], .error fault, { r with state := .noReceipt }⟩ := by
  simp only [issueDraft, h, discard]

/-- An issuance behind these checks takes a number; else only the bank and what the register has in
hand change. -/
theorem issueDraft_of_checked (r : Register β) {draft : Draft} {receiverKey : Bytes}
    {checked : String × OneTimeKey} (h : Issuance.check draft receiverKey = .ok checked)
    (now : Timestamp) (entropy : Seal.Entropy) :
    ∃ bank state, (r.issueDraft draft receiverKey now entropy).register =
      { r with bank, sequence := r.sequence.advance, state } := by
  simp only [issueDraft, h, discard]
  split
  · exact ⟨_, .noReceipt, rfl⟩
  · exact ⟨_, _, rfl⟩

theorem issue_of_opened {draft : Draft} (hopen : r.state = .opened draft) (services : Services β)
    (receiverKey : Bytes) (now : Timestamp) (entropy : Seal.Entropy) :
    issue { r with services } receiverKey now entropy =
      issueDraft { r with services } draft receiverKey now entropy := by
  simp only [issue, hopen]

open Issuance in
/-- An issuance of an open draft closes the register on a receipt with its lines and its payment
method, or gives the draft up. -/
theorem issue_transition {draft : Draft} (hopen : r.state = .opened draft) (services : Services β)
    (receiverKey : Bytes) (now : Timestamp) (entropy : Seal.Entropy) :
    Transition r (.issue services receiverKey now entropy)
      (r.perform (.issue services receiverKey now entropy)).1
      (r.perform (.issue services receiverKey now entropy)).2 := by
  let a : Attempt β := ⟨{ r with services }, draft, receiverKey, now, entropy⟩
  have hissue : issue { r with services } receiverKey now entropy =
      a.register.issueDraft draft receiverKey now entropy := issue_of_opened hopen _ _ _ _
  cases hcheck : check draft receiverKey with
  | error fault =>
    simp only [perform, hissue, a.register.issueDraft_of_unchecked hcheck]
    exact .unchecked hopen hcheck
  | ok checked =>
    obtain ⟨bank, state, hframe⟩ := a.register.issueDraft_of_checked hcheck now entropy
    simp only [perform, hissue, hframe]
    rcases Attempt.issueDraft_course (a := a) rfl with
      ⟨receipt, hreceipt, hresult, hstate, -⟩ | ⟨stage, hfails, hstate⟩
    · obtain rfl : state = .closed receipt := by rw [← hstate, hframe]
      obtain ⟨method, hmethod, rfl⟩ := Attempt.receipt?_eq_some hreceipt
      rw [hresult]
      exact .issued hopen hcheck rfl hmethod
    · obtain rfl : state = .noReceipt := by rw [← hstate, hframe]
      obtain ⟨fault, hresult, -⟩ := hfails.result
      rw [show (a.register.issueDraft draft receiverKey now entropy).result = .error fault
        from hresult]
      exact .failed hopen hcheck

/-- A register that is not idle has an open draft, unless it is in the middle of an issuance. -/
theorem exists_opened (h : r.status ≠ .issuing) (hidle : ¬ r.IsIdle) :
    ∃ draft, r.state = .opened draft := by
  cases hstate : r.state with
  | opened draft => exact ⟨draft, rfl⟩
  | noReceipt | issuing | closed receipt => simp_all [IsIdle, status]

/-- **Every call goes as the transitions say**, unless the register is in the middle of an
issuance. -/
theorem perform_transition (h : r.status ≠ .issuing) (c : Call β) :
    Transition r c (r.perform c).1 (r.perform c).2 := by
  by_cases hidle : r.IsIdle
  · by_cases hneeds : c.NeedsDraft
    · rw [perform_of_idle hidle hneeds]
      exact .notOpen hidle hneeds
    · cases c with
      | start =>
        have hstart : r.start = .ok { r with state := .opened {} } := by
          cases hstate : r.state with
          | noReceipt | closed receipt => simp only [start, hstate]
          | opened draft | issuing => simp [IsIdle, status, hstate] at hidle
        simp only [perform, hstart, settle]
        exact .started hidle
      | closeReport => exact .reportClosed
      | elsewhere change => exact .elsewhere
      | ring | setPaymentMethod | cancel | issue => exact absurd trivial hneeds
  · obtain ⟨draft, hopen⟩ := exists_opened h hidle
    cases c with
    | start =>
      simp only [perform, start, hopen, settle, status]
      exact .startedTwice hopen
    | ring e =>
      rw [perform, ring_of_opened hopen]
      exact .rung hopen
    | setPaymentMethod method =>
      simp only [perform, setPaymentMethod, hopen, settle]
      exact .paid hopen
    | cancel =>
      simp only [perform, cancel, hopen, settle]
      exact .cancelled hopen
    | closeReport => exact .reportClosed
    | issue services receiverKey now entropy => exact issue_transition hopen _ _ _ _
    | elsewhere change => exact .elsewhere

end Register

end SealedReceipts
