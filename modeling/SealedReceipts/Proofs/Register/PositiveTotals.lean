import SealedReceipts.Proofs.Register.OutOfRange
import SealedReceipts.Proofs.Register.Submissions

/-!
# The total of a draft is above zero

A line that a register rings up costs at least one unit of it, and no sum is below its terms; so
the total of a draft with lines is above zero, be it the smallest number there is or infinite
(`LineItem.total_positive`). The condition on the total is the last that a draft has to satisfy. On
a register it never decides: a draft that is not ready has no lines, or no payment method
(`Register.not_ready_iff_lacks`).
-/

namespace SealedReceipts

/-! ## Totals -/

namespace LineItem

open Binary64

variable {item : LineItem} {items : List LineItem} {units : Nat}

/-- A unit on a charged line costs something. -/
theorem Charged.unitPrice_pos (h : item.Charged) (hprice : item.unitPrice.Counts units) :
    0 < units := by
  have hpositive := h.positive
  rw [hprice.le counts_zero, decide_eq_false_iff_not, not_le] at hpositive
  exact hpositive

/-- **The total of lines that are charged is above zero.** If it is not infinite, it has at least
the units of the price of one unit of the first line. -/
theorem total_positive (h : ∀ item ∈ items, item.Charged) (hne : items ≠ []) :
    (total items).Positive := by
  have hnonneg : ∀ item ∈ items, item.totalPrice.NonNegative :=
    fun item hitem => (h item hitem).totalPrice_nonNegative
  rcases nonNegative_iff.1 (total_nonNegative hnonneg) with hinfinite | ⟨units, htotal⟩
  · rw [hinfinite]
    exact positive_infinite
  obtain ⟨first, hfirst⟩ := List.exists_mem_of_ne_nil items hne
  have hcharged := h first hfirst
  have hline := totalPrice_atMost hnonneg htotal first hfirst
  obtain ⟨line, hlineUnits, -⟩ := hline.exists_le htotal
  have hunit := (hcharged.unitPrice_atMost hlineUnits).trans hline
  obtain ⟨price, hprice, hle⟩ := hunit.exists_le htotal
  exact htotal.positive ((hcharged.unitPrice_pos hprice).trans_le hle)

end LineItem

/-! ## What a draft lacks -/

namespace Draft

variable {draft : Draft} {defect : Defect}

/-- The payment method is not chosen, or is nothing but white space. -/
def Unpaid (draft : Draft) : Prop :=
  ∀ method, draft.paymentMethod = some method → ∀ c ∈ method.toList, Text.isBlank c = true

/-- A draft with charged lines lacks its lines or else a payment method, and nothing else. -/
def Lacks (draft : Draft) : Defect → Prop
  | .noItems => draft.items = []
  | .noPaymentMethod => draft.items ≠ [] ∧ draft.Unpaid
  | .nonPositiveTotal _ => False

theorem Charged.total_positive (h : draft.Charged) (hne : draft.items ≠ []) :
    draft.total.Positive :=
  LineItem.total_positive h hne

/-- A draft with a total above zero is ready if it is paid with something. -/
theorem validate_eq_of_positive (hne : draft.items ≠ []) (htotal : draft.total.Positive) :
    (draft.Unpaid ∧ draft.validate = .error .noPaymentMethod) ∨
      ¬ draft.Unpaid ∧ ∃ method, draft.validate = .ok method := by
  rw [validate, if_neg (by rwa [List.isEmpty_iff])]
  cases hmethod : draft.paymentMethod with
  | none =>
    have hunpaid : draft.Unpaid := fun method hsome => by cases hmethod.symm.trans hsome
    exact .inl ⟨hunpaid, rfl⟩
  | some method =>
    have hunpaid : draft.Unpaid ↔ Text.allBlank method = true := by
      rw [Text.allBlank, List.all_eq_true, Unpaid, hmethod]
      simp only [Option.some.injEq, forall_eq']
    simp only [htotal.isNaN_eq_false, htotal.le_zero_eq_false, Bool.or_self, Bool.false_eq_true,
      if_false]
    by_cases hblank : Text.allBlank method = true
    · exact .inl ⟨hunpaid.2 hblank, if_pos hblank⟩
    · exact .inr ⟨mt hunpaid.1 hblank, method, if_neg hblank⟩

/-- A draft with charged lines fails its checks by what it lacks. -/
theorem Charged.validate_eq_error_iff (h : draft.Charged) :
    draft.validate = .error defect ↔ draft.Lacks defect := by
  by_cases hnone : draft.items = []
  · have hvalidate : draft.validate = .error .noItems := by
      rw [validate, if_pos (List.isEmpty_iff.2 hnone)]
    rw [hvalidate]
    cases defect <;> simp [Lacks, hnone]
  rcases validate_eq_of_positive hnone (h.total_positive hnone) with
    ⟨hunpaid, hvalidate⟩ | ⟨hpaid, method, hvalidate⟩
  · rw [hvalidate]
    cases defect <;> simp [Lacks, hnone, hunpaid]
  · rw [hvalidate]
    cases defect <;> simp [Lacks, hnone, hpaid]

end Draft

/-! ## Answers -/

namespace Issuance

variable {β : Type} {r : Register β} {draft : Draft} {defect : Draft.Defect} {receiverKey : Bytes}
  {now : Timestamp} {entropy : Seal.Entropy}

theorem check_notReady_iff (receiverKey : Bytes) :
    check draft receiverKey = .error (.notReady defect) ↔ draft.validate = .error defect := by
  unfold check
  cases draft.validate with
  | error other => simp
  | ok method => cases OneTimeKey.ofCompressed receiverKey <;> simp

/-- An issuance finds its draft not ready exactly if the draft fails its checks: behind the checks
nothing is blamed on them. -/
theorem issueDraft_notReady_iff :
    (r.issueDraft draft receiverKey now entropy).result = .error (.notReady defect) ↔
      draft.validate = .error defect := by
  rw [← check_notReady_iff receiverKey]
  cases hcheck : check draft receiverKey with
  | error fault => simp [r.issueDraft_of_unchecked hcheck]
  | ok checked =>
    simp only [reduceCtorEq, iff_false]
    intro hresult
    obtain ⟨hvalidate, hkey⟩ := check_eq_ok_iff.1 hcheck
    let a : Attempt β := ⟨r, draft, receiverKey, now, entropy⟩
    rcases Attempt.issueDraft_course (a := a) rfl with ⟨receipt, -, hok, -⟩ | ⟨stage, hfails, -⟩
    · cases hok.symm.trans hresult
    obtain ⟨fault, herror, hstep⟩ := hfails.result
    obtain rfl : .notReady defect = fault := Except.error.inj (hresult.symm.trans herror)
    refine hfails.fails ?_
    cases stage with
    | validate => simp [a, Attempt.Passes, Attempt.method?, hvalidate, Except.toOption]
    | receiverKey => simp [a, Attempt.Passes, Attempt.receiver?, hkey, Except.toOption]
    | _ => cases hstep

end Issuance

namespace Register

variable {β : Type} {r after : Register β} {draft : Draft} {defect : Draft.Defect}
  {fault : RegisterFault}

/-- What cannot be rung up is not blamed on a step of an issuance. -/
theorem step_of_lineFor {catalog : Catalog} {categoryId quantity : UInt16}
    {price : Option Binary64} (h : lineFor catalog categoryId quantity price = .error fault) :
    fault.step = none := by
  unfold lineFor at h
  split at h
  · cases h
    rfl
  · split at h
    · cases h
      rfl
    · replace h := Checks.map_eq_error.1 h
      unfold priceOf at h
      dsimp only at h
      split at h
      · cases h
        rfl
      · cases h

theorem step_of_ring {catalog : Catalog} {e : Entry}
    (h : (draft.ring catalog e).1 = .error fault) : fault.step = none := by
  unfold Draft.ring at h
  split at h
  · next hline =>
    cases h
    exact step_of_lineFor hline
  · split at h
    · cases h
      rfl
    · cases h

/-- Only an issuance fails in a step of one. -/
theorem Transition.exists_issue {c : Call β} (h : Transition r c (.error fault) after)
    (hstep : fault.step ≠ none) :
    ∃ services receiverKey now entropy, c = .issue services receiverKey now entropy := by
  generalize hanswer : (.error fault : Except RegisterFault Answer) = answer at h
  cases h with
  | started | paid | cancelled | reportClosed | issued | elsewhere => cases hanswer
  | startedTwice | notOpen =>
    cases hanswer
    exact absurd rfl hstep
  | rung =>
    exact absurd (step_of_ring (Checks.map_eq_error.1 hanswer.symm)) hstep
  | failed | unchecked => exact ⟨_, _, _, _, rfl⟩

namespace Run

variable {run : Run β} {n : Nat}

/-- An issuance of an open draft is answered by what the draft lacks. -/
theorem answer?_notReady_iff {services : Services β} {receiverKey : Bytes} {now : Timestamp}
    {entropy : Seal.Entropy}
    (hcall : run.calls[n]? = some (.issue services receiverKey now entropy))
    (hopen : (run.register n).state = .opened draft) :
    run.answer? n = some (.error (.notReady defect)) ↔ draft.Lacks defect := by
  rw [Run.answer?_eq hcall, Option.some.injEq]
  simp only [perform, issue_of_opened hopen]
  rw [Checks.map_eq_error, Issuance.issueDraft_notReady_iff,
    (Run.charged hopen).validate_eq_error_iff]

end Run

/-- **A draft that is not ready has no lines, or no payment method.** On every run, with any
catalog and whatever was rung up and merged:

* the total of an open draft with lines is a number above zero, which may be infinite;
* an open draft fails its checks exactly if it has no lines, or has some and is not paid;
* an issuance finds the open draft not ready for the same reasons;
* no call is answered that a total is not above zero. -/
theorem not_ready_iff_lacks (run : Run β) :
    (∀ n draft, (run.register n).state = .opened draft →
      (draft.items ≠ [] → draft.total.isNaN = false ∧ (0 : Binary64).lt draft.total = true) ∧
      (∀ defect, draft.validate = .error defect ↔ draft.Lacks defect) ∧
      ∀ services receiverKey now entropy,
        run.calls[n]? = some (.issue services receiverKey now entropy) →
        ∀ defect, run.answer? n = some (.error (.notReady defect)) ↔ draft.Lacks defect) ∧
    ∀ n total, run.answer? n ≠ some (.error (.notReady (.nonPositiveTotal total))) := by
  refine ⟨fun n draft hopen => ⟨fun hne => ?total, fun defect => ?checks,
    fun services receiverKey now entropy hcall defect => ?issued⟩, fun n total hanswer => ?never⟩
  case total =>
    have hpositive := (Run.charged hopen).total_positive hne
    exact ⟨hpositive.isNaN_eq_false, hpositive⟩
  case checks => exact (Run.charged hopen).validate_eq_error_iff
  case issued => exact Run.answer?_notReady_iff hcall hopen
  case never =>
    obtain ⟨c, hcall, htransition⟩ := Run.transition_of_answer hanswer
    obtain ⟨services, receiverKey, now, entropy, rfl⟩ :=
      htransition.exists_issue (by simp [RegisterFault.step])
    by_cases hidle : (run.register n).IsIdle
    · have hneeds : (Call.issue services receiverKey now entropy).NeedsDraft := trivial
      rw [Run.answer?_eq hcall, perform_of_idle hidle hneeds] at hanswer
      cases hanswer
    obtain ⟨draft, hopen⟩ := exists_opened (run.status_ne_issuing n) hidle
    exact (Run.answer?_notReady_iff hcall hopen).1 hanswer

/-- An issuance without lines; then the smallest price that there is, as many of the largest as fit
on a line, and a payment method of blanks. -/
def extremes : Run LocalBank :=
  Run.atTill
    [.start, .issue (till 64).services Curve.generator.compressed ⟨1736933400, 0⟩ [], .start,
      .ring ⟨2, 1, some (Binary64.ofBits 1)⟩,
      .ring ⟨2, 65535, some (Binary64.ofBits 0x7fefffffffffffff)⟩, .setPaymentMethod "\t\u00a0",
      .issue (till 64).services Curve.generator.compressed ⟨1736933400, 0⟩ []]

/-- The smallest total is above zero and the infinite one is too; the first issuance lacks lines and
the second a payment method. -/
theorem not_ready_iff_lacks_extremes :
    (∃ draft, (extremes.register 4).state = .opened draft ∧ draft.total.magnitude = 1 ∧
      (0 : Binary64).lt draft.total = true) ∧
    (∃ draft, (extremes.register 6).state = .opened draft ∧ draft.total = .infinite false ∧
      (0 : Binary64).lt draft.total = true) ∧
    extremes.answer? 1 = some (.error (.notReady .noItems)) ∧
    extremes.answer? 6 = some (.error (.notReady .noPaymentMethod)) := by
  obtain ⟨hopened, -⟩ := not_ready_iff_lacks extremes
  have hempty : (extremes.register 1).draft? = some {} := by decide +kernel
  have hsmall : (extremes.register 4).draft?.map
      (fun draft => (draft.total.magnitude, decide (draft.items = []))) = some (1, false) := by
    decide +kernel
  have hlarge : (extremes.register 6).draft?.map
      (fun draft => (draft.total, decide (draft.items = []), draft.paymentMethod)) =
      some (.infinite false, false, some "\t\u00a0") := by
    decide +kernel
  obtain ⟨small, hsmall, hvalues⟩ := Option.map_eq_some_iff.1 hsmall
  obtain ⟨hone, hlines⟩ := Prod.mk.inj hvalues
  obtain ⟨large, hlarge, hvalues⟩ := Option.map_eq_some_iff.1 hlarge
  obtain ⟨hinfinite, hrest⟩ := Prod.mk.inj hvalues
  obtain ⟨hfull, hmethod⟩ := Prod.mk.inj hrest
  have hopen := draft?_eq_some.1 hsmall
  have hopen' := draft?_eq_some.1 hlarge
  obtain ⟨-, -, hfirst⟩ := hopened 1 {} (draft?_eq_some.1 hempty)
  obtain ⟨hpositive, -, -⟩ := hopened 4 small hopen
  obtain ⟨hpositive', -, hlast⟩ := hopened 6 large hopen'
  have hblank : large.Unpaid := by
    intro method h
    obtain rfl := Option.some.inj (hmethod.symm.trans h)
    have hall : Text.allBlank "\t\u00a0" = true := by decide +kernel
    exact List.all_eq_true.1 hall
  exact ⟨⟨small, hopen, hone, (hpositive (of_decide_eq_false hlines)).2⟩,
    ⟨large, hopen', hinfinite, (hpositive' (of_decide_eq_false hfull)).2⟩,
    (hfirst _ _ _ _ rfl _).2 rfl, (hlast _ _ _ _ rfl _).2 ⟨of_decide_eq_false hfull, hblank⟩⟩

end Register

end SealedReceipts
