import SealedReceipts.Proofs.Receipt.Refusals
import SealedReceipts.Proofs.Receipt.Totals
import SealedReceipts.Proofs.Register.States
import SealedReceipts.Proofs.Register.WholePrices

/-!
# Only the total is out of range

Every line that a register rings up charges some units at a finite price above zero, and keeps doing
so when more is rung up on it. No amount of such lines is above their total, and the total is the
first amount that is looked at when a receipt is encoded. So whatever is entered, with prices near
zero and products that overflow, an amount that cannot be stored is always the total
(`Register.only_total_out_of_range`).
-/

namespace SealedReceipts

open Checks

/-! ## Lines that are rung up -/

namespace LineItem

variable {first line : LineItem} {extra : UInt16}

theorem Charged.addQuantity (h : first.Charged) (hadded : first.addQuantity? extra = some line) :
    line.Charged := by
  unfold addQuantity? at hadded
  split at hadded
  · next hfits =>
    obtain rfl := Option.some.inj hadded
    refine ⟨h.finite, h.positive, fun hzero => h.quantity ?_, rfl⟩
    have hsum : (first.quantity + extra).toNat = first.quantity.toNat + extra.toNat := by
      rw [UInt16.toNat_add, Nat.mod_eq_of_lt hfits]
    have hnone : (first.quantity + extra).toNat = 0 := congrArg UInt16.toNat hzero
    exact UInt16.toNat_inj.1 (Nat.eq_zero_of_add_eq_zero_right (hsum.symm.trans hnone))
  · cases hadded

end LineItem

namespace Register

variable {catalog : Catalog} {categoryId quantity : UInt16} {price : Option Binary64}
  {item : LineItem}

/-- A line of the register charges a price that may be charged. -/
theorem charged_of_lineFor (h : lineFor catalog categoryId quantity price = .ok item) :
    item.Charged := by
  unfold lineFor at h
  split at h
  · cases h
  · next hquantity =>
    split at h
    · cases h
    · obtain ⟨unitPrice, hprice, rfl⟩ := Checks.map_eq_ok.1 h
      unfold priceOf at hprice
      dsimp only at hprice
      split at hprice
      · cases hprice
      · next hcharged =>
        obtain rfl := Except.ok.inj hprice
        rw [Bool.or_eq_true, not_or, Bool.not_eq_true', Bool.not_eq_false,
          Bool.not_eq_true] at hcharged
        exact ⟨hcharged.1, hcharged.2, hquantity, rfl⟩

end Register

namespace Draft

/-- All lines of the draft charge some units at a finite price above zero. -/
def Charged (draft : Draft) : Prop := ∀ item ∈ draft.items, item.Charged

variable {draft : Draft} {item line : LineItem} {lines after : List LineItem}

theorem charged_of_ringUp? (hlines : ∀ item ∈ lines, item.Charged) (hitem : item.Charged)
    (h : ringUp? item lines = some (line, after)) : ∀ item ∈ after, item.Charged := by
  obtain ⟨hplace, hothers, horigin⟩ := ringUp?_eq_some h
  have hline : line.Charged := by
    rcases horigin with rfl | ⟨first, hfirst, -, hadded⟩
    · exact hitem
    · exact (hlines first hfirst).addQuantity hadded
  intro other hother
  obtain ⟨i, hi⟩ := List.mem_iff_getElem?.1 hother
  by_cases hsame : i = place lines item.categoryId item.unitPrice
  · rw [hsame, hplace] at hi
    exact Option.some.inj hi ▸ hline
  · rw [hothers i hsame] at hi
    exact hlines other (List.mem_of_getElem? hi)

/-- An entry keeps the lines charged, whether it is accepted or refused. -/
theorem Charged.ring (h : draft.Charged) (catalog : Catalog) (e : Entry) :
    (draft.ring catalog e).2.Charged := by
  unfold Draft.ring
  split
  · exact h
  · next item hitem =>
    split
    · exact h
    · next line after hadd =>
      obtain ⟨⟨line', lines⟩, hring, hafter⟩ := Option.map_eq_some_iff.1 hadd
      obtain ⟨rfl, rfl⟩ := Prod.mk.inj hafter
      exact charged_of_ringUp? h (Register.charged_of_lineFor hitem) hring

/-- What one call preserves. -/
theorem Charged.onDraft {β : Type} (h : draft.Charged) (catalog : Catalog)
    (c : Register.Call β) : (c.onDraft catalog draft).Charged := by
  cases c with
  | ring e => exact h.ring catalog e
  | start | setPaymentMethod | cancel | closeReport | issue | elsewhere => exact h

end Draft

/-- What a whole run preserves: the lines of the open draft are charged. -/
theorem Register.Run.charged {β : Type} {run : Run β} {n : Nat} {draft : Draft}
    (h : (run.register n).state = .opened draft) : draft.Charged := by
  obtain ⟨i, hbegins⟩ := Run.exists_begins h
  rw [hbegins.draft_eq]
  refine List.foldlRecOn _ _ ?_ fun draft hdraft c _ => hdraft.onDraft _ c
  exact fun item hitem => absurd hitem List.not_mem_nil

/-! ## The first amount that is looked at -/

namespace Receipt

variable {r : Receipt} {field : Field} {amount : Binary64}

/-- The conditions on the amounts behind the total ask for the stored forms of all amounts. -/
theorem amounts_hold (h : ∀ a ∈ r.amounts, Money.Storable a) :
    ∀ c ∈ r.items.flatMap LineItem.conditions ++ r.taxBreakdown.conditions, c.holds := by
  obtain ⟨-, h⟩ := List.forall_mem_cons.1 h
  obtain ⟨hlines, htax⟩ := List.forall_mem_append.1 h
  refine List.forall_mem_append.2 ⟨fun c hc => ?_, ?_⟩
  · obtain ⟨item, hitem, hc⟩ := List.mem_flatMap.1 hc
    have hamounts : ∀ a ∈ item.amounts, Money.Storable a :=
      fun a ha => hlines a (List.mem_flatMap.2 ⟨item, hitem, ha⟩)
    rcases List.mem_pair.1 hc with rfl | rfl
    · exact hamounts _ List.mem_cons_self
    · exact hamounts _ (List.mem_cons_of_mem _ List.mem_cons_self)
  · simpa [TaxBreakdown.conditions, TaxBreakdown.amounts, Money.condition, Money.Storable] using htax

/-- If all amounts can be stored as soon as the total can, only the total is out of range. -/
theorem eq_totalAmount_of_encode
    (hstored : Money.Storable r.totalAmount → ∀ a ∈ r.amounts, Money.Storable a)
    (h : r.encode = .error (.amountOutOfRange field amount)) :
    field = .totalAmount ∧ amount = r.totalAmount := by
  have hruled : Ruled r.allConditions r.encode := (record_allRuled r).map ReceiptRecord.bytes
  have hfirst := hruled.fault _ h
  generalize hfault : EncodeError.amountOutOfRange field amount = fault at hfirst
  rcases FirstFault.append_iff.1 hfirst with hstamp | ⟨-, hcontent⟩
  · obtain ⟨c, hc, -, hsame⟩ := hstamp.exists_mem
    simp only [stampConditions, conditions, List.cons_append, List.take_succ_cons, List.take_zero,
      List.mem_cons, List.not_mem_nil, or_false] at hc
    rcases hc with rfl | rfl | rfl | rfl | rfl | rfl <;> cases hfault.trans hsame.symm
  · unfold contentConditions at hcontent
    -- the lines, then the name and the address of the store
    rcases hcontent with _ | ⟨-, _ | ⟨-, _ | ⟨-, hcontent⟩⟩⟩
    iterate 3 cases hfault
    cases hcontent with
    | here =>
      cases hfault
      exact ⟨rfl, rfl⟩
    | behind htotal hbehind =>
      cases hbehind with
      | here => cases hfault
      | behind _ hamounts => exact absurd (amounts_hold (hstored htotal)) hamounts.not_all

end Receipt

/-! ## Issuing -/

namespace Issuance

variable {β : Type}

/-- An error in encoding is that of the receipt that was stamped. -/
theorem Attempt.encode_of_result {a : Attempt β} {error : EncodeError}
    (h : (a.register.issueDraft a.draft a.receiverKey a.now a.entropy).result =
      .error (.encode error)) :
    ∃ receipt, a.receipt? = some receipt ∧ receipt.encode = .error error := by
  rcases Attempt.issueDraft_course (a := a) rfl with ⟨receipt, -, hok, -⟩ | ⟨stage, hfails, -⟩
  · cases hok.symm.trans h
  obtain ⟨fault, hresult, hstep⟩ := hfails.result
  obtain rfl : RegisterFault.encode error = fault := Except.error.inj (h.symm.trans hresult)
  obtain rfl : stage = .encode := by
    cases stage <;> first | rfl | cases hstep
  -- the draft and the key were checked, and the receipt is not encoded
  have hmethod : a.method?.isSome := hfails.reaches .validate (by decide)
  have hreceiver : a.receiver?.isSome := hfails.reaches .receiverKey (by decide)
  obtain ⟨method, hmethod⟩ := Option.isSome_iff_exists.1 hmethod
  obtain ⟨receiver, hreceiver⟩ := Option.isSome_iff_exists.1 hreceiver
  have hreceipt : a.receipt? = some (stamp a.register.sequence.numbers a.now a.register.store
      a.draft.items method) := by
    rw [Attempt.receipt?, hmethod]
    rfl
  refine ⟨_, hreceipt, ?_⟩
  have hcheck : check a.draft a.receiverKey = .ok (method, receiver) := by
    rw [check, Checks.toOption_eq_some.1 hmethod, Checks.toOption_eq_some.1 hreceiver]
  cases hencode : (stamp a.register.sequence.numbers a.now a.register.store a.draft.items
      method).encode with
  | ok binary =>
    refine absurd ?_ hfails.fails
    simp [Attempt.Passes, Attempt.binary?, hreceipt, hencode, Except.toOption]
  | error other =>
    simp only [Register.issueDraft, hcheck, deliver, hencode, Except.error.injEq,
      RegisterFault.encode.injEq] at h
    rw [h]

end Issuance

namespace Register

variable {β : Type}

/-- **Only the total can be out of range.** On every run, whatever was rung up on the open draft:

* if the total of the receipt finalized from it has a stored form, so have all its amounts;
* an issuance that finds an amount out of range has found the total of the draft so. -/
theorem only_total_out_of_range (run : Run β) :
    (∀ n draft metadata method, (run.register n).state = .opened draft →
      Money.Storable (Receipt.finalize metadata draft.items method).totalAmount →
      ∀ a ∈ (Receipt.finalize metadata draft.items method).amounts, Money.Storable a) ∧
    ∀ n services receiverKey now entropy field amount,
      run.calls[n]? = some (.issue services receiverKey now entropy) →
      run.answer? n = some (.error (.encode (.amountOutOfRange field amount))) →
      field = .totalAmount ∧ ∃ draft, (run.register n).state = .opened draft ∧
        amount = draft.total := by
  refine ⟨fun n draft metadata method hopen htotal => ?stored,
    fun n services receiverKey now entropy field amount hcall hanswer => ?named⟩
  case stored => exact Receipt.storable_of_total (Run.charged hopen) htotal
  case named =>
    rw [Run.answer?_eq hcall, Option.some.injEq] at hanswer
    by_cases hidle : (run.register n).IsIdle
    · have hneeds : (Call.issue services receiverKey now entropy).NeedsDraft := trivial
      rw [perform_of_idle hidle hneeds] at hanswer
      cases hanswer
    obtain ⟨draft, hopen⟩ := exists_opened (run.status_ne_issuing n) hidle
    have hresult := Checks.map_eq_error.1 hanswer
    rw [issue_of_opened hopen] at hresult
    obtain ⟨receipt, hreceipt, hencode⟩ := Issuance.Attempt.encode_of_result
      (a := ⟨{ run.register n with services }, draft, receiverKey, now, entropy⟩) hresult
    obtain ⟨method, -, rfl⟩ := Issuance.Attempt.receipt?_eq_some hreceipt
    have hnamed := Receipt.eq_totalAmount_of_encode
      (Receipt.storable_of_total (Run.charged hopen)) hencode
    exact ⟨hnamed.1, draft, hopen, hnamed.2⟩

/-- A tea at the smallest price that there is, one that fills the largest total that can be stored,
and as many as fit on a line at the largest price. -/
def nearLimit : Run LocalBank :=
  Run.atTill
    [.start, .ring ⟨2, 1, some (Binary64.ofBits 1)⟩,
      .ring ⟨2, 1, some (Money.ofMinor 4294967295)⟩, .setPaymentMethod "CASH",
      .ring ⟨2, 65535, some (Binary64.ofBits 0x7fefffffffffffff)⟩,
      .issue (till 64).services Curve.generator.compressed ⟨1736933400, 0⟩ (List.replicate 200 7)]

/-- The first two lines could be stored; with the third the total is infinite, and named. -/
theorem only_total_out_of_range_nearLimit :
    (∃ draft, (nearLimit.register 4).state = .opened draft ∧
      Money.toMinor? draft.total = some 4294967295 ∧
      ∀ a ∈ (Receipt.finalize cornerShop.toReceiptMetadata draft.items "CASH").amounts,
        Money.Storable a) ∧
    nearLimit.answer? 5 =
      some (.error (.encode (.amountOutOfRange .totalAmount (.infinite false)))) ∧
    ∃ draft, (nearLimit.register 5).state = .opened draft ∧ draft.total = .infinite false := by
  obtain ⟨hstored, hnamed⟩ := only_total_out_of_range nearLimit
  have htotal : (nearLimit.register 4).draft?.map (fun draft => Money.toMinor? draft.total) =
      some (some 4294967295) := by
    decide +kernel
  have hanswer : nearLimit.answer? 5 =
      some (.error (.encode (.amountOutOfRange .totalAmount (.infinite false)))) := by
    decide +kernel
  obtain ⟨draft, hdraft, htotal⟩ := Option.map_eq_some_iff.1 htotal
  have hopen := draft?_eq_some.1 hdraft
  obtain ⟨-, full, hfull, hinfinite⟩ := hnamed 5 _ _ _ _ _ _ rfl hanswer
  exact ⟨⟨draft, hopen, htotal, hstored 4 draft _ _ hopen ⟨_, htotal⟩⟩, hanswer, full, hfull,
    hinfinite.symm⟩

end Register

end SealedReceipts
