import SealedReceipts.Proofs.Money.Range
import SealedReceipts.Proofs.Receipt.Encoding

/-!
# The amounts of an encoded receipt

A receipt is encoded only if each of its amounts has a stored form, so what is known of such an
amount is known of all of them, and of the count in its place in the stored form.
-/

namespace SealedReceipts

/-! ## Amounts and counts -/

def LineItem.amounts (item : LineItem) : List Binary64 := [item.unitPrice, item.totalPrice]

def LineRecord.amounts (line : LineRecord) : List UInt32 := [line.unitPrice, line.totalPrice]

def TaxBreakdown.amounts (tax : TaxBreakdown) : List Binary64 :=
  [tax.reduced.taxableAmount, tax.reduced.taxAmount, tax.standard.taxableAmount,
    tax.standard.taxAmount, tax.totalTax]

def TaxRecord.amounts (tax : TaxRecord) : List UInt32 :=
  [tax.reducedBase, tax.reducedTax, tax.standardBase, tax.standardTax, tax.totalTax]

/-- The amounts of a receipt: its total, those of each line, and the taxes. -/
def Receipt.amounts (r : Receipt) : List Binary64 :=
  r.totalAmount :: (r.items.flatMap LineItem.amounts ++ r.taxBreakdown.amounts)

/-- The counts of minor units in a record, in the order of the amounts. -/
def ReceiptRecord.amounts (w : ReceiptRecord) : List UInt32 :=
  w.totalAmount :: (w.items.flatMap LineRecord.amounts ++ w.tax.amounts)

/-- The amount is stored as the count. -/
def Money.IsStored (amount : Binary64) (minor : UInt32) : Prop := toMinor? amount = some minor

theorem LineItem.StoredAs.amounts {item : LineItem} {line : LineRecord} (h : item.StoredAs line) :
    List.Forall₂ Money.IsStored item.amounts line.amounts :=
  .cons h.unitPrice (.cons h.totalPrice .nil)

theorem TaxBreakdown.StoredAs.amounts {tax : TaxBreakdown} {w : TaxRecord} (h : tax.StoredAs w) :
    List.Forall₂ Money.IsStored tax.amounts w.amounts :=
  .cons h.reducedBase (.cons h.reducedTax (.cons h.standardBase (.cons h.standardTax
    (.cons h.totalTax .nil))))

theorem Receipt.StoredAs.amounts {r : Receipt} {w : ReceiptRecord} (h : r.StoredAs w) :
    List.Forall₂ Money.IsStored r.amounts w.amounts := by
  refine .cons h.totalAmount (List.rel_append ?_ h.tax.amounts)
  exact List.rel_flatMap h.items fun _ _ hline => hline.amounts

/-! ## What is known of them -/

namespace Receipt

/-- **The amounts of an encoded receipt.**

* An amount that does not vanish has no stored form exactly if it is not finite, is negative, or has
  a product that is cut to more than the largest count.
* One that vanishes, being negative and of less than one minor unit, is stored as nothing.
* So every amount of an encoded receipt is finite and lies above one minor unit below zero, and a
  negative one has the count zero in its place; none is negative exactly if none vanishes. -/
theorem encoded_amounts (amount : Binary64) (r : Receipt) (bytes : Bytes) :
    (¬ Money.Vanishes amount → (Money.toMinor? amount = none ↔
      amount.isFinite = false ∨ amount.lt 0 = true ∨
      (Binary64.ofNat Money.maxMinor).lt (amount * Money.scale).trunc = true)) ∧
    (Money.Vanishes amount → Money.toMinor? amount = some 0) ∧
    (r.encode = .ok bytes →
      (∃ w : ReceiptRecord, w.bytes = bytes ∧
        List.Forall₂ Money.StoredAmount r.amounts w.amounts) ∧
      ((∀ a ∈ r.amounts, ¬ Money.Vanishes a) ↔ ∀ a ∈ r.amounts, (0 : Binary64).le a = true)) := by
  refine ⟨Money.toMinor?_eq_none_of_not_vanishes, Money.toMinor?_of_vanishes, fun h => ?_⟩
  obtain ⟨w, ⟨hstored, -⟩, hbytes⟩ := encode_eq_ok_iff.1 h
  have hamounts : List.Forall₂ Money.StoredAmount r.amounts w.amounts :=
    hstored.amounts.imp fun _ _ => Money.storedAmount_of_toMinor?
  have hvanishes : ∀ a ∈ r.amounts, ¬ Money.Vanishes a ↔ (0 : Binary64).le a = true :=
    ((List.forall₂_and_left _ _).1 (hamounts.imp fun _ _ ha => ⟨ha.not_vanishes_iff, ha⟩)).1
  exact ⟨⟨w, hbytes, hamounts⟩, forall₂_congr hvanishes⟩

/-- Half a minor unit is paid back. -/
def halfRefund : Receipt :=
  finalize
    { reportNumber := "Z0007", transactionId := "TX202501150042", timestamp := ⟨1736933400, 0⟩,
      registrationId := "0123456789", storeName := "Kiosk", storeAddress := "", serial := "F0042" }
    [LineItem.ofPrice 1 1 (Money.ofMinor 1 / 2).neg .reduced] "CASH"

/-- The refund is encoded, and its negative total is stored as nothing; a whole minor unit below
zero has no stored form. -/
theorem encoded_amounts_halfRefund :
    Money.Vanishes halfRefund.totalAmount ∧ Money.toMinor? halfRefund.totalAmount = some 0 ∧
    ¬ Money.Vanishes Money.centBelow ∧ Money.toMinor? Money.centBelow = none ∧
    ∃ bytes, halfRefund.encode = .ok bytes ∧ (∃ w : ReceiptRecord, w.bytes = bytes ∧
        List.Forall₂ Money.StoredAmount halfRefund.amounts w.amounts) ∧
      ¬ ∀ a ∈ halfRefund.amounts, (0 : Binary64).le a = true := by
  have hvanishes : Money.Vanishes halfRefund.totalAmount := by decide +kernel
  have hcent : ¬ Money.Vanishes Money.centBelow := by decide +kernel
  have hbelow : Money.centBelow.lt 0 = true := by decide +kernel
  have hok : halfRefund.encode.isOk = true := by decide +kernel
  obtain ⟨bytes, hbytes⟩ : ∃ bytes, halfRefund.encode = .ok bytes := by
    cases h : halfRefund.encode with
    | ok bytes => exact ⟨bytes, rfl⟩
    | error e => rw [h] at hok; cases hok
  obtain ⟨-, hnothing, hencoded⟩ := encoded_amounts halfRefund.totalAmount halfRefund bytes
  obtain ⟨hrefused, -, -⟩ := encoded_amounts Money.centBelow halfRefund bytes
  obtain ⟨hstored, hnegative⟩ := hencoded hbytes
  refine ⟨hvanishes, hnothing hvanishes, hcent, (hrefused hcent).2 (.inr (.inl hbelow)),
    bytes, hbytes, hstored, fun hall => ?_⟩
  exact hnegative.2 hall _ List.mem_cons_self hvanishes

/-- A receipt with a negative price, total and taxes is encoded. -/
theorem encoded_amounts_below_zero :
    halfRefund.encode.isOk = true ∧ ∀ amount ∈ halfRefund.items.flatMap LineItem.amounts,
      amount.lt 0 = true ∧ Money.toMinor? amount = some 0 := by
  decide +kernel

end Receipt

end SealedReceipts
