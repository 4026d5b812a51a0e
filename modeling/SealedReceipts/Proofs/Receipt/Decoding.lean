import Mathlib.Data.List.Forall2
import SealedReceipts.Proofs.Receipt.StoredForm

/-!
# Decoding accepts exactly the format

`ReceiptRecord.spelling` writes the format out field by field, and `Receipt.Bears` says which
receipt goes with which numbers. A byte string is decoded exactly when it is spelt by numbers and
texts that the format can hold, and the receipt bears just these: its identifiers are the written
forms, and its totals and taxes are the stored ones, whatever its lines say.
-/

namespace SealedReceipts

/-! ## The format, field by field -/

/-- Thirteen bytes, the last of which is 10 or 20. -/
def LineRecord.spelling (item : LineRecord) : Bytes :=
  Bytes.ofNat 2 item.categoryId.toNat ++ Bytes.ofNat 2 item.quantity.toNat ++
    Bytes.ofNat 4 item.unitPrice.toNat ++ Bytes.ofNat 4 item.totalPrice.toNat ++
    [if item.taxRate = .reduced then 10 else 20]

/-- The magic number, the version and a zero; the numbers and texts in front of the lines; the
number of lines and the lines; the five amounts of the tax breakdown. -/
def ReceiptRecord.spelling (w : ReceiptRecord) : Bytes :=
  [0x54, 0x52, 0x01, 0x00] ++ Bytes.ofNat 8 w.seconds.toNat ++
    Bytes.ofNat 4 w.reportNumber.toNat ++ Bytes.ofNat 4 w.sequence.toNat ++
    Bytes.ofNat 4 w.registrationId.toNat ++
    (Bytes.ofNat 4 w.storeName.utf8ByteSize ++ Bytes.ofText w.storeName) ++
    (Bytes.ofNat 4 w.storeAddress.utf8ByteSize ++ Bytes.ofText w.storeAddress) ++
    Bytes.ofNat 4 w.totalAmount.toNat ++
    (Bytes.ofNat 4 w.paymentMethod.utf8ByteSize ++ Bytes.ofText w.paymentMethod) ++
    Bytes.ofNat 4 w.serial.toNat ++ Bytes.ofNat 2 w.items.length ++
    w.items.flatMap LineRecord.spelling ++
    (Bytes.ofNat 4 w.tax.reducedBase.toNat ++ Bytes.ofNat 4 w.tax.reducedTax.toNat ++
      Bytes.ofNat 4 w.tax.standardBase.toNat ++ Bytes.ofNat 4 w.tax.standardTax.toNat ++
      Bytes.ofNat 4 w.tax.totalTax.toNat)

theorem LineRecord.spelling_eq (item : LineRecord) : item.spelling = item.bytes := by
  cases hrate : item.taxRate <;>
    simp [spelling, bytes, Layout.word16, Layout.word32, Layout.byte, TaxRate.percent, hrate]

theorem ReceiptRecord.spelling_eq (w : ReceiptRecord) : w.spelling = w.bytes := by
  have hitem : LineRecord.spelling = LineRecord.bytes := funext LineRecord.spelling_eq
  simp only [spelling, bytes, header, itemBytes, TaxRecord.bytes, hitem, Layout.text,
    Layout.word32, Layout.word64, List.append_assoc]
  rfl

/-! ## The receipt of the numbers -/

/-- A line with the numbers of `line`. -/
structure LineItem.Bears (item : LineItem) (line : LineRecord) : Prop where
  categoryId : item.categoryId = line.categoryId
  quantity : item.quantity = line.quantity
  unitPrice : item.unitPrice = Money.ofMinor line.unitPrice
  totalPrice : item.totalPrice = Money.ofMinor line.totalPrice
  taxRate : item.taxRate = line.taxRate

/-- A tax breakdown with the amounts of `w`. -/
structure TaxBreakdown.Bears (tax : TaxBreakdown) (w : TaxRecord) : Prop where
  reducedBase : tax.reduced.taxableAmount = Money.ofMinor w.reducedBase
  reducedTax : tax.reduced.taxAmount = Money.ofMinor w.reducedTax
  standardBase : tax.standard.taxableAmount = Money.ofMinor w.standardBase
  standardTax : tax.standard.taxAmount = Money.ofMinor w.standardTax
  totalTax : tax.totalTax = Money.ofMinor w.totalTax

/-- A receipt with the numbers and texts of `w`; its transaction id is dated by its own moment. -/
structure Receipt.Bears (r : Receipt) (w : ReceiptRecord) : Prop where
  timestamp : r.timestamp = ⟨w.seconds.toNat, 0⟩
  reportNumber : r.reportNumber = Identifier.reportNumber w.reportNumber
  transactionId : r.transactionId = Identifier.transactionId r.timestamp w.sequence
  registrationId : r.registrationId = Identifier.registrationId w.registrationId
  storeName : r.storeName = w.storeName
  storeAddress : r.storeAddress = w.storeAddress
  totalAmount : r.totalAmount = Money.ofMinor w.totalAmount
  paymentMethod : r.paymentMethod = w.paymentMethod
  serial : r.serial = Identifier.serial w.serial
  items : List.Forall₂ LineItem.Bears r.items w.items
  tax : r.taxBreakdown.Bears w.tax

attribute [ext] LineItem TaxDetail TaxBreakdown Receipt

theorem LineItem.bears_iff {item : LineItem} {line : LineRecord} :
    item.Bears line ↔ item = line.item := by
  constructor
  · intro h
    exact LineItem.ext h.categoryId h.quantity h.unitPrice h.totalPrice h.taxRate
  · rintro rfl
    exact ⟨rfl, rfl, rfl, rfl, rfl⟩

theorem TaxBreakdown.bears_iff {tax : TaxBreakdown} {w : TaxRecord} :
    tax.Bears w ↔ tax = w.breakdown := by
  constructor
  · intro h
    exact TaxBreakdown.ext (TaxDetail.ext h.reducedBase h.reducedTax)
      (TaxDetail.ext h.standardBase h.standardTax) h.totalTax
  · rintro rfl
    exact ⟨rfl, rfl, rfl, rfl, rfl⟩

theorem LineItem.forall₂_bears_iff {items : List LineItem} {lines : List LineRecord} :
    List.Forall₂ LineItem.Bears items lines ↔ items = lines.map LineRecord.item := by
  have hbears : LineItem.Bears = fun item line => item = line.item := by
    funext item line
    exact propext LineItem.bears_iff
  rw [hbears, ← List.forall₂_map_right_iff, List.forall₂_eq_eq_eq]

theorem Receipt.bears_iff {r : Receipt} {w : ReceiptRecord} : r.Bears w ↔ r = w.receipt := by
  constructor
  · intro h
    have htimestamp : r.timestamp = w.receipt.timestamp := h.timestamp
    have hid : r.transactionId = w.receipt.transactionId := by
      rw [h.transactionId, htimestamp]
      rfl
    exact Receipt.ext h.reportNumber hid htimestamp h.registrationId h.storeName h.storeAddress
      h.serial (LineItem.forall₂_bears_iff.1 h.items) (TaxBreakdown.bears_iff.1 h.tax)
      h.totalAmount h.paymentMethod
  · rintro rfl
    exact ⟨rfl, rfl, rfl, rfl, rfl, rfl, rfl, rfl, rfl, LineItem.forall₂_bears_iff.2 rfl,
      TaxBreakdown.bears_iff.2 rfl⟩

/-! ## Decoding -/

theorem Receipt.decode_eq_ok_iff {bytes : Bytes} {r : Receipt} :
    Receipt.decode bytes = .ok r ↔ ∃ w : ReceiptRecord, w.IsStorable ∧ bytes = w.bytes ∧
      r = w.receipt := by
  unfold Receipt.decode
  constructor
  · intro h
    cases hw : ReceiptRecord.ofBytes bytes with
    | error e => rw [hw] at h; cases h
    | ok w =>
      rw [hw] at h
      cases h
      obtain ⟨hstorable, hbytes⟩ := ReceiptRecord.ofBytes_eq_ok_iff.1 hw
      exact ⟨w, hstorable, hbytes, rfl⟩
  · rintro ⟨w, hstorable, hbytes, rfl⟩
    rw [ReceiptRecord.ofBytes_eq_ok_iff.2 ⟨hstorable, hbytes⟩]
    rfl

/-- **Decoding accepts exactly the format.** Some receipt is decoded exactly when the bytes are the
spelling of numbers and texts that the format can hold, and then it is the receipt that bears
them. -/
theorem Receipt.decode_accepts_exactly (bytes : Bytes) :
    ((∃ r, Receipt.decode bytes = .ok r) ↔
      ∃ w : ReceiptRecord, w.IsStorable ∧ bytes = w.spelling) ∧
    ∀ r, Receipt.decode bytes = .ok r ↔
      ∃ w : ReceiptRecord, w.IsStorable ∧ bytes = w.spelling ∧ r.Bears w := by
  have hdecode : ∀ r, Receipt.decode bytes = .ok r ↔
      ∃ w : ReceiptRecord, w.IsStorable ∧ bytes = w.spelling ∧ r.Bears w := by
    intro r
    simp only [ReceiptRecord.spelling_eq, Receipt.bears_iff]
    exact Receipt.decode_eq_ok_iff
  refine ⟨⟨?_, ?_⟩, hdecode⟩
  · rintro ⟨r, h⟩
    obtain ⟨w, hstorable, hbytes, -⟩ := (hdecode r).1 h
    exact ⟨w, hstorable, hbytes⟩
  · rintro ⟨w, hstorable, hbytes⟩
    exact ⟨w.receipt, (hdecode w.receipt).2 ⟨w, hstorable, hbytes, Receipt.bears_iff.2 rfl⟩⟩

end SealedReceipts
