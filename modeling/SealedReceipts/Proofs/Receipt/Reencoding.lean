import SealedReceipts.Proofs.Money
import SealedReceipts.Proofs.Receipt.Decoding
import SealedReceipts.Proofs.Receipt.Encoding
import SealedReceipts.Proofs.Receipt.Identifier

/-!
# Encoding what was decoded

A decoded receipt bears the written forms of its identifiers and the amounts of stored counts, so
each part of it has a stored form again, with one exception: its transaction id is dated by its
moment, and a date behind the year 9999 has a sign in front of more than eight digits, which is not
a transaction id. Up to that year the receipt is encoded again, with the same numbers and texts, and
with amounts that are the same or one minor unit less (`ReceiptRecord.encode_receipt`).
-/

namespace SealedReceipts

/-! ## Numbers that are stored again -/

/-- The same line, but that an amount may be one less. -/
structure LineRecord.Near (line again : LineRecord) : Prop where
  categoryId : again.categoryId = line.categoryId
  quantity : again.quantity = line.quantity
  unitPrice : Money.AtMostOneLess line.unitPrice again.unitPrice
  totalPrice : Money.AtMostOneLess line.totalPrice again.totalPrice
  taxRate : again.taxRate = line.taxRate

/-- The same tax breakdown, but that an amount may be one less. -/
structure TaxRecord.Near (tax again : TaxRecord) : Prop where
  reducedBase : Money.AtMostOneLess tax.reducedBase again.reducedBase
  reducedTax : Money.AtMostOneLess tax.reducedTax again.reducedTax
  standardBase : Money.AtMostOneLess tax.standardBase again.standardBase
  standardTax : Money.AtMostOneLess tax.standardTax again.standardTax
  totalTax : Money.AtMostOneLess tax.totalTax again.totalTax

/-- The same record, but that an amount may be one less. -/
structure ReceiptRecord.Near (w again : ReceiptRecord) : Prop where
  seconds : again.seconds = w.seconds
  reportNumber : again.reportNumber = w.reportNumber
  sequence : again.sequence = w.sequence
  registrationId : again.registrationId = w.registrationId
  storeName : again.storeName = w.storeName
  storeAddress : again.storeAddress = w.storeAddress
  totalAmount : Money.AtMostOneLess w.totalAmount again.totalAmount
  paymentMethod : again.paymentMethod = w.paymentMethod
  serial : again.serial = w.serial
  items : List.Forall₂ LineRecord.Near w.items again.items
  tax : w.tax.Near again.tax

theorem LineRecord.exists_storedAs (line : LineRecord) :
    ∃ again, line.item.StoredAs again ∧ line.Near again := by
  obtain ⟨unitPrice, hunit, hunit'⟩ := Money.toMinor?_ofMinor line.unitPrice
  obtain ⟨totalPrice, htotal, htotal'⟩ := Money.toMinor?_ofMinor line.totalPrice
  exact ⟨{ line with unitPrice, totalPrice }, ⟨rfl, rfl, hunit, htotal, rfl⟩,
    ⟨rfl, rfl, hunit', htotal', rfl⟩⟩

theorem LineRecord.exists_all_storedAs (lines : List LineRecord) :
    ∃ again, List.Forall₂ LineItem.StoredAs (lines.map item) again ∧
      List.Forall₂ Near lines again := by
  induction lines with
  | nil => exact ⟨[], .nil, .nil⟩
  | cons line lines ih =>
    obtain ⟨line', hstored, hnear⟩ := line.exists_storedAs
    obtain ⟨lines', hstored', hnear'⟩ := ih
    exact ⟨line' :: lines', .cons hstored hstored', .cons hnear hnear'⟩

theorem TaxRecord.exists_storedAs (tax : TaxRecord) :
    ∃ again, tax.breakdown.StoredAs again ∧ tax.Near again := by
  obtain ⟨reducedBase, h1, h1'⟩ := Money.toMinor?_ofMinor tax.reducedBase
  obtain ⟨reducedTax, h2, h2'⟩ := Money.toMinor?_ofMinor tax.reducedTax
  obtain ⟨standardBase, h3, h3'⟩ := Money.toMinor?_ofMinor tax.standardBase
  obtain ⟨standardTax, h4, h4'⟩ := Money.toMinor?_ofMinor tax.standardTax
  obtain ⟨totalTax, h5, h5'⟩ := Money.toMinor?_ofMinor tax.totalTax
  exact ⟨{ reducedBase, reducedTax, standardBase, standardTax, totalTax }, ⟨h1, h2, h3, h4, h5⟩,
    ⟨h1', h2', h3', h4', h5'⟩⟩

namespace ReceiptRecord

variable {w again : ReceiptRecord}

/-- What the form can hold does not depend on amounts. -/
theorem Near.isStorable (h : w.Near again) (hw : w.IsStorable) : again.IsStorable := by
  constructor
  · rw [h.seconds]
    exact hw.seconds
  · rw [h.storeName]
    exact hw.storeName
  · rw [h.storeAddress]
    exact hw.storeAddress
  · rw [h.paymentMethod]
    exact hw.paymentMethod
  · rw [← h.items.length_eq]
    exact hw.items

theorem exists_storedAs (w : ReceiptRecord) (hyear : w.timestamp.date.year ≤ 9999) :
    ∃ again, w.receipt.StoredAs again ∧ w.Near again := by
  obtain ⟨totalAmount, htotal, htotal'⟩ := Money.toMinor?_ofMinor w.totalAmount
  obtain ⟨items, hitems, hitems'⟩ := LineRecord.exists_all_storedAs w.items
  obtain ⟨tax, htax, htax'⟩ := w.tax.exists_storedAs
  have hreport := Identifier.reportNumber?_reportNumber w.reportNumber
  have hnonneg : 0 ≤ w.timestamp.date.year := Timestamp.year_nonneg (Int.natCast_nonneg _)
  have hsequence := Identifier.transactionId?_transactionId w.sequence ⟨hnonneg, hyear⟩
  have hregistration := Identifier.registrationId?_registrationId w.registrationId
  have hserial := Identifier.serial?_serial w.serial
  exact ⟨{ w with totalAmount, items, tax },
    ⟨rfl, hreport, hsequence, hregistration, rfl, rfl, htotal, rfl, hserial, hitems, htax⟩,
    ⟨rfl, rfl, rfl, rfl, rfl, rfl, htotal', rfl, rfl, hitems', htax'⟩⟩

/-- Up to the year 9999 a decoded receipt is encoded again. -/
theorem encode_receipt (hw : w.IsStorable) (hyear : w.timestamp.date.year ≤ 9999) :
    ∃ again, w.receipt.encode = .ok again.bytes ∧ w.Near again := by
  obtain ⟨again, hstored, hnear⟩ := w.exists_storedAs hyear
  exact ⟨again, Receipt.encode_eq_ok_iff.2 ⟨again, ⟨hstored, hnear.isStorable hw⟩, rfl⟩, hnear⟩

/-- Behind the year 9999 the date is what is refused. -/
theorem encode_receipt_of_year_gt (hyear : 9999 < w.timestamp.date.year) :
    w.receipt.encode = .error (.invalidPattern .transactionId w.receipt.transactionId) := by
  have hreport : Receipt.checkPattern .reportNumber w.receipt.reportNumber
      Identifier.reportNumber? = .ok w.reportNumber :=
    Receipt.checkPattern_eq_ok.2 (Identifier.reportNumber?_reportNumber _)
  have hid : Receipt.checkTransactionId w.receipt.transactionId w.receipt.timestamp =
      .error (.invalidPattern .transactionId w.receipt.transactionId) := by
    have hread : Identifier.transactionId? w.receipt.transactionId w.receipt.timestamp =
        .error .pattern := Identifier.transactionId?_of_year_gt w.sequence hyear _
    rw [Receipt.checkTransactionId, hread]
  rw [Receipt.encode, Receipt.record, hreport, hid]
  rfl

end ReceiptRecord

/-! ## Decoded receipts -/

/-- Every part of the receipt but its transaction id has a stored form. -/
structure Receipt.HasStorableParts (r : Receipt) : Prop where
  seconds : 0 ≤ r.timestamp.seconds
  reportNumber : ∃ n, Identifier.reportNumber? r.reportNumber = some n
  registrationId : ∃ n, Identifier.registrationId? r.registrationId = some n
  serial : ∃ n, Identifier.serial? r.serial = some n
  itemCount : r.items.length ≤ Layout.maxItems
  storeName : r.storeName.utf8ByteSize ≤ Layout.maxTextLength
  storeAddress : r.storeAddress.utf8ByteSize ≤ Layout.maxTextLength
  paymentMethod : r.paymentMethod.utf8ByteSize ≤ Layout.maxTextLength
  totalAmount : ∃ m, Money.toMinor? r.totalAmount = some m
  items : ∃ lines, List.Forall₂ LineItem.StoredAs r.items lines
  tax : ∃ w, r.taxBreakdown.StoredAs w

theorem ReceiptRecord.IsStorable.receipt_hasStorableParts {w : ReceiptRecord} (h : w.IsStorable) :
    w.receipt.HasStorableParts := by
  obtain ⟨total, htotal, -⟩ := Money.toMinor?_ofMinor w.totalAmount
  obtain ⟨lines, hlines, -⟩ := LineRecord.exists_all_storedAs w.items
  obtain ⟨tax, htax, -⟩ := w.tax.exists_storedAs
  have hcount : w.receipt.items.length = w.items.length := List.length_map _
  exact
    { seconds := Int.natCast_nonneg _
      reportNumber := ⟨_, Identifier.reportNumber?_reportNumber _⟩
      registrationId := ⟨_, Identifier.registrationId?_registrationId _⟩
      serial := ⟨_, Identifier.serial?_serial _⟩
      itemCount := by rw [hcount]; exact Nat.le_sub_one_of_lt h.items
      storeName := Nat.le_sub_one_of_lt h.storeName
      storeAddress := Nat.le_sub_one_of_lt h.storeAddress
      paymentMethod := Nat.le_sub_one_of_lt h.paymentMethod
      totalAmount := ⟨total, htotal⟩
      items := ⟨lines, hlines⟩
      tax := ⟨tax, htax⟩ }

/-- **Decoded receipts are encoded up to the year 9999.** All parts of a decoded receipt but the
transaction id have a stored form. The receipt is encoded again exactly if its year has four digits;
after that its own transaction id is refused. -/
theorem Receipt.encode_decode {bytes : Bytes} {r : Receipt} (h : Receipt.decode bytes = .ok r) :
    r.HasStorableParts ∧
    ((∃ again, r.encode = .ok again) ↔ r.timestamp.date.year ≤ 9999) ∧
    (9999 < r.timestamp.date.year →
      r.encode = .error (.invalidPattern .transactionId r.transactionId)) := by
  obtain ⟨w, hw, -, rfl⟩ := Receipt.decode_eq_ok_iff.1 h
  refine ⟨hw.receipt_hasStorableParts, ⟨?_, fun hyear => ?_⟩,
    ReceiptRecord.encode_receipt_of_year_gt⟩
  · rintro ⟨again, hencode⟩
    obtain ⟨_, ⟨hstored, -⟩, -⟩ := Receipt.encode_eq_ok_iff.1 hencode
    exact Identifier.year_le_of_transactionId? hstored.sequence
  · obtain ⟨again, hencode, -⟩ := ReceiptRecord.encode_receipt hw hyear
    exact ⟨again.bytes, hencode⟩

/-- A receipt over 29 minor units, an amount that loses one when it is stored again. -/
def kiosk : ReceiptRecord :=
  { seconds := 1736933400, reportNumber := 7, sequence := 42, registrationId := 123456789,
    storeName := "Kiosk", storeAddress := "", totalAmount := 29, paymentMethod := "CASH",
    serial := 42,
    items := [{ categoryId := 1, quantity := 1, unitPrice := 29, totalPrice := 29,
                taxRate := .reduced }],
    tax := { reducedBase := 26, reducedTax := 3, standardBase := 0, standardTax := 0,
             totalTax := 3 } }

theorem kiosk_isStorable : kiosk.IsStorable := by
  constructor <;> decide

theorem Receipt.encode_decode_kiosk :
    Receipt.decode kiosk.bytes = .ok kiosk.receipt ∧ kiosk.receipt.timestamp.date.year = 2025 ∧
      kiosk.receipt.HasStorableParts ∧ ∃ again, kiosk.receipt.encode = .ok again := by
  have hdecode : Receipt.decode kiosk.bytes = .ok kiosk.receipt :=
    Receipt.decode_eq_ok_iff.2 ⟨kiosk, kiosk_isStorable, rfl, rfl⟩
  have hyear : kiosk.receipt.timestamp.date.year = 2025 := by decide
  obtain ⟨hparts, hencode, -⟩ := Receipt.encode_decode hdecode
  exact ⟨hdecode, hyear, hparts, hencode.2 (by rw [hyear]; decide)⟩

/-- A receipt without lines from the first second of the year 10000. -/
def lateKiosk : ReceiptRecord :=
  { kiosk with
    seconds := 253402300800
    totalAmount := 0
    items := []
    tax := { reducedBase := 0, reducedTax := 0, standardBase := 0, standardTax := 0,
             totalTax := 0 } }

theorem Receipt.encode_decode_lateKiosk :
    ∃ r, Receipt.decode lateKiosk.bytes = .ok r ∧
      r.encode = .error (.invalidPattern .transactionId "TX+1000001010042") := by
  have hstorable : lateKiosk.IsStorable := by
    constructor <;> decide
  have hid : lateKiosk.receipt.transactionId = "TX+1000001010042" := by decide
  have hencode := ReceiptRecord.encode_receipt_of_year_gt (w := lateKiosk) (by decide)
  rw [hid] at hencode
  exact ⟨lateKiosk.receipt, Receipt.decode_eq_ok_iff.2 ⟨lateKiosk, hstorable, rfl, rfl⟩, hencode⟩

end SealedReceipts
