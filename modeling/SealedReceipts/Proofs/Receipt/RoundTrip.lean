import SealedReceipts.Proofs.Receipt.Decoding
import SealedReceipts.Proofs.Receipt.Encoding

/-!
# Decoding what was encoded

A receipt that was encoded is decoded again, up to what the stored form does not keep: the
nanoseconds, the zeros in front of the numbers of its identifiers, and the fractions of a minor unit
in its amounts. `Receipt.RestoredAs` says so part by part, without the record in between.
-/

namespace SealedReceipts

/-! ## What comes back -/

/-- The amount of the minor units to which `amount` is cut. -/
def Money.RestoredAs (amount restored : Binary64) : Prop :=
  ∃ m, Money.toMinor? amount = some m ∧ restored = Money.ofMinor m

/-- The same line, its amounts cut to minor units. -/
structure LineItem.RestoredAs (item restored : LineItem) : Prop where
  categoryId : restored.categoryId = item.categoryId
  quantity : restored.quantity = item.quantity
  unitPrice : Money.RestoredAs item.unitPrice restored.unitPrice
  totalPrice : Money.RestoredAs item.totalPrice restored.totalPrice
  taxRate : restored.taxRate = item.taxRate

/-- The same tax breakdown, its amounts cut to minor units. -/
structure TaxBreakdown.RestoredAs (tax restored : TaxBreakdown) : Prop where
  reducedBase : Money.RestoredAs tax.reduced.taxableAmount restored.reduced.taxableAmount
  reducedTax : Money.RestoredAs tax.reduced.taxAmount restored.reduced.taxAmount
  standardBase : Money.RestoredAs tax.standard.taxableAmount restored.standard.taxableAmount
  standardTax : Money.RestoredAs tax.standard.taxAmount restored.standard.taxAmount
  totalTax : Money.RestoredAs tax.totalTax restored.totalTax

/-- The same receipt, its moment at the beginning of the second, its identifiers in their written
form and its amounts cut to minor units. -/
structure Receipt.RestoredAs (r restored : Receipt) : Prop where
  timestamp : restored.timestamp = ⟨r.timestamp.seconds, 0⟩
  reportNumber : ∃ n, Identifier.reportNumber? r.reportNumber = some n ∧
    restored.reportNumber = Identifier.reportNumber n
  transactionId : ∃ n, Identifier.transactionId? r.transactionId r.timestamp = .ok n ∧
    restored.transactionId = Identifier.transactionId r.timestamp n
  registrationId : ∃ n, Identifier.registrationId? r.registrationId = some n ∧
    restored.registrationId = Identifier.registrationId n
  storeName : restored.storeName = r.storeName
  storeAddress : restored.storeAddress = r.storeAddress
  serial : ∃ n, Identifier.serial? r.serial = some n ∧ restored.serial = Identifier.serial n
  items : List.Forall₂ LineItem.RestoredAs r.items restored.items
  tax : r.taxBreakdown.RestoredAs restored.taxBreakdown
  totalAmount : Money.RestoredAs r.totalAmount restored.totalAmount
  paymentMethod : restored.paymentMethod = r.paymentMethod

/-! ## From the stored numbers back to the receipt -/

theorem LineItem.StoredAs.restored {item : LineItem} {line : LineRecord} (h : item.StoredAs line) :
    item.RestoredAs line.item :=
  ⟨h.categoryId, h.quantity, ⟨_, h.unitPrice, rfl⟩, ⟨_, h.totalPrice, rfl⟩, h.taxRate⟩

theorem TaxBreakdown.StoredAs.restored {tax : TaxBreakdown} {w : TaxRecord} (h : tax.StoredAs w) :
    tax.RestoredAs w.breakdown :=
  ⟨⟨_, h.reducedBase, rfl⟩, ⟨_, h.reducedTax, rfl⟩, ⟨_, h.standardBase, rfl⟩,
    ⟨_, h.standardTax, rfl⟩, ⟨_, h.totalTax, rfl⟩⟩

theorem Receipt.StoredAs.restored {r : Receipt} {w : ReceiptRecord} (h : r.StoredAs w) :
    r.RestoredAs w.receipt := by
  have htimestamp : w.timestamp = ⟨r.timestamp.seconds, 0⟩ := by
    rw [h.seconds]
    rfl
  -- a date depends on the second alone
  have hdate : w.timestamp.date = r.timestamp.date := by
    rw [htimestamp]
    rfl
  have hid : w.receipt.transactionId = Identifier.transactionId r.timestamp w.sequence := by
    change Identifier.transactionId w.timestamp w.sequence = _
    rw [Identifier.transactionId, hdate]
    rfl
  have hitems : List.Forall₂ LineItem.RestoredAs r.items w.receipt.items :=
    List.forall₂_map_right_iff.2 (h.items.imp fun _ _ hline => hline.restored)
  exact
    { timestamp := htimestamp
      reportNumber := ⟨_, h.reportNumber, rfl⟩
      transactionId := ⟨_, h.sequence, hid⟩
      registrationId := ⟨_, h.registrationId, rfl⟩
      storeName := h.storeName
      storeAddress := h.storeAddress
      serial := ⟨_, h.serial, rfl⟩
      items := hitems
      tax := h.tax.restored
      totalAmount := ⟨_, h.totalAmount, rfl⟩
      paymentMethod := h.paymentMethod }

/-- **Round trip.** Whatever is encoded is decoded, to the same receipt up to what the stored form
does not keep. This holds of receipts whose totals follow from their lines and of receipts with
stored totals alike. -/
theorem Receipt.decode_encode {r : Receipt} {bytes : Bytes} (h : r.encode = .ok bytes) :
    ∃ restored, Receipt.decode bytes = .ok restored ∧ r.RestoredAs restored := by
  obtain ⟨w, ⟨hstored, hstorable⟩, rfl⟩ := Receipt.encode_eq_ok_iff.1 h
  exact ⟨w.receipt, Receipt.decode_eq_ok_iff.2 ⟨w, hstorable, rfl, rfl⟩, hstored.restored⟩

/-- Zeros in front of numbers, nanoseconds, a text beyond ASCII, and amounts that are cut. -/
def cornerShop : Receipt :=
  Receipt.finalize
    { reportNumber := "Z0000007", transactionId := "TX2025011500000042",
      timestamp := ⟨1736933400, 500⟩, registrationId := "123", storeName := "Café",
      storeAddress := "", serial := "F042" }
    [LineItem.ofPrice 1 3 (Money.ofMinor 29) .reduced,
      LineItem.ofPrice 2 1 (Binary64.ofNat 10999 / 1000) .standard]
    "CARD"

theorem Receipt.decode_encode_cornerShop :
    ∃ bytes restored, cornerShop.encode = .ok bytes ∧ Receipt.decode bytes = .ok restored ∧
      cornerShop.RestoredAs restored := by
  have hok : cornerShop.encode.isOk = true := by decide +kernel
  cases h : cornerShop.encode with
  | error e => rw [h] at hok; cases hok
  | ok bytes =>
    obtain ⟨restored, hdecode, hrestored⟩ := Receipt.decode_encode h
    exact ⟨bytes, restored, rfl, hdecode, hrestored⟩

end SealedReceipts
