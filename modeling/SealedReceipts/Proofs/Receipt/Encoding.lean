import SealedReceipts.Proofs.Calendar
import SealedReceipts.Proofs.Checks
import SealedReceipts.Proofs.Receipt.IdentifierForm
import SealedReceipts.Proofs.Receipt.StoredForm
import SealedReceipts.Receipt.Encoding

/-!
# What is encoded

`Receipt.StoredAs` ties a receipt to the numbers of its stored form: identifiers are read, amounts
are cut to minor units, and everything else is taken over. A receipt is encoded exactly when such
numbers exist and the form can hold them (`Receipt.encode_eq_ok_iff`). The checks of the second, of
the texts and of the number of lines are together what the form can hold; that the second is one of
the calendar follows from the date in the transaction id, which has a year of four digits.
-/

namespace SealedReceipts

open Checks

/-! ## The numbers of a receipt -/

/-- The line has a stored form, and `line` is it. -/
structure LineItem.StoredAs (item : LineItem) (line : LineRecord) : Prop where
  categoryId : line.categoryId = item.categoryId
  quantity : line.quantity = item.quantity
  unitPrice : Money.toMinor? item.unitPrice = some line.unitPrice
  totalPrice : Money.toMinor? item.totalPrice = some line.totalPrice
  taxRate : line.taxRate = item.taxRate

/-- The tax breakdown has a stored form, and `w` is it. -/
structure TaxBreakdown.StoredAs (tax : TaxBreakdown) (w : TaxRecord) : Prop where
  reducedBase : Money.toMinor? tax.reduced.taxableAmount = some w.reducedBase
  reducedTax : Money.toMinor? tax.reduced.taxAmount = some w.reducedTax
  standardBase : Money.toMinor? tax.standard.taxableAmount = some w.standardBase
  standardTax : Money.toMinor? tax.standard.taxAmount = some w.standardTax
  totalTax : Money.toMinor? tax.totalTax = some w.totalTax

/-- Every part of the receipt has a stored form, and `w` holds them. -/
structure Receipt.StoredAs (r : Receipt) (w : ReceiptRecord) : Prop where
  seconds : r.timestamp.seconds = w.seconds.toNat
  reportNumber : Identifier.reportNumber? r.reportNumber = some w.reportNumber
  sequence : Identifier.transactionId? r.transactionId r.timestamp = .ok w.sequence
  registrationId : Identifier.registrationId? r.registrationId = some w.registrationId
  storeName : w.storeName = r.storeName
  storeAddress : w.storeAddress = r.storeAddress
  totalAmount : Money.toMinor? r.totalAmount = some w.totalAmount
  paymentMethod : w.paymentMethod = r.paymentMethod
  serial : Identifier.serial? r.serial = some w.serial
  items : List.Forall₂ LineItem.StoredAs r.items w.items
  tax : r.taxBreakdown.StoredAs w.tax

/-! ## Dates in transaction ids -/

/-- A date that is read has digits only, so its year has no sign. -/
theorem Identifier.year_le_of_transactionId? {id : String} {t : Timestamp} {n : UInt32}
    (h : Identifier.transactionId? id t = .ok n) : t.date.year ≤ 9999 := by
  obtain ⟨date, digits, -, hdate, -⟩ := transactionId?_eq_ok_iff.1 h
  exact hdate.year_le

/-! ## The checks -/

namespace Receipt

theorem checkPattern_eq_ok {field : Field} {value : String} {read : String → Option UInt32}
    {n : UInt32} : checkPattern field value read = .ok n ↔ read value = some n := by
  unfold checkPattern
  cases read value <;> simp

theorem checkTransactionId_eq_ok {id : String} {t : Timestamp} {n : UInt32} :
    checkTransactionId id t = .ok n ↔ Identifier.transactionId? id t = .ok n := by
  unfold checkTransactionId
  rcases Identifier.transactionId? id t with (_ | _) | m <;> simp

theorem checkSeconds_eq_ok {t : Timestamp} {seconds : UInt64}
    (hmax : t.seconds ≤ Timestamp.maxSeconds) :
    checkSeconds t = .ok seconds ↔ t.seconds = seconds.toNat := by
  unfold checkSeconds
  have hsize : Timestamp.maxSeconds < 18446744073709551616 := by decide
  constructor
  · intro h
    split at h
    · cases h
    · cases h
      rw [UInt64.toNat_ofNat', Nat.mod_eq_of_lt (by omega)]
      omega
  · intro h
    rw [if_neg (by omega), h, Int.toNat_natCast, UInt64.ofNat_toNat]

theorem checkItemCount_eq_ok {items : List LineItem} {u : Unit} :
    checkItemCount items = .ok u ↔ items.length < UInt16.size := by
  have hsize : Layout.maxItems + 1 = UInt16.size := rfl
  unfold checkItemCount
  by_cases h : items.length ≤ Layout.maxItems
  · simp only [h, ↓reduceIte, true_iff]
    omega
  · simp only [h, ↓reduceIte, reduceCtorEq, false_iff]
    omega

theorem checkText_eq_ok {field : Field} {text s : String} :
    checkText field text = .ok s ↔ text.utf8ByteSize < UInt32.size ∧ s = text := by
  have hsize : Layout.maxTextLength + 1 = UInt32.size := rfl
  unfold checkText
  by_cases h : text.utf8ByteSize ≤ Layout.maxTextLength
  · have hlt : text.utf8ByteSize < UInt32.size := by omega
    simp only [h, hlt, ↓reduceIte, Except.ok.injEq, true_and]
    exact eq_comm
  · have hlt : ¬text.utf8ByteSize < UInt32.size := by omega
    simp only [h, hlt, ↓reduceIte, reduceCtorEq, false_and]

theorem checkAmount_eq_ok {field : Field} {amount : Binary64} {m : UInt32} :
    checkAmount field amount = .ok m ↔ Money.toMinor? amount = some m := by
  unfold checkAmount
  cases Money.toMinor? amount <;> simp

theorem lineRecord_eq_ok {item : LineItem} {line : LineRecord} :
    lineRecord item = .ok line ↔ item.StoredAs line := by
  simp only [lineRecord, bind_eq_ok, checkAmount_eq_ok, pure_eq_ok]
  constructor
  · rintro ⟨_, hprice, _, htotal, rfl⟩
    exact ⟨rfl, rfl, hprice, htotal, rfl⟩
  · rintro ⟨hcategory, hquantity, hprice, htotal, hrate⟩
    refine ⟨_, hprice, _, htotal, ?_⟩
    rw [← hcategory, ← hquantity, ← hrate]

theorem taxRecord_eq_ok {tax : TaxBreakdown} {w : TaxRecord} :
    taxRecord tax = .ok w ↔ tax.StoredAs w := by
  simp only [taxRecord, bind_eq_ok, checkAmount_eq_ok, pure_eq_ok]
  constructor
  · rintro ⟨_, h1, _, h2, _, h3, _, h4, _, h5, rfl⟩
    exact ⟨h1, h2, h3, h4, h5⟩
  · rintro ⟨h1, h2, h3, h4, h5⟩
    exact ⟨_, h1, _, h2, _, h3, _, h4, _, h5, rfl⟩

/-! ## The record and the bytes -/

theorem record_eq_ok_iff {r : Receipt} {w : ReceiptRecord} :
    r.record = .ok w ↔ r.StoredAs w ∧ w.IsStorable := by
  simp only [record, bind_eq_ok, checkPattern_eq_ok, checkTransactionId_eq_ok,
    checkItemCount_eq_ok, checkText_eq_ok, checkAmount_eq_ok, mapM_eq_ok, lineRecord_eq_ok,
    taxRecord_eq_ok, pure_eq_ok]
  constructor
  · rintro ⟨report, hreport, sequence, hsequence, registration, hregistration, serial, hserial,
      seconds, hseconds, -, hcount, _, ⟨hname, rfl⟩, _, ⟨haddress, rfl⟩, total, htotal, _,
      ⟨hmethod, rfl⟩, items, hitems, tax, htax, rfl⟩
    have hmax := Timestamp.seconds_le_of_year_le (Identifier.year_le_of_transactionId? hsequence)
    rw [checkSeconds_eq_ok hmax] at hseconds
    refine ⟨⟨hseconds, hreport, hsequence, hregistration, rfl, rfl, htotal, rfl, hserial, hitems,
      htax⟩, ⟨?_, hname, haddress, hmethod, ?_⟩⟩
    · dsimp only
      omega
    · dsimp only
      rwa [← hitems.length_eq]
  · rintro ⟨h, hw⟩
    have hmax := Timestamp.seconds_le_of_year_le (Identifier.year_le_of_transactionId? h.sequence)
    refine ⟨_, h.reportNumber, _, h.sequence, _, h.registrationId, _, h.serial, w.seconds,
      (checkSeconds_eq_ok hmax).2 h.seconds, (), ?_, _, ⟨?_, h.storeName⟩, _, ⟨?_, h.storeAddress⟩,
      _, h.totalAmount, _, ⟨?_, h.paymentMethod⟩, _, h.items, _, h.tax, rfl⟩
    · rw [h.items.length_eq]
      exact hw.items
    · rw [← h.storeName]
      exact hw.storeName
    · rw [← h.storeAddress]
      exact hw.storeAddress
    · rw [← h.paymentMethod]
      exact hw.paymentMethod

/-- **What is encoded.** A receipt is encoded exactly when every part of it has a stored form and
the form can hold them, and the bytes are their layout. -/
theorem encode_eq_ok_iff {r : Receipt} {bytes : Bytes} :
    r.encode = .ok bytes ↔ ∃ w, (r.StoredAs w ∧ w.IsStorable) ∧ w.bytes = bytes := by
  simp only [encode, map_eq_ok, record_eq_ok_iff]

end Receipt

end SealedReceipts
