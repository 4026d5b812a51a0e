import SealedReceipts.Proofs.Receipt.IdentifierForm
import SealedReceipts.Proofs.Receipt.Reencoding
import SealedReceipts.Proofs.Receipt.RoundTrip

/-!
# What a stored form determines

`Receipt.SameContent` says when two receipts differ in nothing that is stored: their identifiers
have the same numbers, their amounts the same counts of minor units, and their seconds, texts and
lines are the same. Of receipts that are encoded exactly these have one stored form
(`Receipt.encode_eq_encode_iff`).

The other way round a decoded receipt has one stored form only: everything that is read shows in
it, and no two numbers of the stored form are shown in the same way (`Receipt.decode_injective`).
-/

namespace SealedReceipts

open Identifier (Spells SpellsTransaction)

/-! ## Receipts side by side -/

/-- The same line, its amounts the same as far as `same` goes. -/
@[mk_iff]
structure LineItem.Matches (same : Binary64 → Binary64 → Prop) (item other : LineItem) :
    Prop where
  categoryId : item.categoryId = other.categoryId
  quantity : item.quantity = other.quantity
  unitPrice : same item.unitPrice other.unitPrice
  totalPrice : same item.totalPrice other.totalPrice
  taxRate : item.taxRate = other.taxRate

/-- The same tax breakdown as far as `same` goes. -/
@[mk_iff]
structure TaxBreakdown.Matches (same : Binary64 → Binary64 → Prop) (tax other : TaxBreakdown) :
    Prop where
  reducedBase : same tax.reduced.taxableAmount other.reduced.taxableAmount
  reducedTax : same tax.reduced.taxAmount other.reduced.taxAmount
  standardBase : same tax.standard.taxableAmount other.standard.taxableAmount
  standardTax : same tax.standard.taxAmount other.standard.taxAmount
  totalTax : same tax.totalTax other.totalTax

/-- The amounts have one count of minor units. -/
def Money.SameCount (amount other : Binary64) : Prop :=
  ∃ m, Money.toMinor? amount = some m ∧ Money.toMinor? other = some m

/-- The receipts differ in nothing that is stored. -/
structure Receipt.SameContent (r other : Receipt) : Prop where
  reportNumber : ∃ n, Spells ['Z'] r.reportNumber n ∧ Spells ['Z'] other.reportNumber n
  sequence : ∃ day day' n, SpellsTransaction r.transactionId day n ∧
    SpellsTransaction other.transactionId day' n
  registrationId : ∃ n, Spells [] r.registrationId n ∧ Spells [] other.registrationId n
  serial : ∃ n, Spells ['F'] r.serial n ∧ Spells ['F'] other.serial n
  seconds : r.timestamp.seconds = other.timestamp.seconds
  storeName : r.storeName = other.storeName
  storeAddress : r.storeAddress = other.storeAddress
  paymentMethod : r.paymentMethod = other.paymentMethod
  items : List.Forall₂ (LineItem.Matches Money.SameCount) r.items other.items
  tax : r.taxBreakdown.Matches Money.SameCount other.taxBreakdown
  totalAmount : Money.SameCount r.totalAmount other.totalAmount

/-- The receipts compare as equal: their texts, moments and lines are the same, and the numbers of
their amounts. -/
structure Receipt.Equal (r other : Receipt) : Prop where
  metadata : r.toReceiptMetadata = other.toReceiptMetadata
  items : List.Forall₂ (LineItem.Matches Binary64.Equal) r.items other.items
  tax : r.taxBreakdown.Matches Binary64.Equal other.taxBreakdown
  totalAmount : r.totalAmount.Equal other.totalAmount
  paymentMethod : r.paymentMethod = other.paymentMethod

attribute [ext] LineRecord TaxRecord ReceiptRecord

/-- If each of two lists determines another element by element, the others are the same exactly if
the two match. -/
theorem forall₂_eq_iff {α β : Type} {of : α → β → Prop} {same : α → α → Prop} {as as' : List α}
    {bs bs' : List β}
    (hof : ∀ a a' b b', of a b → of a' b' → (b = b' ↔ same a a'))
    (h : List.Forall₂ of as bs) (h' : List.Forall₂ of as' bs') :
    bs = bs' ↔ List.Forall₂ same as as' := by
  induction h generalizing as' bs' with
  | nil =>
    cases h' with
    | nil => simp
    | cons => simp
  | cons hab _ ih =>
    cases h' with
    | nil => simp
    | cons hab' hrest => rw [List.cons.injEq, List.forall₂_cons, hof _ _ _ _ hab hab', ih hrest]

/-! ## What is stored of a receipt -/

theorem Money.eq_iff_sameCount {amount other : Binary64} {m n : UInt32}
    (h : toMinor? amount = some m) (h' : toMinor? other = some n) :
    m = n ↔ SameCount amount other := by
  constructor
  · rintro rfl
    exact ⟨m, h, h'⟩
  · rintro ⟨k, hk, hk'⟩
    obtain rfl := Option.some.inj (h.symm.trans hk)
    exact Option.some.inj (hk'.symm.trans h')

theorem LineItem.StoredAs.eq_iff {item other : LineItem} {line line' : LineRecord}
    (h : item.StoredAs line) (h' : other.StoredAs line') :
    line = line' ↔ item.Matches Money.SameCount other := by
  rw [LineRecord.ext_iff, Money.eq_iff_sameCount h.unitPrice h'.unitPrice,
    Money.eq_iff_sameCount h.totalPrice h'.totalPrice, h.categoryId, h'.categoryId, h.quantity,
    h'.quantity, h.taxRate, h'.taxRate, LineItem.matches_iff]

theorem LineItem.eq_iff_of_all_storedAs {items others : List LineItem}
    {lines lines' : List LineRecord} (h : List.Forall₂ LineItem.StoredAs items lines)
    (h' : List.Forall₂ LineItem.StoredAs others lines') :
    lines = lines' ↔ List.Forall₂ (LineItem.Matches Money.SameCount) items others :=
  forall₂_eq_iff (fun _ _ _ _ => LineItem.StoredAs.eq_iff) h h'

theorem TaxBreakdown.StoredAs.eq_iff {tax other : TaxBreakdown} {w w' : TaxRecord}
    (h : tax.StoredAs w) (h' : other.StoredAs w') :
    w = w' ↔ tax.Matches Money.SameCount other := by
  rw [TaxRecord.ext_iff, Money.eq_iff_sameCount h.reducedBase h'.reducedBase,
    Money.eq_iff_sameCount h.reducedTax h'.reducedTax,
    Money.eq_iff_sameCount h.standardBase h'.standardBase,
    Money.eq_iff_sameCount h.standardTax h'.standardTax,
    Money.eq_iff_sameCount h.totalTax h'.totalTax, TaxBreakdown.matches_iff]

namespace Receipt.StoredAs

variable {r other : Receipt} {w w' : ReceiptRecord}

theorem sameContent (h : r.StoredAs w) (h' : other.StoredAs w) : r.SameContent other where
  reportNumber := ⟨_, Identifier.reportNumber?_eq_some_iff.1 h.reportNumber,
    Identifier.reportNumber?_eq_some_iff.1 h'.reportNumber⟩
  sequence := ⟨_, _, _, Identifier.transactionId?_eq_ok_iff.1 h.sequence,
    Identifier.transactionId?_eq_ok_iff.1 h'.sequence⟩
  registrationId := ⟨_, Identifier.registrationId?_eq_some_iff.1 h.registrationId,
    Identifier.registrationId?_eq_some_iff.1 h'.registrationId⟩
  serial := ⟨_, Identifier.serial?_eq_some_iff.1 h.serial,
    Identifier.serial?_eq_some_iff.1 h'.serial⟩
  seconds := h.seconds.trans h'.seconds.symm
  storeName := h.storeName.symm.trans h'.storeName
  storeAddress := h.storeAddress.symm.trans h'.storeAddress
  paymentMethod := h.paymentMethod.symm.trans h'.paymentMethod
  items := (LineItem.eq_iff_of_all_storedAs h.items h'.items).1 rfl
  tax := (h.tax.eq_iff h'.tax).1 rfl
  totalAmount := ⟨_, h.totalAmount, h'.totalAmount⟩

theorem eq_of_sameContent (h : r.StoredAs w) (h' : other.StoredAs w')
    (hsame : r.SameContent other) :
    w = w' := by
  obtain ⟨report, hreport, hreport'⟩ := hsame.reportNumber
  obtain ⟨day, day', sequence, hsequence, hsequence'⟩ := hsame.sequence
  obtain ⟨registration, hregistration, hregistration'⟩ := hsame.registrationId
  obtain ⟨serial, hserial, hserial'⟩ := hsame.serial
  apply ReceiptRecord.ext
  case seconds =>
    have hseconds := h.seconds.symm.trans (hsame.seconds.trans h'.seconds)
    exact UInt64.toNat_inj.1 (Int.ofNat_inj.1 hseconds)
  case reportNumber =>
    exact ((Identifier.reportNumber?_eq_some_iff.1 h.reportNumber).unique hreport).trans
      (hreport'.unique (Identifier.reportNumber?_eq_some_iff.1 h'.reportNumber))
  case sequence =>
    exact ((Identifier.transactionId?_eq_ok_iff.1 h.sequence).unique hsequence).2.trans
      (hsequence'.unique (Identifier.transactionId?_eq_ok_iff.1 h'.sequence)).2
  case registrationId =>
    exact ((Identifier.registrationId?_eq_some_iff.1 h.registrationId).unique hregistration).trans
      (hregistration'.unique (Identifier.registrationId?_eq_some_iff.1 h'.registrationId))
  case serial =>
    exact ((Identifier.serial?_eq_some_iff.1 h.serial).unique hserial).trans
      (hserial'.unique (Identifier.serial?_eq_some_iff.1 h'.serial))
  case storeName => exact h.storeName.trans (hsame.storeName.trans h'.storeName.symm)
  case storeAddress => exact h.storeAddress.trans (hsame.storeAddress.trans h'.storeAddress.symm)
  case paymentMethod =>
    exact h.paymentMethod.trans (hsame.paymentMethod.trans h'.paymentMethod.symm)
  case totalAmount =>
    exact (Money.eq_iff_sameCount h.totalAmount h'.totalAmount).2 hsame.totalAmount
  case items => exact (LineItem.eq_iff_of_all_storedAs h.items h'.items).2 hsame.items
  case tax => exact (h.tax.eq_iff h'.tax).2 hsame.tax

end Receipt.StoredAs

/-- The stored form has the record in it. -/
theorem ReceiptRecord.bytes_inj {w w' : ReceiptRecord} (h : w.IsStorable) (h' : w'.IsStorable) :
    w.bytes = w'.bytes ↔ w = w' := by
  refine ⟨fun hbytes => ?_, congrArg ReceiptRecord.bytes⟩
  have hread := ofBytes_eq_ok_iff.2 ⟨h, hbytes.symm⟩
  exact Except.ok.inj (hread.symm.trans (ofBytes_eq_ok_iff.2 ⟨h', rfl⟩))

/-- **What the stored form keeps.** Two receipts that are encoded have one stored form exactly if
they have the same content. Zeros in front of the numbers of their identifiers, nanoseconds, and
fractions of a minor unit do not show in it, and everything else does. -/
theorem Receipt.encode_eq_encode_iff {r other : Receipt} {bytes again : Bytes}
    (h : r.encode = .ok bytes) (h' : other.encode = .ok again) :
    bytes = again ↔ r.SameContent other := by
  obtain ⟨w, ⟨hstored, hstorable⟩, rfl⟩ := Receipt.encode_eq_ok_iff.1 h
  obtain ⟨w', ⟨hstored', hstorable'⟩, rfl⟩ := Receipt.encode_eq_ok_iff.1 h'
  rw [ReceiptRecord.bytes_inj hstorable hstorable']
  constructor
  · rintro rfl
    exact hstored.sameContent hstored'
  · exact hstored.eq_of_sameContent hstored'

/-- Without the zeros and the nanoseconds of `cornerShop`, and with fewer of its fractions. -/
def tidyShop : Receipt :=
  { cornerShop with
    reportNumber := "Z7"
    transactionId := "TX202501150042"
    timestamp := ⟨1736933400, 0⟩
    registrationId := "0000000123"
    serial := "F42"
    totalAmount := Binary64.ofNat 11862 / 1000 }

/-- The two receipts are not the same, but have the same content and one stored form. -/
theorem Receipt.encode_eq_encode_iff_shops :
    cornerShop ≠ tidyShop ∧ cornerShop.SameContent tidyShop ∧
      ∃ bytes, cornerShop.encode = .ok bytes ∧ tidyShop.encode = .ok bytes := by
  have hok : cornerShop.encode.isOk = true ∧ cornerShop.encode = tidyShop.encode := by
    decide +kernel
  cases h : cornerShop.encode with
  | error e => rw [h] at hok; cases hok.1
  | ok bytes =>
    have h' : tidyShop.encode = .ok bytes := hok.2.symm.trans h
    exact ⟨by decide +kernel, (Receipt.encode_eq_encode_iff h h').1 rfl, bytes, rfl, h'⟩

/-! ## What shows of a stored form -/

theorem LineItem.Bears.eq_iff {item other : LineItem} {line line' : LineRecord}
    (h : item.Bears line) (h' : other.Bears line') :
    line = line' ↔ item.Matches Binary64.Equal other := by
  rw [LineRecord.ext_iff, LineItem.matches_iff, h.categoryId, h'.categoryId, h.quantity,
    h'.quantity, h.unitPrice, h'.unitPrice, h.totalPrice, h'.totalPrice, h.taxRate, h'.taxRate,
    Money.equal_ofMinor_iff, Money.equal_ofMinor_iff]

theorem LineItem.eq_iff_of_all_bear {items others : List LineItem} {lines lines' : List LineRecord}
    (h : List.Forall₂ LineItem.Bears items lines) (h' : List.Forall₂ LineItem.Bears others lines') :
    lines = lines' ↔ List.Forall₂ (LineItem.Matches Binary64.Equal) items others :=
  forall₂_eq_iff (fun _ _ _ _ => LineItem.Bears.eq_iff) h h'

theorem TaxBreakdown.Bears.eq_iff {tax other : TaxBreakdown} {w w' : TaxRecord} (h : tax.Bears w)
    (h' : other.Bears w') : w = w' ↔ tax.Matches Binary64.Equal other := by
  rw [TaxRecord.ext_iff, TaxBreakdown.matches_iff, h.reducedBase, h'.reducedBase, h.reducedTax,
    h'.reducedTax, h.standardBase, h'.standardBase, h.standardTax, h'.standardTax, h.totalTax,
    h'.totalTax]
  simp only [Money.equal_ofMinor_iff]

/-- The receipts of two records compare as equal only if the records are the same. -/
theorem Receipt.Bears.eq_iff {r other : Receipt} {w w' : ReceiptRecord} (h : r.Bears w)
    (h' : other.Bears w') : w = w' ↔ r.Equal other := by
  constructor
  · rintro rfl
    obtain rfl : r = other := (Receipt.bears_iff.1 h).trans (Receipt.bears_iff.1 h').symm
    refine ⟨rfl, (LineItem.eq_iff_of_all_bear h.items h.items).1 rfl, (h.tax.eq_iff h.tax).1 rfl,
      ?_, rfl⟩
    rw [h.totalAmount, Money.equal_ofMinor_iff]
  · intro hequal
    have htimestamp : r.timestamp = other.timestamp :=
      congrArg ReceiptMetadata.timestamp hequal.metadata
    apply ReceiptRecord.ext
    case seconds =>
      rw [h.timestamp, h'.timestamp, Timestamp.mk.injEq] at htimestamp
      exact UInt64.toNat_inj.1 (Int.ofNat_inj.1 htimestamp.1)
    case reportNumber =>
      have hreport := congrArg ReceiptMetadata.reportNumber hequal.metadata
      rwa [h.reportNumber, h'.reportNumber, Identifier.reportNumber_inj] at hreport
    case sequence =>
      have hid := congrArg ReceiptMetadata.transactionId hequal.metadata
      rwa [h.transactionId, h'.transactionId, htimestamp, Identifier.transactionId_inj_right] at hid
    case registrationId =>
      have hid := congrArg ReceiptMetadata.registrationId hequal.metadata
      rwa [h.registrationId, h'.registrationId, Identifier.registrationId_inj] at hid
    case serial =>
      have hserial := congrArg ReceiptMetadata.serial hequal.metadata
      rwa [h.serial, h'.serial, Identifier.serial_inj] at hserial
    case storeName =>
      have hname := congrArg ReceiptMetadata.storeName hequal.metadata
      exact h.storeName.symm.trans (hname.trans h'.storeName)
    case storeAddress =>
      have haddress := congrArg ReceiptMetadata.storeAddress hequal.metadata
      exact h.storeAddress.symm.trans (haddress.trans h'.storeAddress)
    case paymentMethod =>
      exact h.paymentMethod.symm.trans (hequal.paymentMethod.trans h'.paymentMethod)
    case totalAmount =>
      have htotal := hequal.totalAmount
      rwa [h.totalAmount, h'.totalAmount, Money.equal_ofMinor_iff] at htotal
    case items => exact (LineItem.eq_iff_of_all_bear h.items h'.items).2 hequal.items
    case tax => exact (h.tax.eq_iff h'.tax).2 hequal.tax

/-- **A decoded receipt has one stored form.** If two byte strings are decoded to receipts that are
the same, or that only compare as equal, they are the same bytes. In particular:

* amounts of different counts of minor units do not compare as equal;
* the written forms of different numbers differ, those of transaction ids at every moment of the
  calendar. -/
theorem Receipt.decode_injective :
    (∀ bytes again r other, Receipt.decode bytes = .ok r → Receipt.decode again = .ok other →
      (r = other ↔ bytes = again) ∧ (r.Equal other ↔ bytes = again)) ∧
    (∀ n m, (Money.ofMinor n).Equal (Money.ofMinor m) → n = m) ∧
    (∀ n m, Identifier.reportNumber n = Identifier.reportNumber m → n = m) ∧
    (∀ t n m, Identifier.transactionId t n = Identifier.transactionId t m → n = m) ∧
    (∀ n m, Identifier.registrationId n = Identifier.registrationId m → n = m) ∧
    ∀ n m, Identifier.serial n = Identifier.serial m → n = m := by
  refine ⟨fun bytes again r other h h' => ?_, fun _ _ => Money.equal_ofMinor_iff.1,
    fun _ _ => Identifier.reportNumber_inj.1, fun _ _ _ => Identifier.transactionId_inj_right.1,
    fun _ _ => Identifier.registrationId_inj.1, fun _ _ => Identifier.serial_inj.1⟩
  obtain ⟨w, hstorable, rfl, rfl⟩ := Receipt.decode_eq_ok_iff.1 h
  obtain ⟨w', hstorable', rfl, rfl⟩ := Receipt.decode_eq_ok_iff.1 h'
  have hbears : w.receipt.Bears w := Receipt.bears_iff.2 rfl
  have hbears' : w'.receipt.Bears w' := Receipt.bears_iff.2 rfl
  rw [ReceiptRecord.bytes_inj hstorable hstorable', ← hbears.eq_iff hbears']
  refine ⟨⟨fun hsame => ?_, congrArg ReceiptRecord.receipt⟩, Iff.rfl⟩
  rw [hsame] at hbears
  exact (hbears.eq_iff hbears').2 ((hbears'.eq_iff hbears').1 rfl)

/-- The receipt of `kiosk` with a total that is one minor unit less. -/
def cheaperKiosk : ReceiptRecord := { kiosk with totalAmount := 28 }

/-- The two totals are stored as 28 when they are stored again, but the receipts that are decoded do
not compare as equal. -/
theorem Receipt.decode_injective_kiosks :
    Receipt.decode kiosk.bytes = .ok kiosk.receipt ∧
      Receipt.decode cheaperKiosk.bytes = .ok cheaperKiosk.receipt ∧
      Money.SameCount kiosk.receipt.totalAmount cheaperKiosk.receipt.totalAmount ∧
      ¬kiosk.receipt.Equal cheaperKiosk.receipt := by
  have hcheaper : cheaperKiosk.IsStorable := by
    constructor <;> decide
  have h : Receipt.decode kiosk.bytes = .ok kiosk.receipt :=
    Receipt.decode_eq_ok_iff.2 ⟨kiosk, kiosk_isStorable, rfl, rfl⟩
  have h' : Receipt.decode cheaperKiosk.bytes = .ok cheaperKiosk.receipt :=
    Receipt.decode_eq_ok_iff.2 ⟨cheaperKiosk, hcheaper, rfl, rfl⟩
  have hbytes : kiosk.bytes ≠ cheaperKiosk.bytes := by
    rw [Ne, ReceiptRecord.bytes_inj kiosk_isStorable hcheaper]
    decide
  refine ⟨h, h', ⟨28, by decide +kernel, by decide +kernel⟩, fun hequal => hbytes ?_⟩
  exact ((Receipt.decode_injective.1 _ _ _ _ h h').2).1 hequal

end SealedReceipts
