import SealedReceipts.Proofs.Receipt.Reencoding

/-!
# Where amounts lie in the stored form

The stored form of a receipt is a row of fixed parts with amounts between them
(`ReceiptRecord.bytes_parts`), and `ReceiptRecord.amountOffsets` counts where the amounts lie. A
decoded receipt that is encoded again keeps the length and every byte outside of its amounts, and an
amount is the same or one minor unit less.
-/

namespace SealedReceipts

/-! ## Parts -/

/-- A part of the stored form. -/
inductive Part where
  | fixed (bytes : Bytes)
  | amount (n : UInt32)

namespace Part

def bytes : Part → Bytes
  | fixed bytes => bytes
  | amount n => Layout.word32 n

/-- The same part, but that an amount may be one less. -/
inductive Near : Part → Part → Prop where
  | fixed (bytes : Bytes) : Near (fixed bytes) (fixed bytes)
  | amount {n m : UInt32} (h : Money.AtMostOneLess n m) : Near (amount n) (amount m)

/-- The bytes of a row of parts. -/
def row (parts : List Part) : Bytes :=
  parts.flatMap bytes

/-- Where the amounts of a row begin. -/
def offsets : List Part → List Nat
  | [] => []
  | .fixed bytes :: parts => (offsets parts).map (bytes.length + ·)
  | .amount _ :: parts => 0 :: (offsets parts).map (4 + ·)

@[simp] theorem row_append (parts more : List Part) : row (parts ++ more) = row parts ++ row more :=
  List.flatMap_append

theorem offsets_append (parts more : List Part) :
    offsets (parts ++ more) = offsets parts ++ (offsets more).map ((row parts).length + ·) := by
  induction parts with
  | nil => simp [offsets, row]
  | cons part parts ih =>
    cases part <;> simp [offsets, ih, row, bytes, Nat.add_assoc, Layout.word32]

end Part

/-- The number in the four bytes from `offset` on. -/
def Bytes.wordAt (bytes : Bytes) (offset : Nat) : Nat :=
  Bytes.toNat ((bytes.drop offset).take 4)

/-- The bytes `again` have amounts at the same places, each the same or one less, and are otherwise
the same bytes. -/
structure Bytes.NearAt (offsets : List Nat) (bytes again : Bytes) : Prop where
  length_eq : again.length = bytes.length
  outside : ∀ i, (∀ o ∈ offsets, i < o ∨ o + 4 ≤ i) → again[i]? = bytes[i]?
  inside : ∀ o ∈ offsets, o + 4 ≤ bytes.length ∧
    (again.wordAt o = bytes.wordAt o ∨ again.wordAt o + 1 = bytes.wordAt o)

namespace Bytes

theorem wordAt_append_left {front bytes : Bytes} {o : Nat} (h : o + 4 ≤ front.length) :
    (front ++ bytes).wordAt o = front.wordAt o := by
  rw [wordAt, wordAt, List.drop_append_of_le_length (by omega),
    List.take_append_of_le_length (by rw [List.length_drop]; omega)]

theorem wordAt_append_right (front bytes : Bytes) (o : Nat) :
    (front ++ bytes).wordAt (front.length + o) = bytes.wordAt o := by
  rw [wordAt, wordAt, List.drop_length_add_append]

theorem wordAt_word32 (n : UInt32) : (Layout.word32 n).wordAt 0 = n.toNat := by
  have hlength : (Layout.word32 n).length = 4 := length_ofNat 4 n.toNat
  rw [wordAt, List.drop_zero, List.take_of_length_le hlength.le, Layout.word32, toNat_ofNat]
  exact Nat.mod_eq_of_lt n.toNat_lt

namespace NearAt

variable {offsets more : List Nat} {front front' bytes again : Bytes}

theorem fixed (bytes : Bytes) : NearAt [] bytes bytes :=
  ⟨rfl, fun _ _ => rfl, fun _ ho => absurd ho List.not_mem_nil⟩

theorem amount {n m : UInt32} (h : Money.AtMostOneLess n m) :
    NearAt [0] (Layout.word32 n) (Layout.word32 m) := by
  have hn : (Layout.word32 n).length = 4 := length_ofNat 4 n.toNat
  have hm : (Layout.word32 m).length = 4 := length_ofNat 4 m.toNat
  refine ⟨hm.trans hn.symm, fun i hi => ?_, fun o ho => ?_⟩
  · have hout := hi 0 List.mem_cons_self
    rw [List.getElem?_eq_none (by omega), List.getElem?_eq_none (by omega)]
  · obtain rfl := List.mem_singleton.1 ho
    rw [wordAt_word32, wordAt_word32]
    exact ⟨hn.ge, h.imp_left fun heq => by rw [heq]⟩

/-- Bytes behind others keep their amounts, which lie further on. -/
theorem append (h : NearAt offsets front front') (h' : NearAt more bytes again) :
    NearAt (offsets ++ more.map (front.length + ·)) (front ++ bytes) (front' ++ again) := by
  have hlength := h.length_eq
  refine ⟨by rw [List.length_append, List.length_append, hlength, h'.length_eq], ?_, ?_⟩
  · intro i hi
    simp only [List.mem_append, List.mem_map] at hi
    rcases Nat.lt_or_ge i front.length with hlt | hge
    · rw [List.getElem?_append_left hlt, List.getElem?_append_left (hlength ▸ hlt)]
      exact h.outside i fun o ho => hi o (.inl ho)
    · rw [List.getElem?_append_right hge, List.getElem?_append_right (hlength ▸ hge), hlength]
      refine h'.outside _ fun o ho => ?_
      have hout := hi _ (.inr ⟨o, ho, rfl⟩)
      omega
  · intro o ho
    rw [List.length_append]
    rcases List.mem_append.1 ho with ho | ho
    · obtain ⟨hle, hword⟩ := h.inside o ho
      rw [wordAt_append_left hle, wordAt_append_left (hlength ▸ hle)]
      exact ⟨by omega, hword⟩
    · obtain ⟨o', ho', rfl⟩ := List.mem_map.1 ho
      obtain ⟨hle, hword⟩ := h'.inside o' ho'
      rw [wordAt_append_right, ← hlength, wordAt_append_right]
      exact ⟨by omega, hword⟩

end NearAt

end Bytes

theorem Part.nearAt {parts again : List Part} (h : List.Forall₂ Near parts again) :
    Bytes.NearAt (offsets parts) (row parts) (row again) := by
  induction h with
  | nil => exact .fixed []
  | cons hpart _ ih =>
    cases hpart with
    | fixed bytes => exact (Bytes.NearAt.fixed bytes).append ih
    | @amount n m hm =>
      have happend := (Bytes.NearAt.amount hm).append ih
      rwa [show (Layout.word32 n).length = 4 from Bytes.length_ofNat 4 n.toNat] at happend

/-! ## The parts of a receipt -/

/-- Category and quantity, the two prices, the rate. -/
def LineRecord.parts (line : LineRecord) : List Part :=
  [.fixed (Layout.word16 line.categoryId ++ Layout.word16 line.quantity), .amount line.unitPrice,
    .amount line.totalPrice, .fixed (Layout.byte line.taxRate.percent)]

def TaxRecord.parts (tax : TaxRecord) : List Part :=
  [.amount tax.reducedBase, .amount tax.reducedTax, .amount tax.standardBase,
    .amount tax.standardTax, .amount tax.totalTax]

theorem LineRecord.Near.parts {line again : LineRecord} (h : line.Near again) :
    List.Forall₂ Part.Near line.parts again.parts := by
  rw [LineRecord.parts, LineRecord.parts, h.categoryId, h.quantity, h.taxRate]
  exact .cons (.fixed _) (.cons (.amount h.unitPrice) (.cons (.amount h.totalPrice)
    (.cons (.fixed _) .nil)))

theorem TaxRecord.Near.parts {tax again : TaxRecord} (h : tax.Near again) :
    List.Forall₂ Part.Near tax.parts again.parts :=
  .cons (.amount h.reducedBase) (.cons (.amount h.reducedTax) (.cons (.amount h.standardBase)
    (.cons (.amount h.standardTax) (.cons (.amount h.totalTax) .nil))))

namespace ReceiptRecord

/-- What lies in front of the total amount. -/
def front (w : ReceiptRecord) : Bytes :=
  Layout.word16 Layout.magic ++ Layout.byte Layout.version ++ Layout.byte Layout.reserved ++
    Layout.word64 w.seconds ++ Layout.word32 w.reportNumber ++ Layout.word32 w.sequence ++
    Layout.word32 w.registrationId ++ Layout.text w.storeName ++ Layout.text w.storeAddress

/-- What lies between the total amount and the lines. -/
def middle (w : ReceiptRecord) : Bytes :=
  Layout.text w.paymentMethod ++ Layout.word32 w.serial ++ Bytes.ofNat 2 w.items.length

def parts (w : ReceiptRecord) : List Part :=
  [.fixed w.front, .amount w.totalAmount, .fixed w.middle] ++
    (w.items.flatMap LineRecord.parts ++ w.tax.parts)

theorem row_itemParts (items : List LineRecord) :
    Part.row (items.flatMap LineRecord.parts) = itemBytes items := by
  induction items with
  | nil => rfl
  | cons item items ih =>
    rw [List.flatMap_cons, Part.row_append, ih]
    simp [Part.row, Part.bytes, LineRecord.parts, itemBytes, LineRecord.bytes]

theorem bytes_parts (w : ReceiptRecord) : Part.row w.parts = w.bytes := by
  have htax : Part.row w.tax.parts = w.tax.bytes := by
    simp [Part.row, Part.bytes, TaxRecord.parts, TaxRecord.bytes]
  rw [parts, Part.row_append, Part.row_append, row_itemParts, htax, bytes, header]
  simp [Part.row, Part.bytes, front, middle]

theorem Near.parts {w again : ReceiptRecord} (h : w.Near again) :
    List.Forall₂ Part.Near w.parts again.parts := by
  have hfront : again.front = w.front := by
    rw [front, front, h.seconds, h.reportNumber, h.sequence, h.registrationId, h.storeName,
      h.storeAddress]
  have hmiddle : again.middle = w.middle := by
    rw [middle, middle, h.paymentMethod, h.serial, h.items.length_eq]
  rw [ReceiptRecord.parts, ReceiptRecord.parts, hfront, hmiddle]
  refine List.rel_append ?_ (List.rel_append ?_ h.tax.parts)
  · exact .cons (.fixed _) (.cons (.amount h.totalAmount) (.cons (.fixed _) .nil))
  · exact List.rel_flatMap h.items fun _ _ hline => hline.parts

/-- Where the amounts lie: the total behind the texts of the store, the prices of each line behind
its category and quantity, and the taxes at the end. -/
def amountOffsets (w : ReceiptRecord) : List Nat :=
  let total := 32 + w.storeName.utf8ByteSize + w.storeAddress.utf8ByteSize
  let lines := total + 14 + w.paymentMethod.utf8ByteSize
  let tax := lines + 13 * w.items.length
  let prices (i : Nat) := [lines + 13 * i + 4, lines + 13 * i + 8]
  total :: (List.range w.items.length).flatMap prices ++
    [tax, tax + 4, tax + 8, tax + 12, tax + 16]

theorem offsets_itemParts (items : List LineRecord) :
    Part.offsets (items.flatMap LineRecord.parts) =
      (List.range items.length).flatMap fun i => [13 * i + 4, 13 * i + 8] := by
  induction items with
  | nil => rfl
  | cons item items ih =>
    have hown : Part.offsets item.parts = [4, 8] := by
      simp [Part.offsets, LineRecord.parts, Layout.word16]
    have hlength : (Part.row item.parts).length = 13 := by
      simp [Part.row, Part.bytes, LineRecord.parts, Layout.word16, Layout.word32, Layout.byte]
    have hshift : ∀ i k : Nat, 13 + (13 * i + k) = 13 * (i + 1) + k := by omega
    rw [List.flatMap_cons, Part.offsets_append, ih, List.length_cons, List.range_succ_eq_map,
      List.flatMap_cons, List.flatMap_map, List.map_flatMap, hown, hlength]
    simp only [List.map_cons, List.map_nil, hshift]

theorem offsets_parts (w : ReceiptRecord) : Part.offsets w.parts = w.amountOffsets := by
  have htax : Part.offsets w.tax.parts = [0, 4, 8, 12, 16] := rfl
  have hitems : (Part.row (w.items.flatMap LineRecord.parts)).length = 13 * w.items.length := by
    rw [row_itemParts, length_itemBytes]
    rfl
  have hfront : w.front.length = 32 + w.storeName.utf8ByteSize + w.storeAddress.utf8ByteSize := by
    simp [front, Layout.word16, Layout.word32, Layout.word64, Layout.byte, Layout.text]
    omega
  have hmiddle : w.middle.length = 10 + w.paymentMethod.utf8ByteSize := by
    simp [middle, Layout.word32, Layout.text]
    omega
  have hhead : Part.offsets [.fixed w.front, .amount w.totalAmount, .fixed w.middle] =
      [w.front.length] := by
    simp [Part.offsets]
  have hlines : (Part.row [.fixed w.front, .amount w.totalAmount, .fixed w.middle]).length =
      w.front.length + 14 + w.paymentMethod.utf8ByteSize := by
    simp [Part.row, Part.bytes, Layout.word32, hmiddle]
    omega
  rw [parts, Part.offsets_append, Part.offsets_append, offsets_itemParts, htax, hitems, hhead,
    hlines, amountOffsets, hfront]
  simp [List.map_flatMap, Nat.add_assoc]

end ReceiptRecord

/-! ## Encoding again -/

/-- **Encoding again.** When a decoded receipt is encoded, the bytes are as many as before and the
same outside of the amounts, and each amount is the same or one minor unit less; every stored count
is stored again as itself or as one less. -/
theorem Receipt.reencode_near :
    (∀ bytes r again, Receipt.decode bytes = .ok r → r.encode = .ok again →
      ∃ w : ReceiptRecord, w.IsStorable ∧ bytes = w.spelling ∧
        Bytes.NearAt w.amountOffsets bytes again) ∧
    ∀ n : UInt32, ∃ m, Money.toMinor? (Money.ofMinor n) = some m ∧
      (m = n ∨ m.toNat + 1 = n.toNat) := by
  refine ⟨fun bytes r again hdecode hencode => ?_, Money.toMinor?_ofMinor⟩
  obtain ⟨w, hw, rfl, rfl⟩ := Receipt.decode_eq_ok_iff.1 hdecode
  have hyear : w.timestamp.date.year ≤ 9999 := by
    obtain ⟨_, ⟨hstored, -⟩, -⟩ := Receipt.encode_eq_ok_iff.1 hencode
    exact Identifier.year_le_of_transactionId? hstored.sequence
  obtain ⟨w', hencode', hnear⟩ := ReceiptRecord.encode_receipt hw hyear
  obtain rfl : w'.bytes = again := Except.ok.inj (hencode'.symm.trans hencode)
  refine ⟨w, hw, w.spelling_eq.symm, ?_⟩
  rw [← w.offsets_parts, ← w.bytes_parts, ← w'.bytes_parts]
  exact Part.nearAt hnear.parts

theorem Receipt.reencode_near_kiosk :
    ∃ again, Receipt.decode kiosk.bytes = .ok kiosk.receipt ∧ kiosk.receipt.encode = .ok again ∧
      ∃ w : ReceiptRecord, w.IsStorable ∧ kiosk.bytes = w.spelling ∧
        Bytes.NearAt w.amountOffsets kiosk.bytes again := by
  have hdecode : Receipt.decode kiosk.bytes = .ok kiosk.receipt :=
    Receipt.decode_eq_ok_iff.2 ⟨kiosk, kiosk_isStorable, rfl, rfl⟩
  obtain ⟨w', hencode, -⟩ := ReceiptRecord.encode_receipt kiosk_isStorable (by decide)
  exact ⟨w'.bytes, hdecode, hencode, Receipt.reencode_near.1 _ _ _ hdecode hencode⟩

end SealedReceipts
