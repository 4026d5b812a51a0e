import SealedReceipts.Proofs.Receipt.Decoding
import SealedReceipts.Proofs.Receipt.Encoding
import SealedReceipts.Proofs.Receipt.Reencoding
import SealedReceipts.Proofs.Receipt.RoundTrip
import SealedReceipts.Receipt.Signed

/-!
# Where a stored form ends

A stored form does not say where it ends, and neither a longer nor a shorter byte string is decoded
in its place (`Receipt.decode_neither_cut_nor_extended`): with bytes behind it, or cut within the
lines or the taxes, the bytes left do not bear out the number of lines; cut earlier, the field that
is cut is missed.

`Reader.Leads` is what this rests on. A reader leads through a row of fields when it reads them and
goes on as another reader, and misses the field that is cut when the row is cut. Readers that lead
through one row after the other lead through both.
-/

namespace SealedReceipts

/-! ## Rows of fields -/

namespace Layout

/-- The field in which an offset lies, in a row of fields of given widths. -/
def fieldAt? : List (Field × Nat) → Nat → Option Field
  | [], _ => none
  | (field, width) :: rest, offset =>
    if offset < width then some field else fieldAt? rest (offset - width)

/-- The bytes of a row. -/
def joined (row : List (Field × Bytes)) : Bytes := row.flatMap Prod.snd

/-- The widths of a row. -/
def widths (row : List (Field × Bytes)) : List (Field × Nat) :=
  row.map fun part => (part.1, part.2.length)

variable {row : List (Field × Bytes)} {offset : Nat}

theorem joined_append (row more : List (Field × Bytes)) :
    joined (row ++ more) = joined row ++ joined more :=
  List.flatMap_append

theorem widths_append (row more : List (Field × Bytes)) :
    widths (row ++ more) = widths row ++ widths more :=
  List.map_append

theorem length_joined_cons (part : Field × Bytes) (row : List (Field × Bytes)) :
    (joined (part :: row)).length = part.2.length + (joined row).length := by
  rw [joined, List.flatMap_cons, List.length_append, joined]

theorem fieldAt?_widths_cons (part : Field × Bytes) (row : List (Field × Bytes))
    (more : List (Field × Nat)) (offset : Nat) :
    fieldAt? (widths (part :: row) ++ more) offset =
      if offset < part.2.length then some part.1
      else fieldAt? (widths row ++ more) (offset - part.2.length) := rfl

theorem fieldAt?_append_left (h : offset < (joined row).length) (more : List (Field × Nat)) :
    fieldAt? (widths row ++ more) offset = fieldAt? (widths row) offset := by
  induction row generalizing offset with
  | nil => exact absurd h (Nat.not_lt_zero offset)
  | cons part row ih =>
    rw [length_joined_cons] at h
    rw [fieldAt?_widths_cons, ← List.append_nil (widths (part :: row)), fieldAt?_widths_cons,
      List.append_nil]
    split
    · rfl
    · exact ih (by omega)

theorem fieldAt?_append_right (row : List (Field × Bytes)) (more : List (Field × Nat))
    (offset : Nat) :
    fieldAt? (widths row ++ more) ((joined row).length + offset) = fieldAt? more offset := by
  induction row with
  | nil => simp [joined, widths]
  | cons part row ih =>
    have hbehind : part.2.length + (joined row).length + offset - part.2.length =
        (joined row).length + offset := by omega
    rw [length_joined_cons, fieldAt?_widths_cons, if_neg (by omega), hbehind, ih]

end Layout

/-! ## Readers along a row -/

namespace Reader

open Layout

variable {α β : Type} {row more : List (Field × Bytes)} {reader mid after : Reader α} {a : α}
  {field : Field} {bytes : Bytes}

/-- The reader reads the fields of a row and goes on as the reader `after`; if the row is cut, the
field that is cut is missed. -/
structure Leads (row : List (Field × Bytes)) (reader after : Reader α) : Prop where
  whole : ∀ rest, reader (joined row ++ rest) = after rest
  cut : ∀ count, count < (joined row).length → ∃ field,
    fieldAt? (widths row) count = some field ∧
      reader ((joined row).take count) = .error (.truncated field)

theorem bind_error {first : Reader β} {e : CorruptReceipt} (h : first bytes = .error e)
    (next : β → Reader α) : (first >>= next) bytes = .error e := by
  change andThen first next bytes = _
  rw [andThen, h]

namespace Leads

theorem refl (reader : Reader α) : Leads [] reader reader :=
  ⟨fun _ => rfl, fun _ h => absurd h (Nat.not_lt_zero _)⟩

theorem trans (h : Leads row reader mid) (h' : Leads more mid after) :
    Leads (row ++ more) reader after := by
  refine ⟨fun rest => ?_, fun count hcount => ?_⟩
  · rw [joined_append, List.append_assoc, h.whole, h'.whole]
  · rw [joined_append, List.length_append] at hcount
    rw [widths_append, joined_append]
    rcases Nat.lt_or_ge count (joined row).length with hlt | hge
    · obtain ⟨field, hfield, herror⟩ := h.cut count hlt
      refine ⟨field, ?_, ?_⟩
      · rw [fieldAt?_append_left hlt, hfield]
      · rw [List.take_append_of_le_length hlt.le, herror]
    · obtain ⟨further, rfl⟩ := Nat.exists_eq_add_of_le hge
      obtain ⟨field, hfield, herror⟩ := h'.cut further (by omega)
      refine ⟨field, ?_, ?_⟩
      · rw [fieldAt?_append_right, hfield]
      · rw [List.take_length_add_append, h.whole, herror]

/-- What goes on behind a reader goes on behind what the reader leads to. -/
theorem bind {first middle : Reader β} (h : Leads row first middle) (next : β → Reader α) :
    Leads row (first >>= next) (middle >>= next) := by
  refine ⟨fun rest => ?_, fun count hcount => ?_⟩
  · change Reader.andThen first next _ = Reader.andThen middle next _
    rw [Reader.andThen, Reader.andThen, h.whole]
  · obtain ⟨field, hfield, herror⟩ := h.cut count hcount
    exact ⟨field, hfield, bind_error herror next⟩

/-- A reader that comes to a value, and what goes on with the value. -/
theorem andThen {first : Reader β} {b : β} {next : β → Reader α} (h : Leads row first (pure b))
    (h' : Leads more (next b) after) : Leads (row ++ more) (first >>= next) after :=
  (h.bind next).trans h'

/-- One field, which is missed when it is short. -/
theorem single {part : Bytes} (hwhole : ∀ rest, reader (part ++ rest) = .ok (a, rest))
    (hshort : ∀ bytes, bytes.length < part.length → reader bytes = .error (.truncated field)) :
    Leads [(field, part)] reader (pure a) := by
  have hjoined : joined [(field, part)] = part := List.flatMap_singleton _ _
  refine ⟨fun rest => ?_, fun count hcount => ?_⟩
  · rw [hjoined, hwhole]
    rfl
  · rw [hjoined] at hcount ⊢
    refine ⟨field, if_pos hcount, hshort _ ?_⟩
    rw [List.length_take]
    omega

/-- Cut behind the row, the reader goes on to what is left. -/
theorem cut_behind (h : Leads row reader after) {trailer : Bytes} {count : Nat}
    (hle : count ≤ trailer.length) :
    reader ((joined row ++ trailer).take ((joined row ++ trailer).length - count)) =
      after (trailer.take (trailer.length - count)) := by
  have hcut : (joined row ++ trailer).length - count =
      (joined row).length + (trailer.length - count) := by
    rw [List.length_append]
    omega
  rw [hcut, List.take_length_add_append, h.whole]

/-- Cut within the row, the reader misses the field that is cut. -/
theorem cut_within (h : Leads row reader after) {trailer : Bytes} {count : Nat}
    (hlt : trailer.length < count) (hle : count ≤ (joined row ++ trailer).length) :
    ∃ field, fieldAt? (widths row) ((joined row ++ trailer).length - count) = some field ∧
      reader ((joined row ++ trailer).take ((joined row ++ trailer).length - count)) =
        .error (.truncated field) := by
  have hcut : (joined row ++ trailer).length - count < (joined row).length := by
    rw [List.length_append] at hle ⊢
    omega
  rw [List.take_append_of_le_length hcut.le]
  exact h.cut _ hcut

end Leads

/-! ## Each reader -/

theorem take_short {count : Nat} (h : bytes.length < count) (field : Field) :
    take count field bytes = .error (.truncated field) := by
  have hlength : (bytes.take count).length ≠ count := by
    rw [List.length_take]
    omega
  rw [take, if_neg hlength]

theorem take_leads (part : Bytes) (field : Field) :
    Leads [(field, part)] (take part.length field) (pure part) :=
  .single (fun _ => take_eq_ok.2 ⟨rfl, rfl⟩) fun _ h => take_short h field

theorem number_short {width : Nat} (h : bytes.length < width) (field : Field) :
    number width field bytes = .error (.truncated field) :=
  bind_error (take_short h field) _

theorem number_leads {width n : Nat} (h : n < Nat.pow 256 width) (field : Field) :
    Leads [(field, Bytes.ofNat width n)] (number width field) (pure n) := by
  refine .single (fun _ => number_eq_ok.2 ⟨h, rfl⟩) fun bytes hshort => number_short ?_ field
  rwa [Bytes.length_ofNat] at hshort

theorem word_leads {width n : Nat} {word : Nat → α} (h : n < Nat.pow 256 width)
    (hword : word n = a) :
    Leads [(field, Bytes.ofNat width n)] (do return word (← number width field)) (pure a) := by
  subst hword
  exact (number_leads h field).bind fun n => pure (word n)

theorem byte_leads (n : UInt8) (field : Field) :
    Leads [(field, Layout.byte n)] (byte field) (pure n) := by
  have h : Leads [(field, Bytes.ofNat 1 n.toNat)] (byte field) (pure n) :=
    word_leads n.toNat_lt UInt8.ofNat_toNat
  simpa [Layout.byte, Bytes.ofNat] using h

theorem word16_leads (n : UInt16) (field : Field) :
    Leads [(field, Layout.word16 n)] (word16 field) (pure n) :=
  word_leads n.toNat_lt UInt16.ofNat_toNat

theorem word32_leads (n : UInt32) (field : Field) :
    Leads [(field, Layout.word32 n)] (word32 field) (pure n) :=
  word_leads n.toNat_lt UInt32.ofNat_toNat

theorem word64_leads (n : UInt64) (field : Field) :
    Leads [(field, Layout.word64 n)] (word64 field) (pure n) :=
  word_leads n.toNat_lt UInt64.ofNat_toNat

/-- A text is missed in its length or in its bytes. -/
theorem text_leads {s : String} (h : s.utf8ByteSize < UInt32.size) (field : Field) :
    Leads [(field, Bytes.ofNat 4 s.utf8ByteSize), (field, Bytes.ofText s)] (text field)
      (pure s) := by
  have hbody := take_leads (Bytes.ofText s) field
  rw [Bytes.length_ofText] at hbody
  refine (number_leads h field).andThen (hbody.andThen ?_)
  rw [Bytes.toText?_eq_some_iff.2 rfl]
  exact .refl _

end Reader

/-! ## The fields in front of the lines -/

open Layout Reader

namespace ReceiptRecord

/-- What is stored in front of the lines, field by field. -/
def frontRow (w : ReceiptRecord) : List (Field × Bytes) :=
  [(.magic, word16 magic), (.version, byte version), (.reserved, byte reserved),
    (.timestamp, word64 w.seconds), (.reportNumber, word32 w.reportNumber),
    (.transactionId, word32 w.sequence), (.registrationId, word32 w.registrationId),
    (.storeName, Bytes.ofNat 4 w.storeName.utf8ByteSize), (.storeName, Bytes.ofText w.storeName),
    (.storeAddress, Bytes.ofNat 4 w.storeAddress.utf8ByteSize),
    (.storeAddress, Bytes.ofText w.storeAddress), (.totalAmount, word32 w.totalAmount),
    (.paymentMethod, Bytes.ofNat 4 w.paymentMethod.utf8ByteSize),
    (.paymentMethod, Bytes.ofText w.paymentMethod), (.serial, word32 w.serial),
    (.itemCount, Bytes.ofNat 2 w.items.length)]

theorem bytes_eq_joined (w : ReceiptRecord) :
    w.bytes = joined w.frontRow ++ (itemBytes w.items ++ w.tax.bytes) := by
  simp [bytes, header, joined, frontRow, Layout.text]

theorem readStart_leads :
    Leads [(.magic, word16 magic), (.version, byte version), (.reserved, byte reserved)] readStart
      (pure ()) := by
  refine (word16_leads magic .magic).andThen ?_
  rw [if_neg (not_not.2 rfl)]
  refine (byte_leads version .version).andThen ?_
  rw [if_neg (not_not.2 rfl)]
  refine (byte_leads reserved .reserved).andThen ?_
  rw [if_neg (not_not.2 rfl)]
  exact .refl _

theorem readSeconds_leads {seconds : UInt64} (h : seconds.toNat ≤ Timestamp.maxSeconds) :
    Leads [(.timestamp, word64 seconds)] readSeconds (pure seconds) := by
  refine (word64_leads seconds .timestamp).andThen ?_
  rw [if_pos h]
  exact .refl _

/-- Behind the number of lines the bytes that are left are counted, and nothing else is read. -/
theorem readItemCount_leads (declared : UInt16) :
    ∃ counted, Leads [(.itemCount, word16 declared)] readItemCount counted ∧
      ∀ rest, rest.length ≠ trailingLength declared → counted rest =
        .error (.itemCountMismatch declared (trailingLength declared) rest.length) := by
  refine ⟨_, (word16_leads declared .itemCount).andThen (.refl _), fun rest hrest => ?_⟩
  simp [bind, Reader.andThen, remaining, fail, hrest]

/-- Through the fields in front of the lines, and on to the bytes that are left. -/
theorem read_leads {w : ReceiptRecord} (h : w.IsStorable) {declared : UInt16}
    (hdeclared : declared.toNat = w.items.length) :
    ∃ behind, Leads w.frontRow read behind ∧
      ∀ rest, rest.length ≠ trailingLength declared → behind rest =
        .error (.itemCountMismatch declared (trailingLength declared) rest.length) := by
  obtain ⟨counted, hcounted, hmismatch⟩ := readItemCount_leads declared
  rw [Layout.word16, hdeclared] at hcounted
  -- one reader after the other, as the fields lie
  refine ⟨_, readStart_leads.andThen <|
    (readSeconds_leads h.seconds).andThen <|
    (word32_leads w.reportNumber _).andThen <|
    (word32_leads w.sequence _).andThen <|
    (word32_leads w.registrationId _).andThen <|
    (text_leads h.storeName _).andThen <|
    (text_leads h.storeAddress _).andThen <|
    (word32_leads w.totalAmount _).andThen <|
    (text_leads h.paymentMethod _).andThen <|
    (word32_leads w.serial _).andThen <|
    hcounted.bind _, fun rest hrest => bind_error (hmismatch rest hrest) _⟩

end ReceiptRecord

/-! ## Where a decoded receipt ends -/

/-- The fields in front of the lines with their widths; a text stands behind its length, and both
go by the name of the text. -/
def Receipt.frontFields (r : Receipt) : List (Field × Nat) :=
  [(.magic, 2), (.version, 1), (.reserved, 1), (.timestamp, 8), (.reportNumber, 4),
    (.transactionId, 4), (.registrationId, 4),
    (.storeName, 4), (.storeName, r.storeName.utf8ByteSize),
    (.storeAddress, 4), (.storeAddress, r.storeAddress.utf8ByteSize), (.totalAmount, 4),
    (.paymentMethod, 4), (.paymentMethod, r.paymentMethod.utf8ByteSize), (.serial, 4),
    (.itemCount, 2)]

/-- The bytes behind the number of lines. -/
def Receipt.behindLength (r : Receipt) : Nat := 13 * r.items.length + 20

/-- What becomes of bytes, from which a receipt is decoded, with others behind them and with some
cut off: what is behind the number of lines is counted, unless a field in front of it is cut. -/
structure Receipt.Delimits (r : Receipt) (bytes : Bytes) (declared : UInt16) : Prop where
  declared_eq : declared.toNat = r.items.length
  extended : ∀ suffix, suffix ≠ [] → Receipt.decode (bytes ++ suffix) =
    .error (.itemCountMismatch declared r.behindLength (r.behindLength + suffix.length))
  cutBehind : ∀ count, 1 ≤ count → count ≤ r.behindLength →
    Receipt.decode (bytes.take (bytes.length - count)) =
      .error (.itemCountMismatch declared r.behindLength (r.behindLength - count))
  cutInFront : ∀ count, r.behindLength < count → count ≤ bytes.length → ∃ field,
    fieldAt? r.frontFields (bytes.length - count) = some field ∧
      Receipt.decode (bytes.take (bytes.length - count)) = .error (.truncated field)

theorem Receipt.decode_eq_error {bytes : Bytes} {e : CorruptReceipt}
    (h : ReceiptRecord.read bytes = .error e) : Receipt.decode bytes = .error e := by
  rw [Receipt.decode, ReceiptRecord.ofBytes, h]
  rfl

namespace ReceiptRecord

theorem widths_frontRow (w : ReceiptRecord) : widths w.frontRow = w.receipt.frontFields := by
  simp [widths, frontRow, Receipt.frontFields, receipt, Layout.word16, Layout.word32, Layout.word64,
    Layout.byte]

theorem length_receipt_items (w : ReceiptRecord) : w.receipt.items.length = w.items.length :=
  List.length_map _

theorem trailingLength_eq {w : ReceiptRecord} {declared : UInt16}
    (h : declared.toNat = w.items.length) : trailingLength declared = w.receipt.behindLength := by
  rw [trailingLength, h, Receipt.behindLength, w.length_receipt_items, Nat.mul_comm]
  rfl

theorem length_behind (w : ReceiptRecord) :
    (itemBytes w.items ++ w.tax.bytes).length = w.receipt.behindLength := by
  have htrailer := length_trailer w.items w.tax []
  rw [List.append_nil, List.length_nil, Nat.add_zero] at htrailer
  rw [htrailer, Receipt.behindLength, w.length_receipt_items, Nat.mul_comm]
  rfl

theorem delimits {w : ReceiptRecord} (h : w.IsStorable) :
    w.receipt.Delimits w.bytes (UInt16.ofNat w.items.length) := by
  have hdeclared : (UInt16.ofNat w.items.length).toNat = w.items.length := by
    rw [UInt16.toNat_ofNat', Nat.mod_eq_of_lt h.items]
  obtain ⟨behind, hleads, hmismatch⟩ := read_leads h hdeclared
  rw [trailingLength_eq hdeclared] at hmismatch
  have hlength := w.length_behind
  rw [w.bytes_eq_joined]
  generalize itemBytes w.items ++ w.tax.bytes = trailer at hlength ⊢
  constructor
  case declared_eq => rw [hdeclared, w.length_receipt_items]
  case extended =>
    intro suffix hsuffix
    have hmore : (trailer ++ suffix).length = w.receipt.behindLength + suffix.length := by
      rw [List.length_append, hlength]
    have hsome := List.length_pos_iff.2 hsuffix
    apply Receipt.decode_eq_error
    rw [List.append_assoc, hleads.whole, hmismatch _ (by omega), hmore]
  case cutBehind =>
    intro count hpos hle
    have hfewer : (trailer.take (trailer.length - count)).length =
        w.receipt.behindLength - count := by
      rw [List.length_take]
      omega
    apply Receipt.decode_eq_error
    rw [hleads.cut_behind (by omega), hmismatch _ (by omega), hfewer]
  case cutInFront =>
    intro count hlt hle
    obtain ⟨field, hfield, hmissed⟩ := hleads.cut_within (by omega) hle
    rw [widths_frontRow] at hfield
    exact ⟨field, hfield, Receipt.decode_eq_error hmissed⟩

end ReceiptRecord

/-! ## Signed receipts -/

theorem Signed.split_of_assemble {binary signature signed : Bytes}
    (h : Signed.assemble binary signature = .ok signed) :
    Signed.split signed = .ok (binary, signature) := by
  unfold Signed.assemble at h
  split at h
  · next hlength =>
    obtain rfl := Except.ok.inj h
    have hbinary : (binary ++ signature).length - signatureLength = binary.length := by
      rw [List.length_append, hlength, Nat.add_sub_cancel]
    have hlong : signatureLength ≤ (binary ++ signature).length := by
      rw [List.length_append, hlength]
      exact Nat.le_add_left _ _
    rw [Signed.split, if_pos hlong, hbinary, List.splitAt_eq, List.take_left, List.drop_left]
  · cases h

theorem Signed.assemble_of_split {signed binary signature : Bytes}
    (h : Signed.split signed = .ok (binary, signature)) :
    Signed.assemble binary signature = .ok signed := by
  unfold Signed.split at h
  split at h
  · next hlong =>
    rw [List.splitAt_eq] at h
    cases h
    have hlength : (signed.drop (signed.length - signatureLength)).length = signatureLength := by
      rw [List.length_drop, Nat.sub_sub_self hlong]
    rw [Signed.assemble, if_pos hlength, List.take_append_drop]
  · cases h

/-- **Nothing is decoded in place of a stored form.** Let a receipt with `n` lines be decoded from
some bytes, and let the lines and the tax breakdown take `13 * n + 20` of them. With other bytes
behind it, or with no more than those cut off, the error is that the bytes behind the number of
lines are not that many; with more cut off, it is that the field is missing in which the first byte
that was cut lies.

So a signature can be put behind the stored form of every receipt: the two are told apart again,
while the whole is not decoded. The two parts of any signed receipt make up the signed receipt. -/
theorem Receipt.decode_neither_cut_nor_extended :
    (∀ bytes r, Receipt.decode bytes = .ok r → ∃ declared, r.Delimits bytes declared) ∧
    (∀ (r : Receipt) (bytes signature : Bytes), r.encode = .ok bytes → signature.length = 64 →
      ∃ signed declared, Signed.assemble bytes signature = .ok signed ∧
        Signed.split signed = .ok (bytes, signature) ∧
        declared.toNat = r.items.length ∧
        Receipt.decode signed =
          .error (.itemCountMismatch declared r.behindLength (r.behindLength + 64))) ∧
    ∀ signed binary signature, Signed.split signed = .ok (binary, signature) ↔
      Signed.assemble binary signature = .ok signed := by
  refine ⟨fun bytes r h => ?_, fun r bytes signature hencode hlength => ?_,
    fun _ _ _ => ⟨Signed.assemble_of_split, Signed.split_of_assemble⟩⟩
  · obtain ⟨w, hstorable, rfl, rfl⟩ := Receipt.decode_eq_ok_iff.1 h
    exact ⟨_, ReceiptRecord.delimits hstorable⟩
  · obtain ⟨w, ⟨hstored, hstorable⟩, rfl⟩ := Receipt.encode_eq_ok_iff.1 hencode
    have hdelimits := ReceiptRecord.delimits hstorable
    have hitems : w.receipt.items.length = r.items.length :=
      w.length_receipt_items.trans hstored.items.length_eq.symm
    have hbehind : w.receipt.behindLength = r.behindLength := by
      rw [Receipt.behindLength, hitems, Receipt.behindLength]
    have hassemble : Signed.assemble w.bytes signature = .ok (w.bytes ++ signature) :=
      if_pos hlength
    have hdecode := hdelimits.extended signature (List.length_pos_iff.1 (by omega))
    rw [hbehind, hlength] at hdecode
    exact ⟨_, _, hassemble, Signed.split_of_assemble hassemble,
      hdelimits.declared_eq.trans hitems, hdecode⟩

/-- With a byte too many, without its lines and taxes, and cut within the name of the store. -/
theorem Receipt.decode_neither_cut_nor_extended_kiosk :
    Receipt.decode kiosk.bytes = .ok kiosk.receipt ∧
      Receipt.decode (kiosk.bytes ++ [0]) = .error (.itemCountMismatch 1 33 34) ∧
      Receipt.decode (kiosk.bytes.take 55) = .error (.itemCountMismatch 1 33 0) ∧
      Receipt.decode (kiosk.bytes.take 30) = .error (.truncated .storeName) ∧
      ∃ bytes signed, cornerShop.encode = .ok bytes ∧
        Signed.split signed = .ok (bytes, List.replicate 64 7) ∧
        Signed.assemble bytes (List.replicate 64 7) = .ok signed ∧
        Receipt.decode signed = .error (.itemCountMismatch 2 46 110) := by
  have hdecode : Receipt.decode kiosk.bytes = .ok kiosk.receipt :=
    Receipt.decode_eq_ok_iff.2 ⟨kiosk, kiosk_isStorable, rfl, rfl⟩
  obtain ⟨hends, hsigned, hparts⟩ := Receipt.decode_neither_cut_nor_extended
  obtain ⟨declared, hkiosk⟩ := hends _ _ hdecode
  obtain rfl : declared = 1 := UInt16.toNat_inj.1 hkiosk.declared_eq
  have hlength : kiosk.bytes.length = 88 := by decide +kernel
  obtain ⟨field, hfield, hname⟩ := hkiosk.cutInFront 58 (by decide) (by rw [hlength]; decide)
  obtain rfl : Field.storeName = field := Option.some.inj (by rw [← hfield, hlength]; decide)
  have hlines := hkiosk.cutBehind 33 (by decide) (by decide)
  rw [hlength] at hname hlines
  have hok : cornerShop.encode.isOk = true := by decide +kernel
  cases h : cornerShop.encode with
  | error e => rw [h] at hok; cases hok
  | ok bytes =>
    obtain ⟨signed, declared, hassemble, -, hdeclared, hwhole⟩ :=
      hsigned cornerShop bytes (List.replicate 64 7) h (List.length_replicate)
    obtain rfl : declared = 2 := UInt16.toNat_inj.1 hdeclared
    exact ⟨hdecode, hkiosk.extended [0] (by decide), hlines, hname, bytes, signed, rfl,
      (hparts _ _ _).2 hassemble, hassemble, hwhole⟩

end SealedReceipts
