import SealedReceipts.Proofs.Checks.FirstFault
import SealedReceipts.Proofs.Receipt.Encoding
import SealedReceipts.Proofs.Receipt.IdentifierForm
import SealedReceipts.Proofs.Receipt.RoundTrip

/-!
# Which receipts are refused, and why

`Receipt.conditions` lists what a receipt with texts of storable length must fulfil to be encoded,
in the order in which it is looked at. A receipt is encoded exactly if all conditions hold, and the
error of one that is not is that of the first that does not (`Receipt.encode_stops_at_first_fault`).
-/

namespace SealedReceipts

open Checks
open Identifier (Spells SpellsTransaction)

/-! ## The conditions -/

/-- The amount must have a count of minor units. -/
def Money.condition (field : Field) (amount : Binary64) : Condition EncodeError :=
  ⟨∃ minor, Money.toMinor? amount = some minor, .amountOutOfRange field amount⟩

/-- The amounts of a line: the unit price before the total. -/
def LineItem.conditions (item : LineItem) : List (Condition EncodeError) :=
  [Money.condition .unitPrice item.unitPrice, Money.condition .totalPrice item.totalPrice]

/-- The amounts of a tax breakdown: those at the reduced rate, those at the standard rate, and the
total. -/
def TaxBreakdown.conditions (tax : TaxBreakdown) : List (Condition EncodeError) :=
  [Money.condition .taxableAmount tax.reduced.taxableAmount,
    Money.condition .taxAmount tax.reduced.taxAmount,
    Money.condition .taxableAmount tax.standard.taxableAmount,
    Money.condition .taxAmount tax.standard.taxAmount,
    Money.condition .totalTax tax.totalTax]

/-- What a receipt must fulfil to be encoded, in order. The date in a transaction id is looked at
when the id has its form. -/
def Receipt.conditions (r : Receipt) : List (Condition EncodeError) :=
  [⟨∃ n, Spells ['Z'] r.reportNumber n, .invalidPattern .reportNumber r.reportNumber⟩,
    ⟨∃ day n, SpellsTransaction r.transactionId day n,
      .invalidPattern .transactionId r.transactionId⟩,
    ⟨∃ n, SpellsTransaction r.transactionId r.timestamp.date n,
      .transactionDateMismatch r.transactionId r.timestamp.date.compact⟩,
    ⟨∃ n, Spells [] r.registrationId n, .invalidPattern .registrationId r.registrationId⟩,
    ⟨∃ n, Spells ['F'] r.serial n, .invalidPattern .serial r.serial⟩,
    ⟨0 ≤ r.timestamp.seconds, .timestampBeforeEpoch r.timestamp⟩,
    ⟨r.items.length ≤ 65535, .tooManyItems r.items.length⟩,
    Money.condition .totalAmount r.totalAmount] ++
  (r.items.flatMap LineItem.conditions ++ r.taxBreakdown.conditions)

/-- The text must have a number of bytes that can be stored. -/
def Receipt.textCondition (field : Field) (text : String) : Condition EncodeError :=
  ⟨text.utf8ByteSize < 4294967296, .stringTooLong field text.utf8ByteSize⟩

/-- The conditions on what is stamped on a receipt: its identifiers and its moment. -/
def Receipt.stampConditions (r : Receipt) : List (Condition EncodeError) := r.conditions.take 6

/-- The conditions on all else: the number of lines, the texts and the amounts. -/
def Receipt.contentConditions (r : Receipt) : List (Condition EncodeError) :=
  ⟨r.items.length ≤ 65535, .tooManyItems r.items.length⟩ :: textCondition .storeName r.storeName ::
    textCondition .storeAddress r.storeAddress :: Money.condition .totalAmount r.totalAmount ::
    textCondition .paymentMethod r.paymentMethod ::
    (r.items.flatMap LineItem.conditions ++ r.taxBreakdown.conditions)

/-- What a receipt with texts of any length must fulfil to be encoded, in order. -/
def Receipt.allConditions (r : Receipt) : List (Condition EncodeError) :=
  r.stampConditions ++ r.contentConditions

/-! ## Each check has its condition -/

namespace Receipt

theorem checkPattern_ruled {field : Field} {value : String} {read : String → Option UInt32}
    {form : UInt32 → Prop} (hread : ∀ n, read value = some n ↔ form n) :
    Ruled [⟨∃ n, form n, .invalidPattern field value⟩] (checkPattern field value read) := by
  refine .single (fun n h => ⟨n, (hread n).1 (checkPattern_eq_ok.1 h)⟩) fun other h => ?_
  unfold checkPattern at h
  split at h
  · cases h
  · next hnone =>
    refine ⟨?_, Except.error.inj h⟩
    rintro ⟨n, hform⟩
    cases hnone.symm.trans ((hread n).2 hform)

/-- The form of a transaction id is looked at before its date. -/
theorem checkTransactionId_ruled (id : String) (t : Timestamp) :
    Ruled [⟨∃ day n, SpellsTransaction id day n, .invalidPattern .transactionId id⟩,
      ⟨∃ n, SpellsTransaction id t.date n, .transactionDateMismatch id t.date.compact⟩]
      (checkTransactionId id t) := by
  refine ⟨fun n h => ?_, fun fault h => ?_⟩
  · have hspells := Identifier.transactionId?_eq_ok_iff.1 (checkTransactionId_eq_ok.1 h)
    exact List.forall_mem_cons.2 ⟨⟨_, n, hspells⟩, by simpa using ⟨n, hspells⟩⟩
  · unfold checkTransactionId at h
    split at h
    · cases h
    · next hpattern =>
      cases h
      exact .here (Identifier.transactionId?_eq_pattern_iff.1 hpattern)
    · next expected hdate =>
      cases h
      obtain ⟨hform, hother, rfl⟩ := Identifier.transactionId?_eq_date_iff.1 hdate
      exact .behind hform (.here hother)

theorem checkSeconds_ruled (t : Timestamp) :
    Ruled [⟨0 ≤ t.seconds, .timestampBeforeEpoch t⟩] (checkSeconds t) := by
  unfold checkSeconds
  split
  · next hneg => exact .single (fun _ h => by cases h) fun _ h => ⟨by omega, Except.error.inj h⟩
  · next hnonneg => exact .single (fun _ _ => by omega) fun _ h => by cases h

theorem checkItemCount_ruled (items : List LineItem) :
    Ruled [⟨items.length ≤ 65535, .tooManyItems items.length⟩] (checkItemCount items) := by
  have hmax : Layout.maxItems = 65535 := rfl
  unfold checkItemCount
  split
  · next hle => exact .single (fun _ _ => hmax ▸ hle) fun _ h => by cases h
  · next hlt => exact .single (fun _ h => by cases h) fun _ h => ⟨hmax ▸ hlt, Except.error.inj h⟩

theorem checkText_ruled (field : Field) (text : String) :
    Ruled [textCondition field text] (checkText field text) := by
  refine .single (fun s h => (checkText_eq_ok.1 h).1) fun other h => ?_
  unfold checkText at h
  split at h
  · cases h
  · next hlong => exact ⟨fun hfits => hlong (Nat.le_of_lt_succ hfits), Except.error.inj h⟩

theorem checkAmount_ruled (field : Field) (amount : Binary64) :
    Ruled [Money.condition field amount] (checkAmount field amount) := by
  refine .single (fun minor h => ⟨minor, checkAmount_eq_ok.1 h⟩) fun other h => ?_
  unfold checkAmount at h
  split at h
  · cases h
  · next hnone =>
    refine ⟨?_, Except.error.inj h⟩
    rintro ⟨minor, hminor⟩
    cases hnone.symm.trans hminor

/-! ## The whole receipt -/

theorem lineRecord_ruled (item : LineItem) : Ruled item.conditions (lineRecord item) := by
  refine (checkAmount_ruled .unitPrice item.unitPrice).bind fun _ _ => ?_
  exact (checkAmount_ruled .totalPrice item.totalPrice).bind fun _ _ => .ok _

theorem taxRecord_ruled (tax : TaxBreakdown) : Ruled tax.conditions (taxRecord tax) := by
  refine (checkAmount_ruled .taxableAmount tax.reduced.taxableAmount).bind fun _ _ => ?_
  refine (checkAmount_ruled .taxAmount tax.reduced.taxAmount).bind fun _ _ => ?_
  refine (checkAmount_ruled .taxableAmount tax.standard.taxableAmount).bind fun _ _ => ?_
  refine (checkAmount_ruled .taxAmount tax.standard.taxAmount).bind fun _ _ => ?_
  exact (checkAmount_ruled .totalTax tax.totalTax).bind fun _ _ => .ok _

/-- The three texts of a receipt are short enough to be stored. -/
structure TextsFit (r : Receipt) : Prop where
  storeName : r.storeName.utf8ByteSize < 4294967296
  storeAddress : r.storeAddress.utf8ByteSize < 4294967296
  paymentMethod : r.paymentMethod.utf8ByteSize < 4294967296

/-- The checks of a receipt, whatever the length of its texts. -/
theorem record_allRuled (r : Receipt) : Ruled r.allConditions r.record := by
  refine (checkPattern_ruled fun n => Identifier.reportNumber?_eq_some_iff).bind fun _ _ => ?_
  refine (checkTransactionId_ruled r.transactionId r.timestamp).bind fun _ _ => ?_
  refine (checkPattern_ruled fun n => Identifier.registrationId?_eq_some_iff).bind fun _ _ => ?_
  refine (checkPattern_ruled fun n => Identifier.serial?_eq_some_iff).bind fun _ _ => ?_
  refine (checkSeconds_ruled r.timestamp).bind fun _ _ => ?_
  refine (checkItemCount_ruled r.items).bind fun _ _ => ?_
  refine (checkText_ruled .storeName r.storeName).bind fun _ _ => ?_
  refine (checkText_ruled .storeAddress r.storeAddress).bind fun _ _ => ?_
  refine (checkAmount_ruled .totalAmount r.totalAmount).bind fun _ _ => ?_
  refine (checkText_ruled .paymentMethod r.paymentMethod).bind fun _ _ => ?_
  refine (Ruled.mapM lineRecord_ruled r.items).bind fun _ _ => ?_
  rw [← List.append_nil r.taxBreakdown.conditions]
  exact (taxRecord_ruled r.taxBreakdown).bind fun _ _ => .ok _

theorem record_ruled {r : Receipt} (h : r.TextsFit) : Ruled r.conditions r.record :=
  -- the conditions on the texts stand behind seven, seven and eight others
  (((record_allRuled r).drop 7 rfl h.storeName).drop 7 rfl h.storeAddress).drop 8 rfl h.paymentMethod

end Receipt

/-! ## The length -/

theorem Layout.length_text (s : String) : (text s).length = 4 + s.utf8ByteSize := by
  rw [text, List.length_append, Bytes.length_ofNat, Bytes.length_ofText]

/-- A stored form has 66 bytes, the bytes of its texts, and 13 a line. -/
theorem ReceiptRecord.length_bytes (w : ReceiptRecord) :
    w.bytes.length = Layout.fixedLength + w.textLength + Layout.itemLength * w.items.length := by
  simp only [bytes, header, List.length_append, Layout.word16, Layout.byte, Layout.word64,
    Layout.word32, Layout.length_text, Bytes.length_ofNat, List.length_singleton, length_itemBytes,
    TaxRecord.length_bytes, Layout.taxLength, Layout.fixedLength, textLength]
  omega

namespace Receipt

/-- **Which receipts are encoded, and what stands against the others.** Of a receipt whose texts
have fewer than `2 ^ 32` bytes:

* it is encoded exactly if its identifiers have their forms with numbers of 32 bits, its transaction
  id bears the day of its moment, its second is not negative, it has at most 65535 lines, and every
  amount has a count of minor units;
* if it is not, the error is that of the first of these conditions that does not hold, in the order
  in which `Receipt.conditions` lists them;
* if it is, the stored form has 66 bytes, the bytes of the three texts, and 13 for each line. -/
theorem encode_stops_at_first_fault {r : Receipt} (h : r.TextsFit) :
    ((∃ bytes, r.encode = .ok bytes) ↔ ∀ c ∈ r.conditions, c.holds) ∧
    (∀ error, r.encode = .error error ↔ FirstFault r.conditions error) ∧
    ∀ bytes, r.encode = .ok bytes →
      bytes.length = 66 + (r.storeName.utf8ByteSize + r.storeAddress.utf8ByteSize +
        r.paymentMethod.utf8ByteSize) + 13 * r.items.length := by
  have hruled : Ruled r.conditions r.encode := (record_ruled h).map ReceiptRecord.bytes
  refine ⟨hruled.exists_ok_iff, fun error => hruled.eq_error_iff, fun bytes hencode => ?_⟩
  obtain ⟨w, ⟨hstored, -⟩, rfl⟩ := encode_eq_ok_iff.1 hencode
  rw [w.length_bytes, ReceiptRecord.textLength, hstored.storeName, hstored.storeAddress,
    hstored.paymentMethod, ← hstored.items.length_eq]
  rfl

/-- A receipt of the last day before 1970, dated a day too late, with a serial without its letter
and a line that cannot be paid. -/
def manyFaults : Receipt :=
  Receipt.finalize
    { reportNumber := "Z0007", transactionId := "TX197001010042", timestamp := ⟨-1, 0⟩,
      registrationId := "0123456789", storeName := "Café", storeAddress := "", serial := "0042" }
    [LineItem.ofPrice 1 2 (Binary64.ofNat 30000000) .standard] "CARD"

/-- Of many faults the first is told, and the lengths add up where there is none. -/
theorem encode_stops_at_first_fault_shops :
    (manyFaults.TextsFit ∧ FirstFault manyFaults.conditions
      (.transactionDateMismatch "TX197001010042" "19691231")) ∧
    cornerShop.TextsFit ∧ (∀ c ∈ cornerShop.conditions, c.holds) ∧
      ∃ bytes, cornerShop.encode = .ok bytes ∧ bytes.length = 66 + (5 + 0 + 4) + 13 * 2 := by
  have hfaults : manyFaults.TextsFit := ⟨by decide, by decide, by decide⟩
  have hcorner : cornerShop.TextsFit := ⟨by decide, by decide, by decide⟩
  have herror : manyFaults.encode =
      .error (.transactionDateMismatch "TX197001010042" "19691231") := by decide +kernel
  have hok : ∃ bytes, cornerShop.encode = .ok bytes := by
    have hok : cornerShop.encode.isOk = true := by decide +kernel
    cases h : cornerShop.encode with
    | error e => rw [h] at hok; cases hok
    | ok bytes => exact ⟨bytes, rfl⟩
  obtain ⟨hall, -, hlength⟩ := encode_stops_at_first_fault hcorner
  obtain ⟨bytes, hbytes⟩ := hok
  exact ⟨⟨hfaults, ((encode_stops_at_first_fault hfaults).2.1 _).1 herror⟩, hcorner,
    hall.1 ⟨bytes, hbytes⟩, bytes, hbytes, hlength bytes hbytes⟩

end Receipt

end SealedReceipts
