import SealedReceipts.Proofs.Receipt.Positions

/-!
# What is refused in decoding

`ReceiptRecord.conditions` lists what bytes must fulfil to be decoded, in the order in which they
are read. Each condition names its position: the first fields have fixed ones, and behind each text
the positions depend on the length that is written in front of it. The number of lines is checked
against the bytes that are left, so from there on all bytes are known to be there, and only a tax
rate can still be refused. Bytes that are refused are refused with the fault of the first condition
that does not hold (`Receipt.decode_refuses_in_order`).
-/

namespace SealedReceipts

open Reader Checks

theorem TaxRate.exists_ofPercent_eq_ok {value : UInt8} :
    (∃ rate, ofPercent value = .ok rate) ↔ value = 10 ∨ value = 20 := by
  simp only [ofPercent_eq_ok]
  constructor
  · rintro ⟨_ | _, rfl⟩
    · exact .inl rfl
    · exact .inr rfl
  · rintro (rfl | rfl)
    · exact ⟨.reduced, rfl⟩
    · exact ⟨.standard, rfl⟩

namespace ReceiptRecord

variable {bytes : Bytes} {start : Nat}

/-! ## The lines and the taxes -/

/-- The tax rate of the line at `index` is one of the two, where the lines begin at `start`. -/
def rateCondition (bytes : Bytes) (start index : Nat) : Condition CorruptReceipt :=
  let value := bytes.numberAt (start + 13 * index + 12) 1
  ⟨value = 10 ∨ value = 20, .unknownTaxRate index (UInt8.ofNat value)⟩

theorem rateCondition_holds (bytes : Bytes) (start index : Nat) :
    (rateCondition bytes start index).holds ↔
      ∃ rate, TaxRate.ofPercent (UInt8.ofNat (bytes.numberAt (start + 13 * index + 12) 1)) =
        .ok rate := by
  rw [TaxRate.exists_ofPercent_eq_ok, ← UInt8.toNat_inj, ← UInt8.toNat_inj, bytes.toNat_byteAt]
  rfl

/-- A line that is there is refused for its rate only. -/
theorem readItem_ruledAt {index : Nat} (h : start + 13 * index + 13 ≤ bytes.length) :
    RuledAt bytes (start + 13 * index) (start + 13 * (index + 1)) [rateCondition bytes start index]
      (fun _ => True) (readItem index) := by
  refine (word_ruledAt_of_present 2 (by omega) .categoryId UInt16.ofNat).bind ?_
  rintro categoryId - -
  refine (word_ruledAt_of_present 2 (by omega) .quantity UInt16.ofNat).bind ?_
  rintro quantity - -
  refine (word_ruledAt_of_present 4 (by omega) .unitPrice UInt32.ofNat).bind ?_
  rintro unitPrice - -
  refine (word_ruledAt_of_present 4 (by omega) .totalPrice UInt32.ofNat).bind ?_
  rintro totalPrice - -
  refine (word_ruledAt_of_present 1 (by omega) .taxRate UInt8.ofNat).bind ?_
  rintro _ rfl hstop
  have hholds := rateCondition_holds bytes start index
  cases hrate : TaxRate.ofPercent
      (UInt8.ofNat (bytes.numberAt (start + 13 * index + 2 + 2 + 4 + 4) 1)) with
  | ok rate => exact .cons (hholds.2 ⟨rate, hrate⟩) (.pure trivial hstop)
  | error unknown =>
    refine .refuse (fun hc => ?_) rfl
    obtain ⟨rate, hok⟩ := hholds.1 hc
    cases hok.symm.trans hrate

theorem readItems_succ (count index : Nat) (read : List LineRecord) :
    readItems (count + 1) index read =
      readItem index >>= fun item => readItems count (index + 1) (item :: read) := by
  funext bytes
  change _ = andThen _ _ bytes
  rw [readItems, andThen]
  rcases readItem index bytes with _ | ⟨item, rest⟩ <;> rfl

/-- Lines that are there are refused for their rates, one after another. -/
theorem readItems_ruledAt (count index : Nat) (read : List LineRecord)
    (h : start + 13 * (index + count) ≤ bytes.length) :
    RuledAt bytes (start + 13 * index) (start + 13 * (index + count))
      ((List.range' index count).map (rateCondition bytes start)) (fun _ => True)
      (readItems count index read) := by
  induction count generalizing index read with
  | zero => exact .pure trivial h
  | succ count ih =>
    rw [readItems_succ, List.range'_succ, List.map_cons, ← List.singleton_append]
    refine (readItem_ruledAt (by omega)).bind fun item _ _ => ?_
    have hend : index + (count + 1) = index + 1 + count := by omega
    rw [hend]
    exact ih (index + 1) (item :: read) (by omega)

/-- Taxes that are there are not refused. -/
theorem readTax_ruledAt (h : start + 20 ≤ bytes.length) :
    RuledAt bytes start (start + 20) [] (fun _ => True) readTax := by
  refine (word_ruledAt_of_present 4 (by omega) .taxableAmount UInt32.ofNat).bind ?_
  rintro reducedBase - -
  refine (word_ruledAt_of_present 4 (by omega) .taxAmount UInt32.ofNat).bind ?_
  rintro reducedTax - -
  refine (word_ruledAt_of_present 4 (by omega) .taxableAmount UInt32.ofNat).bind ?_
  rintro standardBase - -
  refine (word_ruledAt_of_present 4 (by omega) .taxAmount UInt32.ofNat).bind ?_
  rintro standardTax - -
  exact (word_ruledAt_of_present 4 (by omega) .totalTax UInt32.ofNat).map fun _ _ => trivial

/-! ## The front -/

/-- The magic number, the version and the reserved byte, each checked as soon as it is there. -/
def startConditions (bytes : Bytes) : List (Condition CorruptReceipt) :=
  [present bytes .magic 2,
    ⟨bytes.numberAt 0 2 = 0x5452, .badMagic (UInt16.ofNat (bytes.numberAt 0 2))⟩,
    present bytes .version 3,
    ⟨bytes.numberAt 2 1 = 1, .unsupportedVersion (UInt8.ofNat (bytes.numberAt 2 1))⟩,
    present bytes .reserved 4,
    ⟨bytes.numberAt 3 1 = 0, .reservedByteSet (UInt8.ofNat (bytes.numberAt 3 1))⟩]

theorem readStart_ruledAt (bytes : Bytes) :
    RuledAt bytes 0 4 (startConditions bytes) (fun _ => True) readStart := by
  refine (word_ruledAt (Nat.zero_le _) 2 .magic UInt16.ofNat).bind ?_
  rintro _ rfl hmagic
  refine .check ?_ rfl fun _ => ?_
  · rw [not_not, ← UInt16.toNat_inj, bytes.toNat_word16At]
    rfl
  refine (word_ruledAt hmagic 1 .version UInt8.ofNat).bind ?_
  rintro _ rfl hversion
  refine .check ?_ rfl fun _ => ?_
  · rw [not_not, ← UInt8.toNat_inj, bytes.toNat_byteAt]
    rfl
  refine (word_ruledAt hversion 1 .reserved UInt8.ofNat).bind ?_
  rintro _ rfl hreserved
  refine .check ?_ rfl fun _ => .pure trivial hreserved
  rw [not_not, ← UInt8.toNat_inj, bytes.toNat_byteAt]
  rfl

/-- The second is there and is one of the calendar. -/
def secondsConditions (bytes : Bytes) (start : Nat) : List (Condition CorruptReceipt) :=
  [present bytes .timestamp (start + 8),
    ⟨bytes.numberAt start 8 ≤ 8210266876799,
      .timestampOutOfRange (UInt64.ofNat (bytes.numberAt start 8))⟩]

theorem readSeconds_ruledAt (hstart : start ≤ bytes.length) :
    RuledAt bytes start (start + 8) (secondsConditions bytes start) (fun _ => True)
      readSeconds := by
  refine (word_ruledAt hstart 8 .timestamp UInt64.ofNat).bind ?_
  rintro _ rfl hseconds
  rw [← ite_not]
  refine .check ?_ rfl fun _ => .pure trivial hseconds
  have hmax : Timestamp.maxSeconds = 8210266876799 := by decide
  rw [not_not, bytes.toNat_word64At, hmax]

/-- The number of lines is there, and the bytes behind it are as many as so many lines and the
taxes take. -/
def countConditions (bytes : Bytes) (start : Nat) : List (Condition CorruptReceipt) :=
  let declared := bytes.numberAt start 2
  [present bytes .itemCount (start + 2),
    ⟨bytes.length - (start + 2) = 13 * declared + 20,
      .itemCountMismatch (UInt16.ofNat declared) (13 * declared + 20)
        (bytes.length - (start + 2))⟩]

theorem readItemCount_ruledAt (hstart : start ≤ bytes.length) :
    RuledAt bytes start (start + 2) (countConditions bytes start)
      (fun declared => declared.toNat = bytes.numberAt start 2 ∧
        start + 2 + 13 * bytes.numberAt start 2 + 20 = bytes.length)
      readItemCount := by
  have hdeclared := bytes.toNat_word16At start
  have htrailing : trailingLength (UInt16.ofNat (bytes.numberAt start 2)) =
      13 * bytes.numberAt start 2 + 20 := by
    rw [trailingLength, hdeclared, Nat.mul_comm]
    rfl
  refine (word_ruledAt hstart 2 .itemCount UInt16.ofNat).bind ?_
  rintro _ rfl hcount
  refine (remaining_ruledAt hcount).bind ?_
  rintro _ rfl -
  rw [htrailing]
  refine .check not_not.symm rfl fun hlength => .pure ⟨hdeclared, ?_⟩ hcount
  dsimp only at hlength
  omega

/-! ## The whole form -/

/-- Where the address of the store begins, behind its name. -/
def storeAddressAt (bytes : Bytes) : Nat := textEnd bytes 24

def totalAmountAt (bytes : Bytes) : Nat := textEnd bytes (storeAddressAt bytes)

def paymentMethodAt (bytes : Bytes) : Nat := totalAmountAt bytes + 4

def serialAt (bytes : Bytes) : Nat := textEnd bytes (paymentMethodAt bytes)

def itemCountAt (bytes : Bytes) : Nat := serialAt bytes + 4

/-- Where the lines begin. -/
def linesAt (bytes : Bytes) : Nat := itemCountAt bytes + 2

/-- How many lines are announced. -/
def declaredLines (bytes : Bytes) : Nat := bytes.numberAt (itemCountAt bytes) 2

/-- The byte for the tax rate of a line. -/
def rateAt (bytes : Bytes) (index : Nat) : Nat := bytes.numberAt (linesAt bytes + 13 * index + 12) 1

/-- What is asked of the bytes in front of the lines, and of how many there are behind. -/
def frontConditions (bytes : Bytes) : List (Condition CorruptReceipt) :=
  startConditions bytes ++ secondsConditions bytes 4 ++
    [present bytes .reportNumber 16, present bytes .transactionId 20,
      present bytes .registrationId 24] ++
    textConditions bytes .storeName 24 ++
    textConditions bytes .storeAddress (storeAddressAt bytes) ++
    [present bytes .totalAmount (totalAmountAt bytes + 4)] ++
    textConditions bytes .paymentMethod (paymentMethodAt bytes) ++
    [present bytes .serial (serialAt bytes + 4)] ++
    countConditions bytes (itemCountAt bytes)

/-- What is asked of a stored form, in the order in which it is read. -/
def conditions (bytes : Bytes) : List (Condition CorruptReceipt) :=
  frontConditions bytes ++
    (List.range (declaredLines bytes)).map (rateCondition bytes (linesAt bytes))

theorem read_ruledAt (bytes : Bytes) :
    RuledAt bytes 0 bytes.length (conditions bytes) (fun _ => True) read := by
  unfold conditions frontConditions
  simp only [List.append_assoc]
  refine (readStart_ruledAt bytes).bind fun _ _ hstart => ?_
  refine (readSeconds_ruledAt hstart).bind fun seconds _ hseconds => ?_
  refine (word_ruledAt hseconds 4 .reportNumber UInt32.ofNat).bind fun report _ hreport => ?_
  refine (word_ruledAt hreport 4 .transactionId UInt32.ofNat).bind fun sequence _ hsequence => ?_
  refine (word_ruledAt hsequence 4 .registrationId UInt32.ofNat).bind
    fun registration _ hregistration => ?_
  refine (text_ruledAt hregistration .storeName).bind fun name _ hname => ?_
  refine (text_ruledAt hname .storeAddress).bind fun address _ haddress => ?_
  refine (word_ruledAt haddress 4 .totalAmount UInt32.ofNat).bind fun total _ htotal => ?_
  refine (text_ruledAt htotal .paymentMethod).bind fun method _ hmethod => ?_
  refine (word_ruledAt hmethod 4 .serial UInt32.ofNat).bind fun serial _ hserial => ?_
  refine (readItemCount_ruledAt hserial).bind ?_
  rintro declared ⟨hdeclared, hlength⟩ -
  -- from here on the bytes are known to be there
  have hend : linesAt bytes + 13 * (0 + declaredLines bytes) + 20 = bytes.length := by
    rw [Nat.zero_add]
    exact hlength
  have hitems : linesAt bytes + 13 * (0 + declaredLines bytes) ≤ bytes.length := by omega
  rw [hdeclared, ← hend, List.range_eq_range', ← List.append_nil (List.map _ _)]
  refine (readItems_ruledAt (declaredLines bytes) 0 [] hitems).bind fun items _ _ => ?_
  exact (readTax_ruledAt hend.le).map fun _ _ => trivial

/-! ## What the faults of the front are -/

/-- The fields of the lines and of the taxes. -/
def behindFields : List Field :=
  [.categoryId, .quantity, .unitPrice, .totalPrice, .taxRate, .taxableAmount, .taxAmount, .totalTax]

/-- In front of the lines no rate is read, and no field from behind is missed. -/
theorem fault_in_front (bytes : Bytes) : ∀ c ∈ frontConditions bytes,
    (∀ index value, c.fault ≠ .unknownTaxRate index value) ∧
      ∀ field ∈ behindFields, c.fault ≠ .truncated field := by
  simp [frontConditions, startConditions, secondsConditions, textConditions, countConditions,
    present, behindFields]

/-- Where the conditions in front hold, the announced lines and the taxes are all that is left. -/
theorem length_of_front (h : ∀ c ∈ frontConditions bytes, c.holds) :
    linesAt bytes + 13 * declaredLines bytes + 20 = bytes.length := by
  have hcount : ∀ c ∈ countConditions bytes (itemCountAt bytes), c.holds :=
    fun c hc => h c (List.mem_append_right _ hc)
  have hpresent : linesAt bytes ≤ bytes.length := hcount _ List.mem_cons_self
  have hleft : bytes.length - linesAt bytes = 13 * declaredLines bytes + 20 :=
    hcount _ (List.mem_cons_of_mem _ List.mem_cons_self)
  omega

/-- Behind the first lines the bytes of the other lines and of the taxes are left. -/
theorem length_behind_lines (h : ∀ c ∈ frontConditions bytes, c.holds) {count : Nat}
    (hcount : count ≤ declaredLines bytes) {items : List LineRecord} {rest : Bytes}
    (hread : readItems count 0 [] (bytes.drop (linesAt bytes)) = .ok (items, rest)) :
    rest.length = 13 * (declaredLines bytes - count) + 20 := by
  have hlength := length_of_front h
  have hthere : linesAt bytes + 13 * (0 + count) ≤ bytes.length := by omega
  obtain ⟨-, rfl, hstop⟩ := (readItems_ruledAt count 0 [] hthere).value items rest hread
  rw [List.length_drop]
  omega

end ReceiptRecord

open ReceiptRecord

namespace Receipt

theorem decode_ruled (bytes : Bytes) : Ruled (conditions bytes) (decode bytes) := by
  have hread := (read_ruledAt bytes).ruled
  rw [List.drop_zero] at hread
  exact (hread.map Prod.fst).map ReceiptRecord.receipt

/-- A rate is refused exactly if all in front is in order and it is the first that is neither of
the two. -/
theorem decode_unknownTaxRate_iff {bytes : Bytes} {index : Nat} {value : UInt8} :
    decode bytes = .error (.unknownTaxRate index value) ↔
      (∀ c ∈ frontConditions bytes, c.holds) ∧ index < declaredLines bytes ∧
        (∀ earlier < index, rateAt bytes earlier = 10 ∨ rateAt bytes earlier = 20) ∧
        ¬ (rateAt bytes index = 10 ∨ rateAt bytes index = 20) ∧
        rateAt bytes index = value.toNat := by
  have hfront : ¬ FirstFault (frontConditions bytes) (.unknownTaxRate index value) := by
    intro h
    obtain ⟨c, hc, -, hfault⟩ := h.exists_mem
    exact (fault_in_front bytes c hc).1 index value hfault
  have hfault : ∀ i, (rateCondition bytes (linesAt bytes) i).fault = .unknownTaxRate index value ↔
      i = index ∧ rateAt bytes i = value.toNat := by
    intro i
    have hvalue : UInt8.ofNat (rateAt bytes i) = value ↔ rateAt bytes i = value.toNat := by
      rw [← UInt8.toNat_inj, rateAt, bytes.toNat_byteAt]
    rw [← hvalue, rateCondition, CorruptReceipt.unknownTaxRate.injEq]
    rfl
  rw [(decode_ruled bytes).eq_error_iff, conditions, FirstFault.append_iff, or_iff_right hfront,
    FirstFault.map_range_iff]
  refine and_congr_right fun _ => ?_
  simp only [hfault]
  constructor
  · rintro ⟨i, hi, hbefore, hfails, rfl, hvalue⟩
    exact ⟨hi, hbefore, hfails, hvalue⟩
  · rintro ⟨hi, hbefore, hfails, hvalue⟩
    exact ⟨index, hi, hbefore, hfails, rfl, hvalue⟩

theorem decode_ne_truncated_behind (bytes : Bytes) {field : Field} (hfield : field ∈ behindFields) :
    decode bytes ≠ .error (.truncated field) := by
  intro h
  rcases FirstFault.append_iff.1 ((decode_ruled bytes).eq_error_iff.1 h) with hfront | ⟨-, hrate⟩
  · obtain ⟨c, hc, -, hfault⟩ := hfront.exists_mem
    exact (fault_in_front bytes c hc).2 field hfield hfault
  · obtain ⟨index, -, -, -, hfault⟩ := FirstFault.map_range_iff.1 hrate
    cases hfault

/-- **Decoding reports the first check that fails.** Of any bytes:

* they are refused with a fault exactly if it is that of the first condition that does not hold, in
  the order in which the fields are read, and they are decoded exactly if all conditions hold;
* the fault of a tax rate names the first line whose rate is neither of the two, and that rate, and
  it is given exactly if everything in front of the lines is in order;
* no field of the lines or of the taxes is ever missed;
* the length that so many lines and the taxes take stays small, and where everything in front of the
  lines is in order it is that of the bytes left: behind any first lines that are read there are
  just those of the other lines and of the taxes. -/
theorem decode_refuses_in_order (bytes : Bytes) :
    (∀ fault, decode bytes = .error fault ↔ FirstFault (conditions bytes) fault) ∧
    ((∃ r, decode bytes = .ok r) ↔ ∀ c ∈ conditions bytes, c.holds) ∧
    (∀ index value, decode bytes = .error (.unknownTaxRate index value) ↔
      (∀ c ∈ frontConditions bytes, c.holds) ∧ index < declaredLines bytes ∧
        (∀ earlier < index, rateAt bytes earlier = 10 ∨ rateAt bytes earlier = 20) ∧
        ¬ (rateAt bytes index = 10 ∨ rateAt bytes index = 20) ∧
        rateAt bytes index = value.toNat) ∧
    (∀ field ∈ behindFields, decode bytes ≠ .error (.truncated field)) ∧
    (∀ declared, trailingLength declared ≤ 13 * 65535 + 20) ∧
    ((∀ c ∈ frontConditions bytes, c.holds) →
      linesAt bytes + 13 * declaredLines bytes + 20 = bytes.length ∧
      ∀ count ≤ declaredLines bytes, ∀ items rest,
        readItems count 0 [] (bytes.drop (linesAt bytes)) = .ok (items, rest) →
          rest.length = 13 * (declaredLines bytes - count) + 20) := by
  refine ⟨fun fault => (decode_ruled bytes).eq_error_iff, (decode_ruled bytes).exists_ok_iff,
    fun index value => decode_unknownTaxRate_iff, fun field => decode_ne_truncated_behind bytes,
    fun declared => ?_, fun h => ⟨length_of_front h, fun count hcount items rest hread => ?_⟩⟩
  · have hdeclared : declared.toNat < 65536 := declared.toNat_lt
    have htrailing : trailingLength declared = declared.toNat * 13 + 20 := rfl
    omega
  · exact length_behind_lines h hcount hread

/-- The stored form of the kiosk with a rate of thirty percent. -/
def dearKiosk : Bytes := kiosk.bytes.set 67 30

/-- A wrong version is told before the reserved byte and what is missing; the rate of the dear kiosk
is told, so that all in front of it is in order and 33 bytes are behind it. -/
theorem decode_refuses_in_order_kiosk :
    FirstFault (conditions [0x54, 0x52, 2, 7]) (.unsupportedVersion 2) ∧
      (∀ c ∈ conditions kiosk.bytes, c.holds) ∧
      decode dearKiosk ≠ .error (.truncated .taxRate) ∧ rateAt dearKiosk 0 = 30 ∧
      linesAt dearKiosk + 13 * declaredLines dearKiosk + 20 = 88 ∧
      (dearKiosk.drop (linesAt dearKiosk)).length = 13 * (declaredLines dearKiosk - 0) + 20 := by
  have hversion : decode [0x54, 0x52, 2, 7] = .error (.unsupportedVersion 2) := by decide +kernel
  have hkiosk : decode kiosk.bytes = .ok kiosk.receipt :=
    decode_eq_ok_iff.2 ⟨kiosk, kiosk_isStorable, rfl, rfl⟩
  have hrate : decode dearKiosk = .error (.unknownTaxRate 0 30) := by decide +kernel
  obtain ⟨hfault, -⟩ := decode_refuses_in_order [0x54, 0x52, 2, 7]
  obtain ⟨-, hok, -⟩ := decode_refuses_in_order kiosk.bytes
  obtain ⟨-, -, hunknown, hmissed, -, hbehind⟩ := decode_refuses_in_order dearKiosk
  obtain ⟨hfront, -, -, -, hvalue⟩ := (hunknown 0 30).1 hrate
  obtain ⟨hlength, hlines⟩ := hbehind hfront
  have hsize : dearKiosk.length = 88 := by decide +kernel
  exact ⟨(hfault _).1 hversion, hok.1 ⟨_, hkiosk⟩, hmissed .taxRate (by decide), hvalue,
    hlength.trans hsize, hlines 0 (Nat.zero_le _) [] _ rfl⟩

end Receipt

end SealedReceipts
