import SealedReceipts.Proofs.Receipt.Reader

/-!
# The stored form

A byte string is read exactly when it is the layout of a record that the form can hold, and what is
read is that record (`ReceiptRecord.ofBytes_eq_ok_iff`). The record is therefore determined by its
bytes, and nothing may stand behind them: the check of the bytes that are left, which is made before
the lines are read, agrees with what the lines and the tax breakdown take up.
-/

namespace SealedReceipts

open Layout Reader

/-! ## What the form can hold -/

/-- The second is one of the calendar; the texts and the lines fit the fields that count them. -/
structure ReceiptRecord.IsStorable (w : ReceiptRecord) : Prop where
  seconds : w.seconds.toNat ≤ Timestamp.maxSeconds
  storeName : w.storeName.utf8ByteSize < UInt32.size
  storeAddress : w.storeAddress.utf8ByteSize < UInt32.size
  paymentMethod : w.paymentMethod.utf8ByteSize < UInt32.size
  items : w.items.length < UInt16.size

theorem TaxRate.ofPercent_eq_ok {value : UInt8} {rate : TaxRate} :
    TaxRate.ofPercent value = .ok rate ↔ value = rate.percent := by
  constructor
  · intro h
    unfold TaxRate.ofPercent at h
    split at h
    · cases h; assumption
    · split at h
      · cases h; assumption
      · cases h
  · rintro rfl
    exact TaxRate.ofPercent_percent rate

namespace ReceiptRecord

variable {bytes rest : Bytes}

/-! ## The fields in front of the lines -/

theorem readStart_eq_ok {u : Unit} :
    readStart bytes = .ok (u, rest) ↔ bytes = [0x54, 0x52, 0x01, 0x00] ++ rest := by
  simp only [readStart, bind_eq_ok, ite_eq_ok, word16_eq_ok, byte_eq_ok, pure_eq_ok, fail_eq_ok,
    ne_eq, ite_not, false_and, exists_false, if_false_right]
  constructor
  · rintro ⟨_, _, rfl, rfl, _, _, rfl, rfl, _, _, rfl, rfl, -, rfl⟩
    rfl
  · rintro rfl
    exact ⟨magic, _, rfl, rfl, version, _, rfl, rfl, reserved, rest, rfl, rfl, trivial, rfl⟩

theorem readSeconds_eq_ok {seconds : UInt64} :
    readSeconds bytes = .ok (seconds, rest) ↔
      seconds.toNat ≤ Timestamp.maxSeconds ∧ bytes = word64 seconds ++ rest := by
  simp only [readSeconds, bind_eq_ok, ite_eq_ok, word64_eq_ok, pure_eq_ok, fail_eq_ok,
    if_false_right]
  constructor
  · rintro ⟨_, _, rfl, hmax, rfl, rfl⟩
    exact ⟨hmax, rfl⟩
  · rintro ⟨hmax, rfl⟩
    exact ⟨seconds, rest, rfl, hmax, rfl, rfl⟩

theorem readItemCount_eq_ok {declared : UInt16} :
    readItemCount bytes = .ok (declared, rest) ↔
      rest.length = trailingLength declared ∧ bytes = word16 declared ++ rest := by
  simp only [readItemCount, bind_eq_ok, ite_eq_ok, word16_eq_ok, remaining_eq_ok, pure_eq_ok,
    fail_eq_ok, ne_eq, ite_not, false_and, exists_false, if_false_right]
  constructor
  · rintro ⟨_, _, rfl, _, _, ⟨rfl, rfl⟩, hlen, rfl, rfl⟩
    exact ⟨hlen, rfl⟩
  · rintro ⟨hlen, rfl⟩
    exact ⟨declared, rest, rfl, rest.length, rest, ⟨rfl, rfl⟩, hlen, rfl, rfl⟩

/-! ## The lines and the tax breakdown -/

theorem readItem_eq_ok {index : Nat} {item : LineRecord} :
    readItem index bytes = .ok (item, rest) ↔ bytes = item.bytes ++ rest := by
  simp only [readItem, bind_eq_ok, word16_eq_ok, word32_eq_ok, byte_eq_ok]
  constructor
  · rintro ⟨category, _, rfl, quantity, _, rfl, price, _, rfl, total, _, rfl, value, _, rfl, h⟩
    cases hrate : TaxRate.ofPercent value with
    | error e =>
      rw [hrate] at h
      exact (fail_eq_ok.1 h).elim
    | ok rate =>
      rw [hrate] at h
      obtain ⟨rfl, rfl⟩ := pure_eq_ok.1 h
      obtain rfl := TaxRate.ofPercent_eq_ok.1 hrate
      simp only [LineRecord.bytes, List.append_assoc]
  · rintro rfl
    simp only [LineRecord.bytes, List.append_assoc]
    refine ⟨item.categoryId, _, rfl, item.quantity, _, rfl, item.unitPrice, _, rfl,
      item.totalPrice, _, rfl, item.taxRate.percent, rest, rfl, ?_⟩
    rw [TaxRate.ofPercent_percent]
    exact pure_eq_ok.2 ⟨rfl, rfl⟩

/-- The loop over the lines adds as many lines as it was told, and leaves what stands behind
them. -/
theorem readItems_eq_ok {count index : Nat} {read items : List LineRecord} :
    readItems count index read bytes = .ok (items, rest) ↔
      ∃ more, items = read.reverse ++ more ∧ more.length = count ∧
        bytes = itemBytes more ++ rest := by
  induction count generalizing index read bytes with
  | zero =>
    rw [readItems]
    constructor
    · intro h
      cases h
      exact ⟨[], by simp, rfl, rfl⟩
    · rintro ⟨more, rfl, hlen, rfl⟩
      obtain rfl := List.eq_nil_of_length_eq_zero hlen
      simp [itemBytes]
  | succ count ih =>
    rw [readItems]
    constructor
    · intro h
      split at h
      · next item mid hitem =>
        obtain ⟨more, rfl, hlen, rfl⟩ := ih.1 h
        obtain rfl := readItem_eq_ok.1 hitem
        exact ⟨item :: more, by simp, by simp [hlen], by simp [itemBytes]⟩
      · cases h
    · rintro ⟨more, rfl, hlen, rfl⟩
      obtain ⟨item, more, rfl⟩ := List.exists_cons_of_length_eq_add_one hlen
      have hitem : readItem index (itemBytes (item :: more) ++ rest) =
          .ok (item, itemBytes more ++ rest) := readItem_eq_ok.2 (by simp [itemBytes])
      rw [hitem]
      exact ih.2 ⟨more, by simp, by simpa using hlen, rfl⟩

theorem readTax_eq_ok {tax : TaxRecord} :
    readTax bytes = .ok (tax, rest) ↔ bytes = tax.bytes ++ rest := by
  simp only [readTax, bind_eq_ok, word32_eq_ok, pure_eq_ok]
  constructor
  · rintro ⟨_, _, rfl, _, _, rfl, _, _, rfl, _, _, rfl, _, _, rfl, rfl, rfl⟩
    simp only [TaxRecord.bytes, List.append_assoc]
  · rintro rfl
    simp only [TaxRecord.bytes, List.append_assoc]
    exact ⟨_, _, rfl, _, _, rfl, _, _, rfl, _, _, rfl, _, _, rfl, rfl, rfl⟩

/-! ## The whole record -/

theorem length_trailer (items : List LineRecord) (tax : TaxRecord) (rest : Bytes) :
    (itemBytes items ++ (tax.bytes ++ rest)).length =
      items.length * itemLength + taxLength + rest.length := by
  rw [List.length_append, List.length_append, length_itemBytes, TaxRecord.length_bytes]
  rw [Nat.mul_comm, Nat.add_assoc]

theorem read_eq_ok {w : ReceiptRecord} :
    read bytes = .ok (w, rest) ↔ w.IsStorable ∧ bytes = w.bytes ∧ rest = [] := by
  simp only [read, bind_eq_ok, readStart_eq_ok, readSeconds_eq_ok, word32_eq_ok, text_eq_ok,
    readItemCount_eq_ok, readItems_eq_ok, readTax_eq_ok, pure_eq_ok]
  constructor
  · rintro ⟨-, _, rfl, seconds, _, ⟨hseconds, rfl⟩, report, _, rfl, sequence, _, rfl,
      registration, _, rfl, name, _, ⟨hname, rfl⟩, address, _, ⟨haddress, rfl⟩, total, _, rfl,
      method, _, ⟨hmethod, rfl⟩, serial, _, rfl, declared, _, ⟨htrailing, rfl⟩, items, _,
      ⟨_, rfl, hcount, rfl⟩, tax, left, rfl, rfl, rfl⟩
    -- the bytes left were exactly those of the lines and the tax breakdown
    rw [length_trailer, trailingLength, hcount] at htrailing
    obtain rfl : left = [] := List.eq_nil_of_length_eq_zero (by omega)
    have hitems : items.length < UInt16.size := by rw [hcount]; exact declared.toNat_lt
    refine ⟨⟨hseconds, hname, haddress, hmethod, by simpa using hitems⟩, ?_, rfl⟩
    simp only [ReceiptRecord.bytes, header, List.append_nil, List.append_assoc, hcount]
    rfl
  · rintro ⟨h, rfl, rfl⟩
    have hcount : (UInt16.ofNat w.items.length).toNat = w.items.length := by
      rw [UInt16.toNat_ofNat', Nat.mod_eq_of_lt h.items]
    refine ⟨(), _, ?_, w.seconds, _, ⟨h.seconds, rfl⟩, w.reportNumber, _, rfl, w.sequence, _, rfl,
      w.registrationId, _, rfl, w.storeName, _, ⟨h.storeName, rfl⟩, w.storeAddress, _,
      ⟨h.storeAddress, rfl⟩, w.totalAmount, _, rfl, w.paymentMethod, _, ⟨h.paymentMethod, rfl⟩,
      w.serial, _, rfl, UInt16.ofNat w.items.length, _, ⟨?_, rfl⟩, w.items, _,
      ⟨w.items, rfl, hcount.symm, rfl⟩, w.tax, [], rfl, rfl, rfl⟩
    · simp only [ReceiptRecord.bytes, header, List.append_nil, List.append_assoc, Layout.word16,
        hcount]
      rfl
    · rw [length_trailer, trailingLength, hcount, List.length_nil, Nat.add_zero]

/-- **What is read.** A byte string is the stored form of a record exactly when it is the layout of
that record and the form can hold it. -/
theorem ofBytes_eq_ok_iff {w : ReceiptRecord} :
    ofBytes bytes = .ok w ↔ w.IsStorable ∧ bytes = w.bytes := by
  unfold ofBytes
  cases h : read bytes with
  | error e =>
    simp only [Except.map, reduceCtorEq, false_iff]
    rintro ⟨hw, hbytes⟩
    have hread := read_eq_ok.2 ⟨hw, hbytes, rfl⟩
    rw [h] at hread
    cases hread
  | ok read =>
    obtain ⟨v, rest⟩ := read
    obtain ⟨hv, hbytes, rfl⟩ := read_eq_ok.1 h
    simp only [Except.map, Except.ok.injEq]
    constructor
    · rintro rfl
      exact ⟨hv, hbytes⟩
    · rintro ⟨hw, hbytes'⟩
      have hread := read_eq_ok.2 ⟨hw, hbytes', rfl⟩
      rw [h] at hread
      cases hread
      rfl

end ReceiptRecord

end SealedReceipts
