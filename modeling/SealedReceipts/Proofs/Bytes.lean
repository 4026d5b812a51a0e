import SealedReceipts.Bytes

/-!
# Byte strings: the two directions of each writer

A big-endian number of fixed width and the UTF-8 bytes of a text are each read back as what was
written, and every byte string that is read was written by exactly one value. Read character by
character, bytes are a text exactly if every one belongs to a character.
-/

namespace SealedReceipts

namespace Bytes

/-! ## Big-endian numbers -/

theorem toNat_lt (bytes : Bytes) : toNat bytes < Nat.pow 256 bytes.length := by
  rw [← List.reverse_reverse bytes]
  induction bytes.reverse with
  | nil => exact Nat.one_pos
  | cons b bytes ih =>
    have hb := b.toNat_lt
    have hpow : Nat.pow 256 (bytes.length + 1) = Nat.pow 256 bytes.length * 256 := rfl
    rw [List.reverse_cons, toNat_append_singleton]
    simp only [List.length_append, List.length_reverse, List.length_singleton] at ih ⊢
    omega

/-- Reading a number and writing it in as many bytes gives the bytes back. -/
theorem ofNat_toNat (bytes : Bytes) : ofNat bytes.length (toNat bytes) = bytes := by
  rw [← List.reverse_reverse bytes]
  induction bytes.reverse with
  | nil => rfl
  | cons b bytes ih =>
    have hb := b.toNat_lt
    have hdiv : (256 * toNat bytes.reverse + b.toNat) / 256 = toNat bytes.reverse := by omega
    rw [List.reverse_cons, List.length_append, toNat_append_singleton, List.length_singleton, ofNat,
      hdiv, ih]
    simp [UInt8.ofNat_add, UInt8.ofNat_mul]

/-- The bytes of a given length that write a number are those that `ofNat` writes. -/
theorem eq_ofNat_iff {width n : Nat} {bytes : Bytes} :
    bytes.length = width ∧ toNat bytes = n ↔ n < Nat.pow 256 width ∧ bytes = ofNat width n := by
  constructor
  · rintro ⟨rfl, rfl⟩
    exact ⟨toNat_lt bytes, (ofNat_toNat bytes).symm⟩
  · rintro ⟨hn, rfl⟩
    exact ⟨length_ofNat width n, by rw [toNat_ofNat, Nat.mod_eq_of_lt hn]⟩

/-! ## Texts -/

/-- What the loop behind the list of a byte array has yet to add. -/
theorem toList_loop (b : ByteArray) (i : Nat) (read : List UInt8) :
    ByteArray.toList.loop b i read = read.reverse ++ b.data.toList.drop i := by
  induction i, read using ByteArray.toList.loop.induct b with
  | case1 i read hi ih =>
    have hlt : i < b.data.toList.length := by simpa using hi
    have hget : b.get! i = b.data.toList[i] := by
      rw [ByteArray.get!, Array.getElem_toList, getElem!_pos b.data i hi]
    rw [ByteArray.toList.loop, if_pos hi, ih, hget, List.drop_eq_getElem_cons hlt]
    simp
  | case2 i read hi =>
    rw [ByteArray.toList.loop, if_neg hi, List.drop_eq_nil_of_le (by simpa using hi)]
    simp

theorem ofText_eq (s : String) : ofText s = s.toByteArray.data.toList := by
  simp [ofText, ByteArray.toList, toList_loop]

/-- The bytes of a text are those of its characters. -/
theorem ofText_eq_flatMap (s : String) : ofText s = s.toList.flatMap String.utf8EncodeChar := by
  rw [ofText_eq, ← String.utf8Encode_toList, List.utf8Encode, List.data_toByteArray]

@[simp] theorem length_ofText (s : String) : (ofText s).length = s.utf8ByteSize := by
  simp [ofText_eq]

/-- The bytes that are read as a text are the UTF-8 bytes of that text. -/
theorem toText?_eq_some_iff {bytes : Bytes} {s : String} :
    toText? bytes = some s ↔ bytes = ofText s := by
  constructor
  · intro h
    rw [toText?, String.fromUTF8?] at h
    split at h
    · obtain rfl := Option.some.inj h
      rw [ofText_eq]
      rfl
    · cases h
  · rintro rfl
    rw [toText?, ofText_eq, Array.toArray_toList, String.fromUTF8?, dif_pos s.isValidUTF8]
    rfl

/-! ## Characters one by one -/

theorem leadingChar?_encode (c : Char) (rest : Bytes) :
    leadingChar? (String.utf8EncodeChar c ++ rest) = some c := by
  have hsize : (String.utf8EncodeChar c).length ≤ 4 := by
    rw [String.length_utf8EncodeChar]
    exact c.utf8Size_le_four
  rw [leadingChar?, List.take_append, List.take_of_length_le hsize]
  generalize List.take _ rest = front
  have hbytes : (⟨(String.utf8EncodeChar c ++ front).toArray⟩ : ByteArray) =
      (String.utf8EncodeChar c).toByteArray ++ front.toByteArray := by
    ext1
    simp
  rw [hbytes, ByteArray.utf8DecodeChar?_utf8EncodeChar_append]

/-- The bytes inside a character are passed over. -/
theorem charsOnto_inside (read : List (Option Char)) (bytes rest : Bytes) :
    charsOnto read bytes.length (bytes ++ rest) = charsOnto read 0 rest := by
  induction bytes with
  | nil => rfl
  | cons b bytes ih => rw [List.length_cons, List.cons_append, charsOnto, ih]

theorem charsOnto_encode (read : List (Option Char)) (c : Char) (rest : Bytes) :
    charsOnto read 0 (String.utf8EncodeChar c ++ rest) = charsOnto (some c :: read) 0 rest := by
  have hleading := leadingChar?_encode c rest
  have hlength := String.length_utf8EncodeChar c
  cases hbytes : String.utf8EncodeChar c with
  | nil =>
    have hpos := c.utf8Size_pos
    rw [hbytes] at hlength
    simp only [List.length_nil] at hlength
    omega
  | cons b inside =>
    have hinside : c.utf8Size - 1 = inside.length := by
      rw [← hlength, hbytes]
      rfl
    rw [hbytes, List.cons_append] at hleading
    simp only [List.cons_append, charsOnto, hleading, hinside, charsOnto_inside]

/-- What was read before stays in front. -/
theorem charsOnto_eq (read : List (Option Char)) (inside : Nat) (bytes : Bytes) :
    charsOnto read inside bytes = read.reverse ++ charsOnto [] inside bytes := by
  induction bytes generalizing read inside with
  | nil => simp [charsOnto]
  | cons b rest ih =>
    cases inside with
    | succ inside => rw [charsOnto, ih, charsOnto]
    | zero =>
      simp only [charsOnto]
      split
      · next c hleading => rw [ih, ih [some c]]; simp
      · next hleading => rw [ih, ih [none]]; simp

theorem chars_encode (c : Char) (rest : Bytes) :
    chars (String.utf8EncodeChar c ++ rest) = some c :: chars rest := by
  rw [chars, charsOnto_encode, charsOnto_eq]
  rfl

/-- **The bytes of a text have its characters**, and no byte is left over. -/
theorem chars_ofText (s : String) : chars (ofText s) = s.toList.map some := by
  rw [ofText_eq_flatMap]
  induction s.toList with
  | nil => rfl
  | cons c text ih => rw [List.flatMap_cons, chars_encode, ih, List.map_cons]

theorem eq_encode_of_leadingChar? {bytes : Bytes} {c : Char} (h : leadingChar? bytes = some c) :
    ∃ rest, bytes = String.utf8EncodeChar c ++ rest := by
  obtain ⟨rest, hbytes⟩ := ByteArray.exists_of_utf8DecodeChar?_eq_some h
  have hfront : bytes.take 4 = String.utf8EncodeChar c ++ rest.data.toList := by
    have hlist := congrArg (fun b : ByteArray => b.data.toList) hbytes
    simpa using hlist
  refine ⟨rest.data.toList ++ bytes.drop 4, ?_⟩
  rw [← List.append_assoc, ← hfront, List.take_append_drop]

theorem eq_encode_of_chars {bytes : Bytes} {text : List Char} (h : chars bytes = text.map some) :
    bytes = text.flatMap String.utf8EncodeChar := by
  induction text generalizing bytes with
  | nil =>
    cases bytes with
    | nil => rfl
    | cons b rest =>
      rw [chars, charsOnto] at h
      split at h
      · rw [charsOnto_eq] at h
        cases h
      · rw [charsOnto_eq] at h
        cases h
  | cons c text ih =>
    cases bytes with
    | nil => cases h
    | cons b rest =>
      cases hleading : leadingChar? (b :: rest) with
      | none => simp [chars, charsOnto, hleading, charsOnto_eq [none]] at h
      | some d =>
        obtain ⟨behind, hbytes⟩ := eq_encode_of_leadingChar? hleading
        rw [hbytes, chars_encode, List.map_cons, List.cons.injEq, Option.some.injEq] at h
        obtain ⟨rfl, hrest⟩ := h
        rw [hbytes, ih hrest, List.flatMap_cons]

/-- Bytes are read as a text exactly if every byte belongs to a character. -/
theorem chars_eq_map_some_iff {bytes : Bytes} {s : String} :
    chars bytes = s.toList.map some ↔ toText? bytes = some s := by
  rw [toText?_eq_some_iff]
  refine ⟨fun h => ?_, ?_⟩
  · rw [ofText_eq_flatMap]
    exact eq_encode_of_chars h
  · rintro rfl
    exact chars_ofText s

-- the middle byte belongs to no character, and the bytes are no text
example : chars [0x41, 0xff, 0xc3, 0xa9] = [some 'A', none, some 'é'] := by decide

end Bytes

end SealedReceipts
