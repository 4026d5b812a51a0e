import Mathlib.Data.List.TakeWhile
import SealedReceipts.Proofs.Bank.Requests
import SealedReceipts.Proofs.Bytes
import SealedReceipts.Proofs.Checks.FirstFault
import SealedReceipts.Proofs.Curve.Forms

/-!
# The two spellings of a key

A text names a key if and only if it is the base64 of the key's bytes in one of the two alphabets
(`Bank.Spells`), so a receipt is found through these two texts and through no other. The one in the
alphabet of URLs stands in a path as it is. `Bank.keyConditions` lists what a text must fulfil to
name a key, in the order in which it is looked at.
-/

namespace SealedReceipts

open Base64 (isUrlChar)

/-! ## Texts that stand in a path as they are -/

namespace Base64

variable {c : Char}

theorem ne_of_isUrlChar {other : Char} (h : isUrlChar c = true) (hother : isUrlChar other = false) :
    c ≠ other := by
  rintro rfl
  cases h.symm.trans hother

theorem lt_of_isUrlChar (h : isUrlChar c = true) : c.toNat < 128 := by
  have hupper : 'Z'.val.toNat = 90 := rfl
  have hlower : 'z'.val.toNat = 122 := rfl
  have hdecimal : '9'.val.toNat = 57 := rfl
  have hval : c.toNat = c.val.toNat := rfl
  have hclasses : (decide ('A'.val ≤ c.val ∧ c.val ≤ 'Z'.val) ||
      decide ('a'.val ≤ c.val) && decide (c.val ≤ 'z'.val) ||
      decide ('0'.val ≤ c.val) && decide (c.val ≤ '9'.val) || c == '-' || c == '_') = true := h
  simp only [Bool.or_eq_true, Bool.and_eq_true, decide_eq_true_eq, beq_iff_eq,
    UInt32.le_iff_toNat_le] at hclasses
  rcases hclasses with (hletter | rfl) | rfl
  · omega
  · decide
  · decide

/-- Such a character is written as one byte, and not as that of a percent sign. -/
theorem ne_of_mem_utf8EncodeChar (h : isUrlChar c = true) {b : UInt8}
    (hb : b ∈ String.utf8EncodeChar c) : b ≠ 0x25 := by
  have hlt : c.val.toNat < 128 := lt_of_isUrlChar h
  have hsize : c.utf8Size = 1 := Char.utf8Size_eq_one_iff.2 (UInt32.le_iff_toNat_le.2 (by
    show c.val.toNat ≤ 127
    omega))
  rw [String.utf8EncodeChar_eq_singleton hsize, List.mem_singleton] at hb
  rintro rfl
  have hnat : c.val.toNat = 37 := by
    have hbyte := congrArg UInt8.toNat hb
    rw [UInt32.toNat_toUInt8, Nat.mod_eq_of_lt (by omega)] at hbyte
    exact hbyte.symm
  have hpercent : c = '%' := Char.ext (UInt32.toNat_inj.1 hnat)
  exact ne_of_isUrlChar h (by decide) hpercent

end Base64

namespace Percent

/-- Bytes without a percent sign stand for themselves. -/
theorem decodeOnto_of_no_escape {bytes : Bytes} (h : 0x25 ∉ bytes) (read : Bytes) :
    decodeOnto read bytes = read.reverse ++ bytes := by
  induction bytes generalizing read with
  | nil => simp [decodeOnto]
  | cons b rest ih =>
    rw [List.mem_cons, not_or] at h
    rw [decodeOnto, ih h.2]
    · simp
    · rintro x y rest' rfl
      exact absurd rfl h.1

theorem not_mem_ofText {text : String} (h : ∀ c ∈ text.toList, isUrlChar c = true) :
    0x25 ∉ Bytes.ofText text := by
  rw [Bytes.ofText_eq_flatMap, List.mem_flatMap]
  rintro ⟨c, hc, hb⟩
  exact Base64.ne_of_mem_utf8EncodeChar (h c hc) hb rfl

/-- A text of such characters stands for itself. -/
theorem decodeText?_of_isUrlChar {text : String} (h : ∀ c ∈ text.toList, isUrlChar c = true) :
    decodeText? text = some text := by
  rw [decodeText?, decode, decodeOnto_of_no_escape (not_mem_ofText h), Bytes.toText?_eq_some_iff]
  rfl

end Percent

namespace Web.Request

/-- A target that starts at the root and has neither a query nor a fragment is its path. -/
theorem path_of_plain {r : Request} {rest : List Char}
    (htarget : r.target = String.ofList ('/' :: rest)) (hplain : ∀ c ∈ rest, c ≠ '#' ∧ c ≠ '?') :
    r.path = r.target := by
  have hfragment : ('/' :: rest).takeWhile (· ≠ '#') = '/' :: rest := by
    refine List.takeWhile_eq_self_iff.2 ?_
    simpa using fun c hc => (hplain c hc).1
  have hquery : ∀ c ∈ '/' :: rest, decide (c ≠ '?') = true := by
    simpa using fun c hc => (hplain c hc).2
  have hscheme : Url.isSchemeChar '/' = false := by decide
  have hlocal : r.localTarget = '/' :: rest := by
    simp only [localTarget, htarget, String.toList_ofList, hfragment, List.dropWhile_cons, hscheme,
      Bool.false_eq_true, if_false]
    rfl
  rw [path, pathAndQuery, hlocal, List.span_eq_takeWhile_dropWhile,
    List.takeWhile_eq_self_iff.2 hquery, htarget]

end Web.Request

/-! ## Keys and their bytes -/

namespace OneTimeKey

theorem length_bytes (key : OneTimeKey) : key.bytes.length = 33 := by
  rw [key.bytes_eq, Curve.Point.length_compressed, Curve.compressedLength]

theorem eq_ofPoint (key : OneTimeKey) : key = ofPoint key.point := by
  obtain ⟨point, bytes, rfl⟩ := key
  rfl

/-- Keys that are equal as keys are equal. -/
theorem eq_of_beq {a b : OneTimeKey} (h : (a == b) = true) : a = b := by
  rw [eq_ofPoint a, (beq_iff_point_eq a b).1 h, ← eq_ofPoint b]

/-- A key is read from its bytes and from no others. -/
theorem ofCompressed_eq_ok_iff {bytes : Bytes} {key : OneTimeKey} :
    ofCompressed bytes = .ok key ↔ key.bytes = bytes := by
  constructor
  · intro h
    obtain ⟨q, hread, rfl⟩ := Checks.map_eq_ok.1 h
    exact Curve.Point.compressed_of_ofCompressed hread
  · rintro rfl
    rw [key.bytes_eq, ofCompressed_compressed, ← eq_ofPoint]

theorem exists_ofCompressed {bytes : Bytes} :
    (∃ key, ofCompressed bytes = .ok key) ↔ Curve.compressedForm.Accepts bytes := by
  rw [← Curve.Point.compressedForm_readBy.ok_iff]
  constructor
  · rintro ⟨key, h⟩
    obtain ⟨q, hread, -⟩ := Checks.map_eq_ok.1 h
    exact ⟨q, hread⟩
  · rintro ⟨q, hread⟩
    exact ⟨ofPoint q, Checks.map_eq_ok.2 ⟨q, hread, rfl⟩⟩

end OneTimeKey

namespace Bank

open Checks

/-! ## What a text must be -/

/-- The text is the base64 of the bytes in one of the two alphabets. -/
def Spells (value : String) (bytes : Bytes) : Prop :=
  value = Base64.encode .standard bytes ∨ value = Base64.encode .urlSafe bytes

/-- What a text must fulfil to name a key, in order. -/
def keyConditions (value : String) : List (Condition Defect) :=
  [⟨value ≠ "", .keyMissing⟩,
    ⟨∃ bytes, Spells value bytes, .keyNotBase64⟩,
    ⟨∃ bytes, Spells value bytes ∧ bytes.length = 33, .keyLength⟩,
    ⟨∃ bytes, Spells value bytes ∧ Curve.compressedForm.Accepts bytes, .keyNotAPoint⟩]

variable {value : String} {bytes : Bytes} {key : OneTimeKey} {defect : Defect}

/-- The standard alphabet is tried first, which makes no difference. -/
theorem keyBytes?_eq_some_iff : keyBytes? value = some bytes ↔ Spells value bytes := by
  unfold keyBytes? Spells
  rw [← Base64.decode?_eq_some_iff, ← Base64.decode?_eq_some_iff]
  cases hstandard : Base64.decode? .standard value with
  | none => simp
  | some found =>
    refine ⟨.inl, ?_⟩
    rintro (h | hurl)
    · exact h
    · rw [Base64.decode?_agree hurl hstandard]
      rfl

theorem Spells.unique {other : Bytes} (h : Spells value bytes) (h' : Spells value other) :
    bytes = other :=
  Option.some.inj ((keyBytes?_eq_some_iff.2 h).symm.trans (keyBytes?_eq_some_iff.2 h'))

/-- What holds of some bytes that a text stands for holds of those that it stands for. -/
theorem Spells.exists_and_iff {p : Bytes → Prop} (h : Spells value bytes) :
    (∃ other, Spells value other ∧ p other) ↔ p bytes := by
  constructor
  · rintro ⟨other, hother, hp⟩
    rwa [h.unique hother]
  · exact fun hp => ⟨bytes, h, hp⟩

/-- The empty text stands for no bytes. -/
theorem Spells.ne_empty (h : Spells value bytes) (hbytes : bytes ≠ []) : value ≠ "" := by
  rintro rfl
  exact hbytes (h.unique (.inl (by decide)))

/-- What becomes of a text once its bytes are known. -/
theorem parseKey_of_spells (h : Spells value bytes) (hvalue : value ≠ "") : parseKey value =
    if bytes.length = 33 then
      match OneTimeKey.ofCompressed bytes with
      | .ok key => .ok key
      | .error _ => .error .keyNotAPoint
    else .error .keyLength := by
  have hnonempty : ¬ value.isEmpty = true := fun hempty => hvalue (String.isEmpty_iff.1 hempty)
  rw [parseKey, if_neg hnonempty, keyBytes?_eq_some_iff.2 h]
  rfl

theorem parseKey_of_other (hvalue : value ≠ "") (h : ¬ ∃ bytes, Spells value bytes) :
    parseKey value = .error .keyNotBase64 := by
  have hnonempty : ¬ value.isEmpty = true := fun hempty => hvalue (String.isEmpty_iff.1 hempty)
  have hnone : keyBytes? value = none :=
    Option.eq_none_iff_forall_ne_some.2 fun bytes hsome => h ⟨bytes, keyBytes?_eq_some_iff.1 hsome⟩
  rw [parseKey, if_neg hnonempty, hnone]

/-- A text that names a key has met all conditions, and for any other the first that it does not
meet is reported. -/
theorem parseKey_ruled (value : String) : Ruled (keyConditions value) (parseKey value) := by
  by_cases hvalue : value = ""
  · subst hvalue
    exact .of_eq_error rfl (.here fun h => h rfl)
  by_cases hbase64 : ∃ bytes, Spells value bytes
  · obtain ⟨bytes, hspells⟩ := hbase64
    have hparse := parseKey_of_spells hspells hvalue
    -- the text stands for no other bytes, so the later conditions are about these
    have hfits := hspells.exists_and_iff (p := fun bytes => bytes.length = 33)
    have hpoint := hspells.exists_and_iff (p := Curve.compressedForm.Accepts)
    by_cases hlength : bytes.length = 33
    · rw [if_pos hlength] at hparse
      cases hread : OneTimeKey.ofCompressed bytes with
      | ok key =>
        have haccepts := OneTimeKey.exists_ofCompressed.1 ⟨key, hread⟩
        rw [hread] at hparse
        refine .of_eq_ok hparse ?_
        simp only [keyConditions, List.forall_mem_cons]
        exact ⟨hvalue, ⟨bytes, hspells⟩, hfits.2 hlength, hpoint.2 haccepts, by simp⟩
      | error error =>
        rw [hread] at hparse
        refine .of_eq_error hparse (.behind hvalue (.behind ⟨bytes, hspells⟩
          (.behind (hfits.2 hlength) (.here fun haccepts => ?_))))
        obtain ⟨key, hok⟩ := OneTimeKey.exists_ofCompressed.2 (hpoint.1 haccepts)
        cases hread.symm.trans hok
    · rw [if_neg hlength] at hparse
      exact .of_eq_error hparse (.behind hvalue (.behind ⟨bytes, hspells⟩
        (.here fun h => hlength (hfits.1 h))))
  · exact .of_eq_error (parseKey_of_other hvalue hbase64) (.behind hvalue (.here hbase64))

/-- The bytes of a key are 33 and are read as the key. -/
theorem Spells.parseKey_eq (h : Spells value key.bytes) : parseKey value = .ok key := by
  have hlength := key.length_bytes
  have hbytes : key.bytes ≠ [] := List.ne_nil_of_length_pos (by omega)
  rw [parseKey_of_spells h (h.ne_empty hbytes), if_pos hlength,
    OneTimeKey.ofCompressed_eq_ok_iff.2 rfl]

/-- **The texts that name a key.** -/
theorem parseKey_eq_ok_iff : parseKey value = .ok key ↔ Spells value key.bytes := by
  refine ⟨fun h => ?_, Spells.parseKey_eq⟩
  have hall := (parseKey_ruled value).holds key h
  simp only [keyConditions, List.forall_mem_cons] at hall
  obtain ⟨-, -, -, ⟨bytes, hspells, haccepts⟩, -⟩ := hall
  obtain ⟨found, hread⟩ := OneTimeKey.exists_ofCompressed.2 haccepts
  obtain rfl := OneTimeKey.ofCompressed_eq_ok_iff.1 hread
  obtain rfl := Except.ok.inj (h.symm.trans hspells.parseKey_eq)
  exact hspells

/-- Characters of both alphabets together stand for nothing. -/
theorem not_spells_of_mixed (hstandard : '+' ∈ value.toList ∨ '/' ∈ value.toList)
    (hurlSafe : '-' ∈ value.toList ∨ '_' ∈ value.toList) : ¬ Spells value bytes := by
  rintro (rfl | rfl)
  · rcases hurlSafe with h | h
    · exact Base64.last_not_mem_encode (b := .urlSafe) (by decide) (.inl rfl) h
    · exact Base64.last_not_mem_encode (b := .urlSafe) (by decide) (.inr rfl) h
  · rcases hstandard with h | h
    · exact Base64.last_not_mem_encode (b := .standard) (by decide) (.inl rfl) h
    · exact Base64.last_not_mem_encode (b := .standard) (by decide) (.inr rfl) h

theorem parseKey_of_mixed (hstandard : '+' ∈ value.toList ∨ '/' ∈ value.toList)
    (hurlSafe : '-' ∈ value.toList ∨ '_' ∈ value.toList) :
    parseKey value = .error .keyNotBase64 := by
  refine parseKey_of_other ?_ fun ⟨bytes, h⟩ => not_spells_of_mixed hstandard hurlSafe h
  rintro rfl
  simp at hstandard

/-! ## Removed keys -/

namespace Store

variable {store : Store OneTimeKey}

/-- A removed key takes nothing else with it. -/
theorem getElem?_remove_of_ne {other : OneTimeKey} (hne : other ≠ key) :
    (store.remove other).byKey[key]? = store.byKey[key]? := by
  rw [remove_getElem?, if_neg fun heq => hne (OneTimeKey.eq_of_beq heq)]

theorem getElem?_remove_self : (store.remove key).byKey[key]? = none := by
  rw [remove_getElem?, if_pos BEq.rfl]

end Store

/-! ## The spelling for URLs -/

/-- A key fills its groups, so no padding is written. -/
theorem isUrlChar_of_mem_spelling (key : OneTimeKey) :
    ∀ c ∈ (Base64.encode .urlSafe key.bytes).toList, isUrlChar c = true := by
  intro c hc
  exact Base64.isUrlChar_of_mem_encode (by rw [key.length_bytes]) hc

namespace Service

variable {s : Service} {r : Web.Request} {o : Occasion} {receipt : StoredReceipt}

/-- A path with one segment of such characters is one under which receipts are collected. -/
theorem route?_of_segment {segment : String} (hne : segment ≠ "")
    (hchars : ∀ c ∈ segment.toList, isUrlChar c = true) :
    route? ("/collect/" ++ segment) = some (.collectByPath segment) := by
  have hlist : ("/collect/" ++ segment).toList = collectStart ++ segment.toList :=
    String.toList_append
  have hlong : 9 < ("/collect/" ++ segment).toList.length := by
    have hpos : 0 < segment.toList.length := List.length_pos_iff.2 (by simpa using hne)
    rw [hlist, List.length_append]
    exact Nat.add_lt_add_left hpos 9
  have hother : ∀ path : String, path.toList.length ≤ 9 → "/collect/" ++ segment ≠ path := by
    rintro path hpath rfl
    omega
  have hslash : '/' ∉ segment.toList := fun h =>
    Base64.ne_of_isUrlChar (hchars _ h) (by decide) rfl
  have hsegment : (collectStart ++ segment.toList).drop collectStart.length = segment.toList :=
    List.drop_left
  rw [route?, if_neg (hother _ (by decide)), if_neg (hother _ (by decide)),
    if_neg (hother _ (by decide)), hlist]
  simp [hsegment, hslash, hne]

theorem keyText?_of_path {segment : String} (hne : segment ≠ "")
    (hchars : ∀ c ∈ segment.toList, isUrlChar c = true)
    (htarget : r.target = "/collect/" ++ segment) : keyText? r = some segment := by
  have hpath : r.path = r.target := by
    have hstart : ∀ c ∈ "collect/".toList, c ≠ '#' ∧ c ≠ '?' := by simp
    have hlist : r.target = String.ofList ('/' :: ("collect/".toList ++ segment.toList)) := by
      rw [htarget, ← String.toList_inj]
      simp
    refine Web.Request.path_of_plain hlist fun c hc => ?_
    rcases List.mem_append.1 hc with hc | hc
    · exact hstart c hc
    · have hchar := hchars c hc
      exact ⟨Base64.ne_of_isUrlChar hchar (by decide), Base64.ne_of_isUrlChar hchar (by decide)⟩
  simp only [keyText?, hpath, htarget, route?_of_segment hne hchars,
    Percent.decodeText?_of_isUrlChar hchars]

/-! ## Who finds a receipt -/

/-- A request wants a key if it names it in one of its spellings. -/
theorem wanted?_eq_some_iff : wanted? r = some key ↔
    r.isRead = true ∧ ∃ value, keyText? r = some value ∧ Spells value key.bytes := by
  unfold wanted?
  split
  · next hread =>
    simp only [Option.bind_eq_some_iff, toOption_eq_some, parseKey_eq_ok_iff, hread, true_and]
  · next hread => simp [hread]

theorem collect_of_spells (hstored : s.store.byKey[key]? = some receipt)
    (h : Spells value key.bytes) :
    (s.collect value o).response =
        collected (Base64.encode .standard receipt.payload) receipt.receiptId ∧
      (s.collect value o).service.store = s.store.remove key := by
  simp only [collect, parseKey_eq_ok_iff.2 h, Store.collect, hstored]
  exact ⟨rfl, trivial⟩

theorem collect_of_not_spells (hstored : s.store.byKey[key]? = some receipt)
    (h : ¬ Spells value key.bytes) :
    (s.collect value o).service.store.byKey[key]? = some receipt := by
  unfold collect
  cases hparse : parseKey value with
  | error defect => exact hstored
  | ok other =>
    have hne : other ≠ key := by
      rintro rfl
      exact h (parseKey_eq_ok_iff.1 hparse)
    cases hother : s.store.byKey[other]? with
    | none =>
      simp only [Store.collect, hother]
      exact hstored
    | some found =>
      simp only [Store.collect, hother]
      exact (Store.getElem?_remove_of_ne hne).trans hstored

/-- A receipt is gone after a request exactly if the request wants its key. -/
theorem gone_iff (hstored : s.store.byKey[key]? = some receipt) :
    (s.respond r o).service.store.byKey[key]? = none ↔ wanted? r = some key := by
  have hcourse := respond_course s r o
  generalize s.respond r o = handled at hcourse ⊢
  cases hcourse with
  | @stored v counters hoffer hid hkey =>
    obtain ⟨q, hoffers⟩ := offer?_eq_some_iff.1 hoffer
    rw [wanted?_eq_none hoffers.submit.not_isRead, Store.put_byKey, Std.HashMap.getElem?_insert]
    split <;> simp [hstored]
  | @conflict v fault counters hoffer htaken =>
    obtain ⟨q, hoffers⟩ := offer?_eq_some_iff.1 hoffer
    rw [wanted?_eq_none hoffers.submit.not_isRead]
    simp [hstored]
  | @handedOut other found counters hwanted hfound =>
    rw [hwanted, Option.some.injEq]
    by_cases heq : other = key
    · subst heq
      simp [Store.getElem?_remove_self]
    · simp [Store.getElem?_remove_of_ne heq, hstored, heq]
  | @missed other counters hwanted hnone =>
    have hne : other ≠ key := by
      rintro rfl
      cases hnone.symm.trans hstored
    simp [hwanted, hne, hstored]
  | other _ hwanted => simp [hwanted, hstored]

end Service

open Service (keyText? collected)

/-- **A key has two spellings.**

* A text names a key exactly if it is the base64, in one of the two alphabets, of 33 bytes that are
  the compressed form of the key's point, and these are the bytes of the key; it names it exactly if
  it is one of the two spellings of these bytes.
* A stored receipt is handed out to either spelling of its key, with the base64 of its payload and
  its id in the body, and stays for any other text. Of all requests those take it that ask to read
  and name the key in one of its spellings.
* Nothing is named by a text with characters of both alphabets.
* The spelling in the alphabet of URLs consists of letters, digits, hyphens and underscores, and as
  a segment of a path it is read as it is written.
* A text is refused for the first of these: it is empty, it is not base64, its bytes are not 33, and
  they are not the compressed form of a point. -/
theorem key_has_two_spellings :
    (∀ value key, (parseKey value = .ok key ↔ ∃ bytes, Spells value bytes ∧ bytes.length = 33 ∧
        Curve.Point.ofCompressed bytes = .ok key.point ∧ key.bytes = bytes) ∧
      (parseKey value = .ok key ↔ Spells value key.bytes)) ∧
    (∀ (s : Service) (key : OneTimeKey) (receipt : StoredReceipt) (o : Occasion),
      s.store.byKey[key]? = some receipt →
      (∀ value, Spells value key.bytes →
        (s.collect value o).response =
            collected (Base64.encode .standard receipt.payload) receipt.receiptId ∧
          (s.collect value o).response.status = 200 ∧
          Json.HasTexts (s.collect value o).response.body
            [("encrypted_data", Base64.encode .standard receipt.payload),
              ("receipt_id", receipt.receiptId)] ∧
          (s.collect value o).service.store.byKey[key]? = none) ∧
      (∀ value, ¬ Spells value key.bytes →
        (s.collect value o).service.store.byKey[key]? = some receipt) ∧
      ∀ r, (s.respond r o).service.store.byKey[key]? = none ↔
        r.isRead = true ∧ ∃ value, keyText? r = some value ∧ Spells value key.bytes) ∧
    (∀ value : String, ('+' ∈ value.toList ∨ '/' ∈ value.toList) →
      ('-' ∈ value.toList ∨ '_' ∈ value.toList) → parseKey value = .error .keyNotBase64) ∧
    (∀ key : OneTimeKey, (∀ c ∈ (Base64.encode .urlSafe key.bytes).toList, isUrlChar c = true) ∧
      ∀ r : Web.Request, r.target = "/collect/" ++ Base64.encode .urlSafe key.bytes →
        keyText? r = some (Base64.encode .urlSafe key.bytes)) ∧
    ∀ value, ((∃ key, parseKey value = .ok key) ↔ ∀ c ∈ keyConditions value, c.holds) ∧
      ∀ defect, parseKey value = .error defect ↔ FirstFault (keyConditions value) defect := by
  refine ⟨?named, ?found, fun _ => parseKey_of_mixed, ?path, ?refused⟩
  case named =>
    refine fun value key => ⟨parseKey_eq_ok_iff.trans ⟨fun h => ?_, ?_⟩, parseKey_eq_ok_iff⟩
    · have hread := Curve.Point.ofCompressed_compressed key.point
      rw [← key.bytes_eq] at hread
      exact ⟨key.bytes, h, key.length_bytes, hread, rfl⟩
    · rintro ⟨bytes, hspells, -, -, rfl⟩
      exact hspells
  case found =>
    refine fun s key receipt o hstored => ⟨fun value h => ?_, fun value h => ?_, fun r => ?_⟩
    · obtain ⟨hresponse, hstore⟩ := Service.collect_of_spells (o := o) hstored h
      rw [hstore, hresponse]
      exact ⟨rfl, rfl, Service.hasTexts_collected _ _, Store.getElem?_remove_self⟩
    · exact Service.collect_of_not_spells hstored h
    · exact (Service.gone_iff hstored).trans Service.wanted?_eq_some_iff
  case path =>
    refine fun key => ⟨isUrlChar_of_mem_spelling key, fun r htarget => ?_⟩
    have hbytes : key.bytes ≠ [] := List.ne_nil_of_length_pos (by rw [key.length_bytes]; decide)
    have hspells : Spells (Base64.encode .urlSafe key.bytes) key.bytes := .inr rfl
    have hne := hspells.ne_empty hbytes
    exact Service.keyText?_of_path hne (isUrlChar_of_mem_spelling key) htarget
  case refused =>
    exact fun value => ⟨(parseKey_ruled value).exists_ok_iff, fun _ =>
      (parseKey_ruled value).eq_error_iff⟩

def generatorKey : OneTimeKey := .ofPoint Curve.generator

/-- A bank with a receipt under that key. -/
def generatorBank : Service :=
  { store := (Store.empty 1000).put generatorKey ⟨[1, 2, 3], "r-1", none, 0⟩, maxBody := 1000 }

/-- A collection under the spelling of the key for URLs. -/
def generatorCollection : Web.Request where
  method := "GET"
  target := "/collect/A2sX0fLhLEJH-Lzm5WOkQPJ3A32BLeszoPShOUXYmMKW"

/-- The receipt is handed out to both spellings, and to a path with that for URLs. A text with a
character from each alphabet is refused. -/
theorem key_has_two_spellings_generator :
    (∀ value ∈ ["A2sX0fLhLEJH-Lzm5WOkQPJ3A32BLeszoPShOUXYmMKW",
        "A2sX0fLhLEJH+Lzm5WOkQPJ3A32BLeszoPShOUXYmMKW"],
      parseKey value = .ok generatorKey ∧
        (generatorBank.collect value ⟨5, ⟨1736933400, 0⟩, "r-2"⟩).response =
          collected "AQID" "r-1" ∧
        Json.HasTexts (generatorBank.collect value ⟨5, ⟨1736933400, 0⟩, "r-2"⟩).response.body
          [("encrypted_data", "AQID"), ("receipt_id", "r-1")]) ∧
    (generatorBank.respond generatorCollection
      ⟨5, ⟨1736933400, 0⟩, "r-2"⟩).service.store.byKey[generatorKey]? = none ∧
    parseKey "A2sX0fLhLEJH-Lzm5WOkQPJ3A32BLeszoPShOUXYmMK+" = .error .keyNotBase64 := by
  obtain ⟨hnamed, hfound, hmixed, hpath, -⟩ := key_has_two_spellings
  have hurl : Base64.encode .urlSafe generatorKey.bytes =
      "A2sX0fLhLEJH-Lzm5WOkQPJ3A32BLeszoPShOUXYmMKW" := by decide +kernel
  have hstandard : Base64.encode .standard generatorKey.bytes =
      "A2sX0fLhLEJH+Lzm5WOkQPJ3A32BLeszoPShOUXYmMKW" := by decide +kernel
  have hdata : Base64.encode .standard [1, 2, 3] = "AQID" := by decide +kernel
  have hspells : ∀ value ∈ ["A2sX0fLhLEJH-Lzm5WOkQPJ3A32BLeszoPShOUXYmMKW",
      "A2sX0fLhLEJH+Lzm5WOkQPJ3A32BLeszoPShOUXYmMKW"], Spells value generatorKey.bytes := by
    rw [← hurl, ← hstandard]
    simp [Spells]
  have hstored : generatorBank.store.byKey[generatorKey]? = some ⟨[1, 2, 3], "r-1", none, 0⟩ :=
    Std.HashMap.getElem?_insert_self
  obtain ⟨hspelled, -, hgone⟩ := hfound generatorBank _ _ ⟨5, ⟨1736933400, 0⟩, "r-2"⟩ hstored
  refine ⟨fun value h => ⟨(hnamed _ _).2.2 (hspells value h), ?_⟩, (hgone _).2 ⟨rfl, ?_⟩,
    hmixed _ (by decide +kernel) (by decide +kernel)⟩
  · rw [← hdata]
    exact ⟨(hspelled value (hspells value h)).1, (hspelled value (hspells value h)).2.2.1⟩
  · refine ⟨_, (hpath generatorKey).2 generatorCollection ?_, .inr rfl⟩
    rw [hurl]
    decide +kernel

end Bank

end SealedReceipts
