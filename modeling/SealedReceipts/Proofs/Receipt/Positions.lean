import SealedReceipts.Proofs.Checks.FirstFault
import SealedReceipts.Proofs.Receipt.Ends

/-!
# Readers at a position

A reader stands at a position of the byte string that is decoded. `Reader.RuledAt` says which
conditions on that byte string rule what it reads there, what it gives and where it stops. Readers
are put together by putting their conditions together, so that a row of fields is described by the
conditions of its fields at their positions.
-/

namespace SealedReceipts

/-- The number in the `width` bytes from `offset` on. -/
def Bytes.numberAt (bytes : Bytes) (offset width : Nat) : Nat :=
  Bytes.toNat ((bytes.drop offset).take width)

theorem Bytes.numberAt_lt (bytes : Bytes) (offset width : Nat) :
    bytes.numberAt offset width < 256 ^ width := by
  refine (toNat_lt _).trans_le (Nat.pow_le_pow_right (by decide) ?_)
  rw [List.length_take]
  exact Nat.min_le_left _ _

theorem Bytes.toNat_byteAt (bytes : Bytes) (offset : Nat) :
    (UInt8.ofNat (bytes.numberAt offset 1)).toNat = bytes.numberAt offset 1 :=
  UInt8.toNat_ofNat_of_lt' (bytes.numberAt_lt offset 1)

theorem Bytes.toNat_word16At (bytes : Bytes) (offset : Nat) :
    (UInt16.ofNat (bytes.numberAt offset 2)).toNat = bytes.numberAt offset 2 :=
  UInt16.toNat_ofNat_of_lt' (bytes.numberAt_lt offset 2)

theorem Bytes.toNat_word64At (bytes : Bytes) (offset : Nat) :
    (UInt64.ofNat (bytes.numberAt offset 8)).toNat = bytes.numberAt offset 8 :=
  UInt64.toNat_ofNat_of_lt' (bytes.numberAt_lt offset 8)

namespace Reader

open Checks

variable {α β : Type} {bytes : Bytes} {start stop mid : Nat}
  {conditions more : List (Condition CorruptReceipt)} {gives : α → Prop} {gives' : β → Prop}
  {reader : Reader α}

/-- The bytes up to `stop` are there, or the field is missed. -/
def present (bytes : Bytes) (field : Field) (stop : Nat) : Condition CorruptReceipt :=
  ⟨stop ≤ bytes.length, .truncated field⟩

/-- At `start` the conditions rule what is read, and a value that is read is one of those that the
reader gives and leaves the bytes from `stop` on. -/
structure RuledAt (bytes : Bytes) (start stop : Nat) (conditions : List (Condition CorruptReceipt))
    (gives : α → Prop) (reader : Reader α) : Prop where
  ruled : Ruled conditions (reader (bytes.drop start))
  value : ∀ a rest, reader (bytes.drop start) = .ok (a, rest) →
    gives a ∧ rest = bytes.drop stop ∧ stop ≤ bytes.length

namespace RuledAt

/-- One reader after another, each where the one before stops. -/
theorem bind (h : RuledAt bytes start mid conditions gives reader) {next : α → Reader β}
    (hnext : ∀ a, gives a → mid ≤ bytes.length →
      RuledAt bytes mid stop more gives' (next a)) :
    RuledAt bytes start stop (conditions ++ more) gives' (reader >>= next) := by
  have hgoes : (reader >>= next) (bytes.drop start) =
      reader (bytes.drop start) >>= fun read => next read.1 read.2 := by
    change andThen reader next _ = _
    unfold andThen
    rcases reader (bytes.drop start) with _ | ⟨a, rest⟩ <;> rfl
  refine ⟨?ruled, fun b rest hb => ?value⟩
  case ruled =>
    rw [hgoes]
    refine h.ruled.bind ?_
    rintro ⟨a, rest⟩ hread
    obtain ⟨ha, rfl, hmid⟩ := h.value a rest hread
    exact (hnext a ha hmid).ruled
  case value =>
    obtain ⟨a, between, hread, hafter⟩ := bind_eq_ok.1 hb
    obtain ⟨ha, rfl, hmid⟩ := h.value a between hread
    exact (hnext a ha hmid).value b rest hafter

theorem pure {a : α} (ha : gives a) (hstop : stop ≤ bytes.length) :
    RuledAt bytes stop stop [] gives (Pure.pure a) where
  ruled := .ok _
  value b rest h := by
    obtain ⟨rfl, rfl⟩ := pure_eq_ok.1 h
    exact ⟨ha, rfl, hstop⟩

/-- What is read is turned into something else. -/
theorem map (h : RuledAt bytes start stop conditions gives reader) {f : α → β}
    (hf : ∀ a, gives a → gives' (f a)) :
    RuledAt bytes start stop conditions gives' (do return f (← reader)) := by
  rw [← List.append_nil conditions]
  exact h.bind fun a ha hstop => .pure (hf a ha) hstop

variable {c : Condition CorruptReceipt}

/-- A reader that stops with the fault of its first condition. -/
theorem refuse (hc : ¬ c.holds) (h : reader (bytes.drop start) = .error c.fault) :
    RuledAt bytes start stop (c :: conditions) gives reader := by
  refine ⟨⟨fun read hok => ?_, fun fault hfault => ?_⟩, fun a rest hok => ?_⟩
  · cases h.symm.trans hok
  · obtain rfl := Except.error.inj (h.symm.trans hfault)
    exact .here hc
  · cases h.symm.trans hok

/-- A condition that holds can be put in front. -/
theorem cons (hc : c.holds) (h : RuledAt bytes start stop conditions gives reader) :
    RuledAt bytes start stop (c :: conditions) gives reader where
  ruled.holds a ha := List.forall_mem_cons.2 ⟨hc, h.ruled.holds a ha⟩
  ruled.fault fault hfault := .behind hc (h.ruled.fault fault hfault)
  value := h.value

/-- A condition that holds can be left out. -/
theorem tail (h : RuledAt bytes start stop (c :: conditions) gives reader) (hc : c.holds) :
    RuledAt bytes start stop conditions gives reader := by
  refine ⟨⟨fun a ha => (List.forall_mem_cons.1 (h.ruled.holds a ha)).2, fun fault hfault => ?_⟩,
    h.value⟩
  cases h.ruled.fault fault hfault with
  | here hfails => exact absurd hc hfails
  | behind _ hrest => exact hrest

/-- A check that refuses or goes on. -/
theorem check {refused : Prop} [Decidable refused] {refuses : Reader α} (hc : c.holds ↔ ¬ refused)
    (hrefuses : refuses (bytes.drop start) = .error c.fault)
    (h : c.holds → RuledAt bytes start stop conditions gives reader) :
    RuledAt bytes start stop (c :: conditions) gives (if refused then refuses else reader) := by
  by_cases hrefused : refused
  · rw [if_pos hrefused]
    exact refuse (fun hholds => hc.1 hholds hrefused) hrefuses
  · rw [if_neg hrefused]
    exact cons (hc.2 hrefused) (h (hc.2 hrefused))

end RuledAt

/-! ## Each reader -/

theorem take_ruledAt (hstart : start ≤ bytes.length) (count : Nat) (field : Field) :
    RuledAt bytes start (start + count) [present bytes field (start + count)]
      (· = (bytes.drop start).take count) (take count field) := by
  have hlength : (bytes.drop start).length = bytes.length - start := List.length_drop
  refine ⟨.single (fun read hread => ?_) (fun e he => ?_), fun head rest hread => ?_⟩
  · obtain ⟨hhead, hbytes⟩ := take_eq_ok.1 hread
    rw [hbytes, List.length_append] at hlength
    omega
  · by_cases hshort : (bytes.drop start).length < count
    · rw [take_short hshort] at he
      exact ⟨by omega, Except.error.inj he⟩
    · rw [take, if_pos (by rw [List.length_take]; omega)] at he
      cases he
  · obtain ⟨hhead, hbytes⟩ := take_eq_ok.1 hread
    rw [← List.drop_drop, hbytes, ← hhead, List.take_left, List.drop_left]
    rw [hbytes, List.length_append] at hlength
    exact ⟨rfl, rfl, by omega⟩

theorem number_ruledAt (hstart : start ≤ bytes.length) (width : Nat) (field : Field) :
    RuledAt bytes start (start + width) [present bytes field (start + width)]
      (· = bytes.numberAt start width) (number width field) :=
  (take_ruledAt hstart width field).map fun _ => congrArg Bytes.toNat

/-- A number in whatever type it is given. -/
theorem word_ruledAt (hstart : start ≤ bytes.length) (width : Nat) (field : Field)
    (word : Nat → α) :
    RuledAt bytes start (start + width) [present bytes field (start + width)]
      (· = word (bytes.numberAt start width)) (do return word (← number width field)) :=
  (number_ruledAt hstart width field).map fun _ => congrArg word

theorem remaining_ruledAt (hstart : start ≤ bytes.length) :
    RuledAt bytes start start [] (· = bytes.length - start) remaining where
  ruled := .ok _
  value n rest h := by
    obtain ⟨hlength, rfl⟩ := remaining_eq_ok.1 h
    rw [List.length_drop] at hlength
    exact ⟨hlength.symm, rfl, hstart⟩

/-! ## Texts -/

/-- Where a text ends that lies behind the number of its bytes. -/
def textEnd (bytes : Bytes) (start : Nat) : Nat := start + 4 + bytes.numberAt start 4

/-- The length of the text is there, as many bytes are there, and they are UTF-8. -/
def textConditions (bytes : Bytes) (field : Field) (start : Nat) :
    List (Condition CorruptReceipt) :=
  [present bytes field (start + 4), present bytes field (textEnd bytes start),
    ⟨∃ s, (bytes.drop (start + 4)).take (bytes.numberAt start 4) = Bytes.ofText s,
      .invalidUtf8 field⟩]

theorem text_ruledAt (hstart : start ≤ bytes.length) (field : Field) :
    RuledAt bytes start (textEnd bytes start) (textConditions bytes field start) (fun _ => True)
      (text field) := by
  refine (number_ruledAt hstart 4 field).bind ?_
  rintro _ rfl hlength
  refine (take_ruledAt hlength _ field).bind ?_
  rintro _ rfl hbody
  cases htext : Bytes.toText? ((bytes.drop (start + 4)).take (bytes.numberAt start 4)) with
  | none =>
    refine .refuse ?_ rfl
    rintro ⟨s, hs⟩
    rw [Bytes.toText?_eq_some_iff.2 hs] at htext
    cases htext
  | some s => exact .cons ⟨s, Bytes.toText?_eq_some_iff.1 htext⟩ (.pure trivial hbody)

/-! ## Where the bytes are known to be there -/

theorem word_ruledAt_of_present (width : Nat) (h : start + width ≤ bytes.length) (field : Field)
    (word : Nat → α) :
    RuledAt bytes start (start + width) [] (· = word (bytes.numberAt start width))
      (do return word (← number width field)) :=
  (word_ruledAt (by omega) width field word).tail h

end Reader

end SealedReceipts
