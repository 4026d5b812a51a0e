import Mathlib.Algebra.Group.Nat.Defs
import SealedReceipts.Digits

/-!
# Decimal digits: written and read back

A number written with zeros in front consists of ASCII digits, as many as the width asks for unless
the number itself has more, and reading them gives the number back.

`Digits.Writes` says apart from writer and reader which texts write a number. The reader reads just
these (`number?_eq_some_iff`), and of them one has each length (`Writes.eq_padded`).
-/

namespace SealedReceipts

namespace Digits

variable {width n : Nat} {text : List Char}

/-! ## What is written -/

theorem toList_padded (width n : Nat) :
    (padded width n).toList =
      List.replicate (width - (Nat.toDigits 10 n).length) '0' ++ Nat.toDigits 10 n := by
  simp [padded, Nat.repr_eq_ofList_toDigits]

theorem isDigit_of_mem_padded {c : Char} (h : c ∈ (padded width n).toList) : c.isDigit := by
  rw [toList_padded, List.mem_append] at h
  rcases h with hzero | hdigit
  · rw [List.eq_of_mem_replicate hzero]
    rfl
  · exact Nat.isDigit_of_mem_toDigits (by decide) (by decide) hdigit

theorem padded_ne_nil : (padded width n).toList ≠ [] := by
  rw [toList_padded]
  simp

/-- A number that fits the width is written exactly that wide. -/
theorem length_padded (hwidth : 0 < width) (h : n < 10 ^ width) :
    (padded width n).toList.length = width := by
  have hle : (Nat.toDigits 10 n).length ≤ width :=
    (Nat.length_toDigits_le_iff (by decide) hwidth).2 h
  rw [toList_padded, List.length_append, List.length_replicate]
  omega

/-! ## What is read -/

theorem digit?_of_isDigit {c : Char} (h : c.isDigit) : digit? c = some (c.toNat - '0'.toNat) := by
  simp only [Char.isDigit, Bool.and_eq_true, decide_eq_true_eq] at h
  exact if_pos h

/-- The values of characters that are digits. -/
def valuesOf (text : List Char) : List Nat :=
  text.map fun c => c.toNat - '0'.toNat

@[simp] theorem valuesOf_append (text more : List Char) :
    valuesOf (text ++ more) = valuesOf text ++ valuesOf more :=
  List.map_append

@[simp] theorem length_valuesOf (text : List Char) : (valuesOf text).length = text.length :=
  List.length_map _

theorem values?_of_isDigit (h : ∀ c ∈ text, c.isDigit) : values? text = some (valuesOf text) := by
  induction text with
  | nil => rfl
  | cons c text ih =>
    have hhead := digit?_of_isDigit (h c List.mem_cons_self)
    have htail := ih fun d hd => h d (List.mem_cons_of_mem c hd)
    simp only [values?, valuesOf] at htail ⊢
    simp [hhead, htail]

theorem decimal_valuesOf (text : List Char) :
    decimal (valuesOf text) = Nat.ofDigitChars 10 text 0 := by
  rw [decimal, valuesOf, List.foldl_map, Nat.ofDigitChars_eq_foldl]

theorem decimal_padded (width n : Nat) : decimal (valuesOf (padded width n).toList) = n := by
  rw [decimal_valuesOf, toList_padded, Nat.ofDigitChars_append, Nat.ofDigitChars_replicate_zero,
    Nat.mul_zero, Nat.ofDigitChars_ten_toDigits]

theorem number?_padded (width n : Nat) : number? (padded width n).toList = some n := by
  have hvalues : values? (padded width n).toList = some (valuesOf (padded width n).toList) :=
    values?_of_isDigit fun _ => isDigit_of_mem_padded
  rw [number?, hvalues, Option.map_some, decimal_padded, List.isEmpty_eq_false_iff.2 padded_ne_nil]
  rfl

/-! ## What writes a number -/

/-- The text is one ASCII digit or more, and these write the number. -/
structure Writes (text : List Char) (n : Nat) : Prop where
  ne_nil : text ≠ []
  isDigit : ∀ c ∈ text, c.isDigit
  value : Nat.ofDigitChars 10 text 0 = n

theorem isDigit_of_digit? {c : Char} {d : Nat} (h : digit? c = some d) : c.isDigit := by
  unfold digit? at h
  split at h
  · next hspan =>
    simp only [Char.isDigit, Bool.and_eq_true, decide_eq_true_eq]
    exact hspan
  · cases h

theorem values?_eq_some_iff {values : List Nat} :
    values? text = some values ↔ (∀ c ∈ text, c.isDigit) ∧ valuesOf text = values := by
  constructor
  · intro h
    have hdigits : ∀ c ∈ text, c.isDigit := by
      induction text generalizing values with
      | nil => simp
      | cons c text ih =>
        simp only [values?, List.mapM_cons, Option.bind_eq_bind, Option.bind_eq_some_iff] at h
        obtain ⟨d, hd, ds, hds, -⟩ := h
        exact List.forall_mem_cons.2 ⟨isDigit_of_digit? hd, ih hds⟩
    exact ⟨hdigits, Option.some.inj ((values?_of_isDigit hdigits).symm.trans h)⟩
  · rintro ⟨hdigits, rfl⟩
    exact values?_of_isDigit hdigits

/-- **Numbers are read off just what writes them.** -/
theorem number?_eq_some_iff : number? text = some n ↔ Writes text n := by
  unfold number?
  cases hempty : text.isEmpty with
  | true =>
    constructor
    · intro h
      cases h
    · intro h
      exact absurd (List.isEmpty_iff.1 hempty) h.ne_nil
  | false =>
    simp only [Bool.false_eq_true, if_false, Option.map_eq_some_iff, values?_eq_some_iff]
    constructor
    · rintro ⟨values, ⟨hdigits, rfl⟩, rfl⟩
      exact ⟨List.isEmpty_eq_false_iff.1 hempty, hdigits, (decimal_valuesOf text).symm⟩
    · intro h
      exact ⟨_, ⟨h.isDigit, rfl⟩, (decimal_valuesOf text).trans h.value⟩

theorem writes_padded (width n : Nat) : Writes (padded width n).toList n :=
  number?_eq_some_iff.1 (number?_padded width n)

theorem digit_lt {c : Char} (h : c.isDigit) : c.toNat - '0'.toNat < 10 := by
  have hhigh : c.toNat ≤ '9'.toNat := by
    simp only [Char.isDigit, Bool.and_eq_true, decide_eq_true_eq] at h
    exact h.2
  have hlast : '9'.toNat = 57 := rfl
  have hfirst : '0'.toNat = 48 := rfl
  omega

theorem ofDigitChars_lt (h : ∀ c ∈ text, c.isDigit) (before : Nat) :
    Nat.ofDigitChars 10 text before < (before + 1) * 10 ^ text.length := by
  induction text generalizing before with
  | nil => simp
  | cons c text ih =>
    have hdigit := digit_lt (h c List.mem_cons_self)
    have hle : 10 * before + (c.toNat - '0'.toNat) + 1 ≤ (before + 1) * 10 := by omega
    rw [Nat.ofDigitChars_cons, List.length_cons, Nat.pow_succ', ← Nat.mul_assoc]
    refine Nat.lt_of_lt_of_le (ih (fun d hd => ?_) _) (Nat.mul_le_mul_right _ hle)
    exact h d (List.mem_cons_of_mem c hd)

/-- Digits that are as many and write the same number are the same, and so is what they go on
from. -/
theorem ofDigitChars_inj {other : List Char} {a b : Nat} (htext : ∀ c ∈ text, c.isDigit)
    (hother : ∀ c ∈ other, c.isDigit) (hlength : text.length = other.length)
    (h : Nat.ofDigitChars 10 text a = Nat.ofDigitChars 10 other b) : a = b ∧ text = other := by
  induction text generalizing other a b with
  | nil =>
    obtain rfl := List.length_eq_zero_iff.1 hlength.symm
    exact ⟨h, rfl⟩
  | cons c text ih =>
    cases other with
    | nil => cases hlength
    | cons d other =>
      obtain ⟨hc, htext⟩ := List.forall_mem_cons.1 htext
      obtain ⟨hd, hother⟩ := List.forall_mem_cons.1 hother
      rw [Nat.ofDigitChars_cons, Nat.ofDigitChars_cons] at h
      obtain ⟨hsum, rfl⟩ := ih htext hother (Nat.succ.inj hlength) h
      have hclt := digit_lt hc
      have hdlt := digit_lt hd
      have hcd : c.toNat = d.toNat := by
        simp only [Char.isDigit, Bool.and_eq_true, decide_eq_true_eq] at hc hd
        have hclow : '0'.toNat ≤ c.toNat := hc.1
        have hdlow : '0'.toNat ≤ d.toNat := hd.1
        omega
      exact ⟨by omega, by rw [Char.toNat_inj.1 hcd]⟩

/-- A number is written in a given length by one text. -/
theorem Writes.eq_padded (h : Writes text n) : (padded text.length n).toList = text := by
  have hpos : 0 < text.length := List.length_pos_iff.2 h.ne_nil
  have hlt : n < 10 ^ text.length := by
    have hlt := ofDigitChars_lt h.isDigit 0
    rwa [h.value, Nat.zero_add, Nat.one_mul] at hlt
  have hwritten := writes_padded text.length n
  exact (ofDigitChars_inj hwritten.isDigit h.isDigit (length_padded hpos hlt)
    (hwritten.value.trans h.value.symm)).2

end Digits

end SealedReceipts
