import Mathlib.Data.List.Forall2
import SealedReceipts.Proofs.Binary64.Rounding

/-!
# Sums of numbers that are not negative

A number counts its units if it is finite and not below zero; both zeros count none. What is computed
from such numbers is such a number again or infinite, and its units are the rounded ones
(`Counts.add_iff`, `Counts.mul_iff`, `Counts.div_iff`). No addition takes units away, so a sum that
is finite has finite terms (`counts_of_sumFrom`), and a sum over fewer and smaller terms is finite
with it and not above it (`sumFrom_atMost`).
-/

namespace SealedReceipts

namespace Binary64

/-- The number is finite and not below zero, and has so many units. -/
def Counts (x : Binary64) (units : Nat) : Prop :=
  ∃ negative h, x = .finite negative units h ∧ (negative = true → units = 0)

/-- The units of a finite number, whatever its sign. -/
def magnitude : Binary64 → Nat
  | .finite _ units _ => units
  | _ => 0

/-- The number is not below zero. It may be infinite. -/
def NonNegative (x : Binary64) : Prop := (0 : Binary64).le x = true

instance (x : Binary64) : Decidable x.NonNegative := inferInstanceAs (Decidable (_ = true))

/-- The number is above zero. It may be infinite. -/
def Positive (x : Binary64) : Prop := (0 : Binary64).lt x = true

/-- Both numbers count, and the one no more units than the other. -/
def AtMost (x y : Binary64) : Prop := ∃ a b, x.Counts a ∧ y.Counts b ∧ a ≤ b

variable {x y z x' y' : Binary64} {a b w : Nat}

/-! ## Counts -/

theorem HasUnits.counts (h : x.HasUnits a) : x.Counts a := by
  obtain ⟨hrep, rfl⟩ := h
  exact ⟨false, hrep, rfl, fun h => (by cases h)⟩

theorem Counts.magnitude_eq (h : x.Counts a) : x.magnitude = a := by
  obtain ⟨_, _, rfl, -⟩ := h
  rfl

theorem Counts.unique (h : x.Counts a) (h' : x.Counts b) : a = b :=
  h.magnitude_eq.symm.trans h'.magnitude_eq

theorem Counts.fills (h : x.Counts a) : spacing a ∣ a := by
  obtain ⟨_, hrep, -⟩ := h
  exact hrep.2

theorem Counts.lt (h : x.Counts a) : a < Nat.pow 2 2098 := by
  obtain ⟨_, hrep, -⟩ := h
  exact hrep.1

theorem counts_zero : (0 : Binary64).Counts 0 := by
  have hzero := (hasUnits_literal 0 (by decide)).counts
  rwa [Nat.zero_mul] at hzero

theorem counts_minusZero : minusZero.Counts 0 :=
  ⟨true, by decide +kernel, by decide +kernel, fun _ => rfl⟩

theorem Counts.le (hx : x.Counts a) (hy : y.Counts b) : x.le y = decide (a ≤ b) := by
  obtain ⟨s, _, rfl, hs⟩ := hx
  obtain ⟨t, _, rfl, ht⟩ := hy
  rw [Binary64.le, signedUnits, signedUnits]
  cases s <;> cases t <;> simp_all

theorem Counts.nonNegative (h : x.Counts a) : x.NonNegative := by
  rw [NonNegative, counts_zero.le h, decide_eq_true_eq]
  exact Nat.zero_le a

/-- A number that is not below zero counts, or is infinite. -/
theorem nonNegative_iff : x.NonNegative ↔ x = .infinite false ∨ ∃ units, x.Counts units := by
  obtain ⟨hrep, hzero⟩ := hasUnits_literal 0 (by decide)
  constructor
  · intro h
    rw [NonNegative, hzero] at h
    cases x with
    | nan => cases h
    | infinite s =>
      cases s
      · exact .inl rfl
      · cases h
    | finite s units hunits =>
      refine .inr ⟨units, s, hunits, rfl, fun hs => ?_⟩
      subst hs
      rw [Binary64.le, decide_eq_true_eq, signedUnits, signedUnits] at h
      simp only [Bool.false_eq_true, if_false, if_true] at h
      omega
  · rintro (rfl | ⟨units, h⟩)
    · rw [NonNegative, hzero]
      rfl
    · exact h.nonNegative

theorem NonNegative.counts_of_isFinite (h : x.NonNegative) (hfinite : x.isFinite = true) :
    ∃ units, x.Counts units := by
  rcases nonNegative_iff.1 h with rfl | hcounts
  · cases hfinite
  · exact hcounts

theorem lt_eq_of_counts (hx : x.Counts a) (hy : y.Counts b) : x.lt y = decide (a < b) := by
  obtain ⟨s, _, rfl, hs⟩ := hx
  obtain ⟨t, _, rfl, ht⟩ := hy
  rw [Binary64.lt, signedUnits, signedUnits]
  cases s <;> cases t <;> simp_all

/-- A number with units is above zero. -/
theorem Counts.positive (h : x.Counts a) (hpos : 0 < a) : x.Positive := by
  rw [Positive, lt_eq_of_counts counts_zero h, decide_eq_true_eq]
  exact hpos

theorem positive_infinite : (infinite false).Positive := by
  obtain ⟨_, hzero⟩ := hasUnits_literal 0 (by decide)
  rw [Positive, hzero]
  rfl

namespace Positive

theorem isNaN_eq_false (h : x.Positive) : x.isNaN = false := by
  obtain ⟨_, hzero⟩ := hasUnits_literal 0 (by decide)
  rw [Positive, hzero] at h
  cases x with
  | nan => cases h
  | infinite | finite => rfl

/-- What is above zero is not below it or zero. -/
theorem le_zero_eq_false (h : x.Positive) : x.le 0 = false := by
  obtain ⟨_, hzero⟩ := hasUnits_literal 0 (by decide)
  rw [Positive, hzero] at h
  rw [hzero]
  cases x with
  | nan => rfl
  | infinite negative =>
    cases negative with
    | false => rfl
    | true => cases h
  | finite =>
    rw [Binary64.lt, decide_eq_true_eq] at h
    rw [Binary64.le, decide_eq_false_iff_not, not_le]
    exact h

end Positive

/-! ## Operations -/

section Operations

variable {s : Bool} {n d : Nat}

/-- A rounded quotient that is not below zero counts its units unless they are too many. -/
theorem counts_ofQuotient_iff (hd : 0 < d) (hs : s = true → n = 0) :
    (ofQuotient s n d).Counts w ↔ w = roundUnits n d ∧ roundUnits n d < Nat.pow 2 2098 := by
  have hfills := spacing_dvd_roundUnits n hd
  unfold ofQuotient
  split
  · next hrep =>
    constructor
    · rintro ⟨_, _, heq, -⟩
      exact ⟨(Binary64.finite.inj heq).2.symm, hrep.1⟩
    · rintro ⟨rfl, -⟩
      exact ⟨s, hrep, rfl, fun h => by rw [hs h, roundUnits_zero hd]⟩
  · next hrep =>
    constructor
    · rintro ⟨_, _, heq, -⟩
      cases heq
    · rintro ⟨-, hlt⟩
      exact absurd ⟨hlt, hfills⟩ hrep

theorem nonNegative_ofQuotient (hd : 0 < d) (hs : s = true → n = 0) :
    (ofQuotient s n d).NonNegative := by
  by_cases hlt : roundUnits n d < Nat.pow 2 2098
  · exact ((counts_ofQuotient_iff hd hs).2 ⟨rfl, hlt⟩).nonNegative
  · have hrep : ¬ Representable (roundUnits n d) := fun hrep => hlt hrep.1
    cases s with
    | false =>
      rw [ofQuotient, dif_neg hrep]
      exact nonNegative_iff.2 (.inl rfl)
    | true =>
      -- zero is never too large
      rw [hs rfl, roundUnits_zero hd] at hlt
      exact absurd (Nat.zero_lt_of_lt (mul_one_lt (n := 0) (by decide))) hlt

theorem add_def (x y : Binary64) : x + y = add x y := rfl

theorem Counts.exists_add_eq (hx : x.Counts a) (hy : y.Counts b) :
    ∃ s, x + y = ofQuotient s (a + b) 1 ∧ (s = true → a + b = 0) := by
  obtain ⟨s, _, rfl, hs⟩ := hx
  obtain ⟨t, _, rfl, ht⟩ := hy
  rw [add_def, Binary64.add]
  cases s with
  | false =>
    cases t with
    | false => exact ⟨false, if_pos rfl, fun h => by cases h⟩
    | true =>
      obtain rfl := ht rfl
      rw [if_neg Bool.false_ne_true, if_neg Bool.false_ne_true, ofDifference,
        if_neg (Nat.not_lt_zero _)]
      exact ⟨false, rfl, fun h => by cases h⟩
  | true =>
    obtain rfl := hs rfl
    rw [Nat.zero_add]
    cases t with
    | false =>
      rw [if_neg Bool.true_eq_false_eq_False, if_pos rfl, ofDifference,
        if_neg (Nat.not_lt_zero _)]
      exact ⟨false, rfl, fun h => by cases h⟩
    | true => exact ⟨true, if_pos rfl, ht⟩

/-- Numbers with unlike signs, of which only zero has the sign, have the product zero. -/
theorem mul_eq_zero_of_signs {s t : Bool} (hs : s = true → a = 0) (ht : t = true → b = 0)
    (h : (s != t) = true) : a * b = 0 := by
  cases s with
  | true => rw [hs rfl, Nat.zero_mul]
  | false =>
    cases t with
    | true => rw [ht rfl, Nat.mul_zero]
    | false => cases h

theorem Counts.exists_mul_eq (hx : x.Counts a) (hy : y.Counts b) :
    ∃ s, x * y = ofQuotient s (a * b) one ∧ (s = true → a * b = 0) := by
  obtain ⟨s, _, rfl, hs⟩ := hx
  obtain ⟨t, _, rfl, ht⟩ := hy
  exact ⟨s != t, by rw [mul_def, Binary64.mul], mul_eq_zero_of_signs hs ht⟩

theorem Counts.exists_div_eq (hx : x.Counts a) (hy : y.Counts b) (hb : 0 < b) :
    ∃ s, x / y = ofQuotient s (a * one) b ∧ (s = true → a * one = 0) := by
  obtain ⟨s, _, rfl, hs⟩ := hx
  obtain ⟨t, _, rfl, ht⟩ := hy
  refine ⟨s != t, by rw [div_def, Binary64.div, if_neg hb.ne'], ?_⟩
  exact mul_eq_zero_of_signs hs fun h => absurd (ht h) hb.ne'

theorem Counts.add_iff (hx : x.Counts a) (hy : y.Counts b) :
    (x + y).Counts w ↔ w = roundUnits (a + b) 1 ∧ roundUnits (a + b) 1 < Nat.pow 2 2098 := by
  obtain ⟨s, hsum, hs⟩ := hx.exists_add_eq hy
  rw [hsum, counts_ofQuotient_iff Nat.one_pos hs]

theorem Counts.mul_iff (hx : x.Counts a) (hy : y.Counts b) :
    (x * y).Counts w ↔ w = roundUnits (a * b) one ∧ roundUnits (a * b) one < Nat.pow 2 2098 := by
  obtain ⟨s, hproduct, hs⟩ := hx.exists_mul_eq hy
  rw [hproduct, counts_ofQuotient_iff one_units_pos hs]

theorem Counts.div_iff (hx : x.Counts a) (hy : y.Counts b) (hb : 0 < b) :
    (x / y).Counts w ↔ w = roundUnits (a * one) b ∧ roundUnits (a * one) b < Nat.pow 2 2098 := by
  obtain ⟨s, hquotient, hs⟩ := hx.exists_div_eq hy hb
  rw [hquotient, counts_ofQuotient_iff hb hs]

theorem Counts.mul_nonNegative (hx : x.Counts a) (hy : y.Counts b) : (x * y).NonNegative := by
  obtain ⟨s, hproduct, hs⟩ := hx.exists_mul_eq hy
  rw [hproduct]
  exact nonNegative_ofQuotient one_units_pos hs

theorem NonNegative.add (hx : x.NonNegative) (hy : y.NonNegative) : (x + y).NonNegative := by
  rcases nonNegative_iff.1 hx with rfl | ⟨a, ha⟩
  · rcases nonNegative_iff.1 hy with rfl | ⟨b, _, _, rfl, -⟩ <;> exact hx
  · rcases nonNegative_iff.1 hy with rfl | ⟨b, hb⟩
    · obtain ⟨_, _, rfl, -⟩ := ha
      exact hy
    · obtain ⟨s, hsum, hs⟩ := ha.exists_add_eq hb
      rw [hsum]
      exact nonNegative_ofQuotient Nat.one_pos hs

/-- A finite sum has finite terms, and its units are their rounded sum. -/
theorem Counts.of_add (hx : x.NonNegative) (hy : y.NonNegative) (h : (x + y).Counts w) :
    ∃ a b, x.Counts a ∧ y.Counts b ∧ w = roundUnits (a + b) 1 := by
  rcases nonNegative_iff.1 hx with rfl | ⟨a, ha⟩
  · obtain ⟨_, _, heq, -⟩ := h
    rcases nonNegative_iff.1 hy with rfl | ⟨b, _, _, rfl, -⟩ <;> cases heq
  · rcases nonNegative_iff.1 hy with rfl | ⟨b, hb⟩
    · obtain ⟨_, _, rfl, -⟩ := ha
      obtain ⟨_, _, heq, -⟩ := h
      cases heq
    · exact ⟨a, b, ha, hb, ((ha.add_iff hb).1 h).1⟩

end Operations

/-! ## Order -/

theorem AtMost.refl (h : x.Counts a) : x.AtMost x := ⟨a, a, h, h, Nat.le_refl a⟩

theorem AtMost.trans (h : x.AtMost y) (h' : y.AtMost z) : x.AtMost z := by
  obtain ⟨a, b, hx, hy, hab⟩ := h
  obtain ⟨b', c, hy', hz, hbc⟩ := h'
  exact ⟨a, c, hx, hz, (hab.trans_eq (hy.unique hy')).trans hbc⟩

theorem AtMost.exists_le (h : x.AtMost y) (hy : y.Counts b) : ∃ a, x.Counts a ∧ a ≤ b := by
  obtain ⟨a, b', hx, hy', hle⟩ := h
  exact ⟨a, hx, hle.trans_eq (hy'.unique hy)⟩

/-- What is finite is above everything that has fewer units. -/
theorem Counts.atMost_add (hy : y.Counts w) (hx : x.Counts a) (hx' : x'.Counts b)
    (h : roundUnits (a + b) 1 ≤ w) : (x + x').AtMost y :=
  ⟨_, w, (hx.add_iff hx').2 ⟨rfl, h.trans_lt hy.lt⟩, hy, h⟩

/-- A term is not above its sum with others. -/
theorem Counts.left_atMost_add (hx : x.Counts a) (hy : y.Counts b) (h : (x + y).Counts w) :
    x.AtMost (x + y) := by
  refine ⟨a, w, hx, h, ?_⟩
  rw [((hx.add_iff hy).1 h).1]
  exact le_roundUnits Nat.one_pos hx.fills (by omega)

theorem Counts.right_atMost_add (hx : x.Counts a) (hy : y.Counts b) (h : (x + y).Counts w) :
    y.AtMost (x + y) := by
  refine ⟨b, w, hy, h, ?_⟩
  rw [((hx.add_iff hy).1 h).1]
  exact le_roundUnits Nat.one_pos hy.fills (by omega)

theorem AtMost.add (hx : x.AtMost x') (hy : y.AtMost y') (h : (x' + y').Counts w) :
    (x + y).AtMost (x' + y') := by
  obtain ⟨a, a', ha, ha', hxs⟩ := hx
  obtain ⟨b, b', hb, hb', hys⟩ := hy
  refine h.atMost_add ha hb ?_
  rw [((ha'.add_iff hb').1 h).1]
  exact roundUnits_mono Nat.one_pos (Nat.add_le_add hxs hys)

/-! ## Sums -/

/-- The sum of terms, added to `start` one after another. -/
def sumFrom (start : Binary64) (terms : List Binary64) : Binary64 := terms.foldl (· + ·) start

theorem sumFrom_cons (start term : Binary64) (terms : List Binary64) :
    sumFrom start (term :: terms) = sumFrom (start + term) terms := rfl

variable {start start' : Binary64} {terms small large : List Binary64}

theorem nonNegative_sumFrom (hstart : start.NonNegative) (hterms : ∀ x ∈ terms, x.NonNegative) :
    (sumFrom start terms).NonNegative := by
  induction terms generalizing start with
  | nil => exact hstart
  | cons term terms ih =>
    obtain ⟨hterm, hrest⟩ := List.forall_mem_cons.1 hterms
    exact ih (hstart.add hterm) hrest

/-- A finite sum of numbers that are not negative is above its start and above its terms. -/
theorem counts_of_sumFrom (hstart : start.NonNegative) (hterms : ∀ x ∈ terms, x.NonNegative)
    (h : (sumFrom start terms).Counts w) :
    start.AtMost (sumFrom start terms) ∧ ∀ x ∈ terms, x.AtMost (sumFrom start terms) := by
  induction terms generalizing start with
  | nil => exact ⟨AtMost.refl h, fun x hx => absurd hx List.not_mem_nil⟩
  | cons term terms ih =>
    obtain ⟨hterm, hrest⟩ := List.forall_mem_cons.1 hterms
    rw [sumFrom_cons] at h ⊢
    obtain ⟨hpartial, hbehind⟩ := ih (hstart.add hterm) hrest h
    obtain ⟨units, hunits, -⟩ := hpartial.exists_le h
    obtain ⟨a, b, ha, hb, -⟩ := Counts.of_add hstart hterm hunits
    exact ⟨(ha.left_atMost_add hb hunits).trans hpartial,
      List.forall_mem_cons.2 ⟨(ha.right_atMost_add hb hunits).trans hpartial, hbehind⟩⟩

/-- A sum over some of the terms, each replaced by one that is not above it, is not above the
sum. -/
theorem sumFrom_atMost (h : List.SublistForall₂ AtMost small large) (hstart : start.AtMost start')
    (hlarge : ∀ x ∈ large, x.NonNegative) (hsum : (sumFrom start' large).Counts w) :
    (sumFrom start small).AtMost (sumFrom start' large) := by
  have hnonneg : ∀ {start'}, start.AtMost start' → start'.NonNegative := by
    rintro start' ⟨_, _, -, hcounts, -⟩
    exact hcounts.nonNegative
  induction h generalizing start start' with
  | nil =>
    exact hstart.trans (counts_of_sumFrom (hnonneg hstart) hlarge hsum).1
  | @cons x y small large hxy _ ih =>
    obtain ⟨hy, hlarge⟩ := List.forall_mem_cons.1 hlarge
    rw [sumFrom_cons] at hsum ⊢
    obtain ⟨hpartial, -⟩ := counts_of_sumFrom ((hnonneg hstart).add hy) hlarge hsum
    obtain ⟨units, hunits, -⟩ := hpartial.exists_le hsum
    have hstep := hstart.add hxy hunits
    exact ih hstep hlarge hsum fun ⟨_, _, _, hcounts, _⟩ => hcounts.nonNegative
  | @cons_right y small large _ ih =>
    obtain ⟨hy, hlarge⟩ := List.forall_mem_cons.1 hlarge
    rw [sumFrom_cons] at hsum ⊢
    obtain ⟨hpartial, -⟩ := counts_of_sumFrom ((hnonneg hstart).add hy) hlarge hsum
    obtain ⟨units, hunits, -⟩ := hpartial.exists_le hsum
    obtain ⟨a, b, ha, hb, -⟩ := Counts.of_add (hnonneg hstart) hy hunits
    exact ih (hstart.trans (ha.left_atMost_add hb hunits)) hlarge hsum hnonneg

end Binary64

end SealedReceipts
