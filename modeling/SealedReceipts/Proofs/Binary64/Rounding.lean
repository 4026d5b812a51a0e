import Mathlib.Algebra.Order.Ring.Nat
import SealedReceipts.Binary64

/-!
# Rounding

What one rounding does to an exact quotient `n / d` of units:

* `roundHalfEven_near`: a whole number is at most half of one away from the quotient it rounds;
* `roundUnits_near`: a count of 53 bits is away by at most one part in `2 ^ 53`, unless the quotient
  is too small to fill these bits;
* `roundUnits_eq_of_multiple`: a quotient that is such a count already is kept;
* `roundUnits_mono`: of two quotients with one denominator the larger is not rounded below the other;
* `hasUnits_ofQuotient`: a rounded count has few enough bits, so the number is finite as soon as
  the count is below the largest one.

From these, a natural number of at most 53 bits is its own binary64 number.
-/

namespace SealedReceipts

namespace Binary64

/-! ## Spacing -/

/-- One is a power of two, with 64 bits below it and 64 bits above it. -/
theorem exists_one_eq : ∃ exponent, one = 2 ^ exponent ∧ 64 ≤ exponent ∧ 64 + exponent < 2098 := by
  unfold one
  generalize hexponent : 1074 = exponent
  exact ⟨exponent, rfl, by omega, by omega⟩

theorem one_units_pos : 0 < one := by
  obtain ⟨exponent, hone, -⟩ := exists_one_eq
  rw [hone]
  exact Nat.two_pow_pos exponent

theorem two_pow_le_one : 2 ^ 64 ≤ one := by
  obtain ⟨exponent, hone, hlow, -⟩ := exists_one_eq
  rw [hone]
  exact Nat.pow_le_pow_right (by decide) hlow

/-- The largest finite number lies far above 64 bits. -/
theorem mul_one_lt {n : Nat} (h : n ≤ 2 ^ 64) : n * one < Nat.pow 2 2098 := by
  obtain ⟨exponent, hone, -, hhigh⟩ := exists_one_eq
  generalize 2098 = top at hhigh ⊢
  calc n * one ≤ 2 ^ 64 * 2 ^ exponent := hone ▸ Nat.mul_le_mul_right _ h
    _ = 2 ^ (64 + exponent) := (Nat.pow_add 2 64 exponent).symm
    _ < 2 ^ top := Nat.pow_lt_pow_right (by decide) hhigh

theorem spacing_eq (units : Nat) : spacing units = 2 ^ (units.log2 + 1 - 53) := rfl

theorem spacing_pos (units : Nat) : 0 < spacing units := by
  rw [spacing_eq]; exact Nat.two_pow_pos _

theorem log2_lt {units bits : Nat} (h : units < 2 ^ (bits + 1)) : units.log2 ≤ bits := by
  by_cases hzero : units = 0
  · subst hzero; simp
  · exact Nat.lt_succ_iff.1 ((Nat.log2_lt hzero).2 h)

/-- Between a count and the next there are at most 53 bits. -/
theorem lt_spacing_mul (units : Nat) : units < spacing units * 2 ^ 53 := by
  have hlog := Nat.lt_log2_self (n := units)
  rw [spacing_eq, ← Nat.pow_add]
  exact hlog.trans_le (Nat.pow_le_pow_right (by decide) (by omega))

/-- A count that fills 53 bits is at least `2 ^ 52` times the distance to the next. -/
theorem spacing_mul_le {units : Nat} (h : 2 ^ 52 ≤ units) : spacing units * 2 ^ 52 ≤ units := by
  have hpos : units ≠ 0 := by
    rintro rfl
    exact absurd h (by decide)
  have hlog : 52 ≤ units.log2 := (Nat.le_log2 hpos).2 h
  have hexp : units.log2 + 1 - 53 + 52 = units.log2 := by omega
  rw [spacing_eq, ← Nat.pow_add, hexp]
  exact Nat.log2_self_le hpos

/-- A count of at most 53 bits and zeros behind them is representable. -/
theorem spacing_dvd {bits exponent : Nat} (h : bits ≤ 2 ^ 53) :
    spacing (bits * 2 ^ exponent) ∣ bits * 2 ^ exponent := by
  rcases Nat.eq_or_lt_of_le h with rfl | hlt
  · rw [spacing_eq, ← Nat.pow_add, Nat.log2_two_pow]
    exact Nat.pow_dvd_pow 2 (by omega)
  · have hspacing : spacing (bits * 2 ^ exponent) ∣ 2 ^ exponent := by
      have hbound : bits * 2 ^ exponent < 2 ^ (52 + exponent + 1) := by
        rw [Nat.add_right_comm, Nat.pow_add]
        exact Nat.mul_lt_mul_of_pos_right hlt (Nat.two_pow_pos exponent)
      have hlog := log2_lt hbound
      rw [spacing_eq]
      exact Nat.pow_dvd_pow 2 (by omega)
    exact hspacing.trans (Nat.dvd_mul_left _ _)

theorem log2_mono {units more : Nat} (h : units ≤ more) : units.log2 ≤ more.log2 := by
  rcases Nat.eq_zero_or_pos units with rfl | hpos
  · simp
  · rw [Nat.le_log2 (Nat.ne_of_gt (hpos.trans_le h))]
    exact (Nat.log2_self_le hpos.ne').trans h

theorem spacing_dvd_spacing {units more : Nat} (h : units ≤ more) :
    spacing units ∣ spacing more := by
  have hlog := log2_mono h
  rw [spacing_eq, spacing_eq]
  exact Nat.pow_dvd_pow 2 (by omega)

/-- Where the spacing is more than one unit, counts fill 53 bits. -/
theorem fills_of_one_lt_spacing {units : Nat} (h : 1 < spacing units) : 2 ^ 52 ≤ units := by
  rw [spacing_eq] at h
  have hexp : units.log2 + 1 - 53 ≠ 0 := by
    intro hzero
    rw [hzero] at h
    exact absurd h (by decide)
  have hne : units ≠ 0 := by
    rintro rfl
    simp at hexp
  exact (Nat.le_log2 hne).1 (by omega)

/-! ## To the nearest whole number -/

theorem roundHalfEven_near (n : Nat) {d : Nat} (hd : 0 < d) :
    2 * n ≤ 2 * (roundHalfEven n d * d) + d ∧ 2 * (roundHalfEven n d * d) ≤ 2 * n + d := by
  have hdiv : n / d * d + n % d = n := Nat.div_add_mod' n d
  have hmod : n % d < d := Nat.mod_lt n hd
  have hsucc : (n / d + 1) * d = n / d * d + d := Nat.succ_mul _ _
  unfold roundHalfEven
  dsimp only
  split
  · next hbelow => rcases hbelow with hlt | ⟨heq, -⟩ <;> omega
  · next habove =>
    have hge : d ≤ 2 * (n % d) := by
      by_contra hlt
      exact habove (.inl (by omega))
    omega

theorem roundHalfEven_mul (k : Nat) {d : Nat} (hd : 0 < d) : roundHalfEven (k * d) d = k := by
  unfold roundHalfEven
  rw [Nat.mul_mod_left, Nat.mul_div_cancel k hd]
  exact if_pos (.inl hd)

/-- A quotient below a whole number is not rounded beyond it. -/
theorem roundHalfEven_le {n d k : Nat} (hd : 0 < d) (h : n < k * d) : roundHalfEven n d ≤ k := by
  have hdiv : n / d < k := (Nat.div_lt_iff_lt_mul hd).2 h
  unfold roundHalfEven
  dsimp only
  split <;> omega

theorem roundHalfEven_mul_right (n d : Nat) {e : Nat} (he : 0 < e) :
    roundHalfEven (n * e) (d * e) = roundHalfEven n d := by
  have hlt : 2 * (n % d * e) < d * e ↔ 2 * (n % d) < d := by
    rw [← Nat.mul_assoc]
    exact Nat.mul_lt_mul_right he
  have heq : 2 * (n % d * e) = d * e ↔ 2 * (n % d) = d := by
    rw [← Nat.mul_assoc]
    exact Nat.mul_left_inj he.ne'
  unfold roundHalfEven
  simp only [Nat.mul_div_mul_right _ _ he, Nat.mul_mod_mul_right, hlt, heq]

theorem roundHalfEven_mono {n m : Nat} (d : Nat) (h : n ≤ m) :
    roundHalfEven n d ≤ roundHalfEven m d := by
  have hbelow : n / d < m / d ∨ n / d = m / d ∧ n % d ≤ m % d := by
    rcases Nat.lt_or_eq_of_le (Nat.div_le_div_right (c := d) h) with hlt | heq
    · exact .inl hlt
    · have hn := Nat.div_add_mod n d
      have hm := Nat.div_add_mod m d
      rw [heq] at hn
      exact .inr ⟨heq, by omega⟩
  unfold roundHalfEven
  dsimp only
  split <;> split <;> omega

theorem div_le_roundHalfEven (n d : Nat) : n / d ≤ roundHalfEven n d := by
  unfold roundHalfEven
  dsimp only
  split <;> omega

/-! ## To the nearest count of 53 bits -/

/-- Rounding does not depend on how the quotient is written. -/
theorem roundUnits_mul_right (n d : Nat) {e : Nat} (he : 0 < e) :
    roundUnits (n * e) (d * e) = roundUnits n d := by
  unfold roundUnits
  dsimp only
  rw [Nat.mul_div_mul_right _ _ he, Nat.mul_right_comm, roundHalfEven_mul_right _ _ he]

/-- A quotient that is a count of 53 bits is kept. -/
theorem roundUnits_eq_of_multiple {k d : Nat} (hd : 0 < d) (h : spacing k ∣ k) :
    roundUnits (k * d) d = k := by
  obtain ⟨j, hj⟩ := h
  have hmul : k * d = j * (d * spacing k) := by
    rw [Nat.mul_comm d, ← Nat.mul_assoc, Nat.mul_comm j, ← hj]
  have hround : roundHalfEven (k * d) (d * spacing k) = j := by
    rw [hmul, roundHalfEven_mul j (Nat.mul_pos hd (spacing_pos k))]
  unfold roundUnits
  dsimp only
  rw [Nat.mul_div_cancel k hd, hround, Nat.mul_comm, ← hj]

theorem roundUnits_zero {d : Nat} (hd : 0 < d) : roundUnits 0 d = 0 := by
  have hkept := roundUnits_eq_of_multiple hd (Nat.dvd_zero (spacing 0))
  rwa [Nat.zero_mul] at hkept

/-- A rounded count is a whole number of steps. -/
theorem roundUnits_mul_eq (n d : Nat) : roundUnits n d * d =
    roundHalfEven n (d * spacing (n / d)) * (d * spacing (n / d)) := by
  unfold roundUnits
  rw [Nat.mul_assoc, Nat.mul_comm (spacing (n / d)) d]

/-- The rounded count is within one part in `2 ^ 53` of a quotient that is zero or fills 53
bits. -/
theorem roundUnits_near {n d : Nat} (hd : 0 < d) (h : n = 0 ∨ 2 ^ 52 * d ≤ n) :
    n * (2 ^ 53 - 1) ≤ roundUnits n d * d * 2 ^ 53 ∧
      roundUnits n d * d * 2 ^ 53 ≤ n * (2 ^ 53 + 1) := by
  rcases h with rfl | h
  · rw [roundUnits_zero hd]
    simp
  have hstep : spacing (n / d) * 2 ^ 52 * d ≤ n :=
    (Nat.mul_le_mul_right d (spacing_mul_le ((Nat.le_div_iff_mul_le hd).2 h))).trans
      (Nat.div_mul_le_self n d)
  have hnear := roundHalfEven_near n (Nat.mul_pos hd (spacing_pos (n / d)))
  rw [roundUnits_mul_eq]
  rw [Nat.mul_right_comm, Nat.mul_comm _ d] at hstep
  generalize d * spacing (n / d) = step at hnear hstep
  generalize roundHalfEven n step * step = rounded at hnear
  omega

/-- Rounding does not make a quotient more than twice as large. -/
theorem roundUnits_mul_le_twice (n : Nat) {d : Nat} (hd : 0 < d) : roundUnits n d * d ≤ 2 * n := by
  have hnear := roundHalfEven_near n (Nat.mul_pos hd (spacing_pos (n / d)))
  rw [roundUnits_mul_eq]
  generalize d * spacing (n / d) = step at hnear
  rcases Nat.lt_or_ge (2 * n) step with hsmall | hlarge
  · -- less than half a step is rounded to nothing
    have hzero : roundHalfEven n step = 0 := by
      unfold roundHalfEven
      rw [Nat.div_eq_of_lt (by omega), Nat.mod_eq_of_lt (by omega)]
      exact if_pos (.inl hsmall)
    rw [hzero, Nat.zero_mul]
    exact Nat.zero_le _
  · omega

/-- A quotient has at most `2 ^ 53` steps of its spacing. -/
theorem lt_step_mul (n : Nat) {d : Nat} (hd : 0 < d) : n < 2 ^ 53 * (d * spacing (n / d)) := by
  have hdiv := (Nat.div_lt_iff_lt_mul hd).1 (lt_spacing_mul (n / d))
  rwa [Nat.mul_comm (spacing _), Nat.mul_assoc, Nat.mul_comm (spacing _) d] at hdiv

theorem spacing_dvd_roundUnits (n : Nat) {d : Nat} (hd : 0 < d) :
    spacing (roundUnits n d) ∣ roundUnits n d :=
  spacing_dvd (roundHalfEven_le (Nat.mul_pos hd (spacing_pos _)) (lt_step_mul n hd))

/-- **Rounding keeps the order** of quotients with one denominator. -/
theorem roundUnits_mono {n m d : Nat} (hd : 0 < d) (h : n ≤ m) :
    roundUnits n d ≤ roundUnits m d := by
  have hdvd := spacing_dvd_spacing (Nat.div_le_div_right (c := d) h)
  unfold roundUnits
  dsimp only
  rcases Nat.eq_or_lt_of_le (Nat.le_of_dvd (spacing_pos _) hdvd) with heq | hlt
  · rw [heq]
    exact Nat.mul_le_mul_right _ (roundHalfEven_mono _ h)
  · -- the larger spacing is at least twice the other, so `2 ^ 52` of its steps are between the two
    have hlow : roundHalfEven n (d * spacing (n / d)) ≤ 2 ^ 53 :=
      roundHalfEven_le (Nat.mul_pos hd (spacing_pos _)) (lt_step_mul n hd)
    have hfills := spacing_mul_le (fills_of_one_lt_spacing
      ((Nat.succ_le_of_lt (spacing_pos (n / d))).trans_lt hlt))
    have hhigh : 2 ^ 52 ≤ roundHalfEven m (d * spacing (m / d)) := by
      refine le_trans ?_ (div_le_roundHalfEven m _)
      rw [← Nat.div_div_eq_div_mul, Nat.le_div_iff_mul_le (spacing_pos _), Nat.mul_comm]
      exact hfills
    have htwice : 2 * spacing (n / d) ≤ spacing (m / d) := by
      obtain ⟨k, hk⟩ := hdvd
      have hmore : 1 < k := by
        refine Nat.lt_of_mul_lt_mul_left (a := spacing (n / d)) ?_
        rwa [Nat.mul_one, ← hk]
      rw [hk, Nat.mul_comm]
      exact Nat.mul_le_mul_left _ hmore
    calc roundHalfEven n (d * spacing (n / d)) * spacing (n / d)
        ≤ 2 ^ 53 * spacing (n / d) := Nat.mul_le_mul_right _ hlow
      _ = 2 ^ 52 * (2 * spacing (n / d)) := by rw [← Nat.mul_assoc, ← Nat.pow_succ]
      _ ≤ 2 ^ 52 * spacing (m / d) := Nat.mul_le_mul_left _ htwice
      _ ≤ roundHalfEven m (d * spacing (m / d)) * spacing (m / d) := Nat.mul_le_mul_right _ hhigh

/-- A quotient is not rounded below a count of 53 bits that is not above it. -/
theorem le_roundUnits {n d k : Nat} (hd : 0 < d) (hk : spacing k ∣ k) (h : k * d ≤ n) :
    k ≤ roundUnits n d :=
  (roundUnits_eq_of_multiple hd hk).ge.trans (roundUnits_mono hd h)

/-- What is rounded to less than a count of 53 bits is less than it. -/
theorem lt_of_roundUnits_lt {n d k : Nat} (hd : 0 < d) (hk : spacing k ∣ k)
    (h : roundUnits n d < k) : n < k * d := by
  by_contra hge
  exact absurd (le_roundUnits hd hk (Nat.not_lt.1 hge)) (Nat.not_le.2 h)

/-! ## Numbers that are not negative -/

/-- The number is finite and not negative, and has so many units. -/
def HasUnits (x : Binary64) (units : Nat) : Prop :=
  ∃ h, x = .finite false units h

variable {x y : Binary64} {a b : Nat}

/-- A quotient whose rounded count is not too large is finite. -/
theorem hasUnits_ofQuotient {n d : Nat} (hd : 0 < d) (h : roundUnits n d < Nat.pow 2 2098) :
    (ofQuotient false n d).HasUnits (roundUnits n d) :=
  ⟨⟨h, spacing_dvd_roundUnits n hd⟩, dif_pos _⟩

theorem mul_def (x y : Binary64) : x * y = mul x y := rfl

theorem div_def (x y : Binary64) : x / y = div x y := rfl

theorem HasUnits.mul (hx : x.HasUnits a) (hy : y.HasUnits b)
    (h : roundUnits (a * b) one < Nat.pow 2 2098) : (x * y).HasUnits (roundUnits (a * b) one) := by
  obtain ⟨_, rfl⟩ := hx
  obtain ⟨_, rfl⟩ := hy
  rw [mul_def, Binary64.mul, bne_self_eq_false]
  exact hasUnits_ofQuotient one_units_pos h

theorem HasUnits.div (hx : x.HasUnits a) (hy : y.HasUnits b) (hb : 0 < b)
    (h : roundUnits (a * one) b < Nat.pow 2 2098) : (x / y).HasUnits (roundUnits (a * one) b) := by
  obtain ⟨_, rfl⟩ := hx
  obtain ⟨_, rfl⟩ := hy
  rw [div_def, Binary64.div, if_neg hb.ne', bne_self_eq_false]
  exact hasUnits_ofQuotient hb h

theorem spacing_dvd_mul_one {n : Nat} (h : n ≤ 2 ^ 53) : spacing (n * one) ∣ n * one := by
  obtain ⟨exponent, hone, -⟩ := exists_one_eq
  rw [hone]
  exact spacing_dvd h

/-- A whole number of at most 53 bits is kept by its rounding. -/
theorem hasUnits_whole {n : Nat} (h : n ≤ 2 ^ 53) :
    (ofQuotient false (n * one) 1).HasUnits (n * one) := by
  have hdvd := spacing_dvd_mul_one h
  have hround : roundUnits (n * one) 1 = n * one := by
    have hkept := roundUnits_eq_of_multiple Nat.one_pos hdvd
    rwa [Nat.mul_one] at hkept
  have hunits := hasUnits_ofQuotient (n := n * one) Nat.one_pos
  rw [hround] at hunits
  exact hunits (mul_one_lt (h.trans (by decide)))

theorem hasUnits_ofNat {n : Nat} (h : n ≤ 2 ^ 53) : (ofNat n).HasUnits (n * one) :=
  hasUnits_whole h

theorem hasUnits_literal (n : Nat) (h : n ≤ 2 ^ 53) :
    (OfNat.ofNat n : Binary64).HasUnits (n * one) :=
  hasUnits_ofNat h

theorem HasUnits.trunc (hx : x.HasUnits a) (h : a / one ≤ 2 ^ 53) :
    x.trunc.HasUnits (a / one * one) := by
  obtain ⟨_, rfl⟩ := hx
  exact hasUnits_whole h

theorem HasUnits.isFinite (hx : x.HasUnits a) : x.isFinite = true := by
  obtain ⟨_, rfl⟩ := hx
  rfl

theorem HasUnits.wholePart (hx : x.HasUnits a) : x.wholePart = a / one := by
  obtain ⟨_, rfl⟩ := hx
  rfl

theorem HasUnits.lt (hx : x.HasUnits a) (hy : y.HasUnits b) : x.lt y = decide (a < b) := by
  obtain ⟨_, rfl⟩ := hx
  obtain ⟨_, rfl⟩ := hy
  simp [Binary64.lt, signedUnits]

theorem HasUnits.le (hx : x.HasUnits a) (hy : y.HasUnits b) : x.le y = decide (a ≤ b) := by
  obtain ⟨_, rfl⟩ := hx
  obtain ⟨_, rfl⟩ := hy
  simp [Binary64.le, signedUnits]

/-- The numbers compare as equal: plus and minus zero do, and not-a-number with nothing. -/
def Equal (x y : Binary64) : Prop := x.le y = true ∧ y.le x = true

theorem HasUnits.equal_iff (hx : x.HasUnits a) (hy : y.HasUnits b) : x.Equal y ↔ a = b := by
  rw [Equal, hx.le hy, hy.le hx, decide_eq_true_eq, decide_eq_true_eq, Nat.le_antisymm_iff]

end Binary64

end SealedReceipts
