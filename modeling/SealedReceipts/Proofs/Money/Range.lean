import SealedReceipts.Proofs.Money

/-!
# Which amounts have a stored form

The product of an amount and a hundred is rounded and cut at the point before its sign is looked at.
What is cut away of a negative product is lost with its sign, so the amounts that are refused for
being negative are those from one minor unit below zero downwards, and the negative ones above that
are stored as nothing (`Money.toMinor?_eq_none_iff`, `Money.toMinor?_of_vanishes`).
-/

namespace SealedReceipts

namespace Binary64

/-! ## Exact operations -/

variable {negative : Bool} {units : Nat}

/-- A count that is representable is kept. -/
theorem ofQuotient_eq_finite (h : Representable units) :
    ofQuotient negative units 1 = .finite negative units h := by
  have hkept : roundUnits units 1 = units := by
    have hkept := roundUnits_eq_of_multiple Nat.one_pos h.2
    rwa [Nat.mul_one] at hkept
  simp only [ofQuotient, hkept, h, ↓reduceDIte]

/-- The whole ones of a count of 53 bits are a count of 53 bits. -/
theorem spacing_dvd_whole (h : spacing units ∣ units) :
    spacing (units / one * one) ∣ units / one * one := by
  obtain ⟨exponent, hone, -⟩ := exists_one_eq
  obtain ⟨bits, hbits⟩ := h
  have hle : bits ≤ 2 ^ 53 := by
    have hlt := lt_spacing_mul units
    nth_rewrite 1 [hbits] at hlt
    exact (Nat.lt_of_mul_lt_mul_left hlt).le
  rw [spacing_eq] at hbits
  generalize units.log2 + 1 - 53 = low at hbits
  subst hbits
  rw [hone]
  rcases Nat.le_total exponent low with hge | hlow
  · rw [Nat.div_mul_cancel ((Nat.pow_dvd_pow 2 hge).mul_right bits), Nat.mul_comm]
    exact spacing_dvd hle
  · obtain ⟨more, rfl⟩ := Nat.exists_eq_add_of_le hlow
    rw [Nat.pow_add, Nat.mul_div_mul_left _ _ (Nat.two_pow_pos low), Nat.mul_left_comm,
      Nat.mul_comm (2 ^ low)]
    exact spacing_dvd ((Nat.div_mul_le_self bits _).trans hle)

theorem trunc_finite (h : Representable units) :
    ∃ hcut, (finite negative units h).trunc = .finite negative (units / one * one) hcut := by
  have hcut : Representable (units / one * one) :=
    ⟨(Nat.div_mul_le_self units one).trans_lt h.1, spacing_dvd_whole h.2⟩
  exact ⟨hcut, ofQuotient_eq_finite hcut⟩

theorem exists_finite_eq {a : Binary64} (h : a.isFinite = true) :
    ∃ negative units h, a = finite negative units h := by
  cases a with
  | nan => cases h
  | infinite negative => cases h
  | finite negative units hunits => exact ⟨negative, units, hunits, rfl⟩

theorem finite_lt_iff_not_le {other : Bool} {more : Nat} {h : Representable units}
    {h' : Representable more} : (finite negative units h).lt (finite other more h') = true ↔
      ¬ (finite other more h').le (finite negative units h) = true := by
  rw [Binary64.lt, Binary64.le, decide_eq_true_eq, decide_eq_true_eq, Int.not_le]

/-- Between two counts of 53 bits there is at least the spacing of the smaller. -/
theorem add_spacing_le {k : Nat} (hunits : spacing units ∣ units) (hk : spacing k ∣ k)
    (h : units < k) : units + spacing units ≤ k := by
  have hdvd : spacing units ∣ k - units :=
    Nat.dvd_sub ((spacing_dvd_spacing h.le).trans hk) hunits
  have hle := Nat.le_of_dvd (Nat.sub_pos_of_lt h) hdvd
  omega

end Binary64

namespace Money

open Binary64

/-! ## One minor unit -/

/-- The count of units in one minor unit. -/
def centUnits : Nat := roundUnits one 100

/-- The amount one minor unit below zero. -/
def centBelow : Binary64 := (ofMinor 1).neg

/-- The amount is negative, and of less than one minor unit. -/
def Vanishes (amount : Binary64) : Prop := amount.lt 0 = true ∧ centBelow.lt amount = true

instance (amount : Binary64) : Decidable (Vanishes amount) := inferInstanceAs (Decidable (_ ∧ _))

theorem hasUnits_ofMinor_one : (ofMinor 1).HasUnits centUnits := by
  have hunits := hasUnits_ofMinor 1
  have hone : (1 : UInt32).toNat = 1 := rfl
  rwa [hone, Nat.one_mul] at hunits

theorem exists_centBelow_eq : ∃ h, centBelow = .finite true centUnits h := by
  obtain ⟨h, heq⟩ := hasUnits_ofMinor_one
  exact ⟨h, by rw [centBelow, heq]; rfl⟩

theorem one_fills : spacing one ∣ one := by decide +kernel

theorem cent_fills : spacing centUnits ∣ centUnits := by decide +kernel

/-- A hundred times one minor unit is not less than one. -/
theorem one_le_cent : one ≤ centUnits * 100 := by decide +kernel

/-- A hundred times the count in front of one minor unit is rounded to less than one. -/
theorem exists_before_cent :
    ∃ exponent, 2 ^ exponent ≤ centUnits - 2 ^ (exponent + 1 - 53) ∧
      roundUnits ((centUnits - 2 ^ (exponent + 1 - 53)) * 100) 1 < one :=
  ⟨1067, by decide +kernel, by decide +kernel⟩

/-- The product reaches one exactly if the count is at least that of one minor unit. -/
theorem one_le_product_iff {units : Nat} (h : spacing units ∣ units) :
    one ≤ roundUnits (units * 100) 1 ↔ centUnits ≤ units := by
  constructor
  · intro hone
    by_contra hlt
    obtain ⟨exponent, hlow, hproduct⟩ := exists_before_cent
    have hbefore : units ≤ centUnits - 2 ^ (exponent + 1 - 53) := by
      rcases Nat.lt_or_ge units (2 ^ exponent) with hsmall | hlarge
      · exact hsmall.le.trans hlow
      · have hdvd := spacing_dvd_spacing hlarge
        rw [spacing_eq, Nat.log2_two_pow] at hdvd
        have hstep := Nat.le_of_dvd (spacing_pos units) hdvd
        have hnext := add_spacing_le h cent_fills (Nat.not_le.1 hlt)
        exact Nat.le_sub_of_add_le ((Nat.add_le_add_left hstep units).trans hnext)
    have hmono := roundUnits_mono Nat.one_pos (Nat.mul_le_mul_right 100 hbefore)
    exact absurd hone (Nat.not_le.2 (hmono.trans_lt hproduct))
  · intro hle
    refine le_roundUnits Nat.one_pos one_fills ?_
    rw [Nat.mul_one]
    exact one_le_cent.trans (Nat.mul_le_mul_right 100 hle)

/-! ## The product, cut at the point -/

variable {negative : Bool} {units : Nat}

theorem mul_scale (h : Representable units) :
    Binary64.finite negative units h * scale = ofQuotient negative (units * 100) 1 := by
  obtain ⟨hscale, heq⟩ := hasUnits_scale
  have hround : roundUnits (units * (100 * one)) one = roundUnits (units * 100) 1 := by
    have hscaled := roundUnits_mul_right (units * 100) 1 one_units_pos
    rwa [Nat.one_mul, Nat.mul_assoc] at hscaled
  rw [heq, mul_def, Binary64.mul, Bool.bne_false]
  simp only [ofQuotient, hround]

/-- The product of a finite number is cut to whole ones under its sign, or is infinite and at least
one. -/
theorem trunc_mul_scale (negative : Bool) (h : Representable units) :
    (∃ hcut, (Binary64.finite negative units h * scale).trunc =
      .finite negative (roundUnits (units * 100) 1 / one * one) hcut) ∨
    (Binary64.finite negative units h * scale).trunc = .infinite negative ∧
      one ≤ roundUnits (units * 100) 1 := by
  rw [mul_scale]
  generalize hproduct : roundUnits (units * 100) 1 = product
  by_cases hrep : Representable product
  · left
    have hfinite : ofQuotient negative (units * 100) 1 = .finite negative product hrep := by
      simp only [ofQuotient, hproduct, hrep, ↓reduceDIte]
    rw [hfinite]
    exact trunc_finite hrep
  · right
    have hinfinite : ofQuotient negative (units * 100) 1 = .infinite negative := by
      simp only [ofQuotient, hproduct, hrep, ↓reduceDIte]
    have hlarge : ¬ product < Nat.pow 2 2098 := by
      intro hlt
      have hfills := spacing_dvd_roundUnits (units * 100) Nat.one_pos
      rw [hproduct] at hfills
      exact hrep ⟨hlt, hfills⟩
    have hone := mul_one_lt (n := 1) (by decide)
    rw [Nat.one_mul] at hone
    rw [hinfinite]
    exact ⟨rfl, hone.le.trans (Nat.not_lt.1 hlarge)⟩

/-! ## Below zero -/

theorem finite_lt_zero (h : Representable units) :
    (Binary64.finite negative units h).lt 0 = true ↔ negative = true ∧ 0 < units := by
  obtain ⟨_, hzero⟩ := hasUnits_literal 0 (by decide)
  rw [hzero, Binary64.lt, decide_eq_true_eq, signedUnits, signedUnits, Nat.zero_mul]
  cases negative <;> simp

theorem centUnits_pos : 0 < centUnits := by
  have hone := one_units_pos.trans_le one_le_cent
  omega

theorem finite_le_centBelow (h : Representable units) :
    (Binary64.finite negative units h).le centBelow = true ↔
      negative = true ∧ centUnits ≤ units := by
  have hpos := centUnits_pos
  obtain ⟨_, hcent⟩ := exists_centBelow_eq
  rw [hcent, Binary64.le, decide_eq_true_eq, signedUnits, signedUnits]
  generalize centUnits = cent at hpos ⊢
  cases negative
  · simp only [Bool.false_eq_true, ↓reduceIte, false_and, iff_false]
    omega
  · simp

theorem centBelow_lt_finite (h : Representable units) :
    centBelow.lt (.finite negative units h) = true ↔ ¬ (negative = true ∧ centUnits ≤ units) := by
  obtain ⟨_, hcent⟩ := exists_centBelow_eq
  rw [← finite_le_centBelow h, hcent, finite_lt_iff_not_le]

/-! ## What has a stored form -/

theorem toMinor?_eq_none {amount : Binary64} :
    toMinor? amount = none ↔ (amount * scale).trunc.isFinite = false ∨
      (amount * scale).trunc.lt 0 = true ∨
      (Binary64.ofNat maxMinor).lt (amount * scale).trunc = true := by
  unfold toMinor?
  simp only [ite_eq_left_iff, reduceCtorEq, imp_false, not_not, Bool.or_eq_true,
    Bool.not_eq_true', or_assoc]

/-- An amount that is not finite has no finite product. -/
theorem isFinite_trunc_mul_scale {amount : Binary64} (h : amount.isFinite = false) :
    (amount * scale).trunc.isFinite = false := by
  obtain ⟨_, hscale⟩ := hasUnits_scale
  have hpos : 100 * one ≠ 0 := (Nat.mul_pos (by decide) one_units_pos).ne'
  rw [hscale, mul_def]
  cases amount with
  | nan => rfl
  | infinite negative =>
    rw [Binary64.mul, if_neg hpos]
    rfl
  | finite negative units hunits => cases h

/-- The product of a finite amount is cut to something below zero, or is infinite below zero, if the
amount is at least one minor unit below zero. -/
theorem finite_le_centBelow_iff (h : Representable units) :
    (Binary64.finite negative units h).le centBelow = true ↔
      (Binary64.finite negative units h * scale).trunc.lt 0 = true := by
  rw [finite_le_centBelow, ← one_le_product_iff h.2]
  rcases trunc_mul_scale negative h with ⟨hcut, hproduct⟩ | ⟨hproduct, hone⟩
  · rw [hproduct, finite_lt_zero]
    refine and_congr_right fun _ => ?_
    rw [Nat.mul_pos_iff_of_pos_right one_units_pos, Nat.div_pos_iff]
    exact (and_iff_right one_units_pos).symm
  · obtain ⟨_, hzero⟩ := hasUnits_literal 0 (by decide)
    rw [hproduct, hzero, Binary64.lt]
    exact and_iff_left hone

/-- **What has no stored form.** An amount that is not finite, one that is at least one minor unit
below zero, and one whose product is cut to more than the largest count. -/
theorem toMinor?_eq_none_iff (amount : Binary64) :
    toMinor? amount = none ↔ amount.isFinite = false ∨ amount.le centBelow = true ∨
      (Binary64.ofNat maxMinor).lt (amount * scale).trunc = true := by
  rw [toMinor?_eq_none]
  cases hfinite : amount.isFinite with
  | false => simp only [isFinite_trunc_mul_scale hfinite, true_or]
  | true =>
    obtain ⟨negative, units, h, rfl⟩ := exists_finite_eq hfinite
    rw [finite_le_centBelow_iff h]
    rcases trunc_mul_scale negative h with ⟨hcut, hproduct⟩ | ⟨hproduct, hone⟩
    · rw [hproduct]
      rfl
    · -- an infinite product is beyond one of the two limits
      obtain ⟨_, hzero⟩ := hasUnits_literal 0 (by decide)
      obtain ⟨_, hmax⟩ := hasUnits_ofNat (n := maxMinor) (by decide)
      rw [hproduct, hzero, hmax]
      cases negative <;> simp [Binary64.lt, Binary64.isFinite]

/-- Of the amounts that do not vanish, those that are negative have no stored form. -/
theorem toMinor?_eq_none_of_not_vanishes {amount : Binary64} (h : ¬ Vanishes amount) :
    toMinor? amount = none ↔ amount.isFinite = false ∨ amount.lt 0 = true ∨
      (Binary64.ofNat maxMinor).lt (amount * scale).trunc = true := by
  rw [toMinor?_eq_none_iff]
  cases amount with
  | nan => exact iff_of_true (.inl rfl) (.inl rfl)
  | infinite negative => exact iff_of_true (.inl rfl) (.inl rfl)
  | finite negative units hunits =>
    have hsame : (Binary64.finite negative units hunits).le centBelow = true ↔
        (Binary64.finite negative units hunits).lt 0 = true := by
      rw [Vanishes, centBelow_lt_finite, ← finite_le_centBelow hunits, not_and, not_not] at h
      refine ⟨fun hle => ?_, h⟩
      obtain ⟨hnegative, hunit⟩ := (finite_le_centBelow hunits).1 hle
      exact (finite_lt_zero hunits).2 ⟨hnegative, centUnits_pos.trans_le hunit⟩
    rw [hsame]

/-- A product of less than one is cut to zero, its sign kept. -/
theorem trunc_mul_scale_of_small (negative : Bool) (h : Representable units)
    (hsmall : units < centUnits) :
    ∃ hcut, (Binary64.finite negative units h * scale).trunc = .finite negative 0 hcut := by
  have hone : ¬ one ≤ roundUnits (units * 100) 1 :=
    mt (one_le_product_iff h.2).1 (Nat.not_le.2 hsmall)
  obtain ⟨hcut, hproduct⟩ := (trunc_mul_scale negative h).resolve_right
    fun hlarge => hone hlarge.2
  have hzero : roundUnits (units * 100) 1 / one * one = 0 := by
    rw [Nat.div_eq_of_lt (Nat.not_le.1 hone), Nat.zero_mul]
  simp only [hzero] at hproduct
  exact ⟨_, hproduct⟩

/-- A negative amount of less than one minor unit is stored as nothing. -/
theorem toMinor?_of_vanishes {amount : Binary64} (h : Vanishes amount) :
    toMinor? amount = some 0 := by
  obtain ⟨hbelow, habove⟩ := h
  obtain ⟨_, hzero⟩ := hasUnits_literal 0 (by decide)
  obtain ⟨hmost, hmax⟩ := hasUnits_ofNat (n := maxMinor) (by decide)
  generalize maxMinor * one = most at hmost hmax
  obtain ⟨_, hcent⟩ := exists_centBelow_eq
  cases amount with
  | nan => cases hbelow
  | infinite negative =>
    rw [hzero] at hbelow
    rw [hcent] at habove
    cases negative
    · cases hbelow
    · cases habove
  | finite negative units h =>
    obtain ⟨rfl, -⟩ := (finite_lt_zero h).1 hbelow
    have hsmall : units < centUnits := by
      rw [centBelow_lt_finite] at habove
      exact Nat.not_le.1 fun hle => habove ⟨rfl, hle⟩
    obtain ⟨hcut, hproduct⟩ := trunc_mul_scale_of_small true h hsmall
    unfold toMinor?
    rw [hproduct, hzero, hmax]
    simp [Binary64.lt, Binary64.isFinite, Binary64.wholePart, signedUnits]

/-- What is known of an amount that is stored as a count. -/
structure StoredAmount (amount : Binary64) (minor : UInt32) : Prop where
  finite : amount.isFinite = true
  above : centBelow.lt amount = true
  negative : amount.lt 0 = true → minor = 0

theorem storedAmount_of_toMinor? {amount : Binary64} {minor : UInt32}
    (h : toMinor? amount = some minor) : StoredAmount amount minor := by
  have hsome : ¬ toMinor? amount = none := by
    rw [h]
    exact Option.some_ne_none minor
  rw [toMinor?_eq_none_iff, not_or, not_or, Bool.not_eq_false] at hsome
  obtain ⟨hfinite, hle, -⟩ := hsome
  have habove : centBelow.lt amount = true := by
    obtain ⟨negative, units, hunits, rfl⟩ := exists_finite_eq hfinite
    rwa [centBelow_lt_finite, ← finite_le_centBelow hunits]
  refine ⟨hfinite, habove, fun hbelow => ?_⟩
  rw [toMinor?_of_vanishes ⟨hbelow, habove⟩] at h
  exact (Option.some.inj h).symm

/-- A stored amount that does not vanish is not negative. -/
theorem StoredAmount.not_vanishes_iff {amount : Binary64} {minor : UInt32}
    (h : StoredAmount amount minor) : ¬ Vanishes amount ↔ (0 : Binary64).le amount = true := by
  rw [Vanishes, h.above, and_iff_left rfl]
  obtain ⟨_, hzero⟩ := hasUnits_literal 0 (by decide)
  obtain ⟨negative, units, hunits, rfl⟩ := exists_finite_eq h.finite
  rw [hzero, finite_lt_iff_not_le, not_not]

end Money

end SealedReceipts
