import SealedReceipts.Proofs.Binary64.Counts
import SealedReceipts.Proofs.Money.Range

/-!
# Stored counts in their order

The stored count of an amount that is not below zero is its rounded product with a hundred, cut at
the point (`Money.toMinor?_eq_some_iff`). Rounding keeps the order, so what is not above an amount
with a stored form has one too (`Money.Storable.of_atMost`).
-/

namespace SealedReceipts

namespace Money

open Binary64

/-- The amount has a stored form. -/
def Storable (amount : Binary64) : Prop := ∃ minor, toMinor? amount = some minor

variable {amount other : Binary64} {units : Nat} {minor : UInt32}

/-- An amount whose product is too large has no stored form. -/
theorem toMinor?_of_lt (h : amount.HasUnits units)
    (hmax : maxMinor < roundUnits (units * 100) 1 / one) : toMinor? amount = none := by
  obtain ⟨hrep, rfl⟩ := h
  obtain ⟨_, hlimit⟩ := hasUnits_ofNat (n := maxMinor) (by decide)
  rw [toMinor?_eq_none]
  rcases trunc_mul_scale false hrep with ⟨hcut, hproduct⟩ | ⟨hproduct, -⟩
  · refine .inr (.inr ?_)
    rw [hproduct, hlimit, Binary64.lt, decide_eq_true_eq]
    exact Int.ofNat_lt.2 (Nat.mul_lt_mul_of_pos_right hmax one_units_pos)
  · exact .inl (by rw [hproduct]; rfl)

theorem toMinor?_minusZero : toMinor? minusZero = some 0 := by decide +kernel

/-- The stored count is the product with a hundred, rounded and cut at the point. -/
theorem toMinor?_eq_some_iff (h : amount.Counts units) :
    toMinor? amount = some minor ↔ minor.toNat = roundUnits (units * 100) 1 / one := by
  obtain ⟨negative, hrep, rfl, hzero⟩ := h
  cases negative with
  | true =>
    obtain rfl := hzero rfl
    have hminus : Binary64.finite true 0 hrep = minusZero := (ofQuotient_eq_finite hrep).symm
    rw [hminus, toMinor?_minusZero, Option.some.injEq, Nat.zero_mul, roundUnits_zero Nat.one_pos,
      Nat.zero_div, ← UInt32.toNat_inj, eq_comm]
    rfl
  | false =>
    have hunits : (Binary64.finite false units hrep).HasUnits units := ⟨hrep, rfl⟩
    rcases Nat.lt_or_ge maxMinor (roundUnits (units * 100) 1 / one) with hlarge | hsmall
    · rw [toMinor?_of_lt hunits hlarge]
      have hmax : minor.toNat ≤ maxMinor := Nat.le_sub_one_of_lt minor.toNat_lt
      refine ⟨fun h => (by cases h), fun h => ?_⟩
      exact absurd (h ▸ hlarge) (Nat.not_lt.2 hmax)
    · rw [toMinor?_of_hasUnits hunits rfl hsmall, Option.some.injEq, ← UInt32.toNat_inj,
        UInt32.toNat_ofNat', Nat.mod_eq_of_lt (Nat.lt_of_le_pred (by decide) hsmall), eq_comm]

/-- What has a stored form and is not below zero counts its units. -/
theorem Storable.counts (h : Storable amount) (hnonneg : amount.NonNegative) :
    ∃ units, amount.Counts units := by
  obtain ⟨minor, hminor⟩ := h
  exact hnonneg.counts_of_isFinite (storedAmount_of_toMinor? hminor).finite

/-- What is not above an amount with a stored form has a stored form. -/
theorem Storable.of_atMost (h : Storable amount) (hle : other.AtMost amount) : Storable other := by
  obtain ⟨minor, hminor⟩ := h
  obtain ⟨small, units, hother, hamount, hle⟩ := hle
  have hcount := (toMinor?_eq_some_iff hamount).1 hminor
  have hless : roundUnits (small * 100) 1 / one ≤ minor.toNat := by
    rw [hcount]
    exact Nat.div_le_div_right (roundUnits_mono Nat.one_pos (Nat.mul_le_mul_right 100 hle))
  refine ⟨UInt32.ofNat (roundUnits (small * 100) 1 / one), (toMinor?_eq_some_iff hother).2 ?_⟩
  rw [UInt32.toNat_ofNat', Nat.mod_eq_of_lt (hless.trans_lt minor.toNat_lt)]

end Money

end SealedReceipts
