import SealedReceipts.Money
import SealedReceipts.Proofs.Binary64.Rounding

/-!
# Minor units there and back

The amount of a stored count is the count divided by a hundred, and its own stored count is that
quotient times a hundred, cut at the point. Both operations round, each by at most one part in
`2 ^ 53`, and the cut takes away what is left of a unit. A count has at most 32 bits, so the two
errors together stay below a unit: the stored count comes back, or the one below it
(`Money.toMinor?_ofMinor`).
-/

namespace SealedReceipts

namespace Money

open Binary64

/-! ## The two roundings -/

/-- A count of whole ones is zero or far beyond 53 bits of units. -/
theorem zero_or_fills (n : Nat) : n * one = 0 ∨ 2 ^ 64 ≤ n * one := by
  rcases Nat.eq_zero_or_pos n with rfl | hpos
  · exact .inl (Nat.zero_mul one)
  · exact .inr (two_pow_le_one.trans (Nat.le_mul_of_pos_left one hpos))

theorem quotient_near {n quotient : Nat} (h : roundUnits (n * one) 100 = quotient) :
    n * one * (2 ^ 53 - 1) ≤ quotient * 100 * 2 ^ 53 ∧
      quotient * 100 * 2 ^ 53 ≤ n * one * (2 ^ 53 + 1) := by
  have hfills : n * one = 0 ∨ 2 ^ 52 * 100 ≤ n * one :=
    (zero_or_fills n).imp_right (le_trans (by decide))
  have hnear := roundUnits_near (by decide) hfills
  rwa [h] at hnear

/-- The product of the rounded quotient is less than a whole one away from the count. -/
theorem product_near {n quotient product : Nat} (hn : n < 2 ^ 32)
    (hquotient : roundUnits (n * one) 100 = quotient)
    (hproduct : roundUnits (quotient * 100) 1 = product) :
    product < n * one + one ∧ n * one < product + one := by
  have hbound : n * one ≤ 2 ^ 32 * one := Nat.mul_le_mul_right one hn.le
  have hpos := one_units_pos
  have hcount := zero_or_fills n
  have hfirst := quotient_near hquotient
  generalize n * one = count at *
  generalize one = unit at *
  have hfills : quotient * 100 = 0 ∨ 2 ^ 52 * 1 ≤ quotient * 100 := by omega
  have hsecond := roundUnits_near Nat.one_pos hfills
  rw [hproduct] at hsecond
  omega

/-! ## The two directions on amounts that are not negative -/

theorem hasUnits_scale : scale.HasUnits (100 * one) := by
  unfold scale
  exact hasUnits_literal 100 (by decide)

/-- The stored count of an amount whose rounded product is small enough. -/
theorem toMinor?_of_hasUnits {amount : Binary64} {units product : Nat}
    (h : amount.HasUnits units) (hproduct : roundUnits (units * 100) 1 = product)
    (hmax : product / one ≤ maxMinor) :
    toMinor? amount = some (UInt32.ofNat (product / one)) := by
  have hwhole : product / one ≤ 2 ^ 53 := hmax.trans (by decide)
  have hlt : product < (2 ^ 53 + 1) * one :=
    (Nat.div_lt_iff_lt_mul one_units_pos).1 (Nat.lt_succ_of_le hwhole)
  have hround : roundUnits (units * (100 * one)) one = product := by
    have hscaled := roundUnits_mul_right (units * 100) 1 one_units_pos
    rwa [Nat.one_mul, Nat.mul_assoc, hproduct] at hscaled
  have hscaled : (amount * scale).HasUnits product := by
    subst hround
    exact h.mul hasUnits_scale (hlt.trans (mul_one_lt (by decide)))
  have hcut := hscaled.trunc hwhole
  have hlimit : (Binary64.ofNat maxMinor).HasUnits (maxMinor * one) := hasUnits_ofNat (by decide)
  have hzero : (0 : Binary64).HasUnits (0 * one) := hasUnits_literal 0 (by decide)
  have hle : ¬maxMinor * one < product / one * one :=
    Nat.not_lt.2 (Nat.mul_le_mul_right one hmax)
  unfold toMinor?
  dsimp only
  rw [hcut.isFinite, hcut.lt hzero, hlimit.lt hcut, hcut.wholePart,
    Nat.mul_div_cancel _ one_units_pos]
  simp [hle]

/-- The amount of a stored count is the rounded quotient. -/
theorem hasUnits_ofMinor (n : UInt32) :
    (ofMinor n).HasUnits (roundUnits (n.toNat * one) 100) := by
  have hn : n.toNat ≤ 2 ^ 53 := n.toNat_lt.le.trans (by decide)
  have hround : roundUnits (n.toNat * one * one) (100 * one) = roundUnits (n.toNat * one) 100 :=
    roundUnits_mul_right _ _ one_units_pos
  have hlt : roundUnits (n.toNat * one) 100 < Nat.pow 2 2098 := by
    have hnear := quotient_near (n := n.toNat) rfl
    refine lt_of_le_of_lt ?_ (mul_one_lt (hn.trans (by decide)))
    generalize n.toNat * one = count at *
    omega
  rw [← hround]
  refine (hasUnits_ofNat hn).div hasUnits_scale (Nat.mul_pos (by decide) one_units_pos) ?_
  rwa [hround]

/-! ## There and back -/

/-- The stored count `m` is `n` itself or one less. -/
def AtMostOneLess (n m : UInt32) : Prop :=
  m = n ∨ m.toNat + 1 = n.toNat

/-- **There and back.** Every stored amount has a stored count again, its own or the one below. -/
theorem toMinor?_ofMinor (n : UInt32) :
    ∃ m, toMinor? (ofMinor n) = some m ∧ AtMostOneLess n m := by
  have hn : n.toNat < 2 ^ 32 := n.toNat_lt
  have hunits := hasUnits_ofMinor n
  generalize hquotient : roundUnits (n.toNat * one) 100 = quotient at hunits
  generalize hproduct : roundUnits (quotient * 100) 1 = product
  obtain ⟨hunder, hover⟩ := product_near hn hquotient hproduct
  have hle : product / one ≤ n.toNat := by
    rw [← Nat.succ_mul] at hunder
    exact Nat.lt_succ_iff.1 ((Nat.div_lt_iff_lt_mul one_units_pos).2 hunder)
  have hge : n.toNat < product / one + 2 := by
    have hcut := Nat.lt_div_mul_add (a := product) one_units_pos
    refine Nat.lt_of_mul_lt_mul_right (a := one) (hover.trans ?_)
    rw [Nat.add_mul]
    omega
  have hcount : (UInt32.ofNat (product / one)).toNat = product / one := by
    rw [UInt32.toNat_ofNat', Nat.mod_eq_of_lt (by omega)]
  refine ⟨_, toMinor?_of_hasUnits hunits hproduct (hle.trans (Nat.le_sub_one_of_lt hn)), ?_⟩
  rw [AtMostOneLess, ← UInt32.toNat_inj, hcount]
  omega

example : toMinor? (ofMinor 28) = some 28 ∧ toMinor? (ofMinor 29) = some 28 := by decide +kernel

/-! ## Amounts of different counts -/

/-- The rounded quotients of two counts stay apart: a hundredth is far more than the two errors
together. -/
theorem quotient_lt {n m : Nat} (h : n < m) (hm : m < 2 ^ 32) :
    roundUnits (n * one) 100 < roundUnits (m * one) 100 := by
  obtain ⟨-, hbelow⟩ := quotient_near (n := n) rfl
  obtain ⟨habove, -⟩ := quotient_near (n := m) rfl
  have hgap : n * one + one ≤ m * one := by
    rw [← Nat.succ_mul]
    exact Nat.mul_le_mul_right one h
  have hsmall : n * one ≤ 2 ^ 32 * one := Nat.mul_le_mul_right one (h.trans hm).le
  have hpos := one_units_pos
  generalize roundUnits (n * one) 100 = below at *
  generalize roundUnits (m * one) 100 = above at *
  generalize n * one = count at *
  generalize m * one = more at *
  generalize one = unit at *
  omega

/-- Amounts that compare as equal are those of one stored count. -/
theorem equal_ofMinor_iff {n m : UInt32} : (ofMinor n).Equal (ofMinor m) ↔ n = m := by
  rw [(hasUnits_ofMinor n).equal_iff (hasUnits_ofMinor m)]
  constructor
  · intro h
    rcases Nat.lt_trichotomy n.toNat m.toNat with hlt | heq | hgt
    · exact absurd h (quotient_lt hlt m.toNat_lt).ne
    · exact UInt32.toNat_inj.1 heq
    · exact absurd h (quotient_lt hgt n.toNat_lt).ne'
  · rintro rfl
    rfl

theorem ofMinor_inj {n m : UInt32} : ofMinor n = ofMinor m ↔ n = m := by
  constructor
  · intro h
    rw [← equal_ofMinor_iff, h, equal_ofMinor_iff]
  · rintro rfl
    rfl

/-! ## Counts that are stored as one -/

/-- Neighbouring counts whose amounts are both stored as the lower one: it is kept, and the higher
loses a unit. -/
def Absorbs (low high : UInt32) : Prop :=
  low.toNat + 1 = high.toNat ∧ toMinor? (ofMinor low) = some low ∧
    toMinor? (ofMinor high) = some low

/-- One of the two counts absorbs the other. -/
def Confused (m n : UInt32) : Prop := Absorbs m n ∨ Absorbs n m

instance (low high : UInt32) : Decidable (Absorbs low high) :=
  inferInstanceAs (Decidable (_ ∧ _ ∧ _))

instance (m n : UInt32) : Decidable (Confused m n) := inferInstanceAs (Decidable (_ ∨ _))

theorem sameMinor_iff {a b : Binary64} :
    sameMinor a b = true ↔ ∃ m, toMinor? a = some m ∧ toMinor? b = some m := by
  rw [sameMinor]
  cases toMinor? a with
  | none => simp
  | some m =>
    cases toMinor? b with
    | none => simp
    | some n => simp [eq_comm (a := m)]

/-- The amounts of two counts have one stored form if the counts are the same or are confused. -/
theorem sameMinor_ofMinor {m n : UInt32} :
    sameMinor (ofMinor m) (ofMinor n) = true ↔ m = n ∨ Confused m n := by
  rw [sameMinor_iff, Confused]
  constructor
  · rintro ⟨stored, hm, hn⟩
    obtain ⟨_, hm', hless⟩ := toMinor?_ofMinor m
    obtain rfl := Option.some.inj (hm'.symm.trans hm)
    obtain ⟨_, hn', hless'⟩ := toMinor?_ofMinor n
    obtain rfl := Option.some.inj (hn'.symm.trans hn)
    rcases hless with rfl | hless
    · rcases hless' with rfl | hless'
      · exact .inl rfl
      · exact .inr (.inl ⟨hless', hm, hn⟩)
    · rcases hless' with rfl | hless'
      · exact .inr (.inr ⟨hless, hn, hm⟩)
      · exact .inl (UInt32.toNat_inj.1 (hless.symm.trans hless'))
  · rintro (rfl | ⟨-, hm, hn⟩ | ⟨-, hn, hm⟩)
    · obtain ⟨stored, hstored, -⟩ := toMinor?_ofMinor m
      exact ⟨stored, hstored, hstored⟩
    · exact ⟨m, hm, hn⟩
    · exact ⟨n, hm, hn⟩

example : Confused 28 29 ∧ Confused 251 250 ∧ ¬ Confused 29 30 := by decide +kernel

end Money

end SealedReceipts
