import SealedReceipts.Proofs.Binary64.Counts

/-!
# Errors add up

`Near error a b` says that two counts are at most `error` apart; such distances add up along a chain.
Below `2 ^ 26`, where every amount with a stored form lies, one rounding is off by at most one *tick*,
the `2 ^ 28`-th part of one (`roundUnits_near_tick`). So a sum of `n` terms is at most `n` ticks away
from the exact one, in whatever way its partial sums are rounded (`sumFrom_near`).
-/

namespace SealedReceipts

namespace Binary64

/-! ## Distances -/

/-- The counts are at most `error` apart. -/
def Near (error a b : Nat) : Prop := a ≤ b + error ∧ b ≤ a + error

namespace Near

variable {error other a b c d k : Nat}

theorem refl (a : Nat) : Near 0 a a := ⟨Nat.le_refl a, Nat.le_refl a⟩

theorem symm (h : Near error a b) : Near error b a := ⟨h.2, h.1⟩

theorem mono (h : Near error a b) (hle : error ≤ other) : Near other a b :=
  ⟨h.1.trans (Nat.add_le_add_left hle b), h.2.trans (Nat.add_le_add_left hle a)⟩

theorem trans (h : Near error a b) (h' : Near other b c) : Near (error + other) a c := by
  obtain ⟨hab, hba⟩ := h
  obtain ⟨hbc, hcb⟩ := h'
  constructor <;> omega

theorem add (h : Near error a b) (h' : Near other c d) : Near (error + other) (a + c) (b + d) := by
  obtain ⟨hab, hba⟩ := h
  obtain ⟨hcd, hdc⟩ := h'
  constructor <;> omega

theorem add_right (h : Near error a b) (c : Nat) : Near error (a + c) (b + c) := by
  obtain ⟨hab, hba⟩ := h
  constructor <;> omega

theorem mul_right (h : Near error a b) (k : Nat) : Near (error * k) (a * k) (b * k) := by
  constructor
  · rw [← Nat.add_mul]
    exact Nat.mul_le_mul_right k h.1
  · rw [← Nat.add_mul]
    exact Nat.mul_le_mul_right k h.2

theorem of_mul_right (hk : 0 < k) (h : Near (error * k) (a * k) (b * k)) : Near error a b := by
  rw [Near, ← Nat.add_mul, ← Nat.add_mul] at h
  exact ⟨Nat.le_of_mul_le_mul_right h.1 hk, Nat.le_of_mul_le_mul_right h.2 hk⟩

end Near

/-! ## One rounding -/

/-- Half the distance of neighbouring counts below `2 ^ 26`. -/
@[irreducible] def tick : Nat := Nat.pow 2 1046

theorem one_eq_ticks : one = 2 ^ 28 * tick := by decide +kernel

theorem tick_pos : 0 < tick := Nat.pos_of_ne_zero fun h => by
  have hone := one_units_pos
  rw [one_eq_ticks, h] at hone
  exact absurd hone (Nat.lt_irrefl 0)

theorem exists_tick_eq : ∃ exponent, tick = 2 ^ exponent := by
  unfold tick
  generalize 1046 = exponent
  exact ⟨exponent, rfl⟩

/-- Below `2 ^ (26 + j)` the distance of neighbouring counts is at most two times `2 ^ j` ticks. -/
theorem spacing_le_of_lt {units : Nat} (j : Nat) (h : units < 2 ^ (26 + j) * one) :
    spacing units ≤ 2 * (2 ^ j * tick) := by
  obtain ⟨exponent, htick⟩ := exists_tick_eq
  have hlog : units.log2 ≤ 53 + j + exponent := by
    refine log2_lt (h.trans_eq ?_)
    rw [one_eq_ticks, htick, ← Nat.pow_add, ← Nat.pow_add]
    exact congrArg (2 ^ ·) (by omega)
  rw [spacing_eq, htick, ← Nat.pow_add, ← Nat.pow_succ']
  exact Nat.pow_le_pow_right (by decide) (by omega)

/-- A quotient below `2 ^ (26 + j)` is rounded by at most `2 ^ j` ticks. -/
theorem roundUnits_near_ticks (j : Nat) {n d : Nat} (hd : 0 < d) (h : n < 2 ^ (26 + j) * one * d) :
    Near (2 ^ j * tick * d) (roundUnits n d * d) n := by
  have hspacing := spacing_le_of_lt j ((Nat.div_lt_iff_lt_mul hd).2 h)
  have hstep : d * spacing (n / d) ≤ 2 * (2 ^ j * tick * d) := by
    rw [← Nat.mul_assoc, Nat.mul_comm d]
    exact Nat.mul_le_mul_right d hspacing
  have hnear := roundHalfEven_near n (Nat.mul_pos hd (spacing_pos (n / d)))
  rw [roundUnits_mul_eq]
  generalize roundHalfEven n (d * spacing (n / d)) * (d * spacing (n / d)) = rounded at hnear ⊢
  constructor <;> omega

theorem roundUnits_near_tick {n d : Nat} (hd : 0 < d) (h : n < 2 ^ 26 * one * d) :
    Near (tick * d) (roundUnits n d * d) n := by
  have hnear := roundUnits_near_ticks 0 hd (by rwa [Nat.add_zero])
  rwa [Nat.pow_zero, Nat.one_mul] at hnear

/-- A rounded sum below `2 ^ 26` is at most one tick away from the exact one. -/
theorem roundUnits_add_near {a b : Nat} (h : roundUnits (a + b) 1 < 2 ^ 26 * one) :
    Near tick (roundUnits (a + b) 1) (a + b) := by
  have hlt := lt_of_roundUnits_lt Nat.one_pos (spacing_dvd_mul_one (by decide)) h
  have hnear := roundUnits_near_tick Nat.one_pos hlt
  rwa [Nat.mul_one, Nat.mul_one] at hnear

/-! ## Sums -/

/-- **Each addition costs at most one tick.** -/
theorem sumFrom_near {start : Binary64} {terms : List Binary64} {a w : Nat}
    (hstart : start.Counts a) (hterms : ∀ x ∈ terms, x.Counts x.magnitude)
    (hsum : (sumFrom start terms).Counts w) (hlt : w < 2 ^ 26 * one) :
    Near (terms.length * tick) w (a + (terms.map magnitude).sum) := by
  induction terms generalizing start a with
  | nil =>
    rw [hsum.unique hstart, List.length_nil, Nat.zero_mul, List.map_nil, List.sum_nil, Nat.add_zero]
    exact Near.refl a
  | cons term terms ih =>
    obtain ⟨hterm, hrest⟩ := List.forall_mem_cons.1 hterms
    rw [sumFrom_cons] at hsum
    have hnonneg := hstart.nonNegative.add hterm.nonNegative
    obtain ⟨hle, -⟩ := counts_of_sumFrom hnonneg (fun x hx => (hrest x hx).nonNegative) hsum
    obtain ⟨units, hunits, hle⟩ := hle.exists_le hsum
    have hbehind := ih hunits hrest hsum
    obtain ⟨rfl, -⟩ := (hstart.add_iff hterm).1 hunits
    have hfirst := roundUnits_add_near (hle.trans_lt hlt)
    rw [List.length_cons, List.map_cons, List.sum_cons, Nat.succ_mul, ← Nat.add_assoc]
    exact hbehind.trans (hfirst.add_right _)

end Binary64

end SealedReceipts
