import Mathlib.Tactic.LinearCombination
import SealedReceipts.Proofs.Curve.Field

/-!
# The right side of the equation has no zero

The curve has no point with `y = 0`: the cubic on the right side has no root in the field
(`Curve.rightSide_ne_zero`). A root `x` would make every polynomial and its remainder modulo the
cubic agree at `x`. The remainder of `X ^ p - X` is zero at `x`, as it is at every element of the
field; but it has an inverse modulo the cubic, which is given here.
-/

namespace SealedReceipts

namespace Curve

/-! ## The cubic in the field -/

/-- The right side of the equation in the field. -/
def cubic (x : ZMod p) : ZMod p := x ^ 3 - 3 * x + b

theorem cast_p_sub {c : Nat} (h : c ≤ p) : ((p - c : Nat) : ZMod p) = -c := by
  rw [Nat.cast_sub h, ZMod.natCast_self, zero_sub]

theorem cast_rightSide (x : Nat) : (rightSide x : ZMod p) = cubic x := by
  rw [rightSide, ZMod.natCast_mod]
  push_cast [cast_p_sub (show 3 ≤ p by decide)]
  rw [cubic]
  ring

/-- The equation of the curve, in the field. -/
theorem onCurve_iff {x y : Nat} :
    OnCurve x y ↔ x < p ∧ y < p ∧ (y : ZMod p) ^ 2 = cubic x := by
  have hreduced : rightSide x % p = rightSide x := Nat.mod_mod _ _
  rw [OnCurve, sq, ← Nat.cast_mul, ← cast_rightSide, cast_eq_cast_iff, hreduced]

/-! ## Remainders modulo the cubic -/

/-- A remainder `c₀ + c₁ X + c₂ X²`. -/
structure Remainder where
  c₀ : Nat
  c₁ : Nat
  c₂ : Nat
  deriving DecidableEq

namespace Remainder

def eval (u : Remainder) (x : ZMod p) : ZMod p := u.c₀ + u.c₁ * x + u.c₂ * x ^ 2

/-- The remainder of a product: `X³` is `3 X - b`, and `X⁴` is `3 X² - b X`. -/
def mul (u v : Remainder) : Remainder :=
  let d₃ := u.c₁ * v.c₂ + u.c₂ * v.c₁
  let d₄ := u.c₂ * v.c₂
  { c₀ := (u.c₀ * v.c₀ + (p - b) * d₃) % p
    c₁ := (u.c₀ * v.c₁ + u.c₁ * v.c₀ + 3 * d₃ + (p - b) * d₄) % p
    c₂ := (u.c₀ * v.c₂ + u.c₁ * v.c₁ + u.c₂ * v.c₀ + 3 * d₄) % p }

def one : Remainder := ⟨1, 0, 0⟩

/-- One bit of the power of `X`. -/
def powerStep (value : Remainder) (bit : Bool) : Remainder :=
  if bit then mul (mul value value) ⟨0, 1, 0⟩ else mul value value

/-- The remainder of the power of `X` whose exponent the bits write, the highest first. -/
def power (bits : List Bool) : Remainder := bits.foldl powerStep one

def subX (u : Remainder) : Remainder := { u with c₁ := u.c₁ + (p - 1) }

@[simp] theorem eval_one (x : ZMod p) : one.eval x = 1 := by simp [eval, one]

theorem eval_X (x : ZMod p) : eval ⟨0, 1, 0⟩ x = x := by simp [eval]

theorem eval_subX (u : Remainder) (x : ZMod p) : u.subX.eval x = u.eval x - x := by
  simp only [eval, subX, Nat.cast_add, cast_p_sub (show 1 ≤ p by decide), Nat.cast_one]
  ring

/-- At a root of the cubic, the remainder of a product has the product of the values. -/
theorem eval_mul {x : ZMod p} (h : cubic x = 0) (u v : Remainder) :
    (mul u v).eval x = u.eval x * v.eval x := by
  simp only [eval, mul, ZMod.natCast_mod]
  push_cast [cast_p_sub (show b ≤ p by decide)]
  rw [cubic] at h
  linear_combination
    (-(u.c₁ * v.c₂ + u.c₂ * v.c₁ : ZMod p) - u.c₂ * v.c₂ * x) * h

theorem eval_power {x : ZMod p} (h : cubic x = 0) (bits : List Bool) :
    (power bits).eval x = x ^ Modular.ofBits bits := by
  rw [← List.reverse_reverse bits]
  induction bits.reverse with
  | nil => simp [power, Modular.ofBits]
  | cons bit bits ih =>
    rw [List.reverse_cons, Modular.ofBits_append_singleton, power, List.foldl_append,
      List.foldl_cons, List.foldl_nil, ← power]
    cases bit with
    | false => simp [powerStep, eval_mul h, ih, pow_mul', sq]
    | true => simp [powerStep, eval_mul h, ih, eval_X, pow_succ, pow_mul']

/-- The inverse of `X ^ p - X` modulo the cubic. -/
def inverse : Remainder where
  c₀ := 0xa969487079f1744798bf0de6fded091b66e9d328eb0645fe5d979d1339b7f47f
  c₁ := 0xa4a08891884100c13323460107a8d28eede4387fa3e6e9bfebec9f6d72d0b5cc
  c₂ := 0x4cde11cf86cb876cd59cf0115813c55af0ecd3cda667d98bb9a347a56aa74a6d

theorem mul_inverse : mul inverse (power (Modular.descendingBits p)).subX = one := by
  decide +kernel

end Remainder

/-! ## No root -/

theorem cubic_ne_zero (x : ZMod p) : cubic x ≠ 0 := by
  intro hroot
  have hvalue : (Remainder.power (Modular.descendingBits p)).eval x = x := by
    rw [Remainder.eval_power hroot, Modular.ofBits_descendingBits (by decide), ZMod.pow_card]
  have hone := congrArg (Remainder.eval · x) Remainder.mul_inverse
  simp only [Remainder.eval_mul hroot, Remainder.eval_subX, hvalue, sub_self, mul_zero,
    Remainder.eval_one, zero_ne_one] at hone

/-- **The curve has no point with `y = 0`.** -/
theorem rightSide_ne_zero (x : Nat) : rightSide x ≠ 0 := by
  intro hzero
  apply cubic_ne_zero x
  rw [← cast_rightSide, hzero, Nat.cast_zero]

end Curve

end SealedReceipts
