import Mathlib.AlgebraicGeometry.EllipticCurve.Affine.Point
import SealedReceipts.Proofs.Curve.RightSide

/-!
# The points of the curve in a group

The points of a Weierstrass curve are a commutative group, with an identity that has no coordinates.
A point of the curve has its place in that group (`Curve.Point.element`): none is singular, for none
has `y = 0`.
-/

namespace SealedReceipts

namespace Curve

/-- The curve over the field, in the form `y² + a₁ x y + a₃ y = x³ + a₂ x² + a₄ x + a₆`. -/
def weierstrass : WeierstrassCurve.Affine (ZMod p) where
  a₁ := 0
  a₂ := 0
  a₃ := 0
  a₄ := -(3 : Nat)
  a₆ := b

/-- The points of the curve and the identity. -/
abbrev Element : Type := weierstrass.Point

theorem two_ne_zero_mod_p : (2 : ZMod p) ≠ 0 := by
  intro h
  have hdvd : p ∣ 2 := (ZMod.natCast_eq_zero_iff 2 p).1 (by exact_mod_cast h)
  exact absurd hdvd (by decide)

theorem equation_iff {x y : ZMod p} : weierstrass.Equation x y ↔ y ^ 2 = cubic x := by
  rw [WeierstrassCurve.Affine.equation_iff, cubic]
  simp only [weierstrass]
  constructor
  · intro h
    linear_combination h
  · intro h
    linear_combination h

theorem ne_zero_of_equation {x y : ZMod p} (h : weierstrass.Equation x y) : y ≠ 0 := by
  rintro rfl
  have hroot := equation_iff.1 h
  exact cubic_ne_zero x (by rw [← hroot]; ring)

theorem negY_eq (x y : ZMod p) : weierstrass.negY x y = -y := by
  simp [weierstrass, WeierstrassCurve.Affine.negY]

/-- A point of the curve is not its own negative. -/
theorem ne_negY {x y : ZMod p} (h : weierstrass.Equation x y) : y ≠ weierstrass.negY x y := by
  rw [negY_eq]
  intro hy
  have hdouble : 2 * y = 0 := by linear_combination hy
  exact (mul_ne_zero two_ne_zero_mod_p (ne_zero_of_equation h)) hdouble

/-- The curve has no singular points. -/
theorem nonsingular_of_equation {x y : ZMod p} (h : weierstrass.Equation x y) :
    weierstrass.Nonsingular x y :=
  (WeierstrassCurve.Affine.nonsingular_iff x y).2 ⟨h, .inr (ne_negY h)⟩

/-! ## Tangents and chords -/

theorem addX_eq (x₁ x₂ slope : ZMod p) :
    weierstrass.addX x₁ x₂ slope = slope ^ 2 - x₁ - x₂ := by
  simp [weierstrass, WeierstrassCurve.Affine.addX]

theorem addY_eq (x₁ x₂ y₁ slope : ZMod p) :
    weierstrass.addY x₁ x₂ y₁ slope = slope * (x₁ - (slope ^ 2 - x₁ - x₂)) - y₁ := by
  rw [WeierstrassCurve.Affine.addY, WeierstrassCurve.Affine.negAddY, negY_eq, addX_eq]
  ring

/-- The slope of the tangent at a point. -/
theorem tangent {x y : ZMod p} (h : weierstrass.Equation x y) :
    weierstrass.slope x x y y * (2 * y) = 3 * x ^ 2 - 3 := by
  have hy : 2 * y ≠ 0 := mul_ne_zero two_ne_zero_mod_p (ne_zero_of_equation h)
  rw [WeierstrassCurve.Affine.slope_of_Y_ne rfl (ne_negY h), negY_eq, sub_neg_eq_add, ← two_mul y,
    div_mul_cancel₀ _ hy]
  simp only [weierstrass]
  ring

/-- The slope of the chord through two points. -/
theorem chord {x₁ x₂ : ZMod p} (h : x₁ ≠ x₂) (y₁ y₂ : ZMod p) :
    weierstrass.slope x₁ x₂ y₁ y₂ * (x₁ - x₂) = y₁ - y₂ := by
  rw [WeierstrassCurve.Affine.slope_of_X_ne h, div_mul_cancel₀ _ (sub_ne_zero.2 h)]

/-! ## Points -/

theorem Point.equation (q : Point) : weierstrass.Equation (q.x : ZMod p) q.y :=
  equation_iff.2 (onCurve_iff.1 q.onCurve).2.2

/-- A point as an element of the group. -/
def Point.element (q : Point) : Element := .some q.x q.y (nonsingular_of_equation q.equation)

theorem Point.element_ne_zero (q : Point) : q.element ≠ 0 :=
  WeierstrassCurve.Affine.Point.some_ne_zero _

theorem eq_of_cast_eq {a c : Nat} (ha : a < p) (hc : c < p) (h : (a : ZMod p) = c) : a = c := by
  rwa [cast_eq_cast_iff, Nat.mod_eq_of_lt ha, Nat.mod_eq_of_lt hc] at h

/-- Points are told apart by their elements. -/
theorem Point.element_injective {q r : Point} (h : q.element = r.element) : q = r := by
  obtain ⟨hx, hy⟩ := (WeierstrassCurve.Affine.Point.some.injEq ..).mp h
  obtain ⟨hqx, hqy, -⟩ := q.onCurve
  obtain ⟨hrx, hry, -⟩ := r.onCurve
  rw [Point.mk.injEq]
  exact ⟨eq_of_cast_eq hqx hrx hx, eq_of_cast_eq hqy hry hy⟩

end Curve

end SealedReceipts
