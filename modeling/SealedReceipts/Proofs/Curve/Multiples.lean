import SealedReceipts.Proofs.Curve.Group

/-!
# Multiples of a point

Projective coordinates stand for an element of the group (`Projective.Stands`). Doubling and adding
do in the coordinates what the group does, whatever the points are, so double-and-add over the bits
of a number computes the multiple of the group (`Curve.multiple?_element`).
-/

namespace SealedReceipts

namespace Curve

namespace Projective

/-- What the coordinates say of an element of the group. -/
def Denotes (q : Projective) : Element → Prop
  | .zero => q.z = 0
  | .some x y _ => q.z ≠ 0 ∧ (q.x : ZMod p) = x * q.z ^ 2 ∧ (q.y : ZMod p) = y * q.z ^ 3

/-- Reduced coordinates of an element of the group. -/
structure Stands (q : Projective) (P : Element) : Prop where
  x_lt : q.x < p
  y_lt : q.y < p
  z_lt : q.z < p
  denotes : q.Denotes P

variable {q : Projective} {P : Element} {r : Point}

/-! ## Coordinates in the field -/

theorem mod_p_lt (a : Nat) : a % p < p := Nat.mod_lt _ prime_p.pos

theorem sub_lt (a c : Nat) : sub a c < p := mod_p_lt _

theorem cast_sub {a c : Nat} (h : c < p) : (sub a c : ZMod p) = a - c := by
  rw [sub, ZMod.natCast_mod, Nat.cast_add, cast_p_sub h.le, sub_eq_add_neg]

theorem cast_eq_zero_iff {a : Nat} (h : a < p) : (a : ZMod p) = 0 ↔ a = 0 := by
  rw [← Nat.cast_zero]
  exact ⟨eq_of_cast_eq h prime_p.pos, fun hzero => by rw [hzero]⟩

theorem identity_stands : identity.Stands 0 := ⟨by decide, by decide, by decide, rfl⟩

theorem Stands.z_ne_zero {x y : ZMod p} {hxy : weierstrass.Nonsingular x y}
    (h : q.Stands (.some x y hxy)) : (q.z : ZMod p) ≠ 0 := by
  rw [Ne, cast_eq_zero_iff h.z_lt]
  exact h.denotes.1

/-! ## Doubling -/

theorem cast_double_x (q : Projective) :
    ((double q).x : ZMod p) = (3 * (q.x ^ 2 - q.z ^ 4)) ^ 2 - 8 * q.x * q.y ^ 2 := by
  simp only [double, cast_sub (mod_p_lt _), ZMod.natCast_mod, Nat.cast_mul, Nat.cast_add,
    Nat.cast_ofNat]
  ring

theorem cast_double_y (q : Projective) :
    ((double q).y : ZMod p) =
      3 * (q.x ^ 2 - q.z ^ 4) * (4 * q.x * q.y ^ 2 - (double q).x) - 8 * q.y ^ 4 := by
  simp only [double, cast_sub (mod_p_lt _), cast_sub (sub_lt _ _), ZMod.natCast_mod, Nat.cast_mul,
    Nat.cast_add, Nat.cast_ofNat]
  ring

theorem cast_double_z (q : Projective) : ((double q).z : ZMod p) = 2 * q.y * q.z := by
  simp only [double, ZMod.natCast_mod, Nat.cast_mul, Nat.cast_ofNat]

/-- Doubling the coordinates doubles the element. -/
theorem Stands.double (h : q.Stands P) : q.double.Stands (P + P) := by
  refine ⟨sub_lt _ _, sub_lt _ _, mod_p_lt _, ?_⟩
  cases P with
  | zero =>
    have hz : q.z = 0 := h.denotes
    show q.double.z = 0
    simp [Projective.double, hz]
  | some x y hxy =>
    have hcurve := hxy.1
    obtain ⟨-, hx, hy⟩ := h.denotes
    have hslope := tangent hcurve
    rw [WeierstrassCurve.Affine.Point.add_self_of_Y_ne (ne_negY hcurve)]
    show _ ∧ _ = weierstrass.addX x x _ * _ ∧ _ = weierstrass.addY x x y _ * _
    rw [addX_eq, addY_eq]
    generalize weierstrass.slope x x y y = slope at hslope
    have hz' : (q.double.z : ZMod p) = 2 * y * q.z ^ 4 := by
      rw [cast_double_z, hy]
      ring
    have hx' : (q.double.x : ZMod p) = (slope ^ 2 - x - x) * q.double.z ^ 2 := by
      rw [cast_double_x, hx, hy, hz']
      linear_combination (-(slope * (2 * y) + 3 * x ^ 2 - 3) * q.z ^ 8 : ZMod p) * hslope
    refine ⟨fun hzero => ?_, hx', ?_⟩
    · have hne : (2 * y * q.z ^ 4 : ZMod p) ≠ 0 :=
        mul_ne_zero (mul_ne_zero two_ne_zero_mod_p (ne_zero_of_equation hcurve))
          (pow_ne_zero 4 h.z_ne_zero)
      rw [← hz', hzero, Nat.cast_zero] at hne
      exact hne rfl
    · rw [cast_double_y, hx', hx, hy, hz']
      linear_combination (-4 * y ^ 2 * (3 * x - slope ^ 2) * q.z ^ 12 : ZMod p) * hslope

/-! ## Adding a point -/

/-- How far the point is from the coordinates across, over their `z`. -/
def gap (q : Projective) (r : Point) : Nat := sub (r.x * (q.z * q.z % p) % p) q.x

/-- How far it is upwards. -/
def rise (q : Projective) (r : Point) : Nat := sub (r.y * (q.z * (q.z * q.z % p) % p) % p) q.y

/-- The sum by the chord, for a point that is apart. -/
def chordSum (q : Projective) (r : Point) : Projective :=
  let hh := gap q r * gap q r % p
  let hhh := gap q r * hh % p
  let v := q.x * hh % p
  let x := sub (sub (rise q r * rise q r % p) hhh) (2 * v % p)
  let y := sub (rise q r * sub v x % p) (q.y * hhh % p)
  ⟨x, y, q.z * gap q r % p⟩

theorem add_eq (q : Projective) (r : Point) :
    q.add r =
      if q.z = 0 then ⟨r.x, r.y, 1⟩
      else if gap q r = 0 then if rise q r = 0 then q.double else identity
      else chordSum q r := rfl

theorem gap_lt (q : Projective) (r : Point) : gap q r < p := sub_lt _ _

theorem rise_lt (q : Projective) (r : Point) : rise q r < p := sub_lt _ _

theorem cast_gap (h : q.x < p) (r : Point) : (gap q r : ZMod p) = r.x * q.z ^ 2 - q.x := by
  rw [gap, cast_sub h]
  simp only [ZMod.natCast_mod, Nat.cast_mul]
  ring

theorem cast_rise (h : q.y < p) (r : Point) : (rise q r : ZMod p) = r.y * q.z ^ 3 - q.y := by
  rw [rise, cast_sub h]
  simp only [ZMod.natCast_mod, Nat.cast_mul]
  ring

theorem cast_chordSum_x (q : Projective) (r : Point) :
    ((chordSum q r).x : ZMod p) = rise q r ^ 2 - gap q r ^ 3 - 2 * q.x * gap q r ^ 2 := by
  simp only [chordSum, cast_sub (mod_p_lt _), ZMod.natCast_mod, Nat.cast_mul, Nat.cast_ofNat]
  ring

theorem cast_chordSum_y (q : Projective) (r : Point) :
    ((chordSum q r).y : ZMod p) =
      rise q r * (q.x * gap q r ^ 2 - (chordSum q r).x) - q.y * gap q r ^ 3 := by
  simp only [chordSum, cast_sub (mod_p_lt _), cast_sub (sub_lt _ _), ZMod.natCast_mod, Nat.cast_mul,
    Nat.cast_ofNat]
  ring

theorem cast_chordSum_z (q : Projective) (r : Point) :
    ((chordSum q r).z : ZMod p) = q.z * gap q r := by
  simp only [chordSum, ZMod.natCast_mod, Nat.cast_mul]

theorem point_stands (r : Point) : Stands ⟨r.x, r.y, 1⟩ r.element := by
  obtain ⟨hx, hy, -⟩ := r.onCurve
  refine ⟨hx, hy, prime_p.one_lt, Nat.one_ne_zero, ?_, ?_⟩
  · simp
  · simp

section Adding

variable {x y : ZMod p} {hxy : weierstrass.Nonsingular x y} (h : q.Stands (.some x y hxy))
include h

theorem Stands.gap_eq (r : Point) : (gap q r : ZMod p) = (r.x - x) * q.z ^ 2 := by
  rw [cast_gap h.x_lt, h.denotes.2.1]
  ring

theorem Stands.rise_eq (r : Point) : (rise q r : ZMod p) = (r.y - y) * q.z ^ 3 := by
  rw [cast_rise h.y_lt, h.denotes.2.2]
  ring

theorem Stands.gap_eq_zero_iff (r : Point) : gap q r = 0 ↔ x = r.x := by
  rw [← cast_eq_zero_iff (gap_lt q r), h.gap_eq,
    mul_eq_zero_iff_right (pow_ne_zero 2 h.z_ne_zero), sub_eq_zero, eq_comm]

theorem Stands.rise_eq_zero_iff (r : Point) : rise q r = 0 ↔ y = r.y := by
  rw [← cast_eq_zero_iff (rise_lt q r), h.rise_eq,
    mul_eq_zero_iff_right (pow_ne_zero 3 h.z_ne_zero), sub_eq_zero, eq_comm]

/-- The chord through two points that are apart. -/
theorem Stands.chordSum {r : Point} (hapart : x ≠ r.x) :
    (chordSum q r).Stands (.some x y hxy + r.element) := by
  refine ⟨sub_lt _ _, sub_lt _ _, mod_p_lt _, ?_⟩
  have hslope := chord hapart y r.y
  obtain ⟨-, hx, hy⟩ := h.denotes
  rw [Point.element, WeierstrassCurve.Affine.Point.add_of_X_ne hapart]
  show _ ∧ _ = weierstrass.addX x r.x _ * _ ∧ _ = weierstrass.addY x r.x y _ * _
  rw [addX_eq, addY_eq]
  generalize weierstrass.slope x r.x y r.y = slope at hslope
  have hz' : ((Projective.chordSum q r).z : ZMod p) = (r.x - x) * q.z ^ 3 := by
    rw [cast_chordSum_z, h.gap_eq]
    ring
  have hx' : ((Projective.chordSum q r).x : ZMod p) =
      (slope ^ 2 - x - r.x) * (Projective.chordSum q r).z ^ 2 := by
    rw [cast_chordSum_x, h.gap_eq, h.rise_eq, hx, hz']
    linear_combination (-(slope * (x - r.x) + y - r.y) * q.z ^ 6 : ZMod p) * hslope
  refine ⟨fun hzero => ?_, hx', ?_⟩
  · have hne : ((r.x - x) * q.z ^ 3 : ZMod p) ≠ 0 :=
      mul_ne_zero (sub_ne_zero.2 (Ne.symm hapart)) (pow_ne_zero 3 h.z_ne_zero)
    rw [← hz', hzero, Nat.cast_zero] at hne
    exact hne rfl
  · rw [cast_chordSum_y, hx', h.gap_eq, h.rise_eq, hx, hy, hz']
    linear_combination
      ((r.x - x) ^ 2 * (x - (slope ^ 2 - x - r.x)) * q.z ^ 9 : ZMod p) * hslope

end Adding

/-- Adding a point to the coordinates adds it to the element. -/
theorem Stands.add (h : q.Stands P) (r : Point) : (q.add r).Stands (P + r.element) := by
  rw [add_eq]
  cases P with
  | zero =>
    have hz : q.z = 0 := h.denotes
    have hsum : (.zero : Element) + r.element = r.element := zero_add r.element
    rw [if_pos hz, hsum]
    exact point_stands r
  | some x y hxy =>
    rw [if_neg h.denotes.1]
    split
    · next hgap =>
      have hx := (h.gap_eq_zero_iff r).1 hgap
      split
      · next hrise =>
        have hy := (h.rise_eq_zero_iff r).1 hrise
        subst hx hy
        exact h.double
      · next hrise =>
        have hy : y = weierstrass.negY r.x r.y :=
          (WeierstrassCurve.Affine.Y_eq_of_X_eq hxy.1 r.equation hx).resolve_left
            (mt (h.rise_eq_zero_iff r).2 hrise)
        rw [Point.element, WeierstrassCurve.Affine.Point.add_of_Y_eq hx hy]
        exact identity_stands
    · next hgap => exact h.chordSum (mt (h.gap_eq_zero_iff r).2 hgap)

/-! ## Double and add -/

/-- One bit of a multiple. -/
def step (r : Point) (q : Projective) (bit : Bool) : Projective :=
  if bit then q.double.add r else q.double

theorem Stands.step {k : Nat} (h : q.Stands (k • r.element)) (bit : Bool) :
    (step r q bit).Stands ((2 * k + bit.toNat) • r.element) := by
  have hdouble := h.double
  rw [← two_nsmul, ← mul_nsmul'] at hdouble
  cases bit with
  | false => exact hdouble
  | true =>
    rw [Bool.toNat_true, succ_nsmul]
    exact hdouble.add r

theorem fold_stands (r : Point) (bits : List Bool) :
    (bits.foldl (Projective.step r) identity).Stands (Modular.ofBits bits • r.element) := by
  induction bits using List.reverseRecOn with
  | nil => exact (zero_nsmul r.element).symm ▸ identity_stands
  | append_singleton bits bit ih =>
    rw [List.foldl_append, Modular.ofBits_append_singleton]
    exact ih.step bit

theorem multiple_stands {k : Nat} (h : k < 2 ^ 256) (r : Point) :
    (multiple k r).Stands (k • r.element) := by
  have hfold := fold_stands r (Modular.descendingBits k)
  rwa [Modular.ofBits_descendingBits h] at hfold

/-! ## Back to a point -/

theorem cast_inverse {a : Nat} (h : (a : ZMod p) ≠ 0) :
    (Modular.inverse p a : ZMod p) = (a : ZMod p)⁻¹ := by
  have hexp : p - 2 + 1 = p - 1 := by decide
  rw [Modular.inverse, Modular.power_eq (by decide), ZMod.natCast_mod, Nat.cast_pow]
  refine eq_inv_of_mul_eq_one_left ?_
  rw [← pow_succ, hexp, ZMod.pow_card_sub_one_eq_one h]

/-- The point of coordinates is the element that they stand for. -/
theorem Stands.toPoint?_eq (h : q.Stands P) : q.toPoint?.elim 0 Point.element = P := by
  cases P with
  | zero =>
    have hz : q.z = 0 := h.denotes
    rw [toPoint?, if_pos hz]
    rfl
  | some x y hxy =>
    obtain ⟨hz, hx, hy⟩ := h.denotes
    have hinverse := cast_inverse h.z_ne_zero
    have hz' := h.z_ne_zero
    rw [toPoint?, if_neg hz]
    dsimp only
    generalize Modular.inverse p q.z = inverse at hinverse
    have hx' : ((q.x * (inverse * inverse % p) % p : Nat) : ZMod p) = x := by
      simp only [ZMod.natCast_mod, Nat.cast_mul, hinverse, hx]
      field_simp
    have hy' : ((q.y * (inverse * (inverse * inverse % p) % p) % p : Nat) : ZMod p) = y := by
      simp only [ZMod.natCast_mod, Nat.cast_mul, hinverse, hy]
      field_simp
    have hcurve : OnCurve (q.x * (inverse * inverse % p) % p)
        (q.y * (inverse * (inverse * inverse % p) % p) % p) := by
      refine onCurve_iff.2 ⟨mod_p_lt _, mod_p_lt _, ?_⟩
      rw [hx', hy']
      exact equation_iff.1 hxy.1
    rw [Point.ofCoordinates?, dif_pos hcurve, Option.elim_some, Point.element]
    exact (WeierstrassCurve.Affine.Point.some.injEq ..).mpr ⟨hx', hy'⟩

end Projective

/-! ## Multiples -/

/-- **A multiple is that of the group.** -/
theorem multiple?_element {k : Nat} (h : k < 2 ^ 256) (r : Point) :
    (multiple? k r).elim 0 Point.element = k • r.element :=
  (Projective.multiple_stands h r).toPoint?_eq

/-- A multiple that is not the identity has its point. -/
theorem getD_multiple?_element {k : Nat} (h : k < 2 ^ 256) {r : Point}
    (hne : k • r.element ≠ 0) (other : Point) :
    ((multiple? k r).getD other).element = k • r.element := by
  have helement := multiple?_element h r
  cases hmultiple : multiple? k r with
  | none =>
    rw [hmultiple] at helement
    exact absurd helement.symm hne
  | some q =>
    rw [hmultiple] at helement
    exact helement

end Curve

end SealedReceipts
