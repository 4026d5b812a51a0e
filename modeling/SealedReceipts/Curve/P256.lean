import SealedReceipts.Curve.Modular

/-!
# The curve P-256

The points of `y² = x³ - 3x + b` over the field of `p` elements, of prime order `n`. A `Point` is a
point other than the identity and carries the proof that it lies on the curve; the multiple of a
point is `none` when it is the identity.

Multiples are computed in projective coordinates `(x : y : z)` for `(x / z², y / z³)`, which need no
division until the end, and the result is checked against the equation once more.
-/

namespace SealedReceipts

namespace Curve

/-- The size of the field. -/
def p : Nat := 0xffffffff00000001000000000000000000000000ffffffffffffffffffffffff

/-- The number of points. -/
def n : Nat := 0xffffffff00000000ffffffffffffffffbce6faada7179e84f3b9cac2fc632551

/-- The constant of the equation. -/
def b : Nat := 0x5ac635d8aa3a93e7b3ebbd55769886bc651d06b0cc53b0f63bce3c3e27d2604b

def rightSide (x : Nat) : Nat :=
  (x * x * x + (p - 3) * x + b) % p

/-- Reduced coordinates of a point. -/
def OnCurve (x y : Nat) : Prop :=
  x < p ∧ y < p ∧ y * y % p = rightSide x

instance (x y : Nat) : Decidable (OnCurve x y) := by unfold OnCurve; infer_instance

/-- A point other than the identity. -/
structure Point where
  x : Nat
  y : Nat
  onCurve : OnCurve x y
  deriving DecidableEq

def Point.ofCoordinates? (x y : Nat) : Option Point :=
  if h : OnCurve x y then some ⟨x, y, h⟩ else none

/-- The point whose multiples are all points. -/
def generator : Point where
  x := 0x6b17d1f2e12c4247f8bce6e563a440f277037d812deb33a0f4a13945d898c296
  y := 0x4fe342e2fe1a7f9b8ee7eb4a7c0f9e162bce33576b315ececbb6406837bf51f5
  onCurve := by decide

/-! ## Projective coordinates -/

/-- A point `(x / z², y / z³)`; the identity when `z` is zero. -/
structure Projective where
  x : Nat
  y : Nat
  z : Nat

namespace Projective

def identity : Projective := ⟨1, 1, 0⟩

/-- The difference modulo `p` of two reduced numbers. -/
def sub (a b : Nat) : Nat := (a + (p - b)) % p

def double (q : Projective) : Projective :=
  let delta := q.z * q.z % p
  let gamma := q.y * q.y % p
  let beta := q.x * gamma % p
  let alpha := 3 * (sub q.x delta * (q.x + delta) % p) % p
  let x := sub (alpha * alpha % p) (8 * beta % p)
  let z := 2 * q.y * q.z % p
  let y := sub (alpha * sub (4 * beta % p) x % p) (8 * (gamma * gamma % p) % p)
  ⟨x, y, z⟩

/-- The sum of a point and one given by its own coordinates. -/
def add (q : Projective) (r : Point) : Projective :=
  if q.z = 0 then ⟨r.x, r.y, 1⟩
  else
    let zz := q.z * q.z % p
    let u := r.x * zz % p
    let s := r.y * (q.z * zz % p) % p
    let h := sub u q.x
    let t := sub s q.y
    if h = 0 then
      if t = 0 then double q else identity
    else
      let hh := h * h % p
      let hhh := h * hh % p
      let v := q.x * hh % p
      let x := sub (sub (t * t % p) hhh) (2 * v % p)
      let y := sub (t * sub v x % p) (q.y * hhh % p)
      ⟨x, y, q.z * h % p⟩

/-- The point with its own coordinates, unless it is the identity. -/
def toPoint? (q : Projective) : Option Point :=
  if q.z = 0 then none
  else
    let inverse := Modular.inverse p q.z
    let square := inverse * inverse % p
    Point.ofCoordinates? (q.x * square % p) (q.y * (inverse * square % p) % p)

/-- `k` times a point, for `k` below `2 ^ 256`. -/
def multiple (k : Nat) (r : Point) : Projective :=
  (Modular.descendingBits k).foldl
    (fun q bit => if bit then add (double q) r else double q) identity

def sum? (q : Projective) (r : Projective) : Option Point :=
  match r.toPoint? with
  | some point => (add q point).toPoint?
  | none => q.toPoint?

end Projective

/-- `k` times a point, `none` when that is the identity. -/
def multiple? (k : Nat) (r : Point) : Option Point :=
  (Projective.multiple k r).toPoint?

/-! ## Secrets -/

/-- A secret scalar: a number from 1 to `n - 1`. -/
structure Secret where
  scalar : Nat
  positive : 0 < scalar
  below : scalar < n
  deriving DecidableEq

def Secret.ofNat? (k : Nat) : Option Secret :=
  if h : 0 < k ∧ k < n then some ⟨k, h.1, h.2⟩ else none

/-- The public point of a secret. It is never the identity, because `n` is prime and above the
secret. -/
def Secret.publicPoint (d : Secret) : Point :=
  (multiple? d.scalar generator).getD generator

/-- The point that the holder of a secret shares with the holder of another's public point. It is
never the identity, for the same reason. -/
def Secret.sharedPoint (d : Secret) (other : Point) : Point :=
  (multiple? d.scalar other).getD other

end Curve

end SealedReceipts
