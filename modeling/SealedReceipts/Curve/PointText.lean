import SealedReceipts.Bytes
import SealedReceipts.Curve.P256

/-!
# Points as bytes

A point has a full form of 65 bytes, the tag 4 and both coordinates, and a compressed form of 33
bytes, the parity of `y` in the tag and the coordinate `x`. Reading checks the length, then the tag,
then the curve.

Both forms are those of section 4.2 of the specification.
-/

namespace SealedReceipts

namespace Curve

inductive PointError where
  | invalidLength (expected actual : Nat)
  | invalidTag (tag : UInt8)
  | notOnCurve
  deriving DecidableEq, Repr

def PointError.message : PointError → String
  | .invalidLength expected actual => s!"expected a {expected}-byte point, got {actual} bytes"
  | .invalidTag tag => s!"invalid point encoding tag 0x{Bytes.toHex [tag]}"
  | .notOnCurve => "point is not on the P-256 curve"

def coordinateLength : Nat := 32

def compressedLength : Nat := 33

def uncompressedLength : Nat := 65

def parityTag (y : Nat) : UInt8 := if y % 2 = 1 then 3 else 2

def uncompressedTag : UInt8 := 4

namespace Point

def coordinate (c : Nat) : Bytes := Bytes.ofNat coordinateLength c

def uncompressed (q : Point) : Bytes :=
  uncompressedTag :: (coordinate q.x ++ coordinate q.y)

def compressed (q : Point) : Bytes :=
  parityTag q.y :: coordinate q.x

/-- The point with coordinate `x` whose `y` has the given parity. -/
def ofParity? (x : Nat) (odd : Bool) : Option Point :=
  if x < p then do
    let root ← Modular.sqrt? p (rightSide x)
    ofCoordinates? x (if (root % 2 = 1) = odd then root else p - root)
  else none

def ofCompressed : Bytes → Except PointError Point
  | [] => .error (.invalidLength compressedLength 0)
  | tag :: body =>
    if body.length ≠ coordinateLength then
      .error (.invalidLength compressedLength (body.length + 1))
    else if tag ≠ 2 ∧ tag ≠ 3 then .error (.invalidTag tag)
    else
      match ofParity? (Bytes.toNat body) (tag = 3) with
      | some q => .ok q
      | none => .error .notOnCurve

def ofUncompressed : Bytes → Except PointError Point
  | [] => .error (.invalidLength uncompressedLength 0)
  | tag :: body =>
    if body.length ≠ 2 * coordinateLength then
      .error (.invalidLength uncompressedLength (body.length + 1))
    else if tag ≠ uncompressedTag then .error (.invalidTag tag)
    else
      let (x, y) := body.splitAt coordinateLength
      match ofCoordinates? (Bytes.toNat x) (Bytes.toNat y) with
      | some q => .ok q
      | none => .error .notOnCurve

@[simp] theorem length_compressed (q : Point) : q.compressed.length = compressedLength := by
  simp [compressed, coordinate, coordinateLength, compressedLength]

@[simp] theorem length_uncompressed (q : Point) : q.uncompressed.length = uncompressedLength := by
  simp [uncompressed, coordinate, coordinateLength, uncompressedLength]

end Point

end Curve

end SealedReceipts
