import SealedReceipts.Curve.PointText

/-!
# One-time keys

The receiver of a receipt is known by a public point that is used once. Its compressed form names
it: two keys are equal when those bytes are.
-/

namespace SealedReceipts

/-- A receiver's key with its compressed form. -/
structure OneTimeKey where
  point : Curve.Point
  bytes : Bytes
  bytes_eq : bytes = point.compressed

namespace OneTimeKey

def ofPoint (point : Curve.Point) : OneTimeKey :=
  { point, bytes := point.compressed, bytes_eq := rfl }

def ofCompressed (bytes : Bytes) : Except Curve.PointError OneTimeKey :=
  (Curve.Point.ofCompressed bytes).map ofPoint

instance : BEq OneTimeKey := ⟨fun a b => a.bytes == b.bytes⟩

instance : Hashable OneTimeKey := ⟨fun key => hash key.bytes⟩

theorem beq_iff_bytes_eq (a b : OneTimeKey) : (a == b) = true ↔ a.bytes = b.bytes :=
  beq_iff_eq (a := a.bytes) (b := b.bytes)

instance : EquivBEq OneTimeKey where
  rfl {a} := (beq_iff_bytes_eq a a).2 rfl
  symm {a b} h := (beq_iff_bytes_eq b a).2 ((beq_iff_bytes_eq a b).1 h).symm
  trans {a b c} h h' :=
    (beq_iff_bytes_eq a c).2 (((beq_iff_bytes_eq a b).1 h).trans ((beq_iff_bytes_eq b c).1 h'))

instance : LawfulHashable OneTimeKey where
  hash_eq a b h := congrArg (fun bytes : Bytes => hash bytes) ((beq_iff_bytes_eq a b).1 h)

end OneTimeKey

end SealedReceipts
