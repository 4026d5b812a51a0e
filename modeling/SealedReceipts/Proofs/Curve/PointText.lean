import SealedReceipts.OneTimeKey
import SealedReceipts.Proofs.Bytes
import SealedReceipts.Proofs.Curve.Field

/-!
# Points as bytes: written and read back

Both forms of a point are read back as that point. For the compressed form this needs that the field
has a prime size: of the two roots of the right side one is odd and one is even, and the tag says
which one is the coordinate.
-/

namespace SealedReceipts

namespace Curve

namespace Point

theorem lt_of_lt_p {c : Nat} (h : c < p) : c < Nat.pow 256 coordinateLength :=
  h.trans (by decide)

theorem toNat_coordinate {c : Nat} (h : c < p) : Bytes.toNat (coordinate c) = c := by
  rw [coordinate, Bytes.toNat_ofNat, Nat.mod_eq_of_lt (lt_of_lt_p h)]

theorem length_coordinate (c : Nat) : (coordinate c).length = coordinateLength :=
  Bytes.length_ofNat coordinateLength c

theorem ofCoordinates?_self (q : Point) : ofCoordinates? q.x q.y = some q :=
  dif_pos q.onCurve

theorem ofUncompressed_uncompressed (q : Point) : ofUncompressed q.uncompressed = .ok q := by
  have hlength : (coordinate q.x ++ coordinate q.y).length = 2 * coordinateLength := by
    rw [List.length_append, length_coordinate, length_coordinate]
    rfl
  have hsplit : (coordinate q.x ++ coordinate q.y).splitAt coordinateLength =
      (coordinate q.x, coordinate q.y) := by
    rw [List.splitAt_eq, List.take_left' (length_coordinate q.x),
      List.drop_left' (length_coordinate q.x)]
  simp only [uncompressed, ofUncompressed, hlength, hsplit, toNat_coordinate q.onCurve.1,
    toNat_coordinate q.onCurve.2.1, ofCoordinates?_self, ne_eq, not_true_eq_false, if_false]

/-- The root of the right parity is the coordinate. -/
theorem ofParity?_self (q : Point) : ofParity? q.x (q.y % 2 = 1) = some q := by
  obtain ⟨hx, hy, hcurve⟩ := q.onCurve
  have hsquare : q.y * q.y % p = rightSide q.x % p := by
    rw [hcurve, rightSide, Nat.mod_mod]
  obtain ⟨root, hsqrt⟩ := exists_sqrt? hsquare
  obtain ⟨hroot, hsquare'⟩ := sqrt?_eq_some hsqrt
  have hodd : p % 2 = 1 := by decide
  have hchosen : (if (root % 2 = 1) = (decide (q.y % 2 = 1) = true) then root else p - root) =
      q.y := by
    simp only [decide_eq_true_eq, eq_iff_iff]
    rcases eq_or_add_eq_of_squares hroot hy (hsquare'.trans hsquare.symm) with hsame | hneg
    · rw [hsame]
      exact if_pos Iff.rfl
    · split <;> omega
  simp only [ofParity?, if_pos hx, hsqrt, hchosen, Option.bind_eq_bind, Option.bind_some,
    ofCoordinates?_self]

theorem ofCompressed_compressed (q : Point) : ofCompressed q.compressed = .ok q := by
  have htag : parityTag q.y = 2 ∨ parityTag q.y = 3 := by
    unfold parityTag
    split
    · exact .inr rfl
    · exact .inl rfl
  have hparity : decide (parityTag q.y = 3) = decide (q.y % 2 = 1) := by
    unfold parityTag
    split <;> simp_all
  have hknown : ¬(parityTag q.y ≠ 2 ∧ parityTag q.y ≠ 3) := by
    rintro ⟨h2, h3⟩
    exact htag.elim h2 h3
  simp only [compressed, ofCompressed, length_coordinate, hknown, toNat_coordinate q.onCurve.1,
    hparity, ofParity?_self, ne_eq, not_true_eq_false, if_false]

end Point

end Curve

theorem OneTimeKey.ofCompressed_compressed (point : Curve.Point) :
    OneTimeKey.ofCompressed point.compressed = .ok (OneTimeKey.ofPoint point) := by
  rw [OneTimeKey.ofCompressed, Curve.Point.ofCompressed_compressed]
  rfl

end SealedReceipts
