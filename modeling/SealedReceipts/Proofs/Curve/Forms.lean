import SealedReceipts.Proofs.Curve.PointText
import SealedReceipts.Proofs.Curve.RightSide

/-!
# The two forms of a point

A form is known by its length, the tags that may stand in front, and what the bytes behind the tag
have to meet. `Curve.compressedForm` and `Curve.fullForm` say this in the terms of the field. The
readers accept exactly these forms, report the first thing that is wrong with anything else, and
read from a form the one point that is written so (`Curve.Point.read_exactly_written`). One-time
keys are compared by their compressed forms and are therefore equal when their points are.
-/

namespace SealedReceipts

namespace Curve

/-! ## What a form is -/

/-- A written form of points. -/
structure Form where
  length : Nat
  /-- There is a tag. -/
  length_pos : 0 < length := by decide
  tags : List UInt8
  /-- What the bytes behind the tag have to meet. -/
  Fits : Bytes → Prop

namespace Form

/-- The bytes are such a form. -/
def Accepts (form : Form) (bytes : Bytes) : Prop :=
  ∃ tag body, bytes = tag :: body ∧ bytes.length = form.length ∧ tag ∈ form.tags ∧ form.Fits body

/-- The first thing that is wrong with bytes that are not: the length, the tag, or what is behind
the tag. -/
inductive Refuses (form : Form) : Bytes → PointError → Prop
  | length {bytes : Bytes} (hlength : bytes.length ≠ form.length) :
    Refuses form bytes (.invalidLength form.length bytes.length)
  | tag {tag : UInt8} {body : Bytes} (hlength : (tag :: body).length = form.length)
      (htag : tag ∉ form.tags) : Refuses form (tag :: body) (.invalidTag tag)
  | body {tag : UInt8} {body : Bytes} (hlength : (tag :: body).length = form.length)
      (htag : tag ∈ form.tags) (hfits : ¬form.Fits body) : Refuses form (tag :: body) .notOnCurve

theorem accepts_or_refuses (form : Form) (bytes : Bytes) :
    form.Accepts bytes ∨ ∃ error, form.Refuses bytes error := by
  by_cases hlength : bytes.length = form.length
  · cases bytes with
    | nil => exact absurd hlength form.length_pos.ne
    | cons tag body =>
      by_cases htag : tag ∈ form.tags
      · by_cases hfits : form.Fits body
        · exact .inl ⟨tag, body, rfl, hlength, htag, hfits⟩
        · exact .inr ⟨_, .body hlength htag hfits⟩
      · exact .inr ⟨_, .tag hlength htag⟩
  · exact .inr ⟨_, .length hlength⟩

/-- What a reader of a form has to do. -/
structure ReadBy (form : Form) (read : Bytes → Except PointError Point) : Prop where
  ok_of_accepts : ∀ {bytes}, form.Accepts bytes → ∃ q, read bytes = .ok q
  error_of_refuses : ∀ {bytes error}, form.Refuses bytes error → read bytes = .error error

variable {form : Form} {read : Bytes → Except PointError Point} {bytes : Bytes}

theorem ReadBy.ok_iff (h : form.ReadBy read) :
    (∃ q, read bytes = .ok q) ↔ form.Accepts bytes := by
  refine ⟨?_, h.ok_of_accepts⟩
  rintro ⟨q, hok⟩
  refine (form.accepts_or_refuses bytes).resolve_right ?_
  rintro ⟨error, hrefuses⟩
  exact absurd (hok.symm.trans (h.error_of_refuses hrefuses)) (by simp)

theorem ReadBy.error_iff (h : form.ReadBy read) {error : PointError} :
    read bytes = .error error ↔ form.Refuses bytes error := by
  refine ⟨fun herror => ?_, h.error_of_refuses⟩
  rcases form.accepts_or_refuses bytes with haccepts | ⟨found, hrefuses⟩
  · obtain ⟨q, hok⟩ := h.ok_of_accepts haccepts
    exact absurd (hok.symm.trans herror) (by simp)
  · obtain rfl := Except.error.inj ((h.error_of_refuses hrefuses).symm.trans herror)
    exact hrefuses

end Form

/-- The coordinate `x` is reduced and the equation has a solution `y` for it. -/
def compressedForm : Form where
  length := 33
  tags := [2, 3]
  Fits body := Bytes.toNat body < p ∧ IsSquare (cubic (Bytes.toNat body))

/-- Both coordinates are reduced and solve the equation. -/
def fullForm : Form where
  length := 65
  tags := [4]
  Fits body :=
    Bytes.toNat (body.take 32) < p ∧ Bytes.toNat (body.drop 32) < p ∧
      (Bytes.toNat (body.drop 32) : ZMod p) ^ 2 = cubic (Bytes.toNat (body.take 32))

namespace Point

/-! ## Coordinates -/

theorem ofCoordinates?_eq_some {x y : Nat} {q : Point} :
    ofCoordinates? x y = some q ↔ q.x = x ∧ q.y = y := by
  constructor
  · intro h
    unfold ofCoordinates? at h
    split at h
    · obtain rfl := Option.some.inj h
      exact ⟨rfl, rfl⟩
    · cases h
  · rintro ⟨rfl, rfl⟩
    exact ofCoordinates?_self q

theorem exists_ofCoordinates? {x y : Nat} : (∃ q, ofCoordinates? x y = some q) ↔ OnCurve x y := by
  constructor
  · rintro ⟨q, h⟩
    obtain ⟨rfl, rfl⟩ := ofCoordinates?_eq_some.1 h
    exact q.onCurve
  · exact fun h => ⟨⟨x, y, h⟩, ofCoordinates?_self ⟨x, y, h⟩⟩

/-- The bytes of a coordinate are read as it and written from it. -/
theorem coordinate_toNat {body : Bytes} (h : body.length = coordinateLength) :
    coordinate (Bytes.toNat body) = body := by
  rw [coordinate, ← h, Bytes.ofNat_toNat]

/-! ## The compressed form -/

/-- A root of the wanted parity: `root` or its negative. -/
def rootOfParity (root : Nat) (odd : Bool) : Nat :=
  if (root % 2 = 1) = odd then root else p - root

theorem rootOfParity_odd {root : Nat} (h : root < p) (odd : Bool) :
    (rootOfParity root odd % 2 = 1) = odd := by
  have hodd : p % 2 = 1 := by decide
  unfold rootOfParity
  split
  · assumption
  · next hother =>
    simp only [eq_iff_iff] at hother ⊢
    cases odd <;> simp at hother ⊢ <;> omega

theorem ofParity?_eq (x : Nat) (odd : Bool) : ofParity? x odd =
    if x < p then
      (Modular.sqrt? p (rightSide x)).bind fun root => ofCoordinates? x (rootOfParity root odd)
    else none :=
  rfl

/-- The point that is found has the coordinate and the parity that were asked for. -/
theorem ofParity?_eq_some {x : Nat} {odd : Bool} {q : Point} (h : ofParity? x odd = some q) :
    q.x = x ∧ (q.y % 2 = 1) = odd := by
  rw [ofParity?_eq] at h
  split at h
  · obtain ⟨root, hsqrt, hpoint⟩ := Option.bind_eq_some_iff.1 h
    obtain ⟨hx, hy⟩ := ofCoordinates?_eq_some.1 hpoint
    rw [hx, hy]
    exact ⟨rfl, rootOfParity_odd (sqrt?_eq_some hsqrt).1 odd⟩
  · cases h

/-- Either root of the right side is reduced, for zero is not one of them. -/
theorem onCurve_rootOfParity {x root : Nat} (hx : x < p)
    (hroot : Modular.sqrt? p (rightSide x) = some root) (odd : Bool) :
    OnCurve x (rootOfParity root odd) := by
  obtain ⟨hlt, hsquare⟩ := sqrt?_eq_some hroot
  have hreduced : rightSide x % p = rightSide x := Nat.mod_mod _ _
  have hpos : 0 < root := by
    refine Nat.pos_of_ne_zero fun hzero => rightSide_ne_zero x ?_
    rw [← hreduced, ← hsquare, hzero]
    rfl
  unfold rootOfParity
  split
  · exact ⟨hx, hlt, hsquare.trans hreduced⟩
  · refine ⟨hx, by omega, ?_⟩
    rw [← hreduced, ← hsquare, ← cast_eq_cast_iff]
    push_cast [cast_p_sub hlt.le]
    ring

theorem isSquare_cubic_iff {x : Nat} :
    IsSquare (cubic x) ↔ ∃ root, Modular.sqrt? p (rightSide x) = some root := by
  rw [← cast_rightSide]
  constructor
  · rintro ⟨root, hroot⟩
    refine exists_sqrt? (y := root.val) ?_
    rw [← cast_eq_cast_iff, Nat.cast_mul, ZMod.natCast_zmod_val, hroot]
  · rintro ⟨root, hroot⟩
    refine ⟨root, ?_⟩
    rw [← Nat.cast_mul, cast_eq_cast_iff, (sqrt?_eq_some hroot).2]

theorem exists_ofParity? {x : Nat} {odd : Bool} :
    (∃ q, ofParity? x odd = some q) ↔ x < p ∧ IsSquare (cubic x) := by
  rw [isSquare_cubic_iff, ofParity?_eq]
  constructor
  · rintro ⟨q, h⟩
    split at h
    · next hx =>
      obtain ⟨root, hsqrt, -⟩ := Option.bind_eq_some_iff.1 h
      exact ⟨hx, root, hsqrt⟩
    · cases h
  · rintro ⟨hx, root, hsqrt⟩
    rw [if_pos hx, hsqrt]
    exact exists_ofCoordinates?.2 (onCurve_rootOfParity hx hsqrt odd)

theorem parityTag_eq {y : Nat} {tag : UInt8} (htag : tag = 2 ∨ tag = 3)
    (hparity : (y % 2 = 1) = (decide (tag = 3))) : parityTag y = tag := by
  unfold parityTag
  rcases htag with rfl | rfl <;> simpa using hparity

theorem compressed_of_ofCompressed {bytes : Bytes} {q : Point} (h : ofCompressed bytes = .ok q) :
    q.compressed = bytes := by
  unfold ofCompressed at h
  split at h
  · cases h
  · next tag body =>
    split at h
    · cases h
    · next hlength =>
      split at h
      · cases h
      · next htag =>
        split at h
        · next found hfound =>
          obtain rfl := Except.ok.inj h
          obtain ⟨hx, hy⟩ := ofParity?_eq_some hfound
          have hknown : tag = 2 ∨ tag = 3 := by
            by_contra hother
            exact htag (not_or.1 hother)
          rw [compressed, parityTag_eq hknown hy, hx, coordinate_toNat (not_not.1 hlength)]
        · cases h

theorem compressedForm_readBy : compressedForm.ReadBy ofCompressed where
  ok_of_accepts := by
    rintro _ ⟨tag, body, rfl, hlength, htag, hfits⟩
    have hbody : body.length = coordinateLength := Nat.succ.inj hlength
    have hknown : ¬(tag ≠ 2 ∧ tag ≠ 3) := by simpa [compressedForm, or_iff_not_imp_left] using htag
    have hroot : ∃ q, ofParity? (Bytes.toNat body) (tag = 3) = some q := exists_ofParity?.2 hfits
    obtain ⟨q, hq⟩ := hroot
    exact ⟨q, by simp [ofCompressed, hbody, hknown, hq]⟩
  error_of_refuses := by
    intro bytes error h
    cases h with
    | length hlength =>
      cases bytes with
      | nil => rfl
      | cons tag body =>
        have hbody : body.length ≠ coordinateLength := fun h => hlength (congrArg (· + 1) h)
        simp only [ofCompressed, if_pos hbody]
        rfl
    | @tag tag body hlength htag =>
      have hbody : body.length = coordinateLength := Nat.succ.inj hlength
      have hunknown : tag ≠ 2 ∧ tag ≠ 3 := by simpa [compressedForm] using htag
      simp [ofCompressed, hbody, hunknown]
    | @body tag body hlength htag hfits =>
      have hbody : body.length = coordinateLength := Nat.succ.inj hlength
      have hknown : ¬(tag ≠ 2 ∧ tag ≠ 3) := by
        simpa [compressedForm, or_iff_not_imp_left] using htag
      have hnone : ofParity? (Bytes.toNat body) (tag = 3) = none := by
        rw [Option.eq_none_iff_forall_ne_some]
        exact fun q hq => hfits (exists_ofParity?.1 ⟨q, hq⟩)
      simp [ofCompressed, hbody, hknown, hnone]

/-! ## The full form -/

theorem uncompressed_of_ofUncompressed {bytes : Bytes} {q : Point}
    (h : ofUncompressed bytes = .ok q) : q.uncompressed = bytes := by
  unfold ofUncompressed at h
  split at h
  · cases h
  · next tag body =>
    split at h
    · cases h
    · next hlength =>
      split at h
      · cases h
      · next htag =>
        simp only [List.splitAt_eq] at h
        split at h
        · next found hfound =>
          obtain rfl := Except.ok.inj h
          obtain ⟨hx, hy⟩ := ofCoordinates?_eq_some.1 hfound
          have htwice : body.length = 2 * coordinateLength := not_not.1 hlength
          have htake : (body.take coordinateLength).length = coordinateLength := by
            rw [List.length_take]
            omega
          have hdrop : (body.drop coordinateLength).length = coordinateLength := by
            rw [List.length_drop]
            omega
          rw [uncompressed, hx, hy, coordinate_toNat htake, coordinate_toNat hdrop,
            List.take_append_drop, not_not.1 htag]
        · cases h

theorem fullForm_readBy : fullForm.ReadBy ofUncompressed where
  ok_of_accepts := by
    rintro _ ⟨tag, body, rfl, hlength, htag, hfits⟩
    have hbody : body.length = 2 * coordinateLength := Nat.succ.inj hlength
    obtain rfl : tag = uncompressedTag := List.mem_singleton.1 htag
    obtain ⟨q, hq⟩ := exists_ofCoordinates?.2 (onCurve_iff.2 hfits)
    have hpoint : ofCoordinates? (Bytes.toNat (body.take coordinateLength))
        (Bytes.toNat (body.drop coordinateLength)) = some q := hq
    exact ⟨q, by simp [ofUncompressed, hbody, hpoint]⟩
  error_of_refuses := by
    intro bytes error h
    cases h with
    | length hlength =>
      cases bytes with
      | nil => rfl
      | cons tag body =>
        have hbody : body.length ≠ 2 * coordinateLength := fun h => hlength (congrArg (· + 1) h)
        simp only [ofUncompressed, if_pos hbody]
        rfl
    | @tag tag body hlength htag =>
      have hbody : body.length = 2 * coordinateLength := Nat.succ.inj hlength
      have hunknown : tag ≠ uncompressedTag := fun h => htag (List.mem_singleton.2 h)
      simp [ofUncompressed, hbody, hunknown]
    | @body tag body hlength htag hfits =>
      have hbody : body.length = 2 * coordinateLength := Nat.succ.inj hlength
      obtain rfl : tag = uncompressedTag := List.mem_singleton.1 htag
      have hnone : ofCoordinates? (Bytes.toNat (body.take coordinateLength))
          (Bytes.toNat (body.drop coordinateLength)) = none := by
        rw [Option.eq_none_iff_forall_ne_some]
        exact fun q hq => hfits (onCurve_iff.1 (exists_ofCoordinates?.1 ⟨q, hq⟩))
      simp [ofUncompressed, hbody, hnone]

end Point

end Curve

/-! ## Keys -/

/-- A point is known from its compressed form. -/
theorem OneTimeKey.beq_iff_point_eq (a b : OneTimeKey) : (a == b) = true ↔ a.point = b.point := by
  rw [beq_iff_bytes_eq, a.bytes_eq, b.bytes_eq]
  constructor
  · intro h
    have hread := Curve.Point.ofCompressed_compressed a.point
    rw [h, Curve.Point.ofCompressed_compressed] at hread
    exact (Except.ok.inj hread).symm
  · exact congrArg Curve.Point.compressed

open Curve in
/-- **Both forms are written and read exactly.**

* what is written for a point is read as that point;
* what is read as a point is what is written for it, so that a point has one compressed and one full
  form;
* of all byte strings the readers accept just the forms: 33 bytes with the tag 2 or 3 and a reduced
  `x` for which the cubic is a square, and 65 bytes with the tag 4 and reduced coordinates that
  solve the equation;
* for all others they report the first of length, tag and curve that is wrong;
* two one-time keys are equal if and only if they hold the same point. -/
theorem Curve.Point.read_exactly_written :
    (∀ q : Point, ofCompressed q.compressed = .ok q ∧ ofUncompressed q.uncompressed = .ok q) ∧
    (∀ bytes q, (ofCompressed bytes = .ok q → q.compressed = bytes) ∧
      (ofUncompressed bytes = .ok q → q.uncompressed = bytes)) ∧
    (∀ bytes, ((∃ q, ofCompressed bytes = .ok q) ↔ compressedForm.Accepts bytes) ∧
      ((∃ q, ofUncompressed bytes = .ok q) ↔ fullForm.Accepts bytes)) ∧
    (∀ bytes error, (ofCompressed bytes = .error error ↔ compressedForm.Refuses bytes error) ∧
      (ofUncompressed bytes = .error error ↔ fullForm.Refuses bytes error)) ∧
    ∀ a b : OneTimeKey, (a == b) = true ↔ a.point = b.point := by
  refine ⟨?written, ?read, ?accepted, ?refused, OneTimeKey.beq_iff_point_eq⟩
  case written => exact fun q => ⟨ofCompressed_compressed q, ofUncompressed_uncompressed q⟩
  case read =>
    exact fun _ _ => ⟨compressed_of_ofCompressed, uncompressed_of_ofUncompressed⟩
  case accepted => exact fun _ => ⟨compressedForm_readBy.ok_iff, fullForm_readBy.ok_iff⟩
  case refused => exact fun _ _ => ⟨compressedForm_readBy.error_iff, fullForm_readBy.error_iff⟩

end SealedReceipts
