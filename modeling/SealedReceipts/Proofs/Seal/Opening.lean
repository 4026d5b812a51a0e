import SealedReceipts.Proofs.Checks
import SealedReceipts.Proofs.Curve.Forms
import SealedReceipts.Proofs.Seal.Draws

/-!
# What opening makes of any payload

A payload may come from anybody. `Seal.Opening` says what each byte string is opened to: it is too
short, its first 65 bytes have a wrong tag or are no point, the cipher refuses what is behind the
nonce, or it gives the text. `Seal.openChecked` opens step by step and lets every step fail that has
a condition on its arguments; it differs from opening in nothing, for none of these ever fails.
-/

namespace SealedReceipts

namespace Seal

open Curve (Secret Point)

/-- What is made of a payload with a secret. -/
inductive Opening (d : Secret) (payload : Bytes) : Except SealError Bytes → Prop
  /-- There are not even as many bytes as sealing adds. -/
  | short : payload.length < 93 → Opening d payload (.error (.truncated payload.length))
  /-- The first byte is not the tag of a point in full. -/
  | tag {tag : UInt8} : 93 ≤ payload.length → payload.head? = some tag → tag ≠ 4 →
      Opening d payload (.error (.invalidKey (.invalidTag tag)))
  /-- The next 64 bytes are not two reduced coordinates that solve the equation of the curve. -/
  | offCurve : 93 ≤ payload.length → payload.head? = some 4 →
      ¬ Curve.fullForm.Fits ((payload.drop 1).take 64) →
      Opening d payload (.error (.invalidKey .notOnCurve))
  /-- The cipher refuses what is behind the nonce, under the key derived from the point. -/
  | refused {ephemeral : Point} : 93 ≤ payload.length →
      ephemeral.uncompressed = payload.take 65 →
      Gcm.decrypt? (deriveKey d ephemeral) ((payload.drop 65).take 12) (payload.drop 77) = none →
      Opening d payload (.error .decrypt)
  /-- The cipher gives the text. -/
  | opened {ephemeral : Point} {text : Bytes} : 93 ≤ payload.length →
      ephemeral.uncompressed = payload.take 65 →
      Gcm.decrypt? (deriveKey d ephemeral) ((payload.drop 65).take 12) (payload.drop 77) =
        some text →
      Opening d payload (.ok text)

variable {d : Secret} {payload : Bytes} {ephemeral : Point} {result : Except SealError Bytes}

/-! ## The point in front -/

theorem length_take_point (h : 93 ≤ payload.length) :
    (payload.take 65).length = Curve.fullForm.length :=
  List.length_take_of_le (by omega)

theorem take_point {tag : UInt8} (hhead : payload.head? = some tag) :
    payload.take 65 = tag :: (payload.drop 1).take 64 := by
  cases payload with
  | nil => cases hhead
  | cons first rest =>
    obtain rfl := Option.some.inj hhead
    rfl

theorem point_of_tag {tag : UInt8} (h : 93 ≤ payload.length) (hhead : payload.head? = some tag)
    (htag : tag ≠ 4) : Point.ofUncompressed (payload.take 65) = .error (.invalidTag tag) := by
  have hlength := length_take_point h
  rw [take_point hhead] at hlength ⊢
  refine Point.fullForm_readBy.error_of_refuses (.tag hlength ?_)
  simpa [Curve.fullForm] using htag

theorem point_of_offCurve (h : 93 ≤ payload.length) (hhead : payload.head? = some 4)
    (hfits : ¬ Curve.fullForm.Fits ((payload.drop 1).take 64)) :
    Point.ofUncompressed (payload.take 65) = .error .notOnCurve := by
  have hlength := length_take_point h
  rw [take_point hhead] at hlength ⊢
  exact Point.fullForm_readBy.error_of_refuses (.body hlength (List.mem_singleton.2 rfl) hfits)

theorem exists_point (h : 93 ≤ payload.length) (hhead : payload.head? = some 4)
    (hfits : Curve.fullForm.Fits ((payload.drop 1).take 64)) :
    ∃ ephemeral : Point, ephemeral.uncompressed = payload.take 65 := by
  have hlength := length_take_point h
  have haccepts : Curve.fullForm.Accepts (payload.take 65) :=
    ⟨4, _, take_point hhead, hlength, List.mem_singleton.2 rfl, hfits⟩
  obtain ⟨ephemeral, hread⟩ := Point.fullForm_readBy.ok_of_accepts haccepts
  exact ⟨ephemeral, Point.uncompressed_of_ofUncompressed hread⟩

/-! ## Every payload -/

/-- What a payload that is long enough is opened to hangs on its point and on the cipher. -/
theorem openWith_of_long (h : 93 ≤ payload.length) :
    openWith d payload =
      match Point.ofUncompressed (payload.take 65) with
      | .error e => .error (.invalidKey e)
      | .ok ephemeral =>
        match Gcm.decrypt? (deriveKey d ephemeral) ((payload.drop 65).take 12) (payload.drop 77) with
        | some text => .ok text
        | none => .error .decrypt := by
  have hlong : ¬ payload.length < overhead := Nat.not_lt.2 h
  have hbehind : (payload.drop 65).drop 12 = payload.drop 77 := List.drop_drop
  rw [← hbehind]
  simp only [openWith, hlong, if_false, List.splitAt_eq]
  rfl

theorem openWith_of_point (h : 93 ≤ payload.length)
    (hpoint : ephemeral.uncompressed = payload.take 65) :
    openWith d payload =
      match Gcm.decrypt? (deriveKey d ephemeral) ((payload.drop 65).take 12) (payload.drop 77) with
      | some text => .ok text
      | none => .error .decrypt := by
  rw [openWith_of_long h, ← hpoint, Point.ofUncompressed_uncompressed]

theorem Opening.openWith_eq (h : Opening d payload result) : openWith d payload = result := by
  cases h with
  | short hshort => rw [openWith, if_pos (show payload.length < overhead from hshort)]
  | tag hlong hhead htag => rw [openWith_of_long hlong, point_of_tag hlong hhead htag]
  | offCurve hlong hhead hfits =>
    rw [openWith_of_long hlong, point_of_offCurve hlong hhead hfits]
  | refused hlong hpoint hnone => rw [openWith_of_point hlong hpoint, hnone]
  | opened hlong hpoint htext => rw [openWith_of_point hlong hpoint, htext]

/-- Something is made of every payload. -/
theorem exists_opening (d : Secret) (payload : Bytes) : ∃ result, Opening d payload result := by
  rcases Nat.lt_or_ge payload.length 93 with hshort | hlong
  · exact ⟨_, .short hshort⟩
  have hhead : ∃ tag, payload.head? = some tag := by
    cases payload with
    | nil => simp at hlong
    | cons tag rest => exact ⟨tag, rfl⟩
  obtain ⟨tag, hhead⟩ := hhead
  by_cases htag : tag = 4
  · subst htag
    by_cases hfits : Curve.fullForm.Fits ((payload.drop 1).take 64)
    · obtain ⟨ephemeral, hpoint⟩ := exists_point hlong hhead hfits
      cases hcipher : Gcm.decrypt? (deriveKey d ephemeral) ((payload.drop 65).take 12)
          (payload.drop 77) with
      | none => exact ⟨_, .refused hlong hpoint hcipher⟩
      | some text => exact ⟨_, .opened hlong hpoint hcipher⟩
    · exact ⟨_, .offCurve hlong hhead hfits⟩
  · exact ⟨_, .tag hlong hhead htag⟩

theorem openWith_eq_iff : openWith d payload = result ↔ Opening d payload result := by
  refine ⟨fun h => ?_, Opening.openWith_eq⟩
  obtain ⟨found, hfound⟩ := exists_opening d payload
  rwa [← h, hfound.openWith_eq]

theorem Opening.length_text {text : Bytes} (h : Opening d payload (.ok text)) :
    text.length + 93 = payload.length := by
  cases h with
  | opened hlong _ htext =>
    have hnonce : ((payload.drop 65).take 12).length = Gcm.nonceLength := by
      refine List.length_take_of_le ?_
      rw [List.length_drop]
      omega
    have hlength := Gcm.length_decrypt? (length_deriveKey d _) hnonce htext
    rw [Gcm.tagLength, List.length_drop] at hlength
    omega

/-! ## Steps that could fail -/

/-- What can stop an opening every step of which is checked. -/
inductive Stop where
  | refused (error : SealError)
  /-- More bytes are wanted than can be derived from a key. -/
  | keyDerivation
  /-- The key does not have the size that the cipher takes. -/
  | cipherInit
  /-- Bytes are split behind their end, or the nonce does not have its size. -/
  | outOfRange
  deriving DecidableEq, Repr

/-- Splits bytes at a position that must not be behind their end. -/
def splitChecked (position : Nat) (bytes : Bytes) : Except Stop (Bytes × Bytes) :=
  if position ≤ bytes.length then .ok (bytes.splitAt position) else .error .outOfRange

/-- Derives a key. At most 255 hashes can be derived. -/
def deriveKeyChecked (secret : Secret) (other : Point) : Except Stop Bytes :=
  if keyLength ≤ 255 * Sha256.hashLength then .ok (deriveKey secret other)
  else .error .keyDerivation

/-- Decrypts with a key that must have 32 bytes and a nonce that must have twelve. -/
def decryptChecked (key nonce ciphertext : Bytes) : Except Stop Bytes :=
  if key.length ≠ 32 then .error .cipherInit
  else if nonce.length ≠ Gcm.nonceLength then .error .outOfRange
  else
    match Gcm.decrypt? key nonce ciphertext with
    | some text => .ok text
    | none => .error (.refused .decrypt)

/-- Opens a payload step by step. -/
def openChecked (secret : Secret) (payload : Bytes) : Except Stop Bytes :=
  if payload.length < overhead then .error (.refused (.truncated payload.length))
  else do
    let (start, rest) ← splitChecked Curve.uncompressedLength payload
    let (nonce, ciphertext) ← splitChecked Gcm.nonceLength rest
    match Point.ofUncompressed start with
    | .error e => .error (.refused (.invalidKey e))
    | .ok ephemeral => do
      let key ← deriveKeyChecked secret ephemeral
      decryptChecked key nonce ciphertext

theorem deriveKeyChecked_eq (secret : Secret) (other : Point) :
    deriveKeyChecked secret other = .ok (deriveKey secret other) :=
  if_pos (by decide)

theorem splitChecked_eq {position : Nat} {bytes : Bytes} (h : position ≤ bytes.length) :
    splitChecked position bytes = .ok (bytes.take position, bytes.drop position) := by
  rw [splitChecked, if_pos h, List.splitAt_eq]

/-- No step fails that opening does not know of. -/
theorem openChecked_eq (d : Secret) (payload : Bytes) :
    openChecked d payload = (openWith d payload).mapError .refused := by
  unfold openChecked openWith
  split
  · rfl
  · next hlong =>
    have hlength : 93 ≤ payload.length := Nat.not_lt.1 hlong
    have hpoint : Curve.uncompressedLength ≤ payload.length := by
      rw [Curve.uncompressedLength]
      omega
    have hnonce : Gcm.nonceLength ≤ (payload.drop Curve.uncompressedLength).length := by
      rw [List.length_drop, Gcm.nonceLength, Curve.uncompressedLength]
      omega
    have htaken := List.length_take_of_le hnonce
    simp only [splitChecked_eq hpoint, splitChecked_eq hnonce, Checks.ok_bind, List.splitAt_eq]
    cases Point.ofUncompressed (payload.take Curve.uncompressedLength) with
    | error e => rfl
    | ok ephemeral =>
      have hkey : (deriveKey d ephemeral).length = 32 := length_deriveKey d ephemeral
      simp only [deriveKeyChecked_eq, Checks.ok_bind, decryptChecked, hkey, htaken, ne_eq,
        not_true_eq_false, if_false]
      cases Gcm.decrypt? (deriveKey d ephemeral) _ _ <;> rfl

/-- **Opening is total and tells every payload apart.** For every secret and every byte string:

* the result is the one that `Opening` says, and only that: an error for fewer than 93 bytes, then
  for a tag that is not 4, then for 64 bytes that are not two reduced coordinates of a point, then
  for what the cipher refuses under the derived key and the twelve bytes behind the point, and
  otherwise the text;
* a text is 93 bytes shorter than its payload;
* a length of the point and a source of randomness are never blamed;
* when every step is checked nothing else fails either: no bytes are split behind their end, a key
  can be derived, and the cipher takes the key and the nonce. -/
theorem openWith_classifies (d : Secret) (payload : Bytes) :
    (∀ result, openWith d payload = result ↔ Opening d payload result) ∧
    (∀ text, openWith d payload = .ok text → text.length = payload.length - 93) ∧
    (∀ expected actual,
      openWith d payload ≠ .error (.invalidKey (.invalidLength expected actual))) ∧
    openWith d payload ≠ .error .randomSource ∧
    openChecked d payload = (openWith d payload).mapError .refused := by
  refine ⟨fun _ => openWith_eq_iff, fun text h => ?_, fun expected actual h => ?_, fun h => ?_,
    openChecked_eq d payload⟩
  · have hlength := (openWith_eq_iff.1 h).length_text
    omega
  · cases openWith_eq_iff.1 h
  · cases openWith_eq_iff.1 h

/-- Two bytes sealed by a receiver for himself. -/
def sealedGreeting : Bytes :=
  sealWith receivingSecret (List.replicate 12 0) receivingSecret.publicPoint [104, 105]

/-- The greeting is opened. Without its last three bytes it is too short, and with another first
byte its tag is wrong. -/
theorem openWith_classifies_greeting :
    (openWith receivingSecret sealedGreeting = .ok [104, 105] ∧ 2 = sealedGreeting.length - 93) ∧
    openWith receivingSecret (sealedGreeting.take 92) = .error (.truncated 92) ∧
    openWith receivingSecret (5 :: sealedGreeting.drop 1) =
      .error (.invalidKey (.invalidTag 5)) := by
  have hopened : openWith receivingSecret sealedGreeting = .ok [104, 105] :=
    openWith_sealWith (agree _ _) rfl _
  have hlength : sealedGreeting.length = 95 := length_sealWith rfl _ _
  have hshort : (sealedGreeting.take 92).length = 92 := List.length_take_of_le (by omega)
  have htag : (5 :: sealedGreeting.drop 1).length = 95 := by
    rw [List.length_cons, List.length_drop, hlength]
  obtain ⟨-, htext, -⟩ := openWith_classifies receivingSecret sealedGreeting
  obtain ⟨htruncated, -⟩ := openWith_classifies receivingSecret (sealedGreeting.take 92)
  obtain ⟨htagged, -⟩ := openWith_classifies receivingSecret (5 :: sealedGreeting.drop 1)
  refine ⟨⟨hopened, htext _ hopened⟩, (htruncated _).2 ?_, (htagged _).2 ?_⟩
  · have h : Opening receivingSecret (sealedGreeting.take 92)
        (.error (.truncated (sealedGreeting.take 92).length)) := .short (by omega)
    rwa [hshort] at h
  · exact .tag (by omega) rfl (by decide)

end Seal

end SealedReceipts
