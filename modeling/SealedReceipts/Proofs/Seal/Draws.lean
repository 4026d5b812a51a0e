import SealedReceipts.Proofs.Curve.SharedPoint
import SealedReceipts.Proofs.Seal

/-!
# What sealing draws

Sealing takes blocks of 32 bytes off the entropy until one is a secret, and the nonce behind them
(`Seal.Draws`). It succeeds exactly if the entropy is enough for both, and the payload is the
ephemeral point, the nonce and the ciphertext, in that order. Every two secrets agree
(`Seal.agree`), so the holder of the receiver's secret opens it.
-/

namespace SealedReceipts

namespace Seal

open Curve (Secret Point)

variable {entropy rest : Entropy} {ephemeral : Secret} {nonce : Bytes}

/-- A block that is drawn for a secret and is none. -/
def Rejected (block : Bytes) : Prop :=
  block.length = keyLength ∧ Secret.ofNat? (Bytes.toNat block) = none

/-- A block that is drawn for a secret and is one. -/
def Gives (block : Bytes) (ephemeral : Secret) : Prop :=
  block.length = keyLength ∧ Secret.ofNat? (Bytes.toNat block) = some ephemeral

/-- The secret is the first that a block of the entropy gives, and the nonce comes behind it. -/
def Draws (entropy : Entropy) (ephemeral : Secret) (nonce : Bytes) (rest : Entropy) : Prop :=
  ∃ (rejected : List Bytes) (block : Bytes),
    entropy = rejected.flatten ++ (block ++ (nonce ++ rest)) ∧
    (∀ other ∈ rejected, Rejected other) ∧ Gives block ephemeral ∧
    nonce.length = Gcm.nonceLength

theorem draw?_append {count : Nat} {taken : Bytes} (h : taken.length = count) (rest : Entropy) :
    draw? count (taken ++ rest) = some (taken, rest) := by
  subst h
  simp [draw?]

/-- A draw takes what is at the front. -/
theorem draw?_eq_some_iff {count : Nat} {taken : Bytes} :
    draw? count entropy = some (taken, rest) ↔ entropy = taken ++ rest ∧ taken.length = count := by
  constructor
  · intro h
    have hlength := draw?_eq_some h
    unfold draw? at h
    dsimp only at h
    split at h
    · obtain ⟨rfl, rfl⟩ := Prod.mk.inj (Option.some.inj h)
      exact ⟨(List.take_append_drop count entropy).symm, hlength⟩
    · cases h
  · rintro ⟨rfl, hlength⟩
    exact draw?_append hlength rest

theorem drawSecret_of_end (h : draw? keyLength entropy = none) :
    drawSecret entropy = (none, entropy) := by
  rw [drawSecret]
  split
  · rfl
  · next hsome => cases h.symm.trans hsome

theorem drawSecret_of_gives {block : Bytes} (h : Gives block ephemeral) (rest : Entropy) :
    drawSecret (block ++ rest) = (some ephemeral, rest) := by
  have hdraw := draw?_append h.1 rest
  rw [drawSecret]
  split
  · next hnone => cases hdraw.symm.trans hnone
  · next hsome =>
    cases hdraw.symm.trans hsome
    simp only [h.2]

theorem drawSecret_of_rejected {block : Bytes} (h : Rejected block) (rest : Entropy) :
    drawSecret (block ++ rest) = drawSecret rest := by
  have hdraw := draw?_append h.1 rest
  rw [drawSecret]
  split
  · next hnone => cases hdraw.symm.trans hnone
  · next hsome =>
    cases hdraw.symm.trans hsome
    simp only [h.2]

/-- A secret that is drawn is given by the first block that is not rejected. -/
theorem drawSecret_eq_some_iff :
    drawSecret entropy = (some ephemeral, rest) ↔
      ∃ (rejected : List Bytes) (block : Bytes), entropy = rejected.flatten ++ (block ++ rest) ∧
        (∀ other ∈ rejected, Rejected other) ∧ Gives block ephemeral := by
  constructor
  · intro h
    induction entropy using drawSecret.induct with
    | case1 entropy hdraw => simp [drawSecret_of_end hdraw] at h
    | case2 entropy block rest' hdraw secret hsecret =>
      obtain ⟨rfl, hlength⟩ := draw?_eq_some_iff.1 hdraw
      rw [drawSecret_of_gives ⟨hlength, hsecret⟩] at h
      obtain ⟨hephemeral, rfl⟩ := Prod.mk.inj h
      obtain rfl := Option.some.inj hephemeral
      exact ⟨[], block, rfl, by simp, hlength, hsecret⟩
    | case3 entropy block rest' hdraw hsecret _ ih =>
      obtain ⟨rfl, hlength⟩ := draw?_eq_some_iff.1 hdraw
      rw [drawSecret_of_rejected ⟨hlength, hsecret⟩] at h
      obtain ⟨rejected, last, rfl, hrejected, hgives⟩ := ih h
      refine ⟨block :: rejected, last, by simp, ?_, hgives⟩
      exact List.forall_mem_cons.2 ⟨⟨hlength, hsecret⟩, hrejected⟩
  · rintro ⟨rejected, block, rfl, hrejected, hgives⟩
    induction rejected with
    | nil => exact drawSecret_of_gives hgives rest
    | cons other rejected ih =>
      obtain ⟨hother, hrejected⟩ := List.forall_mem_cons.1 hrejected
      rw [List.flatten_cons, List.append_assoc, drawSecret_of_rejected hother, ih hrejected]

/-- **What sealing does.** It succeeds exactly if the entropy gives a secret and a nonce. -/
theorem sealFor_eq_ok_iff {receiver : Point} {text payload : Bytes} :
    sealFor receiver text entropy = (.ok payload, rest) ↔
      ∃ ephemeral nonce, Draws entropy ephemeral nonce rest ∧
        payload = sealWith ephemeral nonce receiver text := by
  constructor
  · intro h
    unfold sealFor at h
    split at h
    · cases h
    · next ephemeral behind hsecret =>
      split at h
      · cases h
      · next nonce rest' hnonce =>
        obtain ⟨hpayload, rfl⟩ := Prod.mk.inj h
        obtain ⟨rejected, block, rfl, hrejected, hgives⟩ := drawSecret_eq_some_iff.1 hsecret
        obtain ⟨rfl, hlength⟩ := draw?_eq_some_iff.1 hnonce
        exact ⟨ephemeral, nonce, ⟨rejected, block, rfl, hrejected, hgives, hlength⟩,
          (Except.ok.inj hpayload).symm⟩
  · rintro ⟨ephemeral, nonce, ⟨rejected, block, rfl, hrejected, hgives, hlength⟩, rfl⟩
    have hsecret : drawSecret (rejected.flatten ++ (block ++ (nonce ++ rest))) =
        (some ephemeral, nonce ++ rest) :=
      drawSecret_eq_some_iff.2 ⟨rejected, block, rfl, hrejected, hgives⟩
    simp only [sealFor, hsecret, draw?_append hlength]

/-! ## The payload -/

/-- Sealing adds the point, the nonce and the tag. -/
theorem length_sealWith (hnonce : nonce.length = Gcm.nonceLength) (receiver : Point)
    (text : Bytes) : (sealWith ephemeral nonce receiver text).length = text.length + overhead := by
  rw [sealWith, List.length_append, List.length_append, Point.length_uncompressed, hnonce,
    Gcm.length_encrypt (length_deriveKey ephemeral receiver) hnonce, overhead]
  omega

/-- The point stands in front of the payload and the nonce behind it. -/
theorem sealWith_parts (ephemeral : Secret) (hnonce : nonce.length = Gcm.nonceLength)
    (receiver : Point) (text : Bytes) :
    (sealWith ephemeral nonce receiver text).take Curve.uncompressedLength =
        ephemeral.publicPoint.uncompressed ∧
      ((sealWith ephemeral nonce receiver text).drop Curve.uncompressedLength).take
        Gcm.nonceLength = nonce := by
  have hpoint := ephemeral.publicPoint.length_uncompressed
  rw [sealWith, List.append_assoc, List.take_left' hpoint, List.drop_left' hpoint,
    List.take_left' hnonce]
  exact ⟨rfl, rfl⟩

/-- Any two secrets share one coordinate, for they share one point. -/
theorem agree (d e : Secret) : Agree d e := congrArg Point.x (Secret.sharedPoint_comm e d)

/-- **The sealed payload.** For every secret, text and entropy on which sealing for the point of the
secret succeeds: the payload is 93 bytes longer than the text and starts with the 65 bytes of the
ephemeral point, the nonce that was drawn behind the ephemeral secret follows, and the holder of the
secret opens it to the text. -/
theorem payload_shape_and_opening (d : Secret) {text payload : Bytes}
    (hsealed : sealFor d.publicPoint text entropy = (.ok payload, rest)) :
    ∃ ephemeral nonce, Draws entropy ephemeral nonce rest ∧
      payload.length = text.length + 93 ∧
      payload.take 65 = ephemeral.publicPoint.uncompressed ∧
      (payload.drop 65).take 12 = nonce ∧
      openWith d payload = .ok text := by
  obtain ⟨ephemeral, nonce, hdraws, rfl⟩ := sealFor_eq_ok_iff.1 hsealed
  have hnonce : nonce.length = Gcm.nonceLength := by
    obtain ⟨_, _, _, _, _, hlength⟩ := hdraws
    exact hlength
  obtain ⟨hpoint, hbehind⟩ := sealWith_parts ephemeral hnonce d.publicPoint text
  exact ⟨ephemeral, nonce, hdraws, length_sealWith hnonce d.publicPoint text, hpoint, hbehind,
    openWith_sealWith (agree d ephemeral) hnonce text⟩

/-- A receiver with a small secret. -/
def receivingSecret : Secret := ⟨11, by decide, by decide⟩

/-- Entropy whose first block is no secret. -/
def secondBlockEntropy : Entropy := List.replicate 32 0 ++ List.replicate 50 7

/-- The empty text is sealed and opened, and six bytes of the entropy are left. -/
theorem payload_shape_and_opening_empty :
    ∃ payload ephemeral nonce,
      sealFor receivingSecret.publicPoint [] secondBlockEntropy =
        (.ok payload, List.replicate 6 7) ∧
      Draws secondBlockEntropy ephemeral nonce (List.replicate 6 7) ∧
      payload.length = 93 ∧
      payload.take 65 = ephemeral.publicPoint.uncompressed ∧
      (payload.drop 65).take 12 = nonce ∧
      openWith receivingSecret payload = .ok [] := by
  have hok : (sealFor receivingSecret.publicPoint [] secondBlockEntropy).1.isOk = true := by
    decide +kernel
  have hrest : (sealFor receivingSecret.publicPoint [] secondBlockEntropy).2 =
      List.replicate 6 7 := by decide +kernel
  cases hsealed : sealFor receivingSecret.publicPoint [] secondBlockEntropy with
  | mk answer rest =>
    rw [hsealed] at hok hrest
    subst hrest
    cases answer with
    | error error => cases hok
    | ok payload =>
      obtain ⟨ephemeral, nonce, hdraws, hlength, hpoint, hnonce, hopened⟩ :=
        payload_shape_and_opening receivingSecret hsealed
      exact ⟨payload, ephemeral, nonce, rfl, hdraws, hlength, hpoint, hnonce, hopened⟩

end Seal

end SealedReceipts
