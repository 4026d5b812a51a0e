import SealedReceipts.Proofs.Cipher.Gcm
import SealedReceipts.Proofs.Curve.PointText
import SealedReceipts.Seal

/-!
# Opening what was sealed

A payload that was sealed for the public point of a secret is opened with that secret, provided the
two sides share one coordinate: the sender's ephemeral secret with the receiver's point, and the
receiver's secret with the ephemeral point (`Seal.Agree`).
-/

namespace SealedReceipts

namespace Seal

open Curve (Secret Point)

/-- The holders of two secrets share one coordinate. -/
def Agree (d e : Secret) : Prop :=
  (e.sharedPoint d.publicPoint).x = (d.sharedPoint e.publicPoint).x

/-! ## The derived key -/

theorem length_deriveKey (secret : Secret) (other : Point) :
    (deriveKey secret other).length = keyLength := by
  simp [deriveKey, Hmac.expand, Hmac.expandBlocks, Hmac.code, keyLength, Sha256.hashLength]

/-- The key depends on the shared coordinate alone. -/
theorem Agree.deriveKey_eq {d e : Secret} (h : Agree d e) :
    deriveKey d e.publicPoint = deriveKey e d.publicPoint := by
  rw [deriveKey, deriveKey, h]

/-! ## Payloads -/

theorem draw?_eq_some {count : Nat} {entropy rest : Entropy} {taken : Bytes}
    (h : draw? count entropy = some (taken, rest)) : taken.length = count := by
  unfold draw? at h
  dsimp only at h
  split at h
  · next hcount =>
    obtain ⟨rfl, -⟩ := Prod.mk.inj (Option.some.inj h)
    exact hcount
  · cases h

/-- A text is sealed under the secret that is drawn first and a nonce of the right length. -/
theorem sealFor_eq_ok {receiver : Point} {text payload : Bytes} {entropy : Entropy}
    (h : (sealFor receiver text entropy).1 = .ok payload) :
    ∃ ephemeral nonce, (drawSecret entropy).1 = some ephemeral ∧
      nonce.length = Gcm.nonceLength ∧ payload = sealWith ephemeral nonce receiver text := by
  unfold sealFor at h
  split at h
  · cases h
  · next ephemeral rest hsecret =>
    split at h
    · cases h
    · next nonce rest' hnonce =>
      exact ⟨ephemeral, nonce, by rw [hsecret], draw?_eq_some hnonce, (Except.ok.inj h).symm⟩

/-- **Opening what was sealed.** -/
theorem openWith_sealWith {d e : Secret} (h : Agree d e) {nonce : Bytes}
    (hnonce : nonce.length = Gcm.nonceLength) (text : Bytes) :
    openWith d (sealWith e nonce d.publicPoint text) = .ok text := by
  have hkey := length_deriveKey e d.publicPoint
  have hdecrypt := Gcm.decrypt?_encrypt hkey hnonce text
  have hlength := Gcm.length_encrypt hkey hnonce text
  have hpoint := e.publicPoint.length_uncompressed
  rw [sealWith, List.append_assoc]
  generalize Gcm.encrypt (deriveKey e d.publicPoint) nonce text = ciphertext at hdecrypt hlength ⊢
  have hlong : ¬(e.publicPoint.uncompressed ++ (nonce ++ ciphertext)).length < overhead := by
    rw [List.length_append, List.length_append, hpoint, hnonce, overhead]
    omega
  have hstart : (e.publicPoint.uncompressed ++ (nonce ++ ciphertext)).splitAt
      Curve.uncompressedLength = (e.publicPoint.uncompressed, nonce ++ ciphertext) := by
    rw [List.splitAt_eq, List.take_left' hpoint, List.drop_left' hpoint]
  have hrest : (nonce ++ ciphertext).splitAt Gcm.nonceLength = (nonce, ciphertext) := by
    rw [List.splitAt_eq, List.take_left' hnonce, List.drop_left' hnonce]
  simp only [openWith, hlong, if_false, hstart, hrest, Point.ofUncompressed_uncompressed,
    h.deriveKey_eq, hdecrypt]

end Seal

end SealedReceipts
