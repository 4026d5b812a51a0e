import SealedReceipts.Cipher.Gcm
import SealedReceipts.Curve.PointText
import SealedReceipts.Hash.Hmac

/-!
# Sealing

Anonymous encryption to a public point. The sender draws an ephemeral secret, shares a point with
the receiver, derives a key from its `x` and encrypts under a nonce drawn next. A sealed payload is

    ephemeral public point (65) ‖ nonce (12) ‖ ciphertext ‖ tag (16)

and says nothing about the sender. Whoever holds the receiver's secret derives the same key from the
ephemeral point.

Random bytes come from a finite `Entropy`; a draw takes the next bytes, or fails and takes nothing.

The scheme is that of section 4.3 of the specification.
-/

namespace SealedReceipts

namespace Seal

/-- What the derived key is for. -/
def keyInfo : Bytes := Bytes.ofText "ECIES-encryption"

/-- Bytes of the derived key, and of a drawn secret. -/
def keyLength : Nat := 32

/-- Bytes that sealing adds to a text. -/
def overhead : Nat := Curve.uncompressedLength + Gcm.nonceLength + Gcm.tagLength

inductive SealError where
  | invalidKey (error : Curve.PointError)
  | randomSource
  | truncated (length : Nat)
  | decrypt
  deriving DecidableEq, Repr

def SealError.message : SealError → String
  | .invalidKey error => s!"invalid key: {error.message}"
  | .randomSource => "random source failure: entropy source unavailable"
  | .truncated length => s!"sealed payload is too short ({length} bytes)"
  | .decrypt => "decryption failed, wrong key or tampered payload"

/-! ## Randomness -/

/-- The random bytes that are left to draw. -/
abbrev Entropy := Bytes

/-- The next `count` bytes and those behind them. -/
def draw? (count : Nat) (entropy : Entropy) : Option (Bytes × Entropy) :=
  let taken := entropy.take count
  if taken.length = count then some (taken, entropy.drop count) else none

theorem length_draw? {count : Nat} {entropy rest : Entropy} {taken : Bytes}
    (h : draw? count entropy = some (taken, rest)) : entropy.length = count + rest.length := by
  simp only [draw?, List.length_take] at h
  split at h
  · next hc =>
    obtain ⟨-, rfl⟩ := Prod.mk.inj (Option.some.inj h)
    simp only [List.length_drop]
    omega
  · cases h

/-- Draws blocks of 32 bytes until one is a secret. The bytes left are given in any case. -/
def drawSecret (entropy : Entropy) : Option Curve.Secret × Entropy :=
  match h : draw? keyLength entropy with
  | none => (none, entropy)
  | some (block, rest) =>
    match Curve.Secret.ofNat? (Bytes.toNat block) with
    | some secret => (some secret, rest)
    | none =>
      have : rest.length < entropy.length := by
        have := length_draw? h
        simp only [keyLength] at this
        omega
      drawSecret rest
  termination_by entropy.length

/-! ## Sealing and opening -/

/-- The key that a secret and another's public point derive. -/
def deriveKey (secret : Curve.Secret) (other : Curve.Point) : Bytes :=
  let shared := Curve.Point.coordinate (secret.sharedPoint other).x
  Hmac.expand (Hmac.extract shared) keyInfo keyLength

/-- The payload under a given ephemeral secret and nonce. -/
def sealWith (ephemeral : Curve.Secret) (nonce : Bytes) (receiver : Curve.Point) (text : Bytes) :
    Bytes :=
  ephemeral.publicPoint.uncompressed ++ nonce ++
    Gcm.encrypt (deriveKey ephemeral receiver) nonce text

/-- Seals a text for a receiver, and the random bytes left. -/
def sealFor (receiver : Curve.Point) (text : Bytes) (entropy : Entropy) :
    Except SealError Bytes × Entropy :=
  match drawSecret entropy with
  | (none, rest) => (.error .randomSource, rest)
  | (some ephemeral, rest) =>
    match draw? Gcm.nonceLength rest with
    | none => (.error .randomSource, rest)
    | some (nonce, rest) => (.ok (sealWith ephemeral nonce receiver text), rest)

/-- The text of a payload sealed for the public point of a secret. -/
def openWith (secret : Curve.Secret) (payload : Bytes) : Except SealError Bytes :=
  if payload.length < overhead then .error (.truncated payload.length)
  else
    let (start, rest) := payload.splitAt Curve.uncompressedLength
    let (nonce, ciphertext) := rest.splitAt Gcm.nonceLength
    match Curve.Point.ofUncompressed start with
    | .error e => .error (.invalidKey e)
    | .ok ephemeral =>
      match Gcm.decrypt? (deriveKey secret ephemeral) nonce ciphertext with
      | some text => .ok text
      | none => .error .decrypt

end Seal

end SealedReceipts
