import SealedReceipts.Bytes

/-!
# Signed receipts

A signed receipt is the stored form with the signature behind it. The stored form does not say where
it ends; the signature is the last 64 bytes.

This is section 4.4 of the specification.
-/

namespace SealedReceipts

namespace Signed

def signatureLength : Nat := 64

/-- A length that leaves no room for a signature, or that no signature has. -/
structure LengthError where
  actual : Nat
  deriving DecidableEq, Repr

def LengthError.message (e : LengthError) : String :=
  s!"signature must be exactly {signatureLength} bytes, got {e.actual}"

/-- The stored form with a signature behind it. -/
def assemble (binary signature : Bytes) : Except LengthError Bytes :=
  if signature.length = signatureLength then .ok (binary ++ signature)
  else .error ⟨signature.length⟩

/-- The stored form and the signature of a signed receipt. -/
def split (signed : Bytes) : Except LengthError (Bytes × Bytes) :=
  if signatureLength ≤ signed.length then
    .ok (signed.splitAt (signed.length - signatureLength))
  else .error ⟨signed.length⟩

end Signed

end SealedReceipts
