import SealedReceipts.Hash.Sha256

/-!
# Keyed hashing and key derivation

HMAC with SHA-256, and the two steps of HKDF on top of it: `extract` turns a secret into a key,
`expand` turns that key into as many bytes as are wanted.
-/

namespace SealedReceipts

namespace Hmac

/-- A key as one block: a long one is hashed first, and zeros fill up. -/
def keyBlock (key : Bytes) : Bytes :=
  let short := if key.length ≤ Sha256.blockLength then key else Sha256.hash key
  short ++ Bytes.zeros (Sha256.blockLength - short.length)

/-- The code of a message under a key. -/
def code (key message : Bytes) : Bytes :=
  let block := keyBlock key
  let inner := Sha256.hash (block.map (· ^^^ 0x36) ++ message)
  Sha256.hash (block.map (· ^^^ 0x5c) ++ inner)

/-- The key of a secret, without a salt. -/
def extract (secret : Bytes) : Bytes :=
  code (Bytes.zeros Sha256.hashLength) secret

/-- The next `blocks` hashes derived from a key for the use that `info` names; `index` counts them
from one, and each takes the one before it in. -/
def expandBlocks (key info : Bytes) : (blocks : Nat) → (index : Nat) → (previous : Bytes) → Bytes
  | 0, _, _ => []
  | blocks + 1, index, previous =>
    let next := code key (previous ++ info ++ [UInt8.ofNat index])
    next ++ expandBlocks key info blocks (index + 1) next

/-- `length` bytes derived from a key for the use that `info` names. -/
def expand (key info : Bytes) (length : Nat) : Bytes :=
  (expandBlocks key info ((length + 31) / 32) 1 []).take length

end Hmac

end SealedReceipts
