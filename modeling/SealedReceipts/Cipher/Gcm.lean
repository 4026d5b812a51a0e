import SealedReceipts.Cipher.Aes

/-!
# Authenticated encryption

AES-256 in Galois counter mode with a nonce of twelve bytes and nothing but the text to
authenticate. `encrypt` gives the ciphertext with a tag of sixteen bytes behind it; `decrypt?` gives
the text back if the tag is right.
-/

namespace SealedReceipts

namespace Gcm

def nonceLength : Nat := 12

def tagLength : Nat := 16

/-! ## The hash -/

/-- The reduction polynomial of the field of `2 ^ 128` elements, whose bits count from the left. -/
def polynomial : Nat := 0xe1 <<< 120

/-- Adds the multiples of `v` that the bits of `x` from `bit` down select onto `product`. -/
def multiplyFrom (x : Nat) : (bits : Nat) → (v product : Nat) → Nat
  | 0, _, product => product
  | bit + 1, v, product =>
    multiplyFrom x bit (if v % 2 = 1 then (v >>> 1) ^^^ polynomial else v >>> 1)
      (if x.testBit bit then product ^^^ v else product)

def multiply (x y : Nat) : Nat := multiplyFrom x 128 y 0

/-- Hashes the blocks of a text, the last filled up with zeros, onto a value. -/
def hashOnto (subkey value : Nat) (text : Bytes) : Nat :=
  if _h : text = [] then value
  else
    let block := text.take 16
    let padded := block ++ Bytes.zeros (16 - block.length)
    hashOnto subkey (multiply (value ^^^ Bytes.toNat padded) subkey) (text.drop 16)
  termination_by text.length
  decreasing_by
    have := List.length_pos_iff.2 _h
    simp only [List.length_drop]
    omega

/-- The hash of a ciphertext, closed with its length in bits. -/
def hash (subkey : Nat) (ciphertext : Bytes) : Nat :=
  multiply (hashOnto subkey 0 ciphertext ^^^ (8 * ciphertext.length)) subkey

/-! ## Counter mode -/

def counterBlock (nonce : Bytes) (counter : Nat) : Bytes :=
  nonce ++ Bytes.ofNat 4 counter

/-- Combines a text with the stream of encrypted counters from `counter` on; `done` holds the blocks
so far, last first. -/
def streamFrom (keys : List Bytes) (nonce : Bytes) (counter : Nat) (done : List Bytes)
    (text : Bytes) : Bytes :=
  if h : text = [] then done.reverse.flatten
  else
    let stream := Aes.encryptBlock keys (counterBlock nonce counter)
    streamFrom keys nonce (counter + 1) (Bytes.xor (text.take 16) stream :: done) (text.drop 16)
  termination_by text.length
  decreasing_by
    have := List.length_pos_iff.2 h
    simp only [List.length_drop]
    omega

/-- The text under the stream. The first counter belongs to the tag. -/
def stream (keys : List Bytes) (nonce text : Bytes) : Bytes :=
  streamFrom keys nonce 2 [] text

def tag (keys : List Bytes) (nonce ciphertext : Bytes) : Bytes :=
  let subkey := Bytes.toNat (Aes.encryptBlock keys (Bytes.zeros 16))
  Bytes.xor (Bytes.ofNat 16 (hash subkey ciphertext)) (Aes.encryptBlock keys (counterBlock nonce 1))

/-! ## Sealing and opening -/

/-- The ciphertext and its tag. -/
def encrypt (key nonce plaintext : Bytes) : Bytes :=
  let keys := Aes.roundKeys key
  let ciphertext := stream keys nonce plaintext
  ciphertext ++ tag keys nonce ciphertext

/-- The text of a ciphertext with its tag, if the tag is right. -/
def decrypt? (key nonce sealedText : Bytes) : Option Bytes :=
  if sealedText.length < tagLength then none
  else
    let keys := Aes.roundKeys key
    let (ciphertext, found) := sealedText.splitAt (sealedText.length - tagLength)
    if tag keys nonce ciphertext = found then some (stream keys nonce ciphertext) else none

end Gcm

end SealedReceipts
