import SealedReceipts.Bytes

/-!
# SHA-256

The hash function on byte strings. A message is padded to whole blocks of 64 bytes, and
each block is mixed into a state of eight words.
-/

namespace SealedReceipts

namespace Sha256

structure State where
  a : UInt32
  b : UInt32
  c : UInt32
  d : UInt32
  e : UInt32
  f : UInt32
  g : UInt32
  h : UInt32

/-- The first bits of the square roots of the first eight primes behind the point. -/
def initial : State :=
  ⟨0x6a09e667, 0xbb67ae85, 0x3c6ef372, 0xa54ff53a, 0x510e527f, 0x9b05688c, 0x1f83d9ab, 0x5be0cd19⟩

/-- The first bits of the cube roots of the first 64 primes behind the point. -/
def roundConstants : List UInt32 := [
  0x428a2f98, 0x71374491, 0xb5c0fbcf, 0xe9b5dba5, 0x3956c25b, 0x59f111f1, 0x923f82a4, 0xab1c5ed5,
  0xd807aa98, 0x12835b01, 0x243185be, 0x550c7dc3, 0x72be5d74, 0x80deb1fe, 0x9bdc06a7, 0xc19bf174,
  0xe49b69c1, 0xefbe4786, 0x0fc19dc6, 0x240ca1cc, 0x2de92c6f, 0x4a7484aa, 0x5cb0a9dc, 0x76f988da,
  0x983e5152, 0xa831c66d, 0xb00327c8, 0xbf597fc7, 0xc6e00bf3, 0xd5a79147, 0x06ca6351, 0x14292967,
  0x27b70a85, 0x2e1b2138, 0x4d2c6dfc, 0x53380d13, 0x650a7354, 0x766a0abb, 0x81c2c92e, 0x92722c85,
  0xa2bfe8a1, 0xa81a664b, 0xc24b8b70, 0xc76c51a3, 0xd192e819, 0xd6990624, 0xf40e3585, 0x106aa070,
  0x19a4c116, 0x1e376c08, 0x2748774c, 0x34b0bcb5, 0x391c0cb3, 0x4ed8aa4a, 0x5b9cca4f, 0x682e6ff3,
  0x748f82ee, 0x78a5636f, 0x84c87814, 0x8cc70208, 0x90befffa, 0xa4506ceb, 0xbef9a3f7, 0xc67178f2]

def rotate (x : UInt32) (count : UInt32) : UInt32 :=
  (x >>> count) ||| (x <<< (32 - count))

/-- The big-endian words of a block. -/
def words : Bytes → List UInt32
  | p :: q :: r :: s :: rest =>
    ((p.toUInt32 <<< 24) ||| (q.toUInt32 <<< 16) ||| (r.toUInt32 <<< 8) ||| s.toUInt32) ::
      words rest
  | _ => []

/-- The next word of the schedule, from the words 16, 15, 7 and 2 places back. -/
def nextWord (w16 w15 w7 w2 : UInt32) : UInt32 :=
  let s0 := rotate w15 7 ^^^ rotate w15 18 ^^^ (w15 >>> 3)
  let s1 := rotate w2 17 ^^^ rotate w2 19 ^^^ (w2 >>> 10)
  w16 + s0 + w7 + s1

/-- The 64 words of the schedule of a block: its own sixteen, then 48 derived ones. -/
def schedule (block : Bytes) : Array UInt32 :=
  (List.range 48).foldl
    (fun w n =>
      w.push (nextWord (w.getD n 0) (w.getD (n + 1) 0) (w.getD (n + 9) 0) (w.getD (n + 14) 0)))
    (words block).toArray

/-- One round with its constant and its word of the schedule. -/
def round (s : State) (constant word : UInt32) : State :=
  let s1 := rotate s.e 6 ^^^ rotate s.e 11 ^^^ rotate s.e 25
  let choice := (s.e &&& s.f) ^^^ (~~~ s.e &&& s.g)
  let t1 := s.h + s1 + choice + constant + word
  let s0 := rotate s.a 2 ^^^ rotate s.a 13 ^^^ rotate s.a 22
  let majority := (s.a &&& s.b) ^^^ (s.a &&& s.c) ^^^ (s.b &&& s.c)
  ⟨t1 + (s0 + majority), s.a, s.b, s.c, s.d + t1, s.e, s.f, s.g⟩

/-- Mixes a block into the state. -/
def compress (s : State) (block : Bytes) : State :=
  let t := (roundConstants.zip (schedule block).toList).foldl (fun t (k, w) => round t k w) s
  ⟨s.a + t.a, s.b + t.b, s.c + t.c, s.d + t.d, s.e + t.e, s.f + t.f, s.g + t.g, s.h + t.h⟩

def blockLength : Nat := 64

/-- The padded message: a one bit, zeros, and the number of bits, up to a whole block. -/
def pad (message : Bytes) : Bytes :=
  let length := message.length
  message ++ 0x80 :: Bytes.zeros ((119 - length % 64) % 64) ++ Bytes.ofNat 8 (8 * length)

/-- Mixes all blocks of a padded message into the state. -/
def absorb (s : State) (padded : Bytes) : State :=
  if _h : padded = [] then s
  else absorb (compress s (padded.take blockLength)) (padded.drop blockLength)
  termination_by padded.length
  decreasing_by
    have := List.length_pos_iff.2 _h
    simp only [List.length_drop, blockLength]
    omega

def State.bytes (s : State) : Bytes :=
  [s.a, s.b, s.c, s.d, s.e, s.f, s.g, s.h].flatMap fun w => Bytes.ofNat 4 w.toNat

/-- The 32-byte hash of a message. -/
def hash (message : Bytes) : Bytes :=
  (absorb initial (pad message)).bytes

def hashLength : Nat := 32

@[simp] theorem length_hash (message : Bytes) : (hash message).length = hashLength := by
  simp [hash, State.bytes, hashLength]

end Sha256

end SealedReceipts
