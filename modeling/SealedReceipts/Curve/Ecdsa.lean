import SealedReceipts.Curve.P256
import SealedReceipts.Hash.Hmac

/-!
# Signatures

ECDSA on P-256 over a hash of 32 bytes. The nonce is derived from the secret and the hash as in
RFC 6979, so that a hash has one signature under a secret. A signature is the two numbers `r` and
`s`, 32 bytes each; `s` is not brought into the lower half.
-/

namespace SealedReceipts

namespace Ecdsa

open Curve (n)

/-! ## The nonce -/

/-- The key and the value of the generator of nonces. -/
structure Generator where
  key : Bytes
  value : Bytes

/-- Takes `extra` into the key and steps the value. -/
def Generator.update (g : Generator) (extra : Bytes) : Generator :=
  let key := Hmac.code g.key (g.value ++ extra)
  { key, value := Hmac.code key g.value }

def Generator.start (secret hash : Bytes) : Generator :=
  let blank : Generator := { key := Bytes.zeros 32, value := List.replicate 32 1 }
  (blank.update (0 :: secret ++ hash)).update (1 :: secret ++ hash)

/-- The first value in the range of a scalar among the next `tries`. A value misses the range with a
chance of `2 ^ -32`. -/
def Generator.scalar (g : Generator) : (tries : Nat) → Nat
  | 0 => 1
  | tries + 1 =>
    let value := Hmac.code g.key g.value
    let k := Bytes.toNat value
    if 0 < k ∧ k < n then k else ({ g with value : Generator }.update [0]).scalar tries

/-- The nonce of a hash under a secret. The hash is taken as it is, also when as a number it reaches
the order of the curve. -/
def nonce (d : Curve.Secret) (hash : Bytes) : Nat :=
  (Generator.start (Bytes.ofNat 32 d.scalar) hash).scalar 64

/-! ## Signing and checking -/

/-- The 64-byte signature of a hash. -/
def sign (d : Curve.Secret) (hash : Bytes) : Bytes :=
  let k := nonce d hash
  let r := ((Curve.multiple? k Curve.generator).getD Curve.generator).x % n
  let s := Modular.inverse n k * ((Bytes.toNat hash + r * d.scalar) % n) % n
  Bytes.ofNat 32 r ++ Bytes.ofNat 32 s

/-- Whether 64 bytes are a signature of a hash under the secret of a public point. -/
def verify (key : Curve.Point) (hash signature : Bytes) : Bool :=
  let (first, second) := signature.splitAt 32
  let r := Bytes.toNat first
  let s := Bytes.toNat second
  if signature.length = 64 ∧ 0 < r ∧ r < n ∧ 0 < s ∧ s < n then
    let w := Modular.inverse n s
    let u := Bytes.toNat hash % n * w % n
    let v := r * w % n
    match (Curve.Projective.multiple u Curve.generator).sum? (Curve.Projective.multiple v key) with
    | some q => q.x % n == r
    | none => false
  else false

end Ecdsa

end SealedReceipts
