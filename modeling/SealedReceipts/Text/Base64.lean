import SealedReceipts.Bytes

/-!
# Base64

Three bytes are written as four characters of six bits each. One or two bytes at the end leave room,
which is filled with zero bits and the padding character. Only that form is read: padding is
required, the filling bits must be zero, and no other character may stand anywhere.

The two alphabets differ in their last two characters.
-/

namespace SealedReceipts

namespace Base64

inductive Alphabet where
  | standard
  | urlSafe
  deriving DecidableEq, Repr

/-- The character of 62 and that of 63. -/
def Alphabet.last : Alphabet → Char × Char
  | .standard => ('+', '/')
  | .urlSafe => ('-', '_')

/-- The character of six bits. -/
def digit (a : Alphabet) (n : Nat) : Char :=
  if n < 26 then Char.ofNat ('A'.toNat + n)
  else if n < 52 then Char.ofNat ('a'.toNat + (n - 26))
  else if n < 62 then Char.ofNat ('0'.toNat + (n - 52))
  else if n = 62 then a.last.1
  else a.last.2

/-- The six bits of a character. -/
def digit? (a : Alphabet) (c : Char) : Option Nat :=
  if 'A' ≤ c ∧ c ≤ 'Z' then some (c.toNat - 'A'.toNat)
  else if 'a' ≤ c ∧ c ≤ 'z' then some (c.toNat - 'a'.toNat + 26)
  else if '0' ≤ c ∧ c ≤ '9' then some (c.toNat - '0'.toNat + 52)
  else if c = a.last.1 then some 62
  else if c = a.last.2 then some 63
  else none

/-! ## Writing -/

/-- The characters of the bytes, put behind those written before, last first. -/
def encodeOnto (a : Alphabet) (written : List Char) : Bytes → List Char
  | [] => written
  | [x] =>
    let n := x.toNat
    '=' :: '=' :: digit a (n % 4 * 16) :: digit a (n / 4) :: written
  | [x, y] =>
    let n := 256 * x.toNat + y.toNat
    '=' :: digit a (n % 16 * 4) :: digit a (n / 16 % 64) :: digit a (n / 1024) :: written
  | x :: y :: z :: rest =>
    let n := 65536 * x.toNat + 256 * y.toNat + z.toNat
    encodeOnto a (digit a (n % 64) :: digit a (n / 64 % 64) :: digit a (n / 4096 % 64) ::
      digit a (n / 262144) :: written) rest

def encode (a : Alphabet) (bytes : Bytes) : String :=
  String.ofList (encodeOnto a [] bytes).reverse

/-! ## Reading -/

/-- The two bytes of a last group with one character of padding. -/
def lastTwo? (p q r : Nat) : Option (UInt8 × UInt8) :=
  let n := 4096 * p + 64 * q + r
  if n % 4 = 0 then some (UInt8.ofNat (n / 1024), UInt8.ofNat (n / 4)) else none

/-- The byte of a last group with two characters of padding. -/
def lastOne? (p q : Nat) : Option UInt8 :=
  let n := 64 * p + q
  if n % 16 = 0 then some (UInt8.ofNat (n / 16)) else none

/-- Reads groups of four characters onto the bytes read before, last first. -/
def decodeOnto? (a : Alphabet) (read : Bytes) : List Char → Option Bytes
  | [] => some read.reverse
  | [c, d, '=', '='] => do
    let x ← lastOne? (← digit? a c) (← digit? a d)
    some (x :: read).reverse
  | [c, d, e, '='] => do
    let (x, y) ← lastTwo? (← digit? a c) (← digit? a d) (← digit? a e)
    some (y :: x :: read).reverse
  | c :: d :: e :: f :: rest =>
    match digit? a c, digit? a d, digit? a e, digit? a f with
    | some p, some q, some r, some s =>
      let n := 262144 * p + 4096 * q + 64 * r + s
      decodeOnto? a
        (UInt8.ofNat n :: UInt8.ofNat (n / 256) :: UInt8.ofNat (n / 65536) :: read) rest
    | _, _, _, _ => none
  | _ => none

def decode? (a : Alphabet) (text : String) : Option Bytes :=
  decodeOnto? a [] text.toList

end Base64

end SealedReceipts
