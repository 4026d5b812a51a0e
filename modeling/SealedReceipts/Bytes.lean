/-!
# Byte strings

A byte string is a list of bytes. This module holds its hexadecimal text and the big-endian
numbers of fixed width that all the binary formats of this library are made of.

* `toHex` and `ofHex?` write and read two lower-case digits a byte;
* `ofNat` and `toNat` write and read a number, most significant byte first.
-/

namespace SealedReceipts

abbrev Bytes := List UInt8

namespace Bytes

/-! ## Hexadecimal text -/

/-- The two lower-case digits of a byte. -/
def hexDigits (b : UInt8) : List Char :=
  [Nat.digitChar (b.toNat / 16), Nat.digitChar (b.toNat % 16)]

/-- Two lower-case digits a byte, in order. -/
def toHex (bytes : Bytes) : String :=
  String.ofList (bytes.flatMap hexDigits)

/-- The value of a hexadecimal digit of either case. -/
def hexValue? (c : Char) : Option Nat :=
  if '0' ≤ c ∧ c ≤ '9' then some (c.toNat - '0'.toNat)
  else if 'a' ≤ c ∧ c ≤ 'f' then some (c.toNat - 'a'.toNat + 10)
  else if 'A' ≤ c ∧ c ≤ 'F' then some (c.toNat - 'A'.toNat + 10)
  else none

/-- Reads pairs of digits onto `read`, which holds the bytes so far, last first. -/
def ofHexOnto? (read : Bytes) : List Char → Option Bytes
  | [] => some read.reverse
  | [_] => none
  | c :: d :: rest =>
    match hexValue? c, hexValue? d with
    | some high, some low => ofHexOnto? (UInt8.ofNat (16 * high + low) :: read) rest
    | _, _ => none

/-- The bytes that a text of digit pairs stands for. -/
def ofHex? (text : String) : Option Bytes :=
  ofHexOnto? [] text.toList

/-! ## Big-endian numbers -/

/-- The last `width` bytes of `n`, most significant first. -/
def ofNat : (width : Nat) → (n : Nat) → Bytes
  | 0, _ => []
  | width + 1, n => ofNat width (n / 256) ++ [UInt8.ofNat n]

/-- The number that the bytes write, most significant first. -/
def toNat (bytes : Bytes) : Nat :=
  bytes.foldl (fun n b => 256 * n + b.toNat) 0

def zeros (count : Nat) : Bytes :=
  List.replicate count 0

/-- The bytes of two strings combined place by place with exclusive or, as far as both go. -/
def xor (a b : Bytes) : Bytes :=
  List.zipWith (· ^^^ ·) a b

/-- The UTF-8 bytes of a text. -/
def ofText (text : String) : Bytes :=
  text.toUTF8.toList

/-- A text stands for its UTF-8 bytes. -/
instance : Coe String Bytes := ⟨ofText⟩

/-- The text whose UTF-8 bytes these are, if there is one. -/
def toText? (bytes : Bytes) : Option String :=
  String.fromUTF8? ⟨bytes.toArray⟩

/-- The character that the first bytes are, of which there are at most four. -/
def leadingChar? (bytes : Bytes) : Option Char :=
  ByteArray.utf8DecodeChar? ⟨(bytes.take 4).toArray⟩ 0

/-- Reads characters onto those read before, last first. The next `inside` bytes belong to the
character before them. -/
def charsOnto (read : List (Option Char)) : (inside : Nat) → Bytes → List (Option Char)
  | _, [] => read.reverse
  | inside + 1, _ :: rest => charsOnto read inside rest
  | 0, b :: rest =>
    match leadingChar? (b :: rest) with
    | some c => charsOnto (some c :: read) (c.utf8Size - 1) rest
    | none => charsOnto (none :: read) 0 rest

/-- The characters of bytes, with none for each byte that belongs to no character. -/
def chars (bytes : Bytes) : List (Option Char) :=
  charsOnto [] 0 bytes

/-! ## Small facts -/

@[simp] theorem length_ofNat (width n : Nat) : (ofNat width n).length = width := by
  induction width generalizing n with
  | zero => rfl
  | succ width ih => simp [ofNat, ih]

theorem toNat_append_singleton (bytes : Bytes) (b : UInt8) :
    toNat (bytes ++ [b]) = 256 * toNat bytes + b.toNat := by
  simp [toNat]

/-- Writing keeps the number as far as the width goes. -/
theorem toNat_ofNat (width n : Nat) : toNat (ofNat width n) = n % Nat.pow 256 width := by
  induction width generalizing n with
  | zero => simp [ofNat, toNat, Nat.mod_one]
  | succ width ih =>
    have hb : (UInt8.ofNat n).toNat = n % 256 := by simp
    have hp : Nat.pow 256 (width + 1) = 256 * Nat.pow 256 width := Nat.mul_comm _ _
    rw [ofNat, toNat_append_singleton, ih, hb, hp, Nat.mod_mul]
    omega

@[simp] theorem length_xor (a b : Bytes) : (xor a b).length = min a.length b.length := by
  simp [xor]

end Bytes

end SealedReceipts
