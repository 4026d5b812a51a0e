/-!
# Arithmetic modulo a prime

Powers, inverses and square roots by repeated squaring over the 256 bits of an exponent.
-/

namespace SealedReceipts

namespace Modular

/-- The 256 low bits of a number, the highest first. -/
def descendingBits (n : Nat) : List Bool :=
  (List.range 256).map fun i => n.testBit (255 - i)

/-- `base ^ exponent` modulo `m`, for exponents below `2 ^ 256`. -/
def power (m base exponent : Nat) : Nat :=
  (descendingBits exponent).foldl
    (fun value bit =>
      let squared := value * value % m
      if bit then squared * base % m else squared)
    1

/-- The inverse modulo a prime, by Fermat's little theorem. -/
def inverse (p a : Nat) : Nat := power p a (p - 2)

/-- A square root modulo a prime that leaves 3 when divided by 4, if there is one. -/
def sqrt? (p a : Nat) : Option Nat :=
  let root := power p a ((p + 1) / 4)
  if root * root % p = a % p then some root else none

end Modular

end SealedReceipts
