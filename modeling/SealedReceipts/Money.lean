import SealedReceipts.Binary64

/-!
# Minor units

The stored form of an amount is a 32-bit count of minor units, a hundred to the major unit. An
amount is multiplied by a hundred and cut at the point, so `10.999` is stored as 1099, and the
rounding of the product is kept: `0.29` is stored as 28.

Amounts below zero, above the largest count and those that are not finite have no stored form;
minus zero and what is cut to it do.
-/

namespace SealedReceipts

namespace Money

/-- Minor units in a major unit. -/
def scale : Binary64 := 100

def maxMinor : Nat := UInt32.size - 1

/-- The stored count of an amount. -/
def toMinor? (amount : Binary64) : Option UInt32 :=
  let scaled := (amount * scale).trunc
  if !scaled.isFinite || scaled.lt 0 || (Binary64.ofNat maxMinor).lt scaled then none
  else some (UInt32.ofNat scaled.wholePart)

/-- The amount that a stored count stands for. -/
def ofMinor (minor : UInt32) : Binary64 :=
  Binary64.ofNat minor.toNat / scale

/-- Whether two amounts have one stored form in common. Amounts without one agree with nothing. -/
def sameMinor (a b : Binary64) : Bool :=
  match toMinor? a, toMinor? b with
  | some m, some n => m == n
  | _, _ => false

end Money

end SealedReceipts
