import SealedReceipts.Binary64

/-!
# Numbers from decimal digits

A decimal `significand * 10 ^ exponent` whose significand has at most 64 bits becomes a number in
two steps that round on their own: the significand becomes a number, and that is multiplied or
divided by a power of ten. A magnitude above the largest number is refused.
-/

namespace SealedReceipts

namespace Binary64

/-- The largest power of ten below the largest number. -/
def greatestPower : Nat := 308

def powerOfTen (exponent : Nat) : Binary64 := ofNat (Nat.pow 10 exponent)

/-- The number without its sign if it is finite. -/
def finite? (x : Binary64) : Option Binary64 :=
  if x.isFinite then some x else none

/-- Divides by ten as often as `places` says, at most `greatestPower` places at a time. -/
def shiftDown (x : Binary64) (places : Nat) : Binary64 :=
  if places ≤ greatestPower then x / powerOfTen places
  else if x = 0 then x
  else shiftDown (x / powerOfTen greatestPower) (places - greatestPower)
  termination_by places
  decreasing_by simp only [greatestPower] at *; omega

/-- The magnitude `significand * 10 ^ exponent`, or nothing when it is too large. -/
def scaleByTen? (significand : Nat) (exponent : Int) : Option Binary64 :=
  let x := ofNat significand
  if 0 ≤ exponent then
    if exponent.toNat ≤ greatestPower then finite? (x * powerOfTen exponent.toNat)
    else if x = 0 then some x
    else none
  else some (shiftDown x (-exponent).toNat)

/-- The number `significand * 10 ^ exponent` under a sign. -/
def ofDecimal? (negative : Bool) (significand : Nat) (exponent : Int) : Option Binary64 :=
  (scaleByTen? significand exponent).map fun x => if negative then x.neg else x

end Binary64

end SealedReceipts
