import SealedReceipts.Money
import SealedReceipts.TaxRate

/-!
# Lines of a receipt

A line charges a quantity of one category at one unit price. Its total is the rounded product of
the two; it is computed when the line is made and again whenever the quantity grows. A line read
from a stored receipt keeps the total that was stored.

Lines are described in section 3 of the specification.
-/

namespace SealedReceipts

structure LineItem where
  categoryId : UInt16
  quantity : UInt16
  unitPrice : Binary64
  totalPrice : Binary64
  taxRate : TaxRate
  deriving DecidableEq

namespace LineItem

def priceOf (unitPrice : Binary64) (quantity : UInt16) : Binary64 :=
  unitPrice * Binary64.ofNat quantity.toNat

/-- A line with its total computed. -/
def ofPrice (categoryId quantity : UInt16) (unitPrice : Binary64) (taxRate : TaxRate) : LineItem :=
  { categoryId, quantity, unitPrice, totalPrice := priceOf unitPrice quantity, taxRate }

/-- Whether more of `categoryId` at `unitPrice` belongs on this line: the category is the same and
both prices have the same stored form. -/
def mergesWith (item : LineItem) (categoryId : UInt16) (unitPrice : Binary64) : Bool :=
  item.categoryId == categoryId && Money.sameMinor item.unitPrice unitPrice

/-- The line with `extra` more units and a new total, unless the quantity would exceed 16 bits. -/
def addQuantity? (item : LineItem) (extra : UInt16) : Option LineItem :=
  if item.quantity.toNat + extra.toNat < UInt16.size then
    let quantity := item.quantity + extra
    some { item with quantity, totalPrice := priceOf item.unitPrice quantity }
  else none

/-- The sum of the totals, in order, from minus zero. -/
def total (items : List LineItem) : Binary64 :=
  items.foldl (fun sum item => sum + item.totalPrice) Binary64.minusZero

end LineItem

end SealedReceipts
