import SealedReceipts.LineItem

/-!
# Tax breakdown

Totals include the tax, so the taxable amount of a line is its total divided by one plus its rate.
Taxable amounts are summed by rate, in the order of the lines, and the tax of a rate is taken on
its sum.

The formulas are those of section 3 of the specification.
-/

namespace SealedReceipts

/-- What one rate contributes. -/
structure TaxDetail where
  taxableAmount : Binary64
  taxAmount : Binary64
  deriving DecidableEq

structure TaxBreakdown where
  reduced : TaxDetail
  standard : TaxDetail
  totalTax : Binary64
  deriving DecidableEq

namespace TaxBreakdown

def taxableOf (item : LineItem) : Binary64 :=
  item.totalPrice / (1 + item.taxRate.fraction)

/-- The taxable amounts of the lines at `rate`, summed from plus zero. -/
def taxableAt (rate : TaxRate) (items : List LineItem) : Binary64 :=
  items.foldl (fun sum item => if item.taxRate = rate then sum + taxableOf item else sum) 0

/-- The taxable amount at `rate` and the tax on it. -/
def detailAt (rate : TaxRate) (items : List LineItem) : TaxDetail :=
  let taxableAmount := taxableAt rate items
  { taxableAmount, taxAmount := taxableAmount * rate.fraction }

def ofItems (items : List LineItem) : TaxBreakdown :=
  let reduced := detailAt .reduced items
  let standard := detailAt .standard items
  { reduced, standard, totalTax := reduced.taxAmount + standard.taxAmount }

/-- What `rate` contributes. -/
def detail (tax : TaxBreakdown) : TaxRate → TaxDetail
  | .reduced => tax.reduced
  | .standard => tax.standard

end TaxBreakdown

end SealedReceipts
