import SealedReceipts.Json.Decode
import SealedReceipts.Json.Value
import SealedReceipts.Receipt

/-!
# Receipts as documents

A receipt in the form in which it is shown: an object with every field under its name, the moment in
its written form and amounts as numbers. A tax rate is written as its percentage and read from it.
-/

namespace SealedReceipts

namespace TaxRate

/-- A rate from its percentage, which must be written as a whole number. -/
def ofJson (v : Json) : Json.Decoded TaxRate := do
  let percent ← v.asNatural UInt8.size
  match ofPercent (UInt8.ofNat percent) with
  | .ok rate => .ok rate
  | .error _ => .error .unfit

def toValue (rate : TaxRate) : Json.Value := .natural rate.percent.toNat

end TaxRate

open Json (Value)

def LineItem.toValue (item : LineItem) : Value :=
  .object [("category_id", .natural item.categoryId.toNat),
    ("quantity", .natural item.quantity.toNat), ("unit_price", .ofReal item.unitPrice),
    ("total_price", .ofReal item.totalPrice), ("tax_rate", item.taxRate.toValue)]

def TaxDetail.toValue (detail : TaxDetail) : Value :=
  .object [("taxable_amount", .ofReal detail.taxableAmount),
    ("tax_amount", .ofReal detail.taxAmount)]

def TaxBreakdown.toValue (tax : TaxBreakdown) : Value :=
  .object [("reduced", tax.reduced.toValue), ("standard", tax.standard.toValue),
    ("total_tax", .ofReal tax.totalTax)]

def Receipt.toValue (r : Receipt) : Value :=
  .object [("report_number", .text r.reportNumber), ("transaction_id", .text r.transactionId),
    ("timestamp", .text r.timestamp.rfc3339), ("registration_id", .text r.registrationId),
    ("store_name", .text r.storeName), ("store_address", .text r.storeAddress),
    ("items", .array (r.items.map LineItem.toValue)), ("tax_breakdown", r.taxBreakdown.toValue),
    ("total_amount", .ofReal r.totalAmount), ("payment_method", .text r.paymentMethod),
    ("serial", .text r.serial)]

end SealedReceipts
