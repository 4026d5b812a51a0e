import SealedReceipts.Calendar
import SealedReceipts.TaxBreakdown

/-!
# Receipts

A finished receipt: the identifiers and store details stamped on it, its lines, and the totals
derived from them. `Receipt.finalize` is the only way to make one from lines, so that the totals of
a new receipt always follow from its lines; a receipt read back from its stored form keeps the
totals that were stored.
-/

namespace SealedReceipts

/-- What is stamped on a receipt when it is issued. -/
structure ReceiptMetadata where
  reportNumber : String
  transactionId : String
  timestamp : Timestamp
  registrationId : String
  storeName : String
  storeAddress : String
  serial : String
  deriving DecidableEq, Repr

structure Receipt extends ReceiptMetadata where
  items : List LineItem
  taxBreakdown : TaxBreakdown
  totalAmount : Binary64
  paymentMethod : String
  deriving DecidableEq

namespace Receipt

/-- A receipt whose totals follow from its lines. -/
def finalize (metadata : ReceiptMetadata) (items : List LineItem) (paymentMethod : String) :
    Receipt :=
  { metadata with
    items
    taxBreakdown := TaxBreakdown.ofItems items
    totalAmount := LineItem.total items
    paymentMethod }

end Receipt

end SealedReceipts
