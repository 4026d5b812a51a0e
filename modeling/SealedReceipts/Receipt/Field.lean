/-!
# Fields of a receipt

The names under which the parts of a receipt appear in messages.
-/

namespace SealedReceipts

inductive Field where
  | magic
  | version
  | reserved
  | timestamp
  | reportNumber
  | transactionId
  | registrationId
  | storeName
  | storeAddress
  | totalAmount
  | paymentMethod
  | serial
  | itemCount
  | categoryId
  | quantity
  | unitPrice
  | totalPrice
  | taxRate
  | taxableAmount
  | taxAmount
  | totalTax
  deriving DecidableEq, Repr

namespace Field

def name : Field → String
  | .magic => "magic"
  | .version => "version"
  | .reserved => "reserved"
  | .timestamp => "timestamp"
  | .reportNumber => "report_number"
  | .transactionId => "transaction_id"
  | .registrationId => "registration_id"
  | .storeName => "store_name"
  | .storeAddress => "store_address"
  | .totalAmount => "total_amount"
  | .paymentMethod => "payment_method"
  | .serial => "serial"
  | .itemCount => "item_count"
  | .categoryId => "category_id"
  | .quantity => "quantity"
  | .unitPrice => "unit_price"
  | .totalPrice => "total_price"
  | .taxRate => "tax_rate"
  | .taxableAmount => "taxable_amount"
  | .taxAmount => "tax_amount"
  | .totalTax => "total_tax"

end Field

end SealedReceipts
