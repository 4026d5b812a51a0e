import SealedReceipts.Receipt
import SealedReceipts.Receipt.Field
import SealedReceipts.Receipt.Identifier
import SealedReceipts.Receipt.Record
import SealedReceipts.Binary64.Shortest
import SealedReceipts.Text.Quoted

/-!
# Encoding a receipt

`Receipt.encode` turns a receipt into its record and lays the record out. A receipt has a record
when its identifiers have their written form, its transaction id bears its date, its second is not
negative, its lines can be counted and every amount has a stored form. The checks run in this order:
the identifiers, the second, the number of lines, then the texts and amounts as they are laid out,
and the first that fails is the error.

Section 4.1 of the specification lists the patterns and the layout.
-/

namespace SealedReceipts

inductive EncodeError where
  | invalidPattern (field : Field) (value : String)
  | transactionDateMismatch (transactionId expected : String)
  | timestampBeforeEpoch (timestamp : Timestamp)
  | tooManyItems (count : Nat)
  | stringTooLong (field : Field) (length : Nat)
  | amountOutOfRange (field : Field) (amount : Binary64)
  deriving DecidableEq

namespace EncodeError

def message : EncodeError → String
  | .invalidPattern field value =>
    s!"{field.name} does not match its expected pattern: {Text.quoted value}"
  | .transactionDateMismatch id expected =>
    s!"transaction id {Text.quoted id} is not dated {expected}, the receipt's UTC date"
  | .timestampBeforeEpoch t => s!"timestamp {t.spaced} is before the Unix epoch"
  | .tooManyItems count =>
    s!"receipt has {count} items, at most {Layout.maxItems} can be encoded"
  | .stringTooLong field length => s!"{field.name} is too long to encode ({length} bytes)"
  | .amountOutOfRange field amount =>
    s!"{field.name} amount {amount.text} cannot be stored as 32-bit minor units"

end EncodeError

namespace Receipt

/-- An identifier's number, or the complaint that its text has not the written form. -/
def checkPattern (field : Field) (value : String) (read : String → Option UInt32) :
    Except EncodeError UInt32 :=
  match read value with
  | some n => .ok n
  | none => .error (.invalidPattern field value)

def checkTransactionId (id : String) (t : Timestamp) : Except EncodeError UInt32 :=
  match Identifier.transactionId? id t with
  | .ok n => .ok n
  | .error .pattern => .error (.invalidPattern .transactionId id)
  | .error (.date expected) => .error (.transactionDateMismatch id expected)

def checkSeconds (t : Timestamp) : Except EncodeError UInt64 :=
  if t.seconds < 0 then .error (.timestampBeforeEpoch t) else .ok (UInt64.ofNat t.seconds.toNat)

def checkItemCount (items : List LineItem) : Except EncodeError Unit :=
  if items.length ≤ Layout.maxItems then .ok () else .error (.tooManyItems items.length)

def checkText (field : Field) (text : String) : Except EncodeError String :=
  if text.utf8ByteSize ≤ Layout.maxTextLength then .ok text
  else .error (.stringTooLong field text.utf8ByteSize)

def checkAmount (field : Field) (amount : Binary64) : Except EncodeError UInt32 :=
  match Money.toMinor? amount with
  | some minor => .ok minor
  | none => .error (.amountOutOfRange field amount)

def lineRecord (item : LineItem) : Except EncodeError LineRecord := do
  let unitPrice ← checkAmount .unitPrice item.unitPrice
  let totalPrice ← checkAmount .totalPrice item.totalPrice
  return { categoryId := item.categoryId, quantity := item.quantity, unitPrice, totalPrice,
           taxRate := item.taxRate }

def taxRecord (tax : TaxBreakdown) : Except EncodeError TaxRecord := do
  let reducedBase ← checkAmount .taxableAmount tax.reduced.taxableAmount
  let reducedTax ← checkAmount .taxAmount tax.reduced.taxAmount
  let standardBase ← checkAmount .taxableAmount tax.standard.taxableAmount
  let standardTax ← checkAmount .taxAmount tax.standard.taxAmount
  let totalTax ← checkAmount .totalTax tax.totalTax
  return { reducedBase, reducedTax, standardBase, standardTax, totalTax }

/-- The record of a receipt, or the first reason against it. -/
def record (r : Receipt) : Except EncodeError ReceiptRecord := do
  let reportNumber ← checkPattern .reportNumber r.reportNumber Identifier.reportNumber?
  let sequence ← checkTransactionId r.transactionId r.timestamp
  let registrationId ← checkPattern .registrationId r.registrationId Identifier.registrationId?
  let serial ← checkPattern .serial r.serial Identifier.serial?
  let seconds ← checkSeconds r.timestamp
  checkItemCount r.items
  let storeName ← checkText .storeName r.storeName
  let storeAddress ← checkText .storeAddress r.storeAddress
  let totalAmount ← checkAmount .totalAmount r.totalAmount
  let paymentMethod ← checkText .paymentMethod r.paymentMethod
  let items ← r.items.mapM lineRecord
  let tax ← taxRecord r.taxBreakdown
  return { seconds, reportNumber, sequence, registrationId, storeName, storeAddress, totalAmount,
           paymentMethod, serial, items, tax }

def encode (r : Receipt) : Except EncodeError Bytes :=
  r.record.map ReceiptRecord.bytes

end Receipt

end SealedReceipts
