import SealedReceipts.Bytes
import SealedReceipts.TaxRate

/-!
# Records: a receipt in stored numbers

The stored form of a receipt, version 1, is a byte string made of big-endian numbers and of texts,
each text behind the number of its UTF-8 bytes. A `ReceiptRecord` is the receipt in those numbers;
`ReceiptRecord.bytes` lays them out:

| bytes | field |
|---|---|
| 2 | the magic number `0x5452` |
| 1 | the version, 1 |
| 1 | reserved, 0 |
| 8 | timestamp in seconds |
| 4 each | report number, transaction sequence, registration id |
| 4 + n each | store name, store address |
| 4 | total amount in minor units |
| 4 + n | payment method |
| 4 | serial |
| 2 | number of lines |
| 13 a line | category, quantity, unit price, line total, tax percentage |
| 20 | taxable amount and tax at the reduced and the standard rate, total tax |

`ReceiptRecord.length_bytes` counts them: 66 bytes, the texts, and 13 a line.

The layout is that of section 4.1 of the specification.
-/

namespace SealedReceipts

structure LineRecord where
  categoryId : UInt16
  quantity : UInt16
  unitPrice : UInt32
  totalPrice : UInt32
  taxRate : TaxRate
  deriving DecidableEq, Repr

structure TaxRecord where
  reducedBase : UInt32
  reducedTax : UInt32
  standardBase : UInt32
  standardTax : UInt32
  totalTax : UInt32
  deriving DecidableEq, Repr

/-- The numbers and texts of a receipt. -/
structure ReceiptRecord where
  seconds : UInt64
  reportNumber : UInt32
  sequence : UInt32
  registrationId : UInt32
  storeName : String
  storeAddress : String
  totalAmount : UInt32
  paymentMethod : String
  serial : UInt32
  items : List LineRecord
  tax : TaxRecord
  deriving DecidableEq, Repr

/-! ## Layout -/

namespace Layout

def magic : UInt16 := 0x5452

def version : UInt8 := 1

def reserved : UInt8 := 0

def itemLength : Nat := 13

def taxLength : Nat := 20

/-- The most lines that the count of lines can say. -/
def maxItems : Nat := UInt16.size - 1

/-- Bytes of a receipt without lines and with empty texts. -/
def fixedLength : Nat := 66

/-- A text can have as many bytes as its length field can say. -/
def maxTextLength : Nat := UInt32.size - 1

def byte (n : UInt8) : Bytes := [n]

def word16 (n : UInt16) : Bytes := Bytes.ofNat 2 n.toNat

def word32 (n : UInt32) : Bytes := Bytes.ofNat 4 n.toNat

def word64 (n : UInt64) : Bytes := Bytes.ofNat 8 n.toNat

/-- A text behind the number of its bytes. -/
def text (s : String) : Bytes := Bytes.ofNat 4 s.utf8ByteSize ++ Bytes.ofText s

end Layout

open Layout

namespace LineRecord

def bytes (item : LineRecord) : Bytes :=
  word16 item.categoryId ++ word16 item.quantity ++ word32 item.unitPrice ++
    word32 item.totalPrice ++ byte item.taxRate.percent

theorem length_bytes (item : LineRecord) : item.bytes.length = itemLength := by
  simp [bytes, word16, word32, byte, itemLength]

end LineRecord

namespace TaxRecord

def bytes (tax : TaxRecord) : Bytes :=
  word32 tax.reducedBase ++ word32 tax.reducedTax ++ word32 tax.standardBase ++
    word32 tax.standardTax ++ word32 tax.totalTax

theorem length_bytes (tax : TaxRecord) : tax.bytes.length = taxLength := by
  simp [bytes, word32, taxLength]

end TaxRecord

namespace ReceiptRecord

def header (r : ReceiptRecord) : Bytes :=
  word16 magic ++ byte version ++ byte reserved ++ word64 r.seconds ++ word32 r.reportNumber ++
    word32 r.sequence ++ word32 r.registrationId ++ text r.storeName ++ text r.storeAddress ++
    word32 r.totalAmount ++ text r.paymentMethod ++ word32 r.serial

def itemBytes (items : List LineRecord) : Bytes :=
  items.flatMap LineRecord.bytes

def bytes (r : ReceiptRecord) : Bytes :=
  r.header ++ (Bytes.ofNat 2 r.items.length ++ (itemBytes r.items ++ r.tax.bytes))

def textLength (r : ReceiptRecord) : Nat :=
  r.storeName.utf8ByteSize + r.storeAddress.utf8ByteSize + r.paymentMethod.utf8ByteSize

theorem length_itemBytes (items : List LineRecord) :
    (itemBytes items).length = itemLength * items.length := by
  induction items with
  | nil => rfl
  | cons item items ih =>
    simp only [itemBytes, List.flatMap_cons, List.length_append, List.length_cons,
      LineRecord.length_bytes] at ih ⊢
    rw [ih]
    simp [Nat.mul_add, Nat.add_comm]

end ReceiptRecord

end SealedReceipts
