import SealedReceipts.Receipt
import SealedReceipts.Receipt.Field
import SealedReceipts.Receipt.Identifier
import SealedReceipts.Receipt.Record

/-!
# Decoding a receipt

`Receipt.decode` reads the stored form field by field and stops at the first field that is missing
or wrong. Before any line is read, the bytes left must be exactly those of the announced lines and
of the tax breakdown. A receipt read back bears the written forms of its identifiers; its amounts
are the stored counts, and its totals are not computed anew.

Section 4.1 of the specification names the checks and the written forms.
-/

namespace SealedReceipts

inductive CorruptReceipt where
  | badMagic (found : UInt16)
  | unsupportedVersion (found : UInt8)
  | reservedByteSet (found : UInt8)
  | timestampOutOfRange (seconds : UInt64)
  | truncated (field : Field)
  | invalidUtf8 (field : Field)
  | itemCountMismatch (declared : UInt16) (expected actual : Nat)
  | unknownTaxRate (index : Nat) (value : UInt8)
  deriving DecidableEq, Repr

namespace CorruptReceipt

def message : CorruptReceipt → String
  | .badMagic found => s!"bad magic number 0x{Bytes.toHex (Bytes.ofNat 2 found.toNat)}"
  | .unsupportedVersion found => s!"unsupported receipt version {found}"
  | .reservedByteSet found => s!"reserved byte must be zero, found 0x{Bytes.toHex [found]}"
  | .timestampOutOfRange seconds => s!"timestamp {seconds} is out of range"
  | .truncated field => s!"receipt truncated while reading {field.name}"
  | .invalidUtf8 field => s!"{field.name} is not valid UTF-8"
  | .itemCountMismatch declared expected actual =>
    s!"{declared} items need {expected} trailing bytes, found {actual}"
  | .unknownTaxRate index value => s!"item {index} has an unsupported tax rate: {value}"

end CorruptReceipt

/-- Reads something from the front of a byte string and leaves the rest. -/
def Reader (α : Type) := Bytes → Except CorruptReceipt (α × Bytes)

namespace Reader

/-- What was read goes on to the next reader. -/
def andThen {α β : Type} (first : Reader α) (next : α → Reader β) : Reader β := fun bytes =>
  match first bytes with
  | .ok (a, rest) => next a rest
  | .error e => .error e

instance : Monad Reader where
  pure a := fun bytes => .ok (a, bytes)
  bind := andThen

def fail {α : Type} (e : CorruptReceipt) : Reader α := fun _ => .error e

def take (count : Nat) (field : Field) : Reader Bytes := fun bytes =>
  let head := bytes.take count
  if head.length = count then .ok (head, bytes.drop count) else .error (.truncated field)

/-- The number of the next `width` bytes. -/
def number (width : Nat) (field : Field) : Reader Nat := do
  let bytes ← take width field
  return bytes.toNat

def byte (field : Field) : Reader UInt8 := do return UInt8.ofNat (← number 1 field)

def word16 (field : Field) : Reader UInt16 := do return UInt16.ofNat (← number 2 field)

def word32 (field : Field) : Reader UInt32 := do return UInt32.ofNat (← number 4 field)

def word64 (field : Field) : Reader UInt64 := do return UInt64.ofNat (← number 8 field)

/-- A text behind the number of its bytes. -/
def text (field : Field) : Reader String := do
  let length ← number 4 field
  let bytes ← take length field
  match bytes.toText? with
  | some s => return s
  | none => fail (.invalidUtf8 field)

def remaining : Reader Nat := fun bytes => .ok (bytes.length, bytes)

end Reader

open Reader

namespace ReceiptRecord

/-- The four bytes that every stored receipt begins with. -/
def readStart : Reader Unit := do
  let magic ← word16 .magic
  if magic ≠ Layout.magic then fail (.badMagic magic)
  let version ← byte .version
  if version ≠ Layout.version then fail (.unsupportedVersion version)
  let reserved ← byte .reserved
  if reserved ≠ Layout.reserved then fail (.reservedByteSet reserved)

/-- A second that the calendar supports. -/
def readSeconds : Reader UInt64 := do
  let seconds ← word64 .timestamp
  if seconds.toNat ≤ Timestamp.maxSeconds then return seconds
  else fail (.timestampOutOfRange seconds)

def readItem (index : Nat) : Reader LineRecord := do
  let categoryId ← word16 .categoryId
  let quantity ← word16 .quantity
  let unitPrice ← word32 .unitPrice
  let totalPrice ← word32 .totalPrice
  let value ← byte .taxRate
  match TaxRate.ofPercent value with
  | .ok taxRate => return { categoryId, quantity, unitPrice, totalPrice, taxRate }
  | .error _ => fail (.unknownTaxRate index value)

/-- Reads `count` lines from `index` on; `read` holds the lines so far, last first. -/
def readItems (count index : Nat) (read : List LineRecord) :
    Reader (List LineRecord) := fun bytes =>
  match count with
  | 0 => .ok (read.reverse, bytes)
  | count + 1 =>
    match readItem index bytes with
    | .ok (item, rest) => readItems count (index + 1) (item :: read) rest
    | .error e => .error e

/-- The amounts behind the lines. -/
def readTax : Reader TaxRecord := do
  let reducedBase ← word32 .taxableAmount
  let reducedTax ← word32 .taxAmount
  let standardBase ← word32 .taxableAmount
  let standardTax ← word32 .taxAmount
  let totalTax ← word32 .totalTax
  return { reducedBase, reducedTax, standardBase, standardTax, totalTax }

/-- The bytes that `count` lines and the tax breakdown need. -/
def trailingLength (count : UInt16) : Nat :=
  count.toNat * Layout.itemLength + Layout.taxLength

/-- The announced number of lines, which the bytes left must bear out. -/
def readItemCount : Reader UInt16 := do
  let declared ← word16 .itemCount
  let actual ← remaining
  if actual ≠ trailingLength declared then
    fail (.itemCountMismatch declared (trailingLength declared) actual)
  return declared

def read : Reader ReceiptRecord := do
  readStart
  let seconds ← readSeconds
  let reportNumber ← word32 .reportNumber
  let sequence ← word32 .transactionId
  let registrationId ← word32 .registrationId
  let storeName ← text .storeName
  let storeAddress ← text .storeAddress
  let totalAmount ← word32 .totalAmount
  let paymentMethod ← text .paymentMethod
  let serial ← word32 .serial
  let declared ← readItemCount
  let items ← readItems declared.toNat 0 []
  let tax ← readTax
  return { seconds, reportNumber, sequence, registrationId, storeName, storeAddress, totalAmount,
           paymentMethod, serial, items, tax }

/-- The record of a stored form. Nothing is left behind it, since the bytes from the lines on were
counted. -/
def ofBytes (bytes : Bytes) : Except CorruptReceipt ReceiptRecord :=
  (read bytes).map Prod.fst

def timestamp (r : ReceiptRecord) : Timestamp := ⟨r.seconds.toNat, 0⟩

end ReceiptRecord

def LineRecord.item (item : LineRecord) : LineItem :=
  { categoryId := item.categoryId
    quantity := item.quantity
    unitPrice := Money.ofMinor item.unitPrice
    totalPrice := Money.ofMinor item.totalPrice
    taxRate := item.taxRate }

def TaxRecord.breakdown (tax : TaxRecord) : TaxBreakdown :=
  { reduced := ⟨Money.ofMinor tax.reducedBase, Money.ofMinor tax.reducedTax⟩
    standard := ⟨Money.ofMinor tax.standardBase, Money.ofMinor tax.standardTax⟩
    totalTax := Money.ofMinor tax.totalTax }

def ReceiptRecord.receipt (r : ReceiptRecord) : Receipt :=
  { reportNumber := Identifier.reportNumber r.reportNumber
    transactionId := Identifier.transactionId r.timestamp r.sequence
    timestamp := r.timestamp
    registrationId := Identifier.registrationId r.registrationId
    storeName := r.storeName
    storeAddress := r.storeAddress
    serial := Identifier.serial r.serial
    items := r.items.map LineRecord.item
    taxBreakdown := r.tax.breakdown
    totalAmount := Money.ofMinor r.totalAmount
    paymentMethod := r.paymentMethod }

def Receipt.decode (bytes : Bytes) : Except CorruptReceipt Receipt :=
  (ReceiptRecord.ofBytes bytes).map ReceiptRecord.receipt

end SealedReceipts
