import Std.Data.HashMap
import SealedReceipts.Bytes

/-!
# The store of a bank

Sealed receipts wait under the key of their receiver until they are collected once or are swept for
their age. A receipt also has an id, and no two in the store have the same. The store looks receipts
up by key and keys up by id; the two maps always describe the same receipts.

Time is a number of milliseconds that the caller reads off a clock. A receipt is expired when it is
older than the store's maximum age; one of exactly that age is not.

The store is that of section 4.5 of the specification.
-/

namespace SealedReceipts

namespace Bank

structure StoredReceipt where
  payload : Bytes
  receiptId : String
  webhookUrl : Option String
  storedAt : Nat
  deriving DecidableEq, Repr

def StoredReceipt.age (receipt : StoredReceipt) (now : Nat) : Nat := now - receipt.storedAt

/-- Why a submission is refused. -/
inductive StoreFault where
  | duplicateId (receiptId : String)
  | keyInUse
  deriving DecidableEq, Repr

def StoreFault.message : StoreFault → String
  | .duplicateId receiptId => s!"receipt id {receiptId} already exists"
  | .keyInUse => "a receipt is already stored under this key"

/-- How many receipts are stored, and how many of them are expired. -/
structure StoreStats where
  stored : Nat
  expired : Nat
  deriving DecidableEq, Repr

/-- The receipts of a bank. -/
structure Store (κ : Type) [BEq κ] [Hashable κ] where
  maxAge : Nat
  byKey : Std.HashMap κ StoredReceipt
  keysById : Std.HashMap String κ

namespace Store

variable {κ : Type} [BEq κ] [Hashable κ]

def empty (maxAge : Nat) : Store κ :=
  { maxAge, byKey := ∅, keysById := ∅ }

def isExpired (store : Store κ) (now : Nat) (receipt : StoredReceipt) : Bool :=
  store.maxAge < receipt.age now

/-- The store with a receipt under a key and an id that were free. -/
def put (store : Store κ) (key : κ) (receipt : StoredReceipt) : Store κ :=
  { store with
    byKey := store.byKey.insert key receipt
    keysById := store.keysById.insert receipt.receiptId key }

/-- Stores a receipt. Its id is checked before its key. -/
def submit (store : Store κ) (key : κ) (payload : Bytes) (receiptId : String)
    (webhookUrl : Option String) (now : Nat) : Except StoreFault (Store κ) :=
  if store.keysById.contains receiptId then .error (.duplicateId receiptId)
  else if store.byKey.contains key then .error .keyInUse
  else .ok (store.put key { payload, receiptId, webhookUrl, storedAt := now })

def remove (store : Store κ) (key : κ) : Store κ :=
  match store.byKey[key]? with
  | none => store
  | some receipt =>
    { store with
      byKey := store.byKey.erase key
      keysById := store.keysById.erase receipt.receiptId }

/-- Hands out the receipt under a key. -/
def collect (store : Store κ) (key : κ) : Option StoredReceipt × Store κ :=
  (store.byKey[key]?, store.remove key)

def expiredKeys (store : Store κ) (now : Nat) : List κ :=
  (store.byKey.toList.filter fun (_, receipt) => store.isExpired now receipt).map (·.1)

/-- Drops the expired receipts, and counts them. -/
def sweep (store : Store κ) (now : Nat) : Nat × Store κ :=
  let keys := store.expiredKeys now
  (keys.length, keys.foldl remove store)

def stats (store : Store κ) (now : Nat) : StoreStats :=
  { stored := store.byKey.size, expired := (store.expiredKeys now).length }

end Store

end Bank

end SealedReceipts
