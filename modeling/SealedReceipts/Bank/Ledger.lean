import SealedReceipts.Bank.Store

/-!
# A ledger

The plainest store there is: one list of entries in the order in which they were made. Every
operation looks through the whole list. It says what a store has to answer.
-/

namespace SealedReceipts

namespace Bank

structure Ledger.Entry (κ : Type) where
  key : κ
  receipt : StoredReceipt

structure Ledger (κ : Type) where
  maxAge : Nat
  entries : List (Ledger.Entry κ)

namespace Ledger

variable {κ : Type} [BEq κ]

def empty (maxAge : Nat) : Ledger κ := { maxAge, entries := [] }

def isExpired (ledger : Ledger κ) (now : Nat) (e : Entry κ) : Bool :=
  ledger.maxAge < now - e.receipt.storedAt

/-- Adds an entry, unless one has its id, or else its key. -/
def submit (ledger : Ledger κ) (key : κ) (payload : Bytes) (receiptId : String)
    (webhookUrl : Option String) (now : Nat) : Except StoreFault (Ledger κ) :=
  if ledger.entries.any fun e => e.receipt.receiptId == receiptId then
    .error (.duplicateId receiptId)
  else if ledger.entries.any fun e => e.key == key then .error .keyInUse
  else
    .ok
      { ledger with
        entries :=
          ledger.entries ++ [⟨key, { payload, receiptId, webhookUrl, storedAt := now }⟩] }

/-- Takes out the entry with a key. -/
def collect (ledger : Ledger κ) (key : κ) : Option StoredReceipt × Ledger κ :=
  ((ledger.entries.find? fun e => e.key == key).map (·.receipt),
    { ledger with entries := ledger.entries.filter fun e => !(e.key == key) })

/-- Drops the expired entries, and counts them. -/
def sweep (ledger : Ledger κ) (now : Nat) : Nat × Ledger κ :=
  (ledger.entries.countP (ledger.isExpired now),
    { ledger with entries := ledger.entries.filter fun e => !ledger.isExpired now e })

def stats (ledger : Ledger κ) (now : Nat) : StoreStats :=
  { stored := ledger.entries.length, expired := ledger.entries.countP (ledger.isExpired now) }

end Ledger

end Bank

end SealedReceipts
