import SealedReceipts.Catalog

/-!
# Configuration

What a register is set up with: the store printed on its receipts, its catalog, where its signing
authority and its bank are, and how long it waits for each of them.

Section 10.4 of the specification says what a configuration has.
-/

namespace SealedReceipts

/-- The store that is stamped on every receipt. -/
structure StoreInfo where
  registrationId : UInt32
  name : String
  address : String
  deriving DecidableEq, Repr

/-- Where the signing authority and the bank are. -/
inductive Collaborators where
  /-- Both in the register's own process. -/
  | standalone
  /-- Both behind a base URL. The bank is told to report a collection to the webhook. -/
  | online (signerUrl bankUrl : String) (webhookUrl : Option String)
  deriving DecidableEq, Repr

structure Configuration where
  store : StoreInfo
  catalog : Catalog
  collaborators : Collaborators
  signerTimeoutSeconds : UInt64
  bankTimeoutSeconds : UInt64

namespace Configuration

def defaultSignerTimeoutSeconds : UInt64 := 10

def defaultBankTimeoutSeconds : UInt64 := 15

end Configuration

end SealedReceipts
