import SealedReceipts.Register.Issuance

/-!
# The register

A register has no receipt, an open draft or a closed receipt. A draft is started when none is open;
lines and a payment method are added to an open one, and it is cancelled or issued. Issuing closes
it, or discards it when a step fails.

The states and their transitions are those of section 4.6 of the specification.
-/

namespace SealedReceipts

namespace Register

/-- What a register has in hand. -/
inductive State where
  | noReceipt
  | opened (draft : Draft)
  | issuing
  | closed (receipt : Receipt)
  deriving DecidableEq

end Register

structure Register (β : Type) where
  services : Services β
  bank : β
  sequence : Sequence
  store : StoreInfo
  catalog : Catalog
  timeouts : Timeouts
  state : Register.State

namespace Register

variable {β : Type}

/-- A register that has not been used. -/
def new (services : Services β) (bank : β) (sequence : Sequence) (store : StoreInfo)
    (catalog : Catalog) (timeouts : Timeouts) : Register β :=
  { services, bank, sequence, store, catalog, timeouts, state := .noReceipt }

/-! ## What it shows -/

def status (r : Register β) : RegisterStatus :=
  match r.state with
  | .noReceipt => .noReceipt
  | .opened _ => .opened
  | .issuing => .issuing
  | .closed _ => .closed

def draft? (r : Register β) : Option Draft :=
  match r.state with
  | .opened draft => some draft
  | _ => none

/-- The receipt that was issued last, until the next is started. -/
def lastIssued? (r : Register β) : Option Receipt :=
  match r.state with
  | .closed receipt => some receipt
  | _ => none

/-! ## What it does -/

def start (r : Register β) : Except RegisterFault (Register β) :=
  match r.state with
  | .noReceipt | .closed _ => .ok { r with state := .opened {} }
  | .opened _ | .issuing => .error (.invalidState r.status)

/-- The price of a unit: the cashier's, or else the preset one. It must be finite and above zero. -/
def priceOf (category : Category) (price : Option Binary64) : Except RegisterFault Binary64 :=
  let unitPrice := price.getD category.presetPrice
  if !unitPrice.isFinite || unitPrice.le 0 then .error (.invalidPrice unitPrice) else .ok unitPrice

/-- The line that a quantity of a category adds. -/
def lineFor (catalog : Catalog) (categoryId quantity : UInt16) (price : Option Binary64) :
    Except RegisterFault LineItem :=
  if quantity = 0 then .error .zeroQuantity
  else
    match catalog.get? categoryId with
    | none => .error (.unknownCategory categoryId)
    | some category =>
      (priceOf category price).map fun unitPrice =>
        LineItem.ofPrice categoryId quantity unitPrice category.taxRate

/-- Rings up a quantity of a category on the open draft, and gives the line that has it. -/
def addItem (r : Register β) (categoryId quantity : UInt16) (price : Option Binary64) :
    Except RegisterFault (LineItem × Register β) :=
  match r.state with
  | .opened draft =>
    match lineFor r.catalog categoryId quantity price with
    | .error fault => .error fault
    | .ok item =>
      match draft.addItem? item with
      | none => .error .quantityOverflow
      | some (line, draft) => .ok (line, { r with state := .opened draft })
  | _ => .error .noOpenReceipt

def setPaymentMethod (r : Register β) (method : String) : Except RegisterFault (Register β) :=
  match r.state with
  | .opened draft => .ok { r with state := .opened (draft.setPaymentMethod method) }
  | _ => .error .noOpenReceipt

def cancel (r : Register β) : Except RegisterFault (Register β) :=
  match r.state with
  | .opened _ => .ok { r with state := .noReceipt }
  | _ => .error .noOpenReceipt

def closeReport (r : Register β) : Register β :=
  { r with sequence := r.sequence.closeReport }

/-! ## Issuing -/

/-- What came of issuing: the questions put to the collaborators, the receipt or the fault, and the
register afterwards. -/
structure Issued (β : Type) where
  asked : List Issuance.Question
  result : Except RegisterFault Receipt
  register : Register β

/-- The register that gives up the draft it was issuing. -/
def discard (r : Register β) : Register β :=
  match r.state with
  | .issuing => { r with state := .noReceipt }
  | _ => r

def issueDraft (r : Register β) (draft : Draft) (receiverKey : Bytes) (now : Timestamp)
    (entropy : Seal.Entropy) : Issued β :=
  let r := { r with state := .issuing }
  match Issuance.check draft receiverKey with
  | .error fault => { asked := [], result := .error fault, register := r.discard }
  | .ok (method, receiver) =>
    let receipt := Issuance.stamp r.sequence.numbers now r.store draft.items method
    let r := { r with sequence := r.sequence.advance }
    let o := Issuance.deliver r.services r.timeouts r.bank receiver entropy receipt
    let r := { r with bank := o.bank }
    match o.result with
    | .error fault => { asked := o.asked, result := .error fault, register := r.discard }
    | .ok () =>
      { asked := o.asked, result := .ok receipt, register := { r with state := .closed receipt } }

/-- Issues the open draft to the holder of a key, under the moment that the clock shows. -/
def issue (r : Register β) (receiverKey : Bytes) (now : Timestamp) (entropy : Seal.Entropy) :
    Issued β :=
  match r.state with
  | .opened draft => r.issueDraft draft receiverKey now entropy
  | _ => { asked := [], result := .error .noOpenReceipt, register := r }

/-! ## Registers of a configuration -/

/-- How long a configuration makes its register wait. -/
def timeoutsOf (c : Configuration) : Timeouts :=
  { signer := .ofSeconds c.signerTimeoutSeconds.toNat
    bank := .ofSeconds c.bankTimeoutSeconds.toNat }

/-- The register of a configuration with given collaborators. -/
def ofConfiguration (c : Configuration) (services : Services β) (bank : β) : Register β :=
  new services bank {} c.store c.catalog (timeoutsOf c)

end Register

end SealedReceipts
