import SealedReceipts.Catalog.Document
import SealedReceipts.Configuration

/-!
# Configurations as documents

A configuration is a structure of five fields; the catalog and the two timeouts may be missing. The
collaborators name their mode in a field of its own beside those of the mode, or in front of them
when they are written as an array.
-/

namespace SealedReceipts

open Json (Decoded Value)

/-! ## The store -/

namespace StoreInfo

/-- What has been read of a store. -/
structure Partial where
  registrationId : Option UInt32 := none
  name : Option String := none
  address : Option String := none

def fields : List (Json.Field Partial) :=
  [Json.field "registration_id" Partial.registrationId
      (fun id s => { s with registrationId := some id })
      fun v => return UInt32.ofNat (← v.asNatural UInt32.size),
   Json.field "name" Partial.name (fun name s => { s with name := some name }) Json.asText,
   Json.field "address" Partial.address (fun address s => { s with address := some address })
      Json.asText]

def Partial.store? (s : Partial) : Option StoreInfo := do
  return { registrationId := ← s.registrationId, name := ← s.name, address := ← s.address }

def ofJson (v : Json) : Decoded StoreInfo := Json.asStructure fields {} Partial.store? v

def toValue (store : StoreInfo) : Value :=
  .object [("registration_id", .natural store.registrationId.toNat), ("name", .text store.name),
    ("address", .text store.address)]

end StoreInfo

/-! ## The collaborators -/

namespace Collaborators

/-- What has been read of the online mode. -/
structure Partial where
  signerUrl : Option String := none
  bankUrl : Option String := none
  webhookUrl : Option (Option String) := none

def onlineFields : List (Json.Field Partial) :=
  [Json.field "signer_url" Partial.signerUrl (fun url s => { s with signerUrl := some url })
      Json.asText,
   Json.field "bank_url" Partial.bankUrl (fun url s => { s with bankUrl := some url }) Json.asText,
   Json.field "webhook_url" Partial.webhookUrl (fun url s => { s with webhookUrl := some url })
      (Json.asOption Json.asText)]

def Partial.online? (s : Partial) : Option Collaborators := do
  return .online (← s.signerUrl) (← s.bankUrl) (s.webhookUrl.getD none)

/-- The name of the field that holds the mode. -/
def modeName : String := "mode"

/-- The mode of a name, read from what stands beside it. Without collaborators to reach, an object
may hold anything and an array nothing. -/
def ofMode (mode : String) (v : Json) : Decoded Collaborators :=
  if mode = "standalone" then
    match v with
    | .array (_ :: _) => .error .unfit
    | _ => .ok .standalone
  else if mode = "online" then Json.asStructure onlineFields {} Partial.online? v
  else .error .unfit

/-- The collaborators, in containers that leave room for `depth` more. -/
def ofJson (depth : Nat) (v : Json) : Decoded Collaborators :=
  if !v.isKept depth then .error v.mismatch
  else
    match v with
    | .object members =>
      match members.partition (fun (name, _) => name == some modeName) with
      | ([(_, mode)], others) => mode.asText >>= (ofMode · (.object others))
      | _ => .error .unfit
    | .array (mode :: others) => mode.asText >>= (ofMode · (.array others))
    | _ => .error .unfit

def toValue : Collaborators → Value
  | .standalone => .object [(modeName, .text "standalone")]
  | .online signerUrl bankUrl webhookUrl =>
    .object [(modeName, .text "online"), ("signer_url", .text signerUrl),
      ("bank_url", .text bankUrl), ("webhook_url", .ofText? webhookUrl)]

end Collaborators

/-! ## The configuration -/

namespace Configuration

/-- What has been read of a configuration. -/
structure Partial where
  store : Option StoreInfo := none
  catalog : Option Catalog := none
  collaborators : Option Collaborators := none
  signerTimeoutSeconds : Option UInt64 := none
  bankTimeoutSeconds : Option UInt64 := none

def secondsOfJson (v : Json) : Decoded UInt64 := do
  return UInt64.ofNat (← v.asNatural UInt64.size)

def fields : List (Json.Field Partial) :=
  [Json.field "store" Partial.store (fun store c => { c with store := some store })
      StoreInfo.ofJson,
   Json.field "catalog" Partial.catalog (fun catalog c => { c with catalog := some catalog })
      (Catalog.ofJson (Json.depthLimit - 1)),
   Json.field "collaborators" Partial.collaborators
      (fun collaborators c => { c with collaborators := some collaborators })
      (Collaborators.ofJson (Json.depthLimit - 1)),
   Json.field "signer_timeout_secs" Partial.signerTimeoutSeconds
      (fun seconds c => { c with signerTimeoutSeconds := some seconds }) secondsOfJson,
   Json.field "bank_timeout_secs" Partial.bankTimeoutSeconds
      (fun seconds c => { c with bankTimeoutSeconds := some seconds }) secondsOfJson]

/-- The configuration, if the store and the collaborators have been read. -/
def Partial.configuration? (c : Partial) : Option Configuration := do
  return { store := ← c.store
           catalog := c.catalog.getD Catalog.empty
           collaborators := ← c.collaborators
           signerTimeoutSeconds := c.signerTimeoutSeconds.getD defaultSignerTimeoutSeconds
           bankTimeoutSeconds := c.bankTimeoutSeconds.getD defaultBankTimeoutSeconds }

def ofJson (v : Json) : Decoded Configuration :=
  Json.asStructure fields {} Partial.configuration? v

def toValue (c : Configuration) : Value :=
  .object [("store", c.store.toValue), ("catalog", c.catalog.toValue),
    ("collaborators", c.collaborators.toValue),
    ("signer_timeout_secs", .natural c.signerTimeoutSeconds.toNat),
    ("bank_timeout_secs", .natural c.bankTimeoutSeconds.toNat)]

def read (text : String) : Decoded Configuration := Json.ofText ofJson text

end Configuration

end SealedReceipts
