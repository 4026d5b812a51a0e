import SealedReceipts.Json.Decode
import SealedReceipts.OneTimeKey
import SealedReceipts.Text.Base64
import SealedReceipts.Web.Url

/-!
# Submissions to a bank

What a bank is asked to keep: texts that must name a key, hold a payload and, if they are given,
be an id and the URL of a web server. The key is base64 in either alphabet; the first thing that
is wrong is reported.

The checks are listed in section 11 of the specification.
-/

namespace SealedReceipts

namespace Bank

/-- A submission as it is asked for. -/
structure SubmitRequest where
  ephemeralKey : String
  encryptedData : String
  receiptId : Option String
  webhookUrl : Option String
  deriving DecidableEq, Repr

/-- A submission that may be stored. -/
structure ValidSubmission where
  key : OneTimeKey
  payload : Bytes
  receiptId : Option String
  webhookUrl : Option String

/-- What is wrong with a submission or a key. -/
inductive Defect where
  | keyMissing
  | keyNotBase64
  | keyLength
  | keyNotAPoint
  | dataMissing
  | dataNotBase64
  | idCharacters
  | webhookNotAUrl
  | webhookScheme
  deriving DecidableEq, Repr

def Defect.message : Defect → String
  | .keyMissing => "ephemeral_key is required"
  | .keyNotBase64 => "ephemeral_key must be valid base64"
  | .keyLength => s!"ephemeral_key must decode to exactly {Curve.compressedLength} bytes"
  | .keyNotAPoint => "ephemeral_key must be a compressed P-256 point"
  | .dataMissing => "encrypted_data is required"
  | .dataNotBase64 => "encrypted_data must be valid base64"
  | .idCharacters => "receipt_id must contain only alphanumeric characters and hyphens"
  | .webhookNotAUrl => "webhook_url must be a valid URL"
  | .webhookScheme => "webhook_url must use HTTP or HTTPS"

/-! ## Checks -/

/-- The bytes of a key in the standard alphabet, or else in that of URLs. -/
def keyBytes? (value : String) : Option Bytes :=
  Base64.decode? .standard value <|> Base64.decode? .urlSafe value

def parseKey (value : String) : Except Defect OneTimeKey :=
  if value.isEmpty then .error .keyMissing
  else
    match keyBytes? value with
    | none => .error .keyNotBase64
    | some bytes =>
      if bytes.length = Curve.compressedLength then
        match OneTimeKey.ofCompressed bytes with
        | .ok key => .ok key
        | .error _ => .error .keyNotAPoint
      else .error .keyLength

/-- The payload of a text, which must not be empty. -/
def parseData (value : String) : Except Defect Bytes :=
  if value.isEmpty then .error .dataMissing
  else
    match Base64.decode? .standard value with
    | some bytes => .ok bytes
    | none => .error .dataNotBase64

/-- Whether a text is an id: ASCII letters, digits and hyphens, at least one. -/
def isReceiptId (id : String) : Bool :=
  !id.isEmpty && id.toList.all fun c => c.isAlphanum || c == '-'

/-- An id that is given must be one. -/
def checkId : Option String → Except Defect Unit
  | none => .ok ()
  | some id => if isReceiptId id then .ok () else .error .idCharacters

/-- A URL that is given must be that of a web server. -/
def checkWebhook : Option String → Except Defect Unit
  | none => .ok ()
  | some text =>
    match Web.Url.parse? text with
    | none => .error .webhookNotAUrl
    | some url => if url.isHttp then .ok () else .error .webhookScheme

/-- The submission of a request, or the first thing that is wrong with it. -/
def SubmitRequest.validate (r : SubmitRequest) : Except Defect ValidSubmission := do
  let key ← parseKey r.ephemeralKey
  let payload ← parseData r.encryptedData
  checkId r.receiptId
  checkWebhook r.webhookUrl
  return { key, payload, receiptId := r.receiptId, webhookUrl := r.webhookUrl }

/-! ## Reading -/

namespace SubmitRequest

/-- What has been read of a request. -/
structure Partial where
  ephemeralKey : Option String := none
  encryptedData : Option String := none
  receiptId : Option (Option String) := none
  webhookUrl : Option (Option String) := none

def fields : List (Json.Field Partial) :=
  [Json.field "ephemeral_key" Partial.ephemeralKey (fun t r => { r with ephemeralKey := some t })
      Json.asText,
   Json.field "encrypted_data" Partial.encryptedData
      (fun t r => { r with encryptedData := some t }) Json.asText,
   Json.field "receipt_id" Partial.receiptId (fun t r => { r with receiptId := some t })
      (Json.asOption Json.asText),
   Json.field "webhook_url" Partial.webhookUrl (fun t r => { r with webhookUrl := some t })
      (Json.asOption Json.asText)]

def Partial.request? (r : Partial) : Option SubmitRequest := do
  return { ephemeralKey := ← r.ephemeralKey, encryptedData := ← r.encryptedData
           receiptId := r.receiptId.getD none, webhookUrl := r.webhookUrl.getD none }

def read (body : Bytes) : Json.Decoded SubmitRequest :=
  Json.ofBytes (Json.asStructure fields {} Partial.request?) body

end SubmitRequest

end Bank

end SealedReceipts
