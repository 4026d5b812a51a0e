import SealedReceipts.Json.Decode
import SealedReceipts.Json.Value
import SealedReceipts.Register.Submission
import SealedReceipts.Remote.Fault
import SealedReceipts.Text.Base64

/-!
# Clients of remote services

A signing authority signs a hash under `/sign` and tells its key under `/public-key`; a bank takes
submissions under `/submit`. Bodies are JSON objects in which bytes are base64. A service reports a
failure by its status and an object with an `error`; any other body is passed on as it is.

The requests and the bodies are those of section 6 of the specification.
-/

namespace SealedReceipts

namespace Remote

open Json (Decoded Value)

/-! ## Bodies -/

/-- A structure of a single text. -/
def textField (name : String) : Json → Decoded String :=
  Json.asStructure [Json.field name (fun t => t) (fun t _ => some t) Json.asText] none (fun t => t)

def errorMessage (body : String) : String :=
  match Json.ofText (textField "error") body with
  | .ok message => message
  | .error _ => body

/-- The text of the single field of a successful answer. -/
def readAnswer (url field : String) (answer : Except Web.CallFault Web.Response) :
    Except Fault String :=
  match answer with
  | .error fault => .error (.noAnswer url fault)
  | .ok response =>
    if Web.Status.isSuccess response.status then
      match Json.ofText (textField field) response.body with
      | .ok text => .ok text
      | .error _ => .error (.unreadable url)
    else .error (.status url response.status (errorMessage response.body))

/-- The bytes of the single field of a successful answer. -/
def readBytes (url field : String) (answer : Except Web.CallFault Web.Response) :
    Except Fault Bytes := do
  match Base64.decode? .standard (← readAnswer url field answer) with
  | some bytes => .ok bytes
  | none => .error (.base64 field)

/-- A base URL without the slashes at its end. -/
def trimBase (base : String) : String :=
  String.ofList (base.toList.reverse.dropWhile (· == '/')).reverse

/-! ## The signing authority -/

def signBody (hash : Bytes) : Value :=
  .object [("hash", .text (Base64.encode .standard hash))]

def sign {ω : Type} (network : Web.Network ω) (world : ω) (base : String) (hash : Bytes) :
    Except Fault Bytes × ω :=
  let url := trimBase base ++ "/sign"
  let (answer, world) := network.exchange world "POST" url (some (signBody hash).render)
  (readBytes url "signature" answer, world)

def publicKey {ω : Type} (network : Web.Network ω) (world : ω) (base : String) :
    Except Fault Bytes × ω :=
  let url := trimBase base ++ "/public-key"
  let (answer, world) := network.exchange world "GET" url none
  (readBytes url "public_key" answer, world)

/-! ## The bank -/

/-- A submission as the bank reads it; what is absent is left out. -/
def submitBody (s : Submission) (webhookUrl : Option String) : Value :=
  .object ([("ephemeral_key", .text (Base64.encode .standard s.key.bytes)),
    ("encrypted_data", .text (Base64.encode .standard s.payload))] ++
    s.trackingId.toList.map (fun id => ("receipt_id", .text id)) ++
    webhookUrl.toList.map (fun url => ("webhook_url", .text url)))

/-- Hands a submission to the bank. Whatever id the bank answers with is accepted. -/
def submit {ω : Type} (network : Web.Network ω) (world : ω) (base : String)
    (webhookUrl : Option String) (s : Submission) : Except Fault Unit × ω :=
  let url := trimBase base ++ "/submit"
  let (answer, world) :=
    network.exchange world "POST" url (some (submitBody s webhookUrl).render)
  ((readAnswer url "receipt_id" answer).map fun _ => (), world)

end Remote

end SealedReceipts
