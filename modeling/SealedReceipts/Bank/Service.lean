import SealedReceipts.Bank.Counters
import SealedReceipts.Bank.Store
import SealedReceipts.Bank.Submission
import SealedReceipts.Bank.Sweeper
import SealedReceipts.Bank.Webhook
import SealedReceipts.Text.Percent
import SealedReceipts.Web.MediaType

/-!
# The service of a bank

The bank answers HTTP requests: submissions are posted to `/submit`, receipts collected under
`/collect` with the key as a segment of the path or as a parameter, and `/health` tells how many
receipts there are. Bodies are JSON objects; one with an `error` says what was wrong. Whatever can
be got can also be asked for its head alone, with the same effect and no body.

A collection starts a notice if the submission named a webhook.

The requests and the bodies are those of section 6 of the specification.
-/

namespace SealedReceipts

namespace Bank

open Json (Value)

/-! ## What is refused -/

/-- Why a request is not granted. -/
inductive ServiceFault where
  | invalid (defect : Defect)
  | conflict (fault : StoreFault)
  | notFound
  | contentType
  | bodyTooLong
  | bodyNotJson
  | bodyUnfit
  | query
  deriving DecidableEq, Repr

namespace ServiceFault

def status : ServiceFault → Nat
  | .conflict _ => 409
  | .notFound => 404
  | .bodyTooLong => 413
  | _ => 400

def message : ServiceFault → String
  | .invalid defect => defect.message
  | .conflict (.duplicateId _) => "Receipt ID already exists"
  | .conflict .keyInUse => "A receipt is already stored for this ephemeral key"
  | .notFound => "No receipt found for given ephemeral key"
  | .contentType => "Expected request with \x60Content-Type: application/json\x60"
  | .bodyTooLong => "Failed to buffer the request body"
  | .bodyNotJson => "Failed to parse the request body as JSON"
  | .bodyUnfit => "Failed to deserialize the JSON body into the target type"
  | .query => "Failed to deserialize query string"

def response (fault : ServiceFault) : Web.Response :=
  { status := fault.status, body := (Value.object [("error", .text fault.message)]).render }

end ServiceFault

/-! ## The state and the occasion of a request -/

structure Service where
  store : Store OneTimeKey
  maxBody : Nat
  counters : Counters := {}

/-- What the bank finds when a request comes: the age of the world in milliseconds, the moment on
the calendar, and an id that it may give to a submission without one. -/
structure Occasion where
  now : Nat
  clock : Timestamp
  freshId : String
  deriving DecidableEq, Repr

structure Notification where
  url : String
  notice : Notice
  deriving DecidableEq, Repr

/-- The answer to a request, the bank afterwards, and the notices that it starts. -/
structure Handled where
  response : Web.Response
  service : Service
  started : List Notification := []

namespace Service

def new (maxAge maxBody : Nat) : Service := { store := .empty maxAge, maxBody }

def unchanged (s : Service) (response : Web.Response) : Handled := { response, service := s }

def success (v : Value) : Web.Response := { status := 200, body := v.render }

/-! ## Submitting -/

/-- The submission in a request: its type is looked at first, then the length of its body. -/
def submissionOf (s : Service) (r : Web.Request) : Except ServiceFault ValidSubmission :=
  if !(r.contentType.any Web.MediaType.isJson) then .error .contentType
  else if s.maxBody < r.body.length then .error .bodyTooLong
  else
    match SubmitRequest.read r.body with
    | .error .malformed => .error .bodyNotJson
    | .error .unfit => .error .bodyUnfit
    | .ok request =>
      match request.validate with
      | .error defect => .error (.invalid defect)
      | .ok submission => .ok submission

def keep (s : Service) (submission : ValidSubmission) (o : Occasion) : Handled :=
  let id := submission.receiptId.getD o.freshId
  match s.store.submit submission.key submission.payload id submission.webhookUrl o.now with
  | .error fault =>
    let counters := { s.counters with conflicts := s.counters.conflicts + 1 }
    { response := (ServiceFault.conflict fault).response, service := { s with counters } }
  | .ok store =>
    let counters := { s.counters with submissions := s.counters.submissions + 1 }
    { response := success (.object [("receipt_id", .text id)])
      service := { s with store, counters } }

def submit (s : Service) (r : Web.Request) (o : Occasion) : Handled :=
  match s.submissionOf r with
  | .error fault => s.unchanged fault.response
  | .ok submission => s.keep submission o

/-! ## Collecting -/

/-- Hands out the receipt of the key that a text names. -/
def collect (s : Service) (value : String) (o : Occasion) : Handled :=
  match parseKey value with
  | .error defect => s.unchanged (ServiceFault.invalid defect).response
  | .ok key =>
    match s.store.collect key with
    | (none, _) =>
      let counters := { s.counters with misses := s.counters.misses + 1 }
      { response := ServiceFault.notFound.response, service := { s with counters } }
    | (some receipt, store) =>
      let counters := { s.counters with collections := s.counters.collections + 1 }
      { response := success (.object
          [("encrypted_data", .text (Base64.encode .standard receipt.payload)),
           ("receipt_id", .text receipt.receiptId)])
        service := { s with store, counters }
        started := receipt.webhookUrl.toList.map fun url =>
          { url, notice := { receiptId := receipt.receiptId, collectedAt := o.clock } } }

/-- Collects by the one parameter with the name of the key. -/
def collectByQuery (s : Service) (query : String) (o : Occasion) : Handled :=
  match (Percent.decodeForm query).filter fun (name, _) => name == "ephemeral_key" with
  | [(_, value)] => s.collect value o
  | _ => s.unchanged ServiceFault.query.response

/-- Collects by a segment of the path. -/
def collectByPath (s : Service) (segment : String) (o : Occasion) : Handled :=
  match Percent.decodeText? segment with
  | some value => s.collect value o
  | none => s.unchanged { status := 400, body := "Invalid URL" }

/-! ## Health -/

def health (s : Service) (o : Occasion) : Handled :=
  let stats := s.store.stats o.now
  s.unchanged (success (.object
    [("status", .text "healthy"), ("receipts_stored", .natural stats.stored),
     ("receipts_expired", .natural stats.expired),
     ("timestamp", .text o.clock.truncated.rfc3339)]))

/-! ## Routes -/

inductive Route where
  | submit
  | collectByQuery
  | collectByPath (segment : String)
  | health
  deriving DecidableEq, Repr

/-- What every path to a single receipt begins with. -/
def collectStart : List Char := "/collect/".toList

/-- The route of a path. Paths are taken as they are written. -/
def route? (path : String) : Option Route :=
  if path = "/submit" then some .submit
  else if path = "/collect" then some .collectByQuery
  else if path = "/health" then some .health
  else
    let segment := path.toList.drop collectStart.length
    if collectStart.isPrefixOf path.toList && !segment.isEmpty && !segment.contains '/' then
      some (.collectByPath (String.ofList segment))
    else none

def Route.allows (route : Route) (r : Web.Request) : Bool :=
  match route with
  | .submit => r.method == "POST"
  | _ => r.isRead

def follow (s : Service) (route : Route) (r : Web.Request) (o : Occasion) : Handled :=
  match route with
  | .submit => s.submit r o
  | .collectByQuery => s.collectByQuery r.query o
  | .collectByPath segment => s.collectByPath segment o
  | .health => s.health o

def respond (s : Service) (r : Web.Request) (o : Occasion) : Handled :=
  match route? r.path with
  | none => s.unchanged .notFound
  | some route =>
    if route.allows r then
      let handled := s.follow route r o
      { handled with response := handled.response.sentTo r }
    else s.unchanged .methodNotAllowed

/-! ## Time -/

/-- Sweeps at once; nobody counts it. -/
def sweep (s : Service) (now : Nat) : Nat × Service :=
  let (count, store) := s.store.sweep now
  (count, { s with store })

/-- Lets a span of time pass, in which sweepers sweep; their sweeps are counted. -/
def elapse (s : Service) (sweepers : List Sweeper) (after upTo : Nat) : Service :=
  let (count, store) := s.store.elapse sweepers after upTo
  let counters := { s.counters with swept := s.counters.swept + count }
  { s with store, counters }

end Service

end Bank

end SealedReceipts
