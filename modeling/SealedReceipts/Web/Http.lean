import SealedReceipts.Web.Status
import SealedReceipts.Web.Url

/-!
# HTTP exchanges

A server answers requests that name a target on it. A client makes calls to URLs over a network that
may or may not bring an answer back, and may change with every call. A call whose URL cannot be used
is never made.
-/

namespace SealedReceipts

namespace Web

structure Request where
  method : String
  target : String
  contentType : Option String := none
  body : Bytes := []
  deriving DecidableEq, Repr

namespace Request

/-- A target without the scheme and the server that it may name, and without a fragment. -/
def localTarget (r : Request) : List Char :=
  let text := r.target.toList.takeWhile (· ≠ '#')
  match text.dropWhile Url.isSchemeChar with
  | ':' :: '/' :: '/' :: rest =>
    match rest.dropWhile fun c => c ≠ '/' && c ≠ '?' with
    | '/' :: path => '/' :: path
    | query => '/' :: query
  | _ => text

/-- Path and query of the target: what is in front of its first question mark, and what is behind
it. -/
def pathAndQuery (r : Request) : String × String :=
  let (path, query) := r.localTarget.span (· ≠ '?')
  (String.ofList path, String.ofList (query.drop 1))

def path (r : Request) : String := r.pathAndQuery.1

def query (r : Request) : String := r.pathAndQuery.2

/-- Whether a request asks to read, in full or the head alone. -/
def isRead (r : Request) : Bool := r.method == "GET" || r.method == "HEAD"

end Request

structure Response where
  status : Nat
  body : String
  deriving DecidableEq, Repr

namespace Response

def notFound : Response := { status := 404, body := "" }

def methodNotAllowed : Response := { status := 405, body := "" }

/-- What is sent: no body if only the head was asked for. -/
def sentTo (response : Response) (r : Request) : Response :=
  if r.method = "HEAD" then { response with body := "" } else response

end Response

structure Call where
  method : String
  url : Url
  body : Option String
  deriving DecidableEq, Repr

/-- Brings a call to its peer, if it is there, and its answer back. -/
abbrev Network (ω : Type) := Call → ω → Option Response × ω

def Network.unreachable {ω : Type} : Network ω := fun _ world => (none, world)

/-- Why a call brought no answer. -/
inductive CallFault where
  | noUrl
  | unusable (url : Url)
  | noAnswer (url : Url)
  deriving DecidableEq, Repr

def CallFault.message : CallFault → String
  | .noUrl => "builder error"
  | .unusable url => s!"builder error for url ({url.text})"
  | .noAnswer url => s!"error sending request for url ({url.text})"

/-- Calls a URL. User and password do not travel in it. -/
def Network.exchange {ω : Type} (network : Network ω) (world : ω) (method url : String)
    (body : Option String) : Except CallFault Response × ω :=
  match Url.parse? url with
  | none => (.error .noUrl, world)
  | some url =>
    let url := url.anonymous
    if url.isCallable then
      match network ⟨method, url, body⟩ world with
      | (some response, world) => (.ok response, world)
      | (none, world) => (.error (.noAnswer url), world)
    else (.error (.unusable url), world)

end Web

end SealedReceipts
