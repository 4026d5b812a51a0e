import SealedReceipts.Calendar
import SealedReceipts.Duration
import SealedReceipts.Json.Value
import SealedReceipts.Web.Http

/-!
# Collection notices

When a receipt is collected whose submission named a webhook, the bank posts a notice there. A call
that is not answered with a success is made again, up to a number of retries, and before the
`k`-th retry the bank waits `k` steps. Every call carries the same notice.

Notices are described in section 11 of the specification.
-/

namespace SealedReceipts

namespace Bank

structure Notice where
  receiptId : String
  collectedAt : Timestamp
  deriving DecidableEq, Repr

def Notice.toValue (n : Notice) : Json.Value :=
  .object [("receipt_id", .text n.receiptId), ("status", .text "downloaded"),
    ("timestamp", .text n.collectedAt.truncated.rfc3339)]

namespace Webhook

/-- Why a call did not succeed. -/
inductive Fault where
  | request (fault : Web.CallFault)
  | status (code : Nat)
  deriving DecidableEq, Repr

def Fault.message : Fault → String
  | .request fault => s!"webhook request failed: {fault.message}"
  | .status code => s!"webhook returned status {Web.Status.text code}"

/-- What the answer to a call means. -/
def outcomeOf (answer : Except Web.CallFault Web.Response) : Except Fault Unit :=
  match answer with
  | .error fault => .error (.request fault)
  | .ok response =>
    if Web.Status.isSuccess response.status then .ok () else .error (.status response.status)

/-- What is around a bank: the network, and the time that passes while it waits. -/
structure Surroundings (ω : Type) where
  network : Web.Network ω
  pause : Duration → ω → ω

def post {ω : Type} (around : Surroundings ω) (url body : String) (world : ω) :
    Except Fault Unit × ω :=
  let (answer, world) := around.network.exchange world "POST" url (some body)
  (outcomeOf answer, world)

/-- Waits before the call with a number: not before the first, and a step longer before each next
one. Spans have no bound here; those of a bank at work stay below `2 ^ 32` seconds. -/
def waitBefore {ω : Type} (retryStep : Duration) (pause : Duration → ω → ω) (attempt : Nat)
    (world : ω) : ω :=
  if 0 < attempt then pause ⟨attempt * retryStep.nanoseconds⟩ world else world

/-- Makes calls from the one with a number on, until one succeeds or no retry is left. -/
def deliverFrom {ω : Type} (maxRetries : Nat) (retryStep : Duration) (pause : Duration → ω → ω)
    (call : ω → Except Fault Unit × ω) (attempt : Nat) (world : ω) : Except Fault Unit × ω :=
  match call (waitBefore retryStep pause attempt world) with
  | (.ok (), world) => (.ok (), world)
  | (.error fault, world) =>
    if maxRetries ≤ attempt then (.error fault, world)
    else deliverFrom maxRetries retryStep pause call (attempt + 1) world
termination_by maxRetries - attempt

/-- Posts a notice to a URL, with at most `maxRetries` retries. -/
def notify {ω : Type} (around : Surroundings ω) (maxRetries : Nat) (retryStep : Duration)
    (url : String) (notice : Notice) (world : ω) : Except Fault Unit × ω :=
  deliverFrom maxRetries retryStep around.pause (post around url notice.toValue.render) 0 world

/-- The calls of a notice: how long was waited for the retries, and what came of the last. -/
structure Delivery where
  waits : List Duration
  result : Except Fault Unit

/-- The delivery to a peer that counts its calls: `outcome` says what comes of each. -/
def deliver (maxRetries : Nat) (retryStep : Duration) (outcome : Nat → Except Fault Unit) :
    Delivery :=
  let pause := fun wait (made, waits) => (made, waits ++ [wait])
  let call := fun (made, waits) => (outcome made, made + 1, waits)
  let (result, _, waits) := deliverFrom maxRetries retryStep pause call 0 (0, [])
  { waits, result }

/-- The outcome of every call over a network whose peer gives the answers of a list in turn, and the
last of them again and again. Without answers nobody is there. -/
def scripted (answers : List Web.Response) (url : String) (body : String) (attempt : Nat) :
    Except Fault Unit :=
  let network : Web.Network Unit := fun _ world =>
    (answers[min attempt (answers.length - 1)]?, world)
  (post ⟨network, fun _ world => world⟩ url body ()).1

end Webhook

end Bank

end SealedReceipts
