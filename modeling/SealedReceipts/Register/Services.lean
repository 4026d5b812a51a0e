import SealedReceipts.Configuration
import SealedReceipts.Curve.Ecdsa
import SealedReceipts.Register.Fault
import SealedReceipts.Remote.Client

/-!
# Collaborators of a register

A register depends on a signing authority and on a bank. Each answers after some time, and the
register waits only so long: what answers later counts as not having answered, and a bank that is
too late has stored nothing.
-/

namespace SealedReceipts

/-- An answer and the time it takes. -/
structure Timed (α : Type) where
  value : α
  delay : Duration := ⟨0⟩

/-- The answer, if it comes within a limit; one that comes right at the limit does. -/
def Timed.within? {α : Type} (t : Timed α) (limit : Duration) : Option α :=
  if limit < t.delay then none else some t.value

structure Timeouts where
  signer : Duration := .ofSeconds Configuration.defaultSignerTimeoutSeconds.toNat
  bank : Duration := .ofSeconds Configuration.defaultBankTimeoutSeconds.toNat
  deriving DecidableEq, Repr

/-- A signing authority, which keeps nothing of what it signs, and a bank whose contents, with
whatever else lies between it and the register, are a `β`. -/
structure Services (β : Type) where
  sign : Bytes → β → Timed (Except ServiceFault Bytes)
  submit : Submission → β → Timed (Except ServiceFault Unit × β)

namespace Services

/-- Signs with a secret that is at hand. -/
def signWith (secret : Curve.Secret) (hash : Bytes) : Timed (Except ServiceFault Bytes) :=
  { value := .ok (Ecdsa.sign secret hash) }

def submitLocally (s : Submission) (bank : LocalBank) :
    Timed (Except ServiceFault Unit × LocalBank) :=
  { value :=
      match bank.submit s with
      | .ok bank => (.ok (), bank)
      | .error refusal => (.error (.refused refusal), bank) }

/-- Both collaborators in the register's own process. -/
def standalone (secret : Curve.Secret) : Services LocalBank :=
  { sign := fun hash _ => signWith secret hash, submit := submitLocally }

/-- The time a call over a network takes: none if it is not made, and some if it is. -/
def callDelay {α : Type} (result : Except Remote.Fault α) : Duration :=
  match result with
  | .error (.noAnswer _ .noUrl) | .error (.noAnswer _ (.unusable _)) => ⟨0⟩
  | _ => ⟨1⟩

/-- Both collaborators behind URLs. -/
def online {ω : Type} (network : Web.Network ω) (signerUrl bankUrl : String)
    (webhookUrl : Option String) : Services ω :=
  { sign := fun hash world =>
      let result := (Remote.sign network world signerUrl hash).1
      { value := result.mapError .remote, delay := callDelay result }
    submit := fun s world =>
      let (result, world) := Remote.submit network world bankUrl webhookUrl s
      { value := (result.mapError .remote, world), delay := callDelay result } }

end Services

end SealedReceipts
