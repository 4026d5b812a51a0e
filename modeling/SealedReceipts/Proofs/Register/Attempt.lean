import SealedReceipts.Register

/-!
# The stages of an issuance

What an issuance makes on its way, each thing out of the things it is made of and without the order
in which the register makes them: the payment method and the receiver out of the draft and the key,
the receipt, its stored form and its hash, the signature, the signed receipt, the sealed payload,
the submission, and the bank that took it. A stage passes when what it makes is there. The order of
the stages is said once, by their numbers.
-/

namespace SealedReceipts

/-- What came of an issuance, with the bank of the register after it. -/
def Register.Issued.outcome {β : Type} (i : Register.Issued β) : Issuance.Outcome Receipt β :=
  { asked := i.asked, result := i.result, bank := i.register.bank }

namespace Issuance

/-- What can fail in an issuance, in order. -/
inductive Stage where
  | validate
  | receiverKey
  | encode
  | sign
  | assemble
  | seal
  | submit
  deriving DecidableEq, Repr

namespace Stage

def rank : Stage → Nat
  | .validate => 0
  | .receiverKey => 1
  | .encode => 2
  | .sign => 3
  | .assemble => 4
  | .seal => 5
  | .submit => 6

theorem rank_injective {stage other : Stage} (h : stage.rank = other.rank) : stage = other := by
  cases stage <;> cases other <;> first | rfl | cases h

/-- The step by which a fault names the stage. The receiver's key is part of what is validated. -/
def step : Stage → IssueStep
  | .validate | .receiverKey => .validate
  | .encode => .encode
  | .sign => .sign
  | .assemble => .assemble
  | .seal => .encrypt
  | .submit => .submit

end Stage

/-- An issuance about to be made: the register, its draft, and what the caller and the moment
bring. -/
structure Attempt (β : Type) where
  register : Register β
  draft : Draft
  receiverKey : Bytes
  now : Timestamp
  entropy : Seal.Entropy

namespace Attempt

variable {β : Type} (a : Attempt β)

def method? : Option String := a.draft.validate.toOption

def receiver? : Option OneTimeKey := (OneTimeKey.ofCompressed a.receiverKey).toOption

def receipt? : Option Receipt :=
  a.method?.map (stamp a.register.sequence.numbers a.now a.register.store a.draft.items)

def binary? : Option Bytes := a.receipt?.bind fun receipt => receipt.encode.toOption

def hash? : Option Bytes := a.binary?.map Sha256.hash

/-- The signature, if the signer gives one in time. -/
def signature? : Option Bytes :=
  a.hash?.bind fun hash =>
    ((a.register.services.sign hash a.register.bank).within? a.register.timeouts.signer).bind
      Except.toOption

def signed? : Option Bytes :=
  a.binary?.bind fun binary =>
    a.signature?.bind fun signature => (Signed.assemble binary signature).toOption

def payload? : Option Bytes :=
  a.receiver?.bind fun receiver =>
    a.signed?.bind fun signed => (Seal.sealFor receiver.point signed a.entropy).1.toOption

def submission? : Option Submission :=
  a.receiver?.bind fun receiver =>
    a.receipt?.bind fun receipt =>
      a.payload?.map fun payload =>
        { key := receiver, payload, trackingId := some receipt.transactionId }

/-- The bank behind the submission, if it takes it in time. -/
def accepted? : Option β :=
  a.submission?.bind fun s =>
    ((a.register.services.submit s a.register.bank).within? a.register.timeouts.bank).bind
      fun answer => answer.1.toOption.map fun _ => answer.2

/-- Whether what a stage makes is there. -/
def Passes : Stage → Prop
  | .validate => a.method?.isSome
  | .receiverKey => a.receiver?.isSome
  | .encode => a.binary?.isSome
  | .sign => a.signature?.isSome
  | .assemble => a.signed?.isSome
  | .seal => a.payload?.isSome
  | .submit => a.accepted?.isSome

/-- Whether every stage in front of a stage passes. -/
def Reaches (stage : Stage) : Prop := ∀ earlier, earlier.rank < stage.rank → a.Passes earlier

/-- What the collaborators are asked when a stage is reached: the signer for the hash, and the bank
to take the submission. -/
def questions (stage : Stage) : List Question :=
  (if Stage.sign.rank ≤ stage.rank then (a.hash?.map Question.sign).toList else []) ++
    if Stage.submit.rank ≤ stage.rank then (a.submission?.map Question.submit).toList else []

end Attempt

end Issuance

end SealedReceipts
