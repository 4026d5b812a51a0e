import SealedReceipts.Hash.Sha256
import SealedReceipts.Receipt.Identifier
import SealedReceipts.Register.Sequence
import SealedReceipts.Register.Services

/-!
# Issuance

How a draft becomes a receipt in the bank. The draft and the receiver's key are checked, a number is
taken and the receipt is stamped; then it is encoded, its hash signed, the signed receipt sealed for
its receiver, and the payload submitted. The first step that fails ends the issuance. A collaborator
is asked once, and only when every step before it succeeded; submitting is the last step, so nothing
has to be taken back.

The order of the steps is that of section 4.6 of the specification.
-/

namespace SealedReceipts

namespace Issuance

/-- What a collaborator is asked. -/
inductive Question where
  | sign (hash : Bytes)
  | submit (submission : Submission)

/-- The receipt of a draft: numbers and date are stamped on it, its moment is the beginning of the
second that the clock shows. -/
def stamp (numbers : SequenceNumbers) (now : Timestamp) (store : StoreInfo) (items : List LineItem)
    (paymentMethod : String) : Receipt :=
  let timestamp := now.truncated
  Receipt.finalize
    { reportNumber := Identifier.reportNumber numbers.report
      transactionId := Identifier.transactionId timestamp numbers.receipt
      timestamp
      registrationId := Identifier.registrationId store.registrationId
      storeName := store.name
      storeAddress := store.address
      serial := Identifier.serial numbers.receipt }
    items paymentMethod

/-- The answer of a collaborator, unless it is late or a failure. -/
def answerOf {α : Type} (step : IssueStep) (limit : Duration) (blame : ServiceFault → RegisterFault)
    (answer : Timed (Except ServiceFault α)) : Except RegisterFault α :=
  match answer.within? limit with
  | none => .error (.timeout step limit)
  | some (.error fault) => .error (blame fault)
  | some (.ok a) => .ok a

/-- The outcome of submitting, and the bank afterwards. -/
def submission {β : Type} (services : Services β) (limit : Duration) (s : Submission) (bank : β) :
    Except RegisterFault Unit × β :=
  match (services.submit s bank).within? limit with
  | none => (.error (.timeout .submit limit), bank)
  | some (.error fault, bank) => (.error (.bank fault), bank)
  | some (.ok (), bank) => (.ok (), bank)

/-- What came of an attempt: the questions asked, in order, its result, and the bank afterwards. -/
structure Outcome (α β : Type) where
  asked : List Question
  result : Except RegisterFault α
  bank : β

/-- The steps from signing on, for a receipt that was encoded. -/
def signAndSubmit {β : Type} (services : Services β) (timeouts : Timeouts) (bank : β)
    (receiver : OneTimeKey) (trackingId : String) (entropy : Seal.Entropy) (binary : Bytes) :
    Outcome Unit β :=
  let hash := Sha256.hash binary
  let asked := [Question.sign hash]
  match answerOf .sign timeouts.signer .signer (services.sign hash bank) with
  | .error fault => { asked, result := .error fault, bank }
  | .ok signature =>
    match Signed.assemble binary signature with
    | .error e => { asked, result := .error (.assemble e), bank }
    | .ok signed =>
      match (Seal.sealFor receiver.point signed entropy).1 with
      | .error e => { asked, result := .error (.sealing e), bank }
      | .ok payload =>
        let s : Submission := { key := receiver, payload, trackingId := some trackingId }
        let (result, bank) := submission services timeouts.bank s bank
        { asked := asked ++ [.submit s], result, bank }

/-- The steps behind stamping. -/
def deliver {β : Type} (services : Services β) (timeouts : Timeouts) (bank : β)
    (receiver : OneTimeKey) (entropy : Seal.Entropy) (receipt : Receipt) : Outcome Unit β :=
  match receipt.encode with
  | .error e => { asked := [], result := .error (.encode e), bank }
  | .ok binary =>
    signAndSubmit services timeouts bank receiver receipt.transactionId entropy binary

/-- The checks in front of stamping: the payment method of the draft, and the receiver's key. -/
def check (draft : Draft) (receiverKey : Bytes) : Except RegisterFault (String × OneTimeKey) :=
  match draft.validate with
  | .error defect => .error (.notReady defect)
  | .ok method =>
    match OneTimeKey.ofCompressed receiverKey with
    | .error e => .error (.invalidReceiverKey e)
    | .ok receiver => .ok (method, receiver)

end Issuance

end SealedReceipts
