import SealedReceipts.Duration
import SealedReceipts.Receipt.Encoding
import SealedReceipts.Receipt.Signed
import SealedReceipts.Register.Draft
import SealedReceipts.Register.LocalBank
import SealedReceipts.Remote.Fault
import SealedReceipts.Seal

/-!
# What a register refuses

The errors of a register, and for those of an issuance the step that failed.
-/

namespace SealedReceipts

/-- Why a collaborator did not do what it was asked. -/
inductive ServiceFault where
  /-- A failure of its own. -/
  | failed (text : String)
  | refused (refusal : LocalBank.Refusal)
  | remote (fault : Remote.Fault)
  deriving DecidableEq, Repr

def ServiceFault.message : ServiceFault → String
  | .failed text => s!"something went wrong: {text}"
  | .refused refusal => s!"something went wrong: {refusal.message}"
  | .remote fault => fault.message

/-- The steps of an issuance, in order. -/
inductive IssueStep where
  | validate
  | encode
  | sign
  | assemble
  | encrypt
  | submit
  deriving DecidableEq, Repr

def IssueStep.name : IssueStep → String
  | .validate => "validate"
  | .encode => "encode"
  | .sign => "sign"
  | .assemble => "assemble"
  | .encrypt => "encrypt"
  | .submit => "submit"

inductive RegisterStatus where
  | noReceipt
  | opened
  | issuing
  | closed
  deriving DecidableEq, Repr

def RegisterStatus.name : RegisterStatus → String
  | .noReceipt => "no_receipt"
  | .opened => "open"
  | .issuing => "issuing"
  | .closed => "closed"

inductive RegisterFault where
  | noOpenReceipt
  | invalidState (status : RegisterStatus)
  | unknownCategory (id : UInt16)
  | zeroQuantity
  | invalidPrice (price : Binary64)
  | quantityOverflow
  | notReady (defect : Draft.Defect)
  | invalidReceiverKey (error : Curve.PointError)
  | encode (error : EncodeError)
  | signer (fault : ServiceFault)
  | assemble (error : Signed.LengthError)
  | sealing (error : Seal.SealError)
  | bank (fault : ServiceFault)
  | timeout (step : IssueStep) (limit : Duration)
  deriving DecidableEq

namespace RegisterFault

def message : RegisterFault → String
  | .noOpenReceipt => "no receipt is open, start a new receipt first"
  | .invalidState status =>
    s!"the requested action is invalid while the register is {status.name}"
  | .unknownCategory id => s!"unknown category id {id}"
  | .zeroQuantity => "quantity must be at least 1"
  | .invalidPrice price => s!"unit price must be a positive amount, got {price.text}"
  | .quantityOverflow => "line quantity would exceed 65535"
  | .notReady .noItems => "cannot issue an empty receipt"
  | .notReady .noPaymentMethod => "no payment method set"
  | .notReady (.nonPositiveTotal total) => s!"receipt total must be positive, got {total.text}"
  | .invalidReceiverKey error => s!"invalid receiver key: {error.message}"
  | .encode error => s!"failed to encode receipt: {error.message}"
  | .signer fault => s!"signing authority error: {fault.message}"
  | .assemble error => s!"failed to assemble signed receipt: {error.message}"
  | .sealing error => s!"failed to seal receipt: {error.message}"
  | .bank fault => s!"receipt bank error: {fault.message}"
  | .timeout step limit => s!"{step.name} step timed out after {limit.text}"

/-- The step of an issuance that failed. -/
def step : RegisterFault → Option IssueStep
  | .notReady _ | .invalidReceiverKey _ => some .validate
  | .encode _ => some .encode
  | .signer _ => some .sign
  | .assemble _ => some .assemble
  | .sealing _ => some .encrypt
  | .bank _ => some .submit
  | .timeout step _ => some step
  | .noOpenReceipt | .invalidState _ | .unknownCategory _ | .zeroQuantity | .invalidPrice _
  | .quantityOverflow => none

end RegisterFault

end SealedReceipts
