import SealedReceipts.Register.Submission

/-!
# The bank in the register's own process

It keeps submissions until they are taken, at most one under a key and at most one under a tracking
id. Submissions without an id are in nobody's way.
-/

namespace SealedReceipts

/-- The submissions that wait to be taken, in the order of their arrival. -/
structure LocalBank where
  submissions : List Submission

namespace LocalBank

inductive Refusal where
  | keyInUse
  | duplicateId (id : String)
  deriving DecidableEq, Repr

def Refusal.message : Refusal → String
  | .keyInUse => "a receipt is already stored under this key"
  | .duplicateId id => s!"duplicate receipt id {id}"

def empty : LocalBank := ⟨[]⟩

def size (bank : LocalBank) : Nat := bank.submissions.length

def isEmpty (bank : LocalBank) : Bool := bank.submissions.isEmpty

def find? (bank : LocalBank) (key : OneTimeKey) : Option Submission :=
  bank.submissions.find? (·.key == key)

def hasId (bank : LocalBank) (id : String) : Bool :=
  bank.submissions.any (·.trackingId == some id)

/-- The bank with a submission more. Its key is checked before its id. -/
def submit (bank : LocalBank) (s : Submission) : Except Refusal LocalBank :=
  if (bank.find? s.key).isSome then .error .keyInUse
  else
    match s.trackingId with
    | some id => if bank.hasId id then .error (.duplicateId id) else .ok ⟨bank.submissions ++ [s]⟩
    | none => .ok ⟨bank.submissions ++ [s]⟩

/-- The submission under a key, and the bank without it. -/
def collect (bank : LocalBank) (key : OneTimeKey) : Option Submission × LocalBank :=
  (bank.find? key, ⟨bank.submissions.filter fun s => !(s.key == key)⟩)

end LocalBank

end SealedReceipts
