import SealedReceipts.Web.Http

/-!
# What goes wrong with a remote service

A call to a service behind a URL fails on its way, with an answer that cannot be read, with a status
that is not a success, or with a field that is no base64.
-/

namespace SealedReceipts

namespace Remote

/-- Why a remote service did not do what it was asked. -/
inductive Fault where
  | noAnswer (url : String) (fault : Web.CallFault)
  | unreadable (url : String)
  | status (url : String) (code : Nat) (message : String)
  | base64 (field : String)
  deriving DecidableEq, Repr

def Fault.message : Fault → String
  | .noAnswer url fault => s!"request to {url} failed: {fault.message}"
  | .unreadable url => s!"request to {url} failed: error decoding response body"
  | .status url code message => s!"{url} answered {Web.Status.text code}: {message}"
  | .base64 field => "invalid base64 in \x60" ++ field ++ "\x60"

end Remote

end SealedReceipts
