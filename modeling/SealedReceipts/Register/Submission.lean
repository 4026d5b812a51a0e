import SealedReceipts.OneTimeKey

/-!
# Submissions

What a register hands to a bank: a sealed receipt, the one-time key under which its owner will ask
for it, and an id by which the register can trace it.
-/

namespace SealedReceipts

/-- A sealed receipt on its way to a bank. -/
structure Submission where
  key : OneTimeKey
  payload : Bytes
  trackingId : Option String

end SealedReceipts
