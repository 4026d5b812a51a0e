import SealedReceipts.Web.Http

/-!
# Counters of a bank

What a bank counts, and the text in which it shows its counters under `/metrics`: for each that has
counted anything, in the order of their names, what it means, that it only grows, and its value.

The counters are listed in section 10.5 of the specification.
-/

namespace SealedReceipts

namespace Bank

structure Counters where
  submissions : Nat := 0
  conflicts : Nat := 0
  collections : Nat := 0
  misses : Nat := 0
  swept : Nat := 0
  failedNotices : Nat := 0
  deriving DecidableEq, Repr

namespace Counters

/-- Names, meanings and values, in the order of the names. -/
def entries (c : Counters) : List (String × String × Nat) :=
  [("receipt_collection_count", "Number of sealed receipts handed out.", c.collections),
   ("receipt_collection_miss_count",
     "Number of collection requests for which no receipt was stored.", c.misses),
   ("receipt_submission_conflict_count",
     "Number of submissions rejected because the receipt id or key was already in use.",
     c.conflicts),
   ("receipt_submission_count", "Number of sealed receipts accepted for storage.", c.submissions),
   ("receipts_swept_count",
     "Number of receipts dropped by the sweeper before anyone collected them.", c.swept),
   ("webhook_failure_count",
     "Number of collection notifications that failed after all retries.", c.failedNotices)]

/-- The lines of one counter. -/
def entryText (name meaning : String) (value : Nat) : String :=
  s!"# HELP {name} {meaning}\n# TYPE {name} counter\n{name} {value}\n"

def text (c : Counters) : String :=
  String.join ((c.entries.filter fun (_, _, value) => value ≠ 0).map fun (name, meaning, value) =>
    entryText name meaning value)

def respond (c : Counters) (r : Web.Request) : Web.Response :=
  if r.path ≠ "/metrics" then .notFound
  else if r.isRead then { status := 200, body := c.text : Web.Response }.sentTo r
  else .methodNotAllowed

end Counters

end Bank

end SealedReceipts
