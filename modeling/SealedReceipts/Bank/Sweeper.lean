import SealedReceipts.Bank.Store

/-!
# Sweepers

A sweeper sweeps a store at every multiple of its interval after it was started. Sweeping twice
without a submission between drops nothing the second time that sweeping at the later moment alone
would not drop, so that over a span of time only the last sweep has to be made.
-/

namespace SealedReceipts

namespace Bank

/-- A sweeper. One with an interval of zero never sweeps. -/
structure Sweeper where
  startedAt : Nat
  interval : Nat
  deriving DecidableEq, Repr

namespace Sweeper

/-- The last sweep later than `after` and not later than `upTo`. -/
def lastSweep? (s : Sweeper) (after upTo : Nat) : Option Nat :=
  if s.interval = 0 then none
  else
    let moment := s.startedAt + (upTo - s.startedAt) / s.interval * s.interval
    if after < moment ∧ s.startedAt < moment then some moment else none

end Sweeper

/-- The last sweep of several sweepers in a span of time. -/
def lastSweep? (sweepers : List Sweeper) (after upTo : Nat) : Option Nat :=
  (sweepers.filterMap fun s => s.lastSweep? after upTo).max?

/-- Lets a span of time pass over a store, and counts the receipts that are swept in it. -/
def Store.elapse {κ : Type} [BEq κ] [Hashable κ] (store : Store κ) (sweepers : List Sweeper)
    (after upTo : Nat) : Nat × Store κ :=
  match Bank.lastSweep? sweepers after upTo with
  | none => (0, store)
  | some moment => store.sweep moment

end Bank

end SealedReceipts
