/-!
# Numbers of reports and receipts

A register numbers its reports and its receipts. A receipt number is used up once it is handed out.
Both counters wrap around after the largest number of 32 bits; closing a report does not reset the
numbers of receipts.
-/

namespace SealedReceipts

structure SequenceNumbers where
  report : UInt32
  receipt : UInt32
  deriving DecidableEq, Repr

/-- The counters of a register. -/
structure Sequence where
  report : UInt32 := 1
  nextReceipt : UInt32 := 1
  deriving DecidableEq, Repr

namespace Sequence

/-- The numbers for the next receipt. -/
def numbers (s : Sequence) : SequenceNumbers :=
  { report := s.report, receipt := s.nextReceipt }

/-- The counters after a receipt number was handed out. -/
def advance (s : Sequence) : Sequence :=
  { s with nextReceipt := s.nextReceipt + 1 }

/-- The counters under the next report. -/
def closeReport (s : Sequence) : Sequence :=
  { s with report := s.report + 1 }

end Sequence

end SealedReceipts
