import SealedReceipts.Binary64

/-!
# Tax rates

A line is taxed at one of two rates, named by their percentage.
-/

namespace SealedReceipts

inductive TaxRate where
  | reduced
  | standard
  deriving DecidableEq, Repr

namespace TaxRate

/-- A percentage that is neither of the two. -/
structure Unknown where
  percent : UInt8
  deriving DecidableEq, Repr

def Unknown.message (e : Unknown) : String :=
  s!"unsupported tax rate {e.percent}%, expected 10 or 20"

def percent : TaxRate → UInt8
  | .reduced => 10
  | .standard => 20

def name : TaxRate → String
  | .reduced => "Reduced"
  | .standard => "Standard"

/-- The rate as it is shown to a customer. -/
def text (rate : TaxRate) : String := s!"{rate.percent}%"

def ofPercent (percent : UInt8) : Except Unknown TaxRate :=
  if percent = 10 then .ok .reduced
  else if percent = 20 then .ok .standard
  else .error ⟨percent⟩

/-- The tax on one unit of a taxable amount. -/
def fraction (rate : TaxRate) : Binary64 :=
  Binary64.ofNat rate.percent.toNat / 100

theorem ofPercent_percent (rate : TaxRate) : ofPercent rate.percent = .ok rate := by
  cases rate <;> rfl

end TaxRate

end SealedReceipts
