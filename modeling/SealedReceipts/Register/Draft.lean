import SealedReceipts.LineItem
import SealedReceipts.Text.Blank

/-!
# Drafts

The receipt being rung up: its lines in the order in which they were begun, and the payment method
once it is chosen. More of a category at the same stored price goes on the first line that has it;
everything else begins a line.

The merging of lines is the rule of section 3 of the specification.
-/

namespace SealedReceipts

/-- A receipt being rung up. -/
structure Draft where
  items : List LineItem := []
  paymentMethod : Option String := none
  deriving DecidableEq

namespace Draft

def total (draft : Draft) : Binary64 := LineItem.total draft.items

/-- The lines with `item` rung up, and its line. Nothing when the quantity of a line would not
fit. -/
def ringUp? (item : LineItem) : List LineItem → Option (LineItem × List LineItem)
  | [] => some (item, [item])
  | first :: rest =>
    if first.mergesWith item.categoryId item.unitPrice then
      (first.addQuantity? item.quantity).map fun line => (line, line :: rest)
    else (ringUp? item rest).map fun (line, rest) => (line, first :: rest)

/-- The draft with `item` rung up, and its line. -/
def addItem? (draft : Draft) (item : LineItem) : Option (LineItem × Draft) :=
  (ringUp? item draft.items).map fun (line, items) => (line, { draft with items })

def setPaymentMethod (draft : Draft) (method : String) : Draft :=
  { draft with paymentMethod := some method }

/-- Why a draft is not ready to be issued. -/
inductive Defect where
  | noItems
  | noPaymentMethod
  | nonPositiveTotal (total : Binary64)
  deriving DecidableEq

/-- The payment method of a draft that is ready: it has lines, a payment method that is more than
white space, and a total above zero. -/
def validate (draft : Draft) : Except Defect String :=
  if draft.items.isEmpty then .error .noItems
  else
    match draft.paymentMethod with
    | none => .error .noPaymentMethod
    | some method =>
      if Text.allBlank method then .error .noPaymentMethod
      else if draft.total.isNaN || draft.total.le 0 then .error (.nonPositiveTotal draft.total)
      else .ok method

end Draft

end SealedReceipts
