import Std.Data.TreeMap
import SealedReceipts.TaxRate

/-!
# The catalog

The sales categories of a register by their id. A category that is inserted under an id in use takes
the place of the earlier one; the categories are listed by ascending id.
-/

namespace SealedReceipts

structure Category where
  name : String
  taxRate : TaxRate
  /-- Charged when the cashier enters no price. -/
  presetPrice : Binary64
  deriving DecidableEq

structure Catalog where
  byId : Std.TreeMap UInt16 Category

namespace Catalog

def empty : Catalog := ⟨∅⟩

instance : Inhabited Catalog := ⟨empty⟩

def get? (catalog : Catalog) (id : UInt16) : Option Category := catalog.byId[id]?

def insert (catalog : Catalog) (id : UInt16) (category : Category) : Catalog :=
  ⟨catalog.byId.insert id category⟩

/-- Ids and categories by ascending id. -/
def toList (catalog : Catalog) : List (UInt16 × Category) := catalog.byId.toList

def size (catalog : Catalog) : Nat := catalog.byId.size

def isEmpty (catalog : Catalog) : Bool := catalog.byId.isEmpty

/-- The catalog of a list, whose later entries take the place of earlier ones. -/
def ofList (entries : List (UInt16 × Category)) : Catalog :=
  entries.foldl (fun catalog (id, category) => catalog.insert id category) empty

@[simp] theorem get?_empty (id : UInt16) : empty.get? id = none := by
  simp [empty, get?]

/-- An inserted category is found under its id, and every other id keeps its own. -/
theorem get?_insert (catalog : Catalog) (id other : UInt16) (category : Category) :
    (catalog.insert id category).get? other = if id = other then some category
      else catalog.get? other := by
  simp [insert, get?, Std.TreeMap.getElem?_insert]

end Catalog

end SealedReceipts
