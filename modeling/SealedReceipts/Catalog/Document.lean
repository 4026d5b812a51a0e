import SealedReceipts.Catalog
import SealedReceipts.Receipt.Document

/-!
# Catalogs as documents

A catalog is written as an array of entries by ascending id, each an object that holds the id beside
the fields of the category. In reading, an entry must be an object, and whatever else it holds is
kept until its fields are known, so that it must not be nested too deep.
-/

namespace SealedReceipts

namespace Catalog

open Json (Decoded Value)

structure PartialEntry where
  id : Option UInt16 := none
  name : Option String := none
  taxRate : Option TaxRate := none
  presetPrice : Option Binary64 := none

def entryFields : List (Json.Field PartialEntry) :=
  [Json.field "id" PartialEntry.id (fun id e => { e with id := some id })
      fun v => return UInt16.ofNat (← v.asNatural UInt16.size),
   Json.field "name" PartialEntry.name (fun name e => { e with name := some name }) Json.asText,
   Json.field "tax_rate" PartialEntry.taxRate (fun rate e => { e with taxRate := some rate })
      TaxRate.ofJson,
   Json.field "preset_price" PartialEntry.presetPrice
      (fun price e => { e with presetPrice := some price }) Json.asReal]

def PartialEntry.entry? (e : PartialEntry) : Option (UInt16 × Category) := do
  return (← e.id, { name := ← e.name, taxRate := ← e.taxRate, presetPrice := ← e.presetPrice })

/-- An entry, in containers that leave room for `depth` more. -/
def entryOfJson (depth : Nat) (v : Json) : Decoded (UInt16 × Category) :=
  match v with
  | .object _ =>
    if v.isKept depth then Json.asStructure entryFields {} PartialEntry.entry? v
    else .error .malformed
  | v => .error v.mismatch

/-- A catalog, in containers that leave room for `depth` more. -/
def ofJson (depth : Nat) (v : Json) : Decoded Catalog := do
  return ofList (← v.asList (entryOfJson (depth - 1)))

def entryToValue (id : UInt16) (category : Category) : Value :=
  .object [("id", .natural id.toNat), ("name", .text category.name),
    ("tax_rate", category.taxRate.toValue), ("preset_price", .ofReal category.presetPrice)]

def toValue (catalog : Catalog) : Value :=
  .array (catalog.toList.map fun (id, category) => entryToValue id category)

def read (text : String) : Decoded Catalog := Json.ofText (ofJson Json.depthLimit) text

def readEntry (text : String) : Decoded (UInt16 × Category) :=
  Json.ofText (entryOfJson Json.depthLimit) text

end Catalog

end SealedReceipts
