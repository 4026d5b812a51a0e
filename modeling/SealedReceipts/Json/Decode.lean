import SealedReceipts.Json.Document

/-!
# Reading values from documents

A document is read into a value of a known shape, in the order of its bytes. The first fault
decides: the document is `malformed` where it is no document, or holds a number or a text without a
value, and `unfit` where it is one but not of the shape.

A structure may be written as an object, or as an array of its fields in order. In an object
unknown names are passed over, their values need only be documents; a known name must not come
twice. In an array the last fields may be missing if the structure can do without them, and nothing
may follow them.
-/

namespace SealedReceipts

namespace Json

inductive Fault where
  | malformed
  | unfit
  deriving DecidableEq, Repr

abbrev Decoded := Except Fault

/-! ## Single values -/

/-- The fault of a value that has not the wanted kind: it is looked at before it is refused. -/
def mismatch : Json → Fault
  | .broken | .text none => .malformed
  | .numeral n => if n.number?.isSome then .unfit else .malformed
  | _ => .unfit

def asText : Json → Decoded String
  | .text (some s) => .ok s
  | v => .error v.mismatch

def asNumber (v : Json) : Decoded Number :=
  match v with
  | .numeral n =>
    match n.number? with
    | some x => .ok x
    | none => .error .malformed
  | v => .error v.mismatch

/-- A natural number below `bound`, written as a whole number. -/
def asNatural (bound : Nat) (v : Json) : Decoded Nat := do
  match ← v.asNumber with
  | .whole n => if 0 ≤ n ∧ n < bound then .ok n.toNat else .error .unfit
  | .real _ => .error .unfit

/-- A binary64 number; a whole number stands for the nearest one. -/
def asReal (v : Json) : Decoded Binary64 := do return (← v.asNumber).toReal

/-- Null for nothing, or else a value. -/
def asOption {α : Type} (read : Json → Decoded α) : Json → Decoded (Option α)
  | .null => .ok none
  | v => (read v).map some

/-- The elements of an array, each read in turn. -/
def asList {α : Type} (read : Json → Decoded α) : Json → Decoded (List α)
  | .array elements => elements.mapM read
  | v => .error v.mismatch

/-! ## Values that are passed over or kept -/

mutual

def isWhole : Json → Bool
  | .broken => false
  | .array elements => allWhole elements
  | .object members => membersWhole members
  | _ => true

def allWhole : List Json → Bool
  | [] => true
  | v :: rest => if v.isWhole then allWhole rest else false

def membersWhole : List (Option String × Json) → Bool
  | [] => true
  | (_, v) :: rest => if v.isWhole then membersWhole rest else false

end

mutual

/-- Whether a value can be kept: it is whole, all its texts and numbers have values, and its
containers are nested less than `depth` deep. -/
def isKept (depth : Nat) : Json → Bool
  | .broken => false
  | .text t => t.isSome
  | .numeral n => n.number?.isSome
  | .array elements => if depth ≤ 1 then false else allKept (depth - 1) elements
  | .object members => if depth ≤ 1 then false else membersKept (depth - 1) members
  | _ => true

def allKept (depth : Nat) : List Json → Bool
  | [] => true
  | v :: rest => if v.isKept depth then allKept depth rest else false

def membersKept (depth : Nat) : List (Option String × Json) → Bool
  | [] => true
  | (name, v) :: rest =>
    if name.isSome && v.isKept depth then membersKept depth rest else false

end

/-- How deep the containers of a document may be nested where its values are kept. -/
def depthLimit : Nat := 128

/-! ## Structures -/

/-- A field of a structure that is read into a state `σ`. -/
structure Field (σ : Type) where
  name : String
  /-- Whether the state has the field already. -/
  isSet : σ → Bool
  read : Json → σ → Decoded σ

/-- A field that is kept in one place of the state. -/
def field {σ α : Type} (name : String) (get : σ → Option α) (set : α → σ → σ)
    (read : Json → Decoded α) : Field σ :=
  { name, isSet := fun s => (get s).isSome, read := fun v s => (read v).map (set · s) }

def readMembers {σ : Type} (fields : List (Field σ)) (state : σ) :
    List (Option String × Json) → Decoded σ
  | [] => .ok state
  | (none, _) :: _ => .error .malformed
  | (some name, v) :: rest =>
    match fields.find? (·.name == name) with
    | some f =>
      if f.isSet state then .error .unfit
      else f.read v state >>= fun state => readMembers fields state rest
    | none => if v.isWhole then readMembers fields state rest else .error .malformed

/-- Reads the elements of an array as the fields in order. -/
def readElements {σ : Type} : List (Field σ) → σ → List Json → Decoded σ
  | _, state, [] => .ok state
  | [], _, _ :: _ => .error .malformed
  | f :: fields, state, v :: rest =>
    f.read v state >>= fun state => readElements fields state rest

/-- Reads a structure from a state with no field set; `finish` fails when a field is missing that
the structure cannot do without. -/
def asStructure {σ α : Type} (fields : List (Field σ)) (state : σ) (finish : σ → Option α)
    (v : Json) : Decoded α := do
  let state ← match v with
    | .object members => readMembers fields state members
    | .array elements => readElements fields state elements
    | v => .error v.mismatch
  match finish state with
  | some a => .ok a
  | none => .error .unfit

/-! ## Bytes and texts -/

/-- Reads bytes that hold one document and nothing else. -/
def ofBytes {α : Type} (read : Json → Decoded α) (bytes : Bytes) : Decoded α := do
  let d := document bytes
  let a ← read d.root
  if d.ended then .ok a else .error .malformed

def ofText {α : Type} (read : Json → Decoded α) (text : String) : Decoded α :=
  ofBytes read (Bytes.ofText text)

end Json

end SealedReceipts
