import SealedReceipts.Json.Token

/-!
# Documents

Bytes are read into a tree as far as they are a document. Where they stop being one the tree has a
`broken` leaf, and the containers that were open end there; everything in front of the fault is in
the tree. Whoever walks the tree in order thus meets what a reader of the bytes meets, in the same
order, and can say which of two faults comes first.
-/

namespace SealedReceipts

/-- A document as far as it could be read. A text, or a name in an object, is none when its
bytes or its escapes have no characters. -/
inductive Json where
  | null
  | bool (value : Bool)
  | numeral (n : Json.Numeral)
  | text (value : Option String)
  | array (elements : List Json)
  | object (members : List (Option String × Json))
  | broken

namespace Json

/-! ## From tokens to a tree -/

/-- An open container with what it holds so far, last first. An object remembers the name whose
value comes next. -/
inductive Frame where
  | array (done : List Json)
  | object (done : List (Option String × Json)) (name : Option String)

/-- What may come next. -/
inductive Expect where
  | value
  | valueOrEnd
  | name
  | nameOrEnd
  | colon
  | commaOrEnd
  deriving DecidableEq, Repr

/-- What a token does to the open containers, the innermost first. -/
inductive Step where
  | next (expect : Expect) (frames : List Frame)
  | finished (root : Json)
  | broken

/-- Puts a whole value into the innermost container. -/
def place (v : Json) : List Frame → Step
  | [] => .finished v
  | .array done :: outer => .next .commaOrEnd (.array (v :: done) :: outer)
  | .object done name :: outer => .next .commaOrEnd (.object ((name, v) :: done) none :: outer)

/-- Closes the containers with a broken leaf as the last of the innermost. -/
def breakOff (v : Json) : List Frame → Json
  | [] => v
  | .array done :: outer => breakOff (.array (v :: done).reverse) outer
  | .object done name :: outer => breakOff (.object ((name, v) :: done).reverse) outer

/-- A token where a value is expected. -/
def takeValue (frames : List Frame) : Token → Step
  | .null => place .null frames
  | .bool b => place (.bool b) frames
  | .numeral n => place (.numeral n) frames
  | .text t => place (.text t) frames
  | .beginArray => .next .valueOrEnd (.array [] :: frames)
  | .beginObject => .next .nameOrEnd (.object [] none :: frames)
  | _ => .broken

/-- Closes the innermost container, which must be of the kind that the token ends. -/
def takeEnd : List Frame → Token → Step
  | .array done :: outer, .endArray => place (.array done.reverse) outer
  | .object done _ :: outer, .endObject => place (.object done.reverse) outer
  | _, _ => .broken

/-- A token where a name is expected. -/
def takeName : List Frame → Token → Step
  | .object done _ :: outer, .text name => .next .colon (.object done name :: outer)
  | _, _ => .broken

/-- A comma, behind which the container goes on. -/
def takeComma : List Frame → Step
  | .array done :: outer => .next .value (.array done :: outer)
  | .object done name :: outer => .next .name (.object done name :: outer)
  | [] => .broken

/-- What a token does. -/
def take (expect : Expect) (frames : List Frame) (t : Token) : Step :=
  match expect with
  | .value => takeValue frames t
  | .valueOrEnd => if t = .endArray then takeEnd frames t else takeValue frames t
  | .name => takeName frames t
  | .nameOrEnd => if t = .endObject then takeEnd frames t else takeName frames t
  | .colon => if t = .colon then .next .value frames else .broken
  | .commaOrEnd => if t = .comma then takeComma frames else takeEnd frames t

/-- A document and whether nothing follows it. -/
structure Document where
  root : Json
  ended : Bool

/-- Builds the tree of the tokens under the open containers. -/
def build (expect : Expect) (frames : List Frame) : List Token → Document
  | [] => ⟨breakOff .broken frames, false⟩
  | t :: rest =>
    match take expect frames t with
    | .next expect frames => build expect frames rest
    | .finished root => ⟨root, rest.isEmpty⟩
    | .broken => ⟨breakOff .broken frames, false⟩

def document (bytes : Bytes) : Document := build .value [] (tokens bytes)

end Json

end SealedReceipts
