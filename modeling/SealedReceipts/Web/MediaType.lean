/-!
# Media types

A media type is two tokens with a slash between them and parameters behind semicolons. The second
token may have a suffix behind its last plus sign. Names compare without regard to case.
-/

namespace SealedReceipts

namespace Web

/-- A media type without its parameters. -/
structure MediaType where
  main : String
  subtype : String
  suffix : Option String
  deriving DecidableEq, Repr

namespace MediaType

/-- The characters of a token. -/
def isToken (c : Char) : Bool :=
  c.isAlphanum || "!#$%&'*+-.^_|~".toList.contains c || c.toNat == 0x60

/-- Blanks and semicolons behind a quoted value, up to the next parameter. -/
def afterQuoted : List Char → Option (List Char)
  | [] => some []
  | c :: rest =>
    if c = ';' then some rest
    else if c = ' ' then afterQuoted rest
    else none

/-- What follows a quoted value, which must not be empty. -/
def quotedValue? (started : Bool) : List Char → Option (List Char)
  | [] => none
  | c :: rest =>
    if c = '"' ∧ started then afterQuoted rest
    else if c = '"' ∨ c.toNat < 0x20 ∨ c.toNat = 0x7f then
      if c = '"' then quotedValue? true rest else none
    else quotedValue? true rest

/-- What follows a value of token characters. It may be empty only at the end of the text. -/
def plainValue? (started : Bool) : List Char → Option (List Char)
  | [] => some []
  | c :: rest =>
    if c = ';' then if started then some rest else none
    else if isToken c then plainValue? true rest
    else none

/-- What follows a value. -/
def value? : List Char → Option (List Char)
  | '"' :: rest => quotedValue? false rest
  | text => plainValue? false text

/-- What follows a parameter's name and its equals sign. -/
def name? (started : Bool) : List Char → Option (List Char)
  | [] => none
  | c :: rest =>
    if c = '=' then if started then some rest else none
    else if isToken c then name? true rest
    else none

def areParameters : (fuel : Nat) → List Char → Bool
  | 0, _ => false
  | _, [] => true
  | fuel + 1, c :: rest =>
    if c = ' ' then areParameters fuel rest
    else
      match (name? false (c :: rest)).bind value? with
      | some rest => areParameters fuel rest
      | none => false

/-- The second token, cut at its last plus sign unless that comes first. -/
def splitSuffix (token : List Char) : String × Option String :=
  let behind := token.reverse.takeWhile (· ≠ '+')
  let before := token.reverse.drop (behind.length + 1)
  if before.isEmpty then (String.ofList token, none)
  else (String.ofList before.reverse, some (String.ofList behind.reverse))

def ofText? (text : String) : Option MediaType :=
  let (main, rest) := text.toList.span isToken
  match rest with
  | '/' :: rest =>
    let (sub, rest) := rest.span isToken
    let parameters := match rest with
      | [] => true
      | ';' :: rest => areParameters (rest.length + 1) rest
      | _ => false
    if main.isEmpty || (sub.isEmpty && !rest.isEmpty) || !parameters then none
    else
      let (subtype, suffix) := splitSuffix sub
      some { main := String.ofList main, subtype, suffix }
  | _ => none

/-- Whether a text names JSON: the type `application/json`, or one of its kind with the suffix
`json`. -/
def isJson (text : String) : Bool :=
  match ofText? text with
  | some t =>
    t.main.toLower == "application" &&
      (t.subtype.toLower == "json" || t.suffix.any fun s => s.toLower == "json")
  | none => false

end MediaType

end Web

end SealedReceipts
