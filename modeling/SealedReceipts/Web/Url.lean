import SealedReceipts.Text.Percent
import SealedReceipts.Web.Address
import SealedReceipts.Web.Domain

/-!
# URLs

A URL without a base to be relative to. Controls and blanks around it and tabs and line ends in it
do not count. Behind the scheme of a network protocol there is always a host, whatever slashes
stand in front of it, and a backslash is as good as a slash; behind any other scheme there is a
host only behind two slashes.

`Url.text` is the normal form: scheme and host in lower case, the port left out where it is that
of the scheme, dots resolved in the path, and everything that may not stand for itself escaped.
-/

namespace SealedReceipts

namespace Web

inductive Host where
  | name (text : String)
  | v4 (address : Nat)
  | v6 (groups : List Nat)
  deriving DecidableEq, Repr

/-- A URL in its parts, each in its normal form. -/
structure Url where
  scheme : String
  user : String := ""
  password : String := ""
  host : Option Host := none
  port : Option Nat := none
  path : String := ""
  query : Option String := none
  fragment : Option String := none
  deriving DecidableEq, Repr

namespace Url

/-! ## Schemes -/

/-- Schemes whose URLs have a host, and the port of each. -/
def networkPorts : List (String × Nat) :=
  [("http", 80), ("https", 443), ("ws", 80), ("wss", 443), ("ftp", 21)]

def defaultPort (scheme : String) : Option Nat := networkPorts.lookup scheme

/-- Whether a backslash is a slash and dots are resolved. -/
def isSpecial (scheme : String) : Bool :=
  (defaultPort scheme).isSome || scheme == "file"

/-- Characters that schemes are made of. -/
def isSchemeChar (c : Char) : Bool := c.isAlphanum || c == '+' || c == '-' || c == '.'

/-- The scheme at the front of a text, in lower case, and what stands behind its colon. -/
def scheme? (text : List Char) : Option (String × List Char) :=
  let (front, rest) := text.span isSchemeChar
  match front, rest with
  | first :: _, ':' :: rest =>
    if first.isAlpha then some (String.ofList (front.map Char.toLower), rest) else none
  | _, _ => none

/-- A slash, or a backslash where it is as good. -/
def isSlash (special : Bool) (c : Char) : Bool := c == '/' || (special && c == '\\')

/-- Where the host and the port end. -/
def endsAuthority (special : Bool) (c : Char) : Bool :=
  isSlash special c || c == '?' || c == '#'

/-! ## What is escaped -/

def escapedInFragment (c : Char) : Bool := c.toNat == 0x60 || " \"<>".toList.contains c

def escapedInQuery (special : Bool) (c : Char) : Bool :=
  " \"#<>".toList.contains c || (special && c == '\'')

def escapedInPath (c : Char) : Bool := escapedInFragment c || "#?\x7b\x7d".toList.contains c

def escapedInUser (c : Char) : Bool := escapedInPath c || "/:;=@[\\]^|".toList.contains c

/-- A text with the characters escaped that `isEscaped` says. -/
def encode (isEscaped : Char → Bool) (text : List Char) : String :=
  String.ofList (text.flatMap (Percent.encodeChar isEscaped))

/-! ## The authority -/

/-- The host of a text. Where the scheme is not that of a network protocol a name is any text
without characters of other meaning. -/
def host? (special : Bool) (text : List Char) : Option Host :=
  match text with
  | '[' :: rest =>
    match rest.reverse with
    | ']' :: inner => (Address.v6? inner.reverse).map .v6
    | _ => none
  | text =>
    if !special then
      if text.any Domain.isForbiddenInHost then none
      else some (.name (encode (fun _ => false) text))
    else do
      let name ← Domain.toAscii? (Percent.decode (String.ofList text))
      if name.isEmpty then none
      else if Address.endsInNumber name then (Address.v4? name).map .v4
      else some (.name name)

/-- Cuts a text behind the host: at the first colon that is not between brackets. -/
def cutHost (inside : Bool) (before : List Char) : List Char → List Char × List Char
  | [] => (before.reverse, [])
  | c :: rest =>
    if c = ':' ∧ !inside then (before.reverse, c :: rest)
    else cutHost (if c = '[' then true else if c = ']' then false else inside) (c :: before) rest

/-- The port behind a colon; none for no digits and for the scheme's own. -/
def port? (scheme : String) : List Char → Option (Option Nat)
  | [] => some none
  | ':' :: digits =>
    if digits.isEmpty then some none
    else do
      let n ← Digits.number? digits
      if n < UInt16.size then some (if some n = defaultPort scheme then none else some n) else none
  | _ => none

/-- Cuts a text at its last at sign. -/
def cutUser (text : List Char) : Option (List Char) × List Char :=
  let behind := text.reverse.takeWhile (· ≠ '@')
  let before := text.reverse.drop behind.length
  match before with
  | [] => (none, text)
  | _ :: user => (some user.reverse, behind.reverse)

/-- Reads user, host and port. The host may be missing where the scheme is not that of a network
protocol, unless there is a port or a user, or an at sign with something behind it; `atEnd` says
whether the authority ends the text. -/
def authority? (scheme : String) (atEnd : Bool) (text : List Char) : Option Url := do
  let special := isSpecial scheme
  let (user, rest) := cutUser text
  let (name, password) := (user.getD []).span (· ≠ ':')
  let password := password.drop 1
  let (hostText, portText) := cutHost false [] rest
  let needsHost := special || !portText.isEmpty || !name.isEmpty || !password.isEmpty ||
    (user == some [] && !atEnd)
  if hostText.isEmpty && needsHost then none
  else
    let host ← host? special hostText
    let port ← port? scheme portText
    some
      { scheme, host := some host, port
        user := encode escapedInUser name
        password := encode escapedInUser password }

/-! ## The path -/

/-- Whether a segment of a path is a dot, also an escaped one. -/
def isDot (segment : List Char) : Bool :=
  let s := String.ofList (segment.map Char.toLower)
  s == "." || s == "%2e"

def isDoubleDot (segment : List Char) : Bool :=
  let s := String.ofList (segment.map Char.toLower)
  s == ".." || s == ".%2e" || s == "%2e." || s == "%2e%2e"

/-- Whether a segment is the letter of a drive. -/
def isDrive (segment : List Char) : Bool :=
  match segment with
  | [letter, mark] => letter.isAlpha && (mark == ':' || mark == '|')
  | _ => false

/-- The kinds of path: of a file, of a network protocol, and all others. -/
inductive PathKind where
  | file
  | network
  | other
  deriving DecidableEq, Repr

namespace PathKind

def ofScheme (scheme : String) : PathKind :=
  if scheme = "file" then .file else if isSpecial scheme then .network else .other

/-- Whether a backslash is a slash. -/
def isSpecial (kind : PathKind) : Bool := kind != .other

end PathKind

/-- The segments that are left of those kept so far, last first, when the last is taken back. A
drive stays. -/
def takeBack (kept : List String) : List String :=
  match kept with
  | [] => []
  | last :: before => if isDrive last.toList then kept else before

/-- A segment behind those kept so far, last first. In front of all others in the path of a file, a
drive has a colon. -/
def keep (kind : PathKind) (kept : List String) (segment : List Char) : List String :=
  let isFront := kind = .file ∧ kept = [] ∧ isDrive segment
  encode escapedInPath (if isFront then segment.take 1 ++ [':'] else segment) :: kept

/-- Resolves the dots among the segments behind those kept so far, last first. Dots at the end leave
an empty segment. -/
def resolve (kind : PathKind) (kept : List String) : List (List Char) → List String
  | [] => kept.reverse
  | segment :: rest =>
    let kept :=
      if isDoubleDot segment then takeBack kept
      else if isDot segment then kept
      else keep kind kept segment
    let kept := if rest.isEmpty && (isDoubleDot segment || isDot segment) then "" :: kept else kept
    resolve kind kept rest

/-- The normal form of a path of segments. -/
def hierarchicalPath (kind : PathKind) (text : List Char) : String :=
  let text := match text with
    | c :: rest => if isSlash kind.isSpecial c then rest else c :: rest
    | [] => []
  let slashed := text.map fun c => if isSlash kind.isSpecial c then '/' else c
  "/" ++ "/".intercalate (resolve kind [] (Text.fields '/' slashed))

/-- The path, the query and the fragment of a text. -/
def tail (special : Bool) (text : List Char) : List Char × Option String × Option String :=
  let (text, fragment) := text.span (· ≠ '#')
  let (path, query) := text.span (· ≠ '?')
  let behind := fun (part : List Char) (isEscaped : Char → Bool) =>
    if part.isEmpty then none else some (encode isEscaped (part.drop 1))
  (path, behind query (escapedInQuery special), behind fragment escapedInFragment)

/-- A URL with the path, query and fragment of a text. -/
def withTail (url : Url) (path : List Char → String) (text : List Char) : Url :=
  let (pathText, query, fragment) := tail (isSpecial url.scheme) text
  { url with path := path pathText, query, fragment }

/-! ## Reading -/

/-- A URL whose text goes on with an authority. -/
def ofAuthority? (scheme : String) (text : List Char) : Option Url := do
  let special := isSpecial scheme
  let (authority, rest) := text.span fun c => !endsAuthority special c
  let url ← authority? scheme rest.isEmpty authority
  let path := fun (path : List Char) =>
    if !special && path.isEmpty then "" else hierarchicalPath (.ofScheme scheme) path
  some (url.withTail path rest)

def isOnDrive (url : Url) : Bool :=
  isDrive ((url.path.toList.drop 1).takeWhile (· ≠ '/'))

/-- A file URL, whose host may be missing. A drive is no host, and has none in front of it. -/
def ofFile? (text : List Char) : Option Url :=
  let nearby : Url := { scheme := "file", host := some (.name "") }
  let withPath := fun (url : Url) (text : List Char) => url.withTail (hierarchicalPath .file) text
  match text with
  | a :: b :: rest =>
    if isSlash true a && isSlash true b then
      let (name, behind) := rest.span fun c => !endsAuthority true c
      if isDrive name then some (withPath nearby rest)
      else if name.isEmpty then some (withPath nearby behind)
      else (host? true name).map fun host =>
        let url := withPath { nearby with host := some host } behind
        if host = .name "localhost" ∨ url.isOnDrive then withPath nearby behind else url
    else some (withPath nearby text)
  | _ => some (withPath nearby text)

/-- A URL whose scheme is not that of a network protocol. -/
def ofOther? (scheme : String) (text : List Char) : Option Url :=
  match text with
  | '/' :: '/' :: rest => ofAuthority? scheme rest
  | '/' :: rest => some ({ scheme : Url }.withTail (hierarchicalPath .other) ('/' :: rest))
  | text => some ({ scheme : Url }.withTail (encode fun _ => false) text)

def isBlankOrControl (c : Char) : Bool := c.toNat ≤ 0x20

/-- The characters of a text that count. -/
def significant (text : String) : List Char :=
  let begun := text.toList.dropWhile isBlankOrControl
  let trimmed := (begun.reverse.dropWhile isBlankOrControl).reverse
  trimmed.filter fun c => c != '\t' && c != '\n' && c != '\r'

def parse? (text : String) : Option Url := do
  let (scheme, rest) ← scheme? (significant text)
  if scheme = "file" then ofFile? rest
  else if (defaultPort scheme).isSome then
    ofAuthority? scheme (rest.dropWhile (isSlash true))
  else ofOther? scheme rest

/-! ## The text -/

def hostText : Host → String
  | .name text => text
  | .v4 address => Address.v4Text address
  | .v6 groups => "[" ++ Address.v6Text groups ++ "]"

/-- User and password in front of the host. -/
def userText (url : Url) : String :=
  if url.user.isEmpty && url.password.isEmpty then ""
  else url.user ++ (if url.password.isEmpty then "" else ":" ++ url.password) ++ "@"

/-- Path and query, as a request names them. -/
def target (url : Url) : String :=
  url.path ++ (url.query.elim "" ("?" ++ ·))

/-- The normal form of a URL. -/
def text (url : Url) : String :=
  let authority := match url.host with
    | none => ""
    | some host =>
      "//" ++ url.userText ++ hostText host ++ (url.port.elim "" fun p => ":" ++ toString p)
  url.scheme ++ ":" ++ authority ++ url.target ++ (url.fragment.elim "" ("#" ++ ·))

/-- Whether the scheme is HTTP, secured or not. -/
def isHttp (url : Url) : Bool := url.scheme == "http" || url.scheme == "https"

/-- Characters that a name may have but that no request may name a server by. -/
def isUnnameable (c : Char) : Bool := escapedInFragment c || "\x7b\x7d".toList.contains c

/-- The most bytes of a URL that a request can be sent to. -/
def maxCallable : Nat := 65534

/-- Whether a request can be sent to a URL: over HTTP, to a server that it can name, and with no
longer a text than it has room for. -/
def isCallable (url : Url) : Bool :=
  let named := match url.host with
    | some (.name text) => !text.toList.any isUnnameable
    | _ => true
  url.isHttp && named && url.text.utf8ByteSize ≤ maxCallable

/-- The URL without user and password. -/
def anonymous (url : Url) : Url := { url with user := "", password := "" }

end Url

end Web

end SealedReceipts
