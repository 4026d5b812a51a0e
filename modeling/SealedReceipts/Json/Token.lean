import SealedReceipts.Bytes
import SealedReceipts.Json.Numeral

/-!
# Tokens of a document

Bytes are cut into tokens by a machine that looks at one character at a time. Where the bytes stop
being a document the machine emits `broken` and nothing more, so that what stands before the fault
can still be read in order.

A quoted text is checked for its form only. It may hold bytes that belong to no character, and its
escapes may name halves of surrogate pairs that do not fit together; such a text has no value.
-/

namespace SealedReceipts

namespace Json

inductive Token where
  | beginArray
  | endArray
  | beginObject
  | endObject
  | colon
  | comma
  | null
  | bool (value : Bool)
  | numeral (n : Numeral)
  | text (value : Option String)
  | broken
  deriving DecidableEq, Repr

/-! ## Quoted texts -/

/-- A part of a quoted text: a character that stands for itself, a unit of UTF-16 named by an
escape, or a byte that belongs to no character. -/
inductive Piece where
  | char (c : Char)
  | unit (value : Nat)
  | stray
  deriving DecidableEq, Repr

/-- The first half of a surrogate pair. -/
def isHighSurrogate (u : Nat) : Bool := 0xd800 ≤ u && u < 0xdc00

/-- The second half of a surrogate pair. -/
def isLowSurrogate (u : Nat) : Bool := 0xdc00 ≤ u && u < 0xe000

def ofSurrogates (high low : Nat) : Char :=
  Char.ofNat (0x10000 + (high - 0xd800) * 0x400 + (low - 0xdc00))

/-- Puts the pieces, last first, in front of `behind`. Halves that have no other half beside them
have no character. -/
def joinOnto (behind : List Char) : List Piece → Option (List Char)
  | [] => some behind
  | .stray :: _ => none
  | .char c :: before => joinOnto (c :: behind) before
  | .unit low :: before =>
    if isLowSurrogate low then
      match before with
      | .unit high :: before =>
        if isHighSurrogate high then joinOnto (ofSurrogates high low :: behind) before else none
      | _ => none
    else if isHighSurrogate low then none
    else joinOnto (Char.ofNat low :: behind) before

/-- The token of a quoted text whose pieces were collected last first. -/
def textToken (read : List Piece) : Token :=
  .text ((joinOnto [] read).map String.ofList)

/-- The character that a single letter behind a backslash names. -/
def escaped? (c : Char) : Option Char :=
  if c = '"' ∨ c = '\\' ∨ c = '/' then some c
  else if c = 'b' then some '\x08'
  else if c = 'f' then some '\x0c'
  else if c = 'n' then some '\n'
  else if c = 'r' then some '\r'
  else if c = 't' then some '\t'
  else none

/-! ## The machine -/

/-- How far a numeral has been read. -/
inductive Part where
  | sign
  | zero
  | whole
  | point
  | fraction
  | mark
  | markSign
  | exponent
  deriving DecidableEq, Repr

/-- What the machine is in the middle of. Digits and pieces are collected last first. -/
inductive Scan where
  | between
  | word (rest : List Char) (token : Token)
  | text (read : List Piece)
  | escape (read : List Piece)
  | code (read : List Piece) (value missing : Nat)
  | numeral (part : Part) (n : Numeral)
  | stopped

/-- The characters that may stand between tokens. -/
def isSpace (c : Char) : Bool :=
  c == ' ' || c == '\n' || c == '\r' || c == '\t'

/-- The numeral with its digits in order. -/
def inOrder (n : Numeral) : Numeral :=
  { n with
    whole := n.whole.reverse
    fraction := n.fraction.reverse
    exponent := n.exponent.map fun (negative, digits) => (negative, digits.reverse) }

/-- The empty numeral of a sign. -/
def unread (negative : Bool) : Numeral :=
  { negative, whole := [], fraction := [], exponent := none }

def firstDigit (n : Numeral) (d : Nat) : Scan :=
  .numeral (if d = 0 then .zero else .whole) { n with whole := [d] }

/-- A character where a token may begin. -/
def start (c : Char) : Scan × List Token :=
  if isSpace c then (.between, [])
  else if c = '{' then (.between, [.beginObject])
  else if c = '}' then (.between, [.endObject])
  else if c = '[' then (.between, [.beginArray])
  else if c = ']' then (.between, [.endArray])
  else if c = ':' then (.between, [.colon])
  else if c = ',' then (.between, [.comma])
  else if c = '"' then (.text [], [])
  else if c = 'n' then (.word ['u', 'l', 'l'] .null, [])
  else if c = 't' then (.word ['r', 'u', 'e'] (.bool true), [])
  else if c = 'f' then (.word ['a', 'l', 's', 'e'] (.bool false), [])
  else if c = '-' then (.numeral .sign (unread true), [])
  else match Digits.digit? c with
    | some d => (firstDigit (unread false) d, [])
    | none => (.stopped, [.broken])

/-- A digit more of the exponent. -/
def pushExponent (n : Numeral) (d : Nat) : Numeral :=
  { n with exponent := n.exponent.map fun (negative, digits) => (negative, d :: digits) }

/-- The way on of a numeral that may not end here. -/
def orStop (next : Option Scan) : Scan × List Token :=
  match next with
  | some s => (s, [])
  | none => (.stopped, [.broken])

/-- The way on of a numeral that ends before a character that does not belong to it. -/
def orEnd (n : Numeral) (c : Char) (next : Option Scan) : Scan × List Token :=
  match next with
  | some s => (s, [])
  | none =>
    let (s, emitted) := start c
    (s, .numeral (inOrder n) :: emitted)

/-- The point behind the whole digits. -/
def point? (n : Numeral) (c : Char) : Option Scan :=
  if c = '.' then some (.numeral .point n) else none

/-- The letter in front of an exponent. -/
def mark? (n : Numeral) (c : Char) : Option Scan :=
  if c = 'e' ∨ c = 'E' then some (.numeral .mark { n with exponent := some (false, []) }) else none

/-- A character inside a numeral. -/
def stepNumeral (part : Part) (n : Numeral) (c : Char) : Scan × List Token :=
  let digit := Digits.digit? c
  match part with
  | .sign => orStop (digit.map (firstDigit n))
  | .zero => if digit.isSome then orStop none else orEnd n c (point? n c <|> mark? n c)
  | .whole =>
    orEnd n c ((digit.map fun d => .numeral .whole { n with whole := d :: n.whole }) <|>
      point? n c <|> mark? n c)
  | .point => orStop (digit.map fun d => .numeral .fraction { n with fraction := [d] })
  | .fraction =>
    orEnd n c ((digit.map fun d => .numeral .fraction { n with fraction := d :: n.fraction }) <|>
      mark? n c)
  | .mark =>
    if c = '+' then orStop (some (.numeral .markSign n))
    else if c = '-' then orStop (some (.numeral .markSign { n with exponent := some (true, []) }))
    else orStop (digit.map fun d => .numeral .exponent (pushExponent n d))
  | .markSign => orStop (digit.map fun d => .numeral .exponent (pushExponent n d))
  | .exponent => orEnd n c (digit.map fun d => .numeral .exponent (pushExponent n d))

/-- The machine's next state and the tokens that a character completes. -/
def step : Scan → Char → Scan × List Token
  | .between, c => start c
  | .word [] _, _ => (.stopped, [.broken])
  | .word [last] token, c =>
    if c = last then (.between, [token]) else (.stopped, [.broken])
  | .word (next :: rest) token, c =>
    if c = next then (.word rest token, []) else (.stopped, [.broken])
  | .text read, c =>
    if c = '"' then (.between, [textToken read])
    else if c = '\\' then (.escape read, [])
    else if c.toNat < 0x20 then (.stopped, [.broken])
    else (.text (.char c :: read), [])
  | .escape read, c =>
    if c = 'u' then (.code read 0 4, [])
    else match escaped? c with
      | some e => (.text (.char e :: read), [])
      | none => (.stopped, [.broken])
  | .code read value missing, c =>
    match Bytes.hexValue? c with
    | some d =>
      let value := 16 * value + d
      if missing ≤ 1 then (.text (.unit value :: read), [])
      else (.code read value (missing - 1), [])
    | none => (.stopped, [.broken])
  | .numeral part n, c => stepNumeral part n c
  | .stopped, _ => (.stopped, [])

/-- Whether a numeral may end at this part. -/
def Part.isFinal : Part → Bool
  | .zero | .whole | .fraction | .exponent => true
  | .sign | .point | .mark | .markSign => false

/-- The same for a byte that belongs to no character. Only a quoted text may hold one. -/
def stepStray : Scan → Scan × List Token
  | .text read => (.text (.stray :: read), [])
  | .numeral part n =>
    (.stopped, if part.isFinal then [.numeral (inOrder n), .broken] else [.broken])
  | .between | .word .. | .escape .. | .code .. => (.stopped, [.broken])
  | .stopped => (.stopped, [])

/-- The tokens that the end of the bytes completes. -/
def finish : Scan → List Token
  | .between | .stopped => []
  | .numeral part n => if part.isFinal then [.numeral (inOrder n)] else [.broken]
  | .word .. | .text .. | .escape .. | .code .. => [.broken]

/-- Runs the machine over the characters, with the tokens so far, last first. -/
def scan (state : Scan) (done : List Token) : List (Option Char) → List Token
  | [] => (finish state).reverseAux done |>.reverse
  | some c :: rest =>
    let (state, emitted) := step state c
    scan state (emitted.reverseAux done) rest
  | none :: rest =>
    let (state, emitted) := stepStray state
    scan state (emitted.reverseAux done) rest

-- quotes and backslashes are single bytes and never part of another character, so what stands
-- between two quotes has the same characters as it would have alone
def tokens (bytes : Bytes) : List Token := scan .between [] (Bytes.chars bytes)

end Json

end SealedReceipts
