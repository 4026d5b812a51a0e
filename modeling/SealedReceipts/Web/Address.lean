import SealedReceipts.Digits
import SealedReceipts.Text.Fields

/-!
# Network addresses

Hosts that are numbers. An address of 32 bits is written as up to four numbers with points between
them, decimal, octal behind a zero or hexadecimal behind `0x`; the last number fills the bytes that
are left. An address of 128 bits is written as eight groups of hexadecimal digits with colons
between them, of which one run of zeros may be left out, and the last two as a 32-bit address.
-/

namespace SealedReceipts

namespace Web

namespace Address

/-! ## 32 bits -/

/-- The digits of a number to a base, as a number. -/
def number? (base : Nat) (text : List Char) : Option Nat := do
  let values ← text.mapM fun c =>
    match Digits.digit? c with
    | some d => some d
    | none =>
      if 'a' ≤ c.toLower ∧ c.toLower ≤ 'f' then some (c.toLower.toNat - 'a'.toNat + 10) else none
  if values.all (· < base) then some (values.foldl (fun n d => base * n + d) 0) else none

/-- A number of an address. -/
def part? (text : List Char) : Option Nat :=
  match text with
  | [] => none
  | '0' :: x :: digits =>
    if x = 'x' ∨ x = 'X' then number? 16 digits else number? 8 (x :: digits)
  | digits => number? 10 digits

/-- The numbers of a name that ends in one: a last label that is empty does not count. -/
def parts (name : String) : List (List Char) :=
  let labels := Text.fields '.' name.toList
  if labels.getLast? = some [] then labels.dropLast else labels

/-- Whether a name must be an address: its last label is a number. -/
def endsInNumber (name : String) : Bool :=
  match (parts name).getLast? with
  | none => false
  | some label =>
    (!label.isEmpty && label.all fun c => (Digits.digit? c).isSome) || (part? label).isSome

/-- The 32-bit address of a name that must be one. -/
def v4? (name : String) : Option Nat := do
  let numbers ← (parts name).mapM part?
  match numbers.reverse with
  | [] => none
  | last :: before =>
    let span := Nat.pow 256 (4 - before.length)
    if before.length ≤ 3 ∧ last < span ∧ before.all (· < 256) then
      some (before.reverse.foldl (fun n b => 256 * n + b) 0 * span + last)
    else none

/-- Four decimal numbers. -/
def v4Text (address : Nat) : String :=
  ".".intercalate ([3, 2, 1, 0].map fun i => toString (address / Nat.pow 256 i % 256))

/-! ## 128 bits -/

/-- A group of one to four hexadecimal digits. -/
def group? (text : List Char) : Option Nat :=
  if text.isEmpty ∨ 4 < text.length then none else number? 16 text

/-- A decimal byte without zeros in front. -/
def byte? (text : List Char) : Option Nat :=
  match text with
  | [] => none
  | '0' :: _ :: _ => none
  | digits =>
    if 3 < digits.length then none
    else (Digits.number? digits).bind fun n => if n < 256 then some n else none

/-- The two groups of a 32-bit address of exactly four bytes. -/
def embedded? (text : List Char) : Option (List Nat) := do
  match ← (Text.fields '.' text).mapM byte? with
  | [a, b, c, d] => some [256 * a + b, 256 * c + d]
  | _ => none

/-- Groups with colons between them, none for the empty text. The last may be a 32-bit address. -/
def groups? (text : List Char) : Option (List Nat) :=
  if text.isEmpty then some []
  else
    let fields := Text.fields ':' text
    match fields.reverse with
    | [] => some []
    | last :: before =>
      if last.contains '.' then do
        return (← before.reverse.mapM group?) ++ (← embedded? last)
      else fields.mapM group?

/-- Cuts a text at the first two colons in a row. -/
def cutAtGap (before : List Char) : List Char → List Char × Option (List Char)
  | ':' :: ':' :: rest => (before.reverse, some rest)
  | c :: rest => cutAtGap (c :: before) rest
  | [] => (before.reverse, none)

/-- The eight groups of a 128-bit address. -/
def v6? (text : List Char) : Option (List Nat) := do
  match cutAtGap [] text with
  | (whole, none) =>
    let groups ← groups? whole
    if groups.length = 8 then some groups else none
  | (front, some back) =>
    if front.contains '.' then none
    else
      let front ← groups? front
      let back ← groups? back
      if front.length + back.length < 8 then
        some (front ++ List.replicate (8 - front.length - back.length) 0 ++ back)
      else none

/-- The run of zeros at the front of the groups. -/
def zeroRun (groups : List Nat) : Nat := (groups.takeWhile (· == 0)).length

/-- Where the first longest run of at least two zeros begins, and its length. -/
def longestGap (groups : List Nat) : Option (Nat × Nat) :=
  let runs := (List.range groups.length).map fun i => (i, zeroRun (groups.drop i))
  let best := runs.foldl (fun best run => if best.2 < run.2 then run else best) (0, 1)
  if best.2 < 2 then none else some best

/-- Groups in hexadecimal with colons between them. -/
def groupsText (groups : List Nat) : String :=
  ":".intercalate (groups.map fun g => String.ofList (Nat.toDigits 16 g))

/-- The groups with the longest run of zeros left out. -/
def v6Text (groups : List Nat) : String :=
  match longestGap groups with
  | some (i, n) => groupsText (groups.take i) ++ "::" ++ groupsText (groups.drop (i + n))
  | none => groupsText groups

end Address

end Web

end SealedReceipts
