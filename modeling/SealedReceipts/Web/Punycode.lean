/-!
# Punycode

A label of a domain name with characters beyond ASCII is written as its ASCII characters, a hyphen
and, for each other character in the order of their code points, how far code point and place move
on from the one before. The steps are numbers to a base of 36 whose digits have thresholds that
adapt to the steps so far.
-/

namespace SealedReceipts

namespace Web

namespace Punycode

/-- The value of a digit: letters of either case, then the decimal digits. -/
def digit? (c : Char) : Option Nat :=
  if 'a' ≤ c ∧ c ≤ 'z' then some (c.toNat - 'a'.toNat)
  else if 'A' ≤ c ∧ c ≤ 'Z' then some (c.toNat - 'A'.toNat)
  else if '0' ≤ c ∧ c ≤ '9' then some (c.toNat - '0'.toNat + 26)
  else none

/-- The lower-case digit of a value. -/
def digit (n : Nat) : Char :=
  if n < 26 then Char.ofNat ('a'.toNat + n) else Char.ofNat ('0'.toNat + (n - 26))

/-- The value from which on the digit at place `k` is not the last. -/
def threshold (k bias : Nat) : Nat :=
  if k ≤ bias then 1 else if bias + 26 ≤ k then 26 else k - bias

theorem threshold_pos (k bias : Nat) : 1 ≤ threshold k bias := by
  unfold threshold
  split
  · omega
  · split <;> omega

/-- Divides a step until it is small, and counts 36 for each division. -/
def settle (step k : Nat) : Nat × Nat :=
  if 455 < step then settle (step / 35) (k + 36) else (step, k)

/-- The bias after a step, when `count` characters are placed. -/
def adapt (step count : Nat) (first : Bool) : Nat :=
  let scaled := if first then step / 700 else step / 2
  let (step, k) := settle (scaled + scaled / count) 0
  k + 36 * step / (step + 38)

/-- The largest number that a step may reach. -/
def maxStep : Nat := UInt32.size - 1

/-! ## Reading -/

/-- Reads one step onto `sum`, and gives what follows it. -/
def readStep? (bias sum weight k : Nat) : List Char → Option (Nat × List Char)
  | [] => none
  | c :: rest => do
    let d ← digit? c
    let sum := sum + d * weight
    if maxStep < sum then none
    else
      let t := threshold k bias
      if d < t then some (sum, rest)
      else if maxStep < weight * (36 - t) then none
      else readStep? bias sum (weight * (36 - t)) (k + 36) rest

/-- A step has at least one digit. -/
theorem length_lt_of_readStep? {bias sum weight k reached : Nat} {text rest : List Char}
    (h : readStep? bias sum weight k text = some (reached, rest)) : rest.length < text.length := by
  induction text generalizing sum weight k with
  | nil => simp [readStep?] at h
  | cons c tail ih =>
    simp only [readStep?, Option.bind_eq_bind, Option.bind_eq_some_iff] at h
    obtain ⟨d, _, h⟩ := h
    split at h
    · simp at h
    · split at h
      · obtain ⟨_, rfl⟩ : _ ∧ tail = rest := by simpa using h
        simp
      · split at h
        · simp at h
        · have := ih h
          simp only [List.length_cons]
          omega

/-- Places code points into `placed` as the steps say. -/
def placeAll? (placed : List Nat) (code index bias : Nat) (text : List Char) :
    Option (List Nat) :=
  if text.isEmpty then some placed
  else
    match _found : readStep? bias index 1 36 text with
    | none => none
    | some (reached, rest) =>
      let count := placed.length + 1
      let code := code + reached / count
      let place := reached % count
      if (Char.ofNat code).toNat = code then
        placeAll? (placed.take place ++ code :: placed.drop place) code (place + 1)
          (adapt (reached - index) count (index == 0)) rest
      else none
termination_by text.length
decreasing_by exact length_lt_of_readStep? _found

/-- The first code point beyond ASCII, where the steps begin, and the bias there. -/
def firstCode : Nat := 128

def firstBias : Nat := 72

/-- The code points of a label's characters before its last hyphen, and the steps behind it. A
hyphen with nothing before it belongs to the steps. -/
def splitLabel (label : List Char) : List Nat × List Char :=
  let steps := label.reverse.takeWhile (· ≠ '-')
  match label.reverse.drop (steps.length + 1) with
  | [] => ([], label)
  | basic => (basic.reverse.map Char.toNat, steps.reverse)

def decode? (label : List Char) : Option (List Char) :=
  let (basic, steps) := splitLabel label
  (placeAll? basic firstCode 0 firstBias steps).map (·.map Char.ofNat)

/-! ## Writing -/

def stepDigits (bias step k : Nat) : List Char :=
  let t := threshold k bias
  if step < t then [digit step]
  else digit (t + (step - t) % (36 - t)) :: stepDigits bias ((step - t) / (36 - t)) (k + 36)
termination_by step
decreasing_by
  have := threshold_pos k bias
  have := Nat.div_le_self (step - threshold k bias) (36 - threshold k bias)
  omega

/-- How far the writer has come: the digits so far, last first, the step under way, the bias and the
number of characters written. -/
structure Progress where
  digits : List Char
  step : Nat
  bias : Nat
  count : Nat

/-- Passes a character of the label while those of `code` are written; `basic` characters need no
step. -/
def pass (basic code : Nat) (p : Progress) (c : Char) : Progress :=
  if c.toNat < code then { p with step := p.step + 1 }
  else if c.toNat = code then
    { digits := (stepDigits p.bias p.step 36).reverse ++ p.digits
      step := 0
      bias := adapt p.step (p.count + 1) (p.count == basic)
      count := p.count + 1 }
  else p

/-- Writes the characters of each code point in turn. -/
def writeCodes (label : List Char) (basic : Nat) : (lowest : Nat) → List Nat → Progress → Progress
  | _, [], p => p
  | lowest, code :: rest, p =>
    let p := { p with step := p.step + (code - lowest) * (p.count + 1) }
    let p := label.foldl (pass basic code) p
    writeCodes label basic (code + 1) rest { p with step := p.step + 1 }

def encode (label : List Char) : List Char :=
  let basic := label.filter fun c => c.toNat < firstCode
  let codes := ((label.map Char.toNat).filter (firstCode ≤ ·)).mergeSort.eraseDups
  let start : Progress := ⟨[], 0, firstBias, basic.length⟩
  let written := (writeCodes label basic.length firstCode codes start).digits.reverse
  basic ++ (if basic.isEmpty then [] else ['-']) ++ written

end Punycode

end Web

end SealedReceipts
