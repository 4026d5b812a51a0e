import SealedReceipts.Bank.Settings
import SealedReceipts.Digits.Bounded
import SealedReceipts.Text.Terminal

/-!
# Arguments of a bank

A bank is told its settings by options on the command line and by variables of the environment; an
option wins over its variable. An option is followed by its value, or has it behind an equals sign.

The value that follows an option is looked at only when the next option comes or the arguments
end. An argument that is neither an option nor the value of one is refused at once, even if a
value before it turns out to be wrong.

The variables are listed in section 10.4 of the specification.
-/

namespace SealedReceipts

namespace Bank

/-! ## Options -/

inductive Flag where
  | port
  | metricsPort
  | cleanupInterval
  | maxReceiptAge
  | webhookTimeout
  | webhookMaxRetries
  | maxRequestBodySize
  deriving DecidableEq, Repr

namespace Flag

/-- The options in the order in which their variables are read. -/
def all : List Flag :=
  [.port, .metricsPort, .cleanupInterval, .maxReceiptAge, .webhookTimeout, .webhookMaxRetries,
    .maxRequestBodySize]

def name : Flag → String
  | .port => "port"
  | .metricsPort => "metrics-port"
  | .cleanupInterval => "cleanup-interval-secs"
  | .maxReceiptAge => "max-receipt-age-secs"
  | .webhookTimeout => "webhook-timeout-secs"
  | .webhookMaxRetries => "webhook-max-retries"
  | .maxRequestBodySize => "max-request-body-size"

/-- The name in capital letters, with low lines for hyphens. -/
def constant (flag : Flag) : String :=
  flag.name.map fun c => if c = '-' then '_' else c.toUpper

/-- The variable of the environment that stands in for the option. -/
def environmentName (flag : Flag) : String := "RECEIPT_BANK_" ++ flag.constant

/-- The option and its value as messages show them. -/
def usage (flag : Flag) : String := "--" ++ flag.name ++ " <" ++ flag.constant ++ ">"

def ofName? (name : String) : Option Flag := all.find? fun flag => flag.name == name

end Flag

/-! ## Values -/

inductive ValueFault where
  | numeral (fault : Digits.NumeralFault)
  | outside (n : Int) (limit : Nat)
  deriving DecidableEq, Repr

def ValueFault.message : ValueFault → String
  | .numeral fault => fault.message
  | .outside n limit => s!"{n} is not in 0..={limit}"

/-- A number from zero to a limit, read as a whole number of 64 bits. -/
def limitedValue (limit : Nat) (text : String) : Except ValueFault Nat :=
  match Digits.integer 0x8000000000000000 text.toList with
  | .error fault => .error (.numeral fault)
  | .ok n => if 0 ≤ n ∧ n ≤ (limit : Int) then .ok n.toNat else .error (.outside n limit)

/-- A natural number of 64 bits. -/
def wideValue (text : String) : Except ValueFault UInt64 :=
  match Digits.natural (UInt64.size - 1) text.toList with
  | .error fault => .error (.numeral fault)
  | .ok n => .ok (UInt64.ofNat n)

/-- The settings with the value of an option. -/
def Settings.set (s : Settings) (flag : Flag) (text : String) : Except ValueFault Settings :=
  match flag with
  | .port => (limitedValue 65535 text).map fun n => { s with port := UInt16.ofNat n }
  | .metricsPort => (limitedValue 65535 text).map fun n => { s with metricsPort := UInt16.ofNat n }
  | .cleanupInterval => (wideValue text).map fun n => { s with cleanupInterval := n }
  | .maxReceiptAge => (wideValue text).map fun n => { s with maxReceiptAge := n }
  | .webhookTimeout => (wideValue text).map fun n => { s with webhookTimeout := n }
  | .webhookMaxRetries =>
    (limitedValue 4294967295 text).map fun n => { s with webhookMaxRetries := UInt32.ofNat n }
  | .maxRequestBodySize => (wideValue text).map fun n => { s with maxRequestBodySize := n }

/-! ## Refusals -/

inductive ArgumentFault where
  | unexpected (argument : String)
  | surplusValue (argument value : String)
  | valueMissing (flag : Flag)
  | repeated (flag : Flag)
  | invalidValue (flag : Flag) (value : String) (why : ValueFault)
  deriving DecidableEq, Repr

/-- What is wrong in words. They go to a terminal, so that arguments give it no orders. -/
def ArgumentFault.message : ArgumentFault → String
  | .unexpected argument => s!"unexpected argument '{Text.readable argument}' found"
  | .surplusValue argument value =>
    let value := Text.readable value
    s!"unexpected value '{value}' for '{argument}' found; no more were expected"
  | .valueMissing flag => s!"a value is required for '{flag.usage}' but none was supplied"
  | .repeated flag => s!"the argument '{flag.usage}' cannot be used multiple times"
  | .invalidValue flag value why =>
    s!"invalid value '{Text.readable value}' for '{flag.usage}': {why.message}"

/-- Why a bank is not run. Being asked for help or for the version is no fault. -/
inductive Refusal where
  | information
  | settings (fault : SettingsFault)
  | arguments (fault : ArgumentFault)
  deriving DecidableEq, Repr

namespace Refusal

def exitCode : Refusal → Nat
  | .information => 0
  | .settings _ => 1
  | .arguments _ => 2

def message : Refusal → String
  | .information => ""
  | .settings fault => s!"Error: {fault.message}"
  | .arguments fault => s!"error: {fault.message}"

end Refusal

/-! ## Reading -/

/-- What an argument looks like by itself. -/
inductive Word where
  | option (flag : Flag) (value : Option String)
  | information
  | surplus (argument value : String)
  | unknown (argument : String)
  | plain (text : String)
  deriving DecidableEq, Repr

namespace Word

/-- An argument with two hyphens, which are left out. -/
def ofLong (text : List Char) : Word :=
  let (name, rest) := text.span (· ≠ '=')
  let name := String.ofList name
  let value := rest.tail?.map String.ofList
  match Flag.ofName? name with
  | some flag => .option flag value
  | none =>
    if name = "help" ∨ name = "version" then
      match value with
      | none => .information
      | some value => .surplus s!"--{name}" value
    else .unknown s!"--{name}"

/-- An argument. One hyphen alone is plain text; of several letters behind it the first counts. -/
def ofText (text : String) : Word :=
  match text.toList with
  | '-' :: '-' :: rest => ofLong rest
  | '-' :: c :: _ => if c = 'h' ∨ c = 'V' then .information else .unknown s!"-{c}"
  | _ => .plain text

end Word

/-- What has been read: the settings so far, the options given, and the option whose value has not
been looked at. -/
structure Reading where
  settings : Settings := {}
  given : List Flag := []
  pending : Option (Flag × Option String) := none

namespace Reading

def give (r : Reading) (flag : Flag) (value : Option String) : Except Refusal Reading :=
  match value with
  | none => .error (.arguments (.valueMissing flag))
  | some value =>
    if flag ∈ r.given then .error (.arguments (.repeated flag))
    else
      match r.settings.set flag value with
      | .ok settings => .ok { r with settings, given := flag :: r.given }
      | .error why => .error (.arguments (.invalidValue flag value why))

/-- Looks at the value that has not been looked at. -/
def settle (r : Reading) : Except Refusal Reading :=
  match r.pending with
  | none => .ok r
  | some (flag, value) => { r with pending := none }.give flag value

def step (r : Reading) : Word → Except Refusal Reading
  | .option flag none => do
    let r ← r.settle
    return { r with pending := some (flag, none) }
  | .option flag (some value) => do (← r.settle).give flag value
  | .information => do
    let _ ← r.settle
    .error .information
  | .surplus argument value => .error (.arguments (.surplusValue argument value))
  | .unknown argument => .error (.arguments (.unexpected argument))
  | .plain text =>
    match r.pending with
    | some (flag, none) => .ok { r with pending := some (flag, some text) }
    | _ => .error (.arguments (.unexpected text))

/-- Reads arguments. Two hyphens end the options, and nothing may follow them. -/
def arguments (r : Reading) : List String → Except Refusal Reading
  | [] => r.settle
  | argument :: rest =>
    if argument = "--" then
      match rest with
      | [] => r.settle
      | next :: _ => .error (.arguments (.unexpected next))
    else
      match r.step (Word.ofText argument) with
      | .ok r => r.arguments rest
      | .error refusal => .error refusal

/-- Reads the variable of an option that was not given. -/
def fromVariable (environment : String → Option String) (r : Reading) (flag : Flag) :
    Except Refusal Reading :=
  if flag ∈ r.given then .ok r
  else
    match environment flag.environmentName with
    | none => .ok r
    | some value => r.give flag (some value)

end Reading

/-- The settings that arguments and variables make up. -/
def Settings.ofArguments (arguments : List String) (environment : String → Option String) :
    Except Refusal Settings := do
  let r ← Reading.arguments {} arguments
  let r ← Flag.all.foldlM (Reading.fromVariable environment) r
  match r.settings.fault? with
  | none => return r.settings
  | some fault => .error (.settings fault)

end Bank

end SealedReceipts
