import SealedReceipts.Bank.Arguments
import SealedReceipts.Bank.Server

/-!
# The program of a bank

Takes the settings of a bank from its arguments and from the environment, and lets the bank answer
the requests that come on standard input, one a line: the second on the calendar, the port, the
method, the target and the body, with tabs between them. Each answer is a line with its status and
its body, after a line for every notice that the request starts.

The bank is started in the second of its first request. Nobody listens to its notices here.
-/

namespace SealedReceipts

namespace Program

open Bank

/-- A request, the second in which it comes, and the port at which it does. -/
structure Arrival where
  second : Nat
  port : UInt16
  request : Web.Request

def Arrival.ofLine? (line : String) : Option Arrival :=
  match (Text.fields '\t' (line.toList.filter (· ≠ '\n'))).map String.ofList with
  | [second, port, method, target, body] => do
    let second ← Digits.number? second.toList
    let port ← Digits.number? port.toList
    let request : Web.Request :=
      { method, target, contentType := some "application/json", body }
    return { second, port := UInt16.ofNat port, request }
  | _ => none

/-- Lines for the notices of a request; none of them is delivered. -/
def noticeLines (server : Server) (started : List Notification) : List String × Server :=
  started.foldl (fun (lines, server) n =>
    let (_, server, _) := server.notify ⟨.unreachable, fun _ world => world⟩ n ()
    (lines ++ [s!"notice\t{n.url}\t{n.notice.toValue.render}"], server)) ([], server)

def answerLines (startedAt : Nat) (server : Server) (a : Arrival) (freshId : String) :
    List String × Server :=
  let server := server.elapse ((a.second - startedAt) * 1000)
  match server.answer? a.port a.request ⟨a.second, 0⟩ freshId with
  | none => (["no answer"], server)
  | some (response, server, started) =>
    let (lines, server) := noticeLines server started
    (lines ++ [s!"{response.status}\t{response.body}"], server)

/-- Answers arrivals until the input ends. -/
partial def serve (input output : IO.FS.Stream) (state : Option (Nat × Server))
    (settings : Settings) : IO Unit := do
  let line ← input.getLine
  if line.isEmpty then return
  match Arrival.ofLine? line with
  | none =>
    output.putStrLn "no request"
    serve input output state settings
  | some arrival =>
    let (startedAt, server) := state.getD (arrival.second, .start settings)
    let freshId := Bytes.toHex (← IO.getRandomBytes 16).toList
    let (lines, server) := answerLines startedAt server arrival freshId
    for line in lines do
      output.putStrLn line
    output.flush
    serve input output (some (startedAt, server)) settings

/-- The values of the variables that stand in for options. -/
def environment : IO (List (String × String)) := do
  let values ← Flag.all.mapM fun flag => do
    return (← IO.getEnv flag.environmentName).map fun value => (flag.environmentName, value)
  return values.filterMap fun value => value

def run (arguments : List String) : IO UInt32 := do
  let environment ← Program.environment
  match Settings.ofArguments arguments fun name => environment.lookup name with
  | .error refusal =>
    (← IO.getStderr).putStrLn refusal.message
    return refusal.exitCode.toUInt32
  | .ok settings =>
    serve (← IO.getStdin) (← IO.getStdout) none settings
    return 0

end Program

end SealedReceipts

def main (arguments : List String) : IO UInt32 := SealedReceipts.Program.run arguments
