import HostAgent.Agent
import HostAgent.CommandLine

/-!
# The program

Reads the command line, the environment and the settings, and prints what comes of it.

An agent that runs leaves its sockets to whoever started it: every line that it reads is a text
frame from the backhaul, and every line that it writes is a frame for the backhaul or a request for
the management plane, which is taken to answer each of them with success.
-/

namespace HostAgent

/-- What the machine means by an error. -/
def Refusal.ofError : IO.Error → Refusal
  | .permissionDenied .. => .denied
  | .inappropriateType .. => .directory
  | _ => .absent

/-- Reads a file. -/
def readFile (path : String) : IO (Except Refusal ByteArray) := do
  try
    return .ok (← IO.FS.readBinFile path)
  catch e =>
    return .error (Refusal.ofError e)

/-- The variables of the environment that settings look at. -/
def readEnvironment : IO Dictionary := do
  let mut env : Dictionary := .empty
  for name in ["TETHER_SERVER_URL", "TETHER_SERVER_ID", "TETHER_SERVER_KEY"] do
    if let some value ← IO.getEnv name then env := env.insert name value
  return env

/-- The settings in a file, and the certificate that they name. -/
def readSettings (path : String) : IO (Except Settings.Fault Settings × Outbound.Files) := do
  let loaded := Settings.load (← readFile path) (← readEnvironment)
  let certificate := loaded.toOption.bind (·.server.certificate)
  let content ← match certificate with
    | some p => readFile p
    | none => pure (.error .absent)
  return (loaded, fun _ => content.map (·.data.toList))

/-- Prints what is sent over the backhaul. -/
def printSent : Backhaul.Sent → IO Unit
  | .text s => IO.println s
  | .pong bytes => IO.println ("pong " ++ Text.Hex.encode bytes)
  | .close => IO.println "close"

/-- Prints a request. -/
def printAttempt (s : Outbound.Session) (a : Fleet.Attempt) : IO Unit :=
  match Outbound.Posting.of? s a.request with
  | some p => IO.println (p.line ++ " " ++ Text.Utf8.lossy p.body)
  | none => pure ()

/-- Serves an agent until its link has ended, or until nothing more comes in. -/
partial def serve (input : IO.FS.Stream) (a : Agent) (printed : Nat) : IO Unit := do
  let carrier : Fleet.Carrier := fun _ _ => {}
  for attempt in a.attempts.drop printed do printAttempt a.session attempt
  let printed := a.attempts.length
  match a.successor? carrier with
  | some next => serve input { next with link := next.link.settle.2.connected } printed
  | none =>
    if a.hasEnded then return
    let line ← input.getLine
    if line.isEmpty then return
    let text := if line.endsWith "\n" then (line.dropEnd 1).toString else line
    let a := if a.link.isServing then a
      else { a with link := (a.link.untilAttempt false).connected }
    let (sent, a) := a.receive carrier (.text text)
    for s in sent do printSent s
    serve input a printed

end HostAgent

open HostAgent in
/-- The program. -/
def main (args : List String) : IO UInt32 := do
  let refuse (r : Report) : IO UInt32 := do
    IO.eprint r.text
    return 1
  match CommandLine.Order.parse? args with
  | none =>
    IO.eprint CommandLine.Topic.whole.text
    return 2
  | some .version =>
    IO.print CommandLine.versionText
    return 0
  | some (.help topic) =>
    IO.print topic.text
    return 0
  | some (.check path) =>
    let (loaded, _) ← readSettings path
    match check path loaded with
    | .error r => refuse r
    | .ok text =>
      IO.print text
      return 0
  | some (.run path) =>
    let (loaded, files) ← readSettings path
    match prepare { files } path loaded with
    | .error r => refuse r
    | .ok a =>
      serve (← IO.getStdin) { a with link := a.link.settle.2.connected } 0
      return 0
