import HostAgent.Refusal
import HostAgent.Shell.Run
import HostAgent.Time
import HostAgent.Wire.Command
import HostAgent.Wire.Completion

/-!
# Execution of commands

A command is a line that is given to a shell.  What the shell prints is its result, and it may
take only so long.

* `locate` — the program at a path; `find` — the program of a name, on a search path.
* `start` — the process that a command starts, if the machine does not refuse it.
* `resultOf`, `result` — whether a command succeeds, and what is to be said of it, depending on what
  comes of the start.
* `completionOf`, `complete` — the notice of its completion.
-/

namespace HostAgent.Execution

open Shell (Process Outcome)
open Wire (Command Completion)

/-! ## Programs -/

/-- The parts of a path without those that stand for their own place. -/
def partsOf (path : String) : List String :=
  ((path.toList.splitOn '/').map String.ofList).filter fun s => s != "" && s != "."

/-- What lies at a place of the machine: a program, or a reason not to start it. -/
def entry (parts : List String) : Except Refusal String :=
  let pathOf (ps : List String) := "/" ++ "/".intercalate ps
  let isPlain (ps : List String) := Shell.Machine.plainFiles.contains (pathOf ps)
  let program? (ps : List String) : Option String :=
    match ps with
    | ["bin", name] | ["usr", "bin", name] =>
      if Shell.Machine.programs.contains name then some name else none
    | _ => none
  let isFile (ps : List String) := (program? ps).isSome || isPlain ps
  match program? parts with
  | some name => .ok name
  | none =>
    if Shell.Machine.isDirectory (pathOf parts) || isPlain parts then .error .denied
    else if (List.range parts.length).any fun n => isFile (parts.take n) then .error .notDirectory
    else .error .absent

/-- Why a file cannot be read; `none` if it can. -/
def fileRefusal? (path : String) : Option Refusal :=
  let parts := partsOf path
  if path.toList.contains '\x00' then some .zeroByte
  else if path.utf8ByteSize ≥ 4096 || parts.any (·.utf8ByteSize > 255) then some .nameTooLong
  else if !path.startsWith "/" then
    if parts.all (· == "..") && !path.isEmpty then some .directory else some .absent
  else if Shell.Machine.isDirectory ("/" ++ "/".intercalate parts) then some .directory
  else match entry parts with
    | .ok _ => if path.endsWith "/" then some .notDirectory else none
    | .error .denied => if path.endsWith "/" then some .notDirectory else none
    | .error e => some e

/-- The program at a path. -/
def locate (path : String) : Except Refusal String :=
  let parts := partsOf path
  if path.utf8ByteSize ≥ 4096 || parts.any (·.utf8ByteSize > 255) then .error .nameTooLong
  else if !path.startsWith "/" then
    if parts.all (· == "..") then .error .denied else .error .absent
  else match entry parts with
    | .ok name => if path.endsWith "/" then .error .notDirectory else .ok name
    | .error e => .error e

/-- The program of a name in the directories of a search path: the first one that can be started.
A program that may not be started counts more than none at all. -/
def search (name : String) : List String → Refusal → Except Refusal String
  | [], fault => .error fault
  | d :: ds, fault =>
    match locate (if d.isEmpty then "./" ++ name else d ++ "/" ++ name) with
    | .ok program => .ok program
    | .error e => search name ds (if fault = .denied then fault else e)

/-- The program of a name. -/
def find (searchPath name : String) : Except Refusal String :=
  if name.toList.contains '/' then locate name
  else if name.utf8ByteSize > 255 then .error .nameTooLong
  else search name ((searchPath.toList.splitOn ':').map String.ofList) .absent

/-! ## Starting -/

/-- The search path of the agent itself. -/
def ownSearchPath : String :=
  "/usr/local/sbin:/usr/local/bin:/usr/sbin:/usr/bin:/sbin:/bin"

/-- The shell of a command; one that names none gets the usual one. -/
def shellOf (c : Command) : String :=
  if c.shell.isEmpty then "sh" else c.shell

/-- The largest text that can be given to a program. -/
def textLimit : Nat := 131072

/-- What is given to the program of a command. -/
def givenTexts (c : Command) : List String :=
  shellOf c :: c.line :: c.env.entries.flatMap fun (k, v) => [k, v]

/-- A process as it starts, with its variables. -/
def fresh (program : String) (c : Command) : Process :=
  let inherited := if (c.env.get? "PATH").isSome then c.env else c.env.insert "PATH" ownSearchPath
  let own :=
    if program == "bash" then inherited.insert "BASH_VERSION" "5.2.21(1)-release" else inherited
  { extended := program == "bash", name := shellOf c, bindings := own.insert "IFS" " \t\n"
    exported := inherited.entries.map (·.1) }

/-- Whether a program carries out scripts. -/
def isShell (program : String) : Bool :=
  program == "sh" || program == "dash" || program == "bash"

/-- The process of a program when it has ended. -/
def ran (program : String) (c : Command) : Process :=
  let p := fresh program c
  if isShell program then
    match c.line.toList with
    | '-' :: options | '+' :: options => p.refuseOptions options
    | _ => p.carryOut c.line
  else match Shell.Program.run? p.surroundings program (shellOf c) ["-c", c.line] {} with
    | some o => p.after o
    | none => p.after (Shell.Program.misused (shellOf c) 1 "invalid option -- 'c'")

/-- The process that a command starts, when it has ended. -/
def start (c : Command) : Except Refusal Process :=
  if (givenTexts c).any fun s => s.toList.contains '\x00' then .error .zeroByte
  else match find ((c.env.get? "PATH").getD ownSearchPath) (shellOf c) with
    | .error e => .error e
    | .ok program =>
      if (givenTexts c).any fun s => s.utf8ByteSize ≥ textLimit then .error .tooMuch
      else .ok (ran program c)

/-! ## Results -/

/-- Whether a process has ended within a time.  No process ends in no time. -/
def inTime (limit : Span) (p : Process) : Bool :=
  !(p.collected 1).isEndless && !(p.collected 2).isEndless &&
    decide (p.finish * 1000000 < limit.nanos)

/-- What a process has printed. -/
def printed (p : Process) : String :=
  Text.Utf8.lossy (p.collected 1).bytes ++ Text.Utf8.lossy (p.collected 2).bytes

/-- Whether a command succeeds within a time, and what is to be said of it, if this has come of the
start of its process. -/
def resultOf (limit : Span) (c : Command) (child : Except Refusal Process) : Bool × String :=
  if c.shell = Command.internalShell then
    (false, "unsupported internal command: " ++ Text.trim c.line)
  else match child with
    | .error e => (false, "failed to start " ++ shellOf c ++ ": " ++ e.message)
    | .ok p =>
      if inTime limit p then (p.succeeds, printed p)
      else (false, "command timed out after " ++ toString limit.wholeSeconds ++ "s")

/-- How long a command takes, in milliseconds, if it may take only so long and this has come of the
start of its process. -/
def durationOf (limit : Span) (c : Command) (child : Except Refusal Process) : Nat :=
  if c.shell = Command.internalShell then 0
  else match child with
    | .error _ => 0
    | .ok p => if inTime limit p then p.finish else limit.ceilMillis

/-- The notice that a command is complete, if this has come of the start of its process. -/
def completionOf (limit : Span) (c : Command) (child : Except Refusal Process) : Completion :=
  let (success, text) := resultOf limit c child
  { success, result := text, elapsed := (Span.millis (durationOf limit c child)).toSeconds }

/-- Whether a command succeeds within a time, and what is to be said of it. -/
def result (limit : Span) (c : Command) : Bool × String :=
  resultOf limit c (start c)

/-- The notice that a command is complete. -/
def complete (limit : Span) (c : Command) : Completion :=
  completionOf limit c (start c)

end HostAgent.Execution
