import HostAgent.Dictionary
import HostAgent.Shell.Machine
import HostAgent.Shell.Program
import HostAgent.Shell.Syntax

/-!
# Processes

The state of a shell that carries out a script.

* `Flow` — whether it goes on, leaves a loop or function, or has ended.
* `Process` — variables, channels, what has been written, and the time it took.
* `Process.write`, `Process.collected` — output to a channel, and what came out of one.
-/

namespace HostAgent.Shell

/-- Where a channel leads: nowhere, into a numbered sink, or into a file; one that is closed or full
takes nothing. -/
inductive Sink where
  | lost
  | closed
  | full
  | kept (n : Nat)
  | file (path : String)
  deriving DecidableEq, Repr, Inhabited

/-- How a process goes on. -/
inductive Flow where
  | onward
  | leaving (loops : Nat)
  | repeating (loops : Nat)
  | returning
  | ended
  | killed (signal : Nat)
  deriving DecidableEq, Repr, Inhabited

/-- Output: when, to which sink, and what. -/
structure Written where
  time : Nat
  sink : Nat
  content : Stream
  deriving Inhabited

/-- A command in the background: its number, its end and its status, and whether it can still
write to where the process writes. -/
structure Job where
  id : Nat
  finish : Nat
  status : Nat
  holds : Bool := true
  deriving DecidableEq, Repr, Inhabited

/-- The state of a shell. -/
structure Process where
  extended : Bool := false
  name : String := "sh"
  id : Nat := 4000
  arguments : List String := []
  bindings : Dictionary := .empty
  exported : List String := []
  functions : List (String × Script) := []
  /-- What variables were before the function that is running made them its own. -/
  locals : List (String × Option String) := []
  traps : List (String × List Char) := []
  status : Nat := 0
  flow : Flow := .onward
  channels : List (Nat × Sink) := [(1, .kept 1), (2, .kept 2)]
  input : Stream := {}
  written : List Written := []
  sinks : Nat := 3
  directory : String := "/"
  files : List (String × List UInt8) := []
  /-- Places that the script has made. -/
  places : List String := []
  /-- Variables that keep their values. -/
  constants : List String := []
  clock : Nat := 0
  jobs : List Job := []
  lastJob : Option Nat := none
  /-- Whether a failure ends the script. -/
  strict : Bool := false
  /-- Whether a variable that is not set is a failure. -/
  careful : Bool := false
  /-- Whether every command is shown before it is carried out. -/
  traced : Bool := false
  /-- Whether every command of a pipeline counts for its status. -/
  thorough : Bool := false
  /-- Whether a function is running. -/
  inFunction : Bool := false
  /-- Whether the outcome of what is running is looked at. -/
  tested : Bool := false
  deriving Inhabited

namespace Process

/-- The value of a variable. -/
def lookUp? (p : Process) (name : String) : Option String :=
  p.bindings.get? name

/-- Sets a variable. -/
def set (p : Process) (name value : String) : Process :=
  { p with bindings := p.bindings.insert name value }

/-- The value of a parameter. -/
def parameter? (p : Process) (name : String) : Option String :=
  match name with
  | "?" => some (toString p.status)
  | "$" => some (toString p.id)
  | "#" => some (toString p.arguments.length)
  | "0" => some p.name
  | "!" => p.lastJob.map toString
  | "@" | "*" => if p.arguments.isEmpty then none else some (" ".intercalate p.arguments)
  | "-" => some (if p.strict then "e" else "")
  | name =>
    match name.toNat? with
    | some n => p.arguments[n - 1]?
    | none => p.lookUp? name

/-- The variables that programs get to see. -/
def environment (p : Process) : Dictionary :=
  .ofList (p.bindings.entries.filter fun (k, _) => p.exported.contains k)

/-- Where a channel leads. -/
def sink (p : Process) (channel : Nat) : Sink :=
  (p.channels.lookup channel).getD .lost

/-- Leads a channel somewhere. -/
def lead (p : Process) (channel : Nat) (s : Sink) : Process :=
  { p with channels := (channel, s) :: p.channels.filter (·.1 != channel) }

/-- A path as seen from the root. -/
def placed (p : Process) (path : String) : String :=
  let all := if path.startsWith "/" then path else p.directory ++ "/" ++ path
  let parts := (all.toList.splitOn '/').foldl (fun rev part =>
    if part.isEmpty || part == ['.'] then rev
    else if part == ['.', '.'] then rev.drop 1
    else part :: rev) []
  String.ofList ('/' :: List.intercalate ['/'] parts.reverse)

/-- The content of a file. -/
def file? (p : Process) (path : String) : Option Stream :=
  if path.isEmpty then none
  else match p.placed path with
    | "/dev/null" => some {}
    | "/dev/zero" => some { cycle := [0] }
    | "/dev/full" => some { cycle := [0] }
    | "/dev/stdin" => some p.input
    | path => (p.files.lookup path).map fun bytes => { bytes }

/-- Whether a path is a directory. -/
def isDirectory (p : Process) (path : String) : Bool :=
  !path.isEmpty && (Machine.isDirectory (p.placed path) || p.places.contains (p.placed path))

/-- Whether a file can be made at a path. -/
def hasRoom (p : Process) (path : String) : Bool :=
  p.isDirectory (Program.directoryName (p.placed path))

/-- Whether something lies at a path. -/
def isPresent (p : Process) (path : String) : Bool :=
  (p.file? path).isSome || p.isDirectory path || Machine.plainFiles.contains path

/-- Removes a file. -/
def remove (p : Process) (path : String) : Process :=
  { p with files := p.files.filter (·.1 != p.placed path) }

/-- Sets the content of a file. -/
def store (p : Process) (path : String) (bytes : List UInt8) : Process :=
  { p with files := (p.placed path, bytes) :: (p.remove path).files }

/-- Writes to a channel.  What goes nowhere without an end takes forever. -/
def write (p : Process) (channel : Nat) (s : Stream) : Process :=
  if s.bytes.isEmpty && !s.isEndless then p
  else match p.sink channel with
    | .kept n => { p with written := ⟨p.clock, n, s⟩ :: p.written }
    | .closed | .full => p
    | .lost => if s.isEndless then { p with clock := forever, flow := .ended } else p
    | .file path => p.store path (((p.files.lookup (p.placed path)).getD []) ++ s.bytes)

/-- Writes a text to a channel. -/
def say (p : Process) (channel : Nat) (text : String) : Process :=
  p.write channel (.ofText text)

/-- What came out of a sink, in the order of time. -/
def collected (p : Process) (sink : Nat) : Stream :=
  let all := (p.written.filter (·.sink == sink)).reverse
  ((all.mergeSort fun a b => a.time ≤ b.time).map (·.content)).foldl Stream.append {}

/-- What programs may look at. -/
def surroundings (p : Process) : Surroundings where
  extended := p.extended
  exported := p.environment
  files := p.file?
  directories := p.isDirectory

/-- A complaint of the shell itself. -/
def complain (p : Process) (text : String) : Process :=
  p.say 2 (p.name ++ (if p.extended then ": line 1: " else ": 1: ") ++ text ++ "\n")

/-- The process after something that was done in a copy of it.  What was written stays, and so
does the time that passed. -/
def joined (p copy : Process) : Process :=
  { p with
    written := copy.written
    sinks := copy.sinks
    files := copy.files
    places := copy.places
    clock := copy.clock
    status := copy.status
    flow := match copy.flow with
      | .killed n => .killed n
      | _ => if copy.clock ≥ forever then .ended else p.flow }

/-- When the process and all that it left in the background have ended, so far as it can still
write something. -/
def finish (p : Process) : Nat :=
  ((p.jobs.filter (·.holds)).map (·.finish)).foldl max p.clock

/-- Makes a variable one of the function that is running. -/
def makeLocal (p : Process) (name : String) : Process :=
  { p with locals := (name, p.lookUp? name) :: p.locals }

/-- Gives variables back that functions have made their own. -/
def restore (p : Process) (locals : List (String × Option String)) : Process :=
  locals.foldl (fun p (k, v) => match v with
    | some v => p.set k v
    | none => { p with bindings := p.bindings.erase k }) p

/-- Whether the process succeeds. -/
def succeeds (p : Process) : Bool :=
  match p.flow with
  | .killed _ => false
  | _ => p.status % 256 == 0

end Process

end HostAgent.Shell
