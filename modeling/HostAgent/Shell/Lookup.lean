import HostAgent.Shell.Process

/-!
# Names of commands

* `builtins`, `shellOwn` — what the shell carries out without a program of the machine.
* `programOf?` — the program of a name.
* `Process.afterProgram` — a process after the outcome of a program.
-/

namespace HostAgent.Shell

/-- A process that takes forever. -/
def Process.stuck (p : Process) : Process :=
  { p with clock := forever, flow := .ended }

/-- The names that the shell itself carries out. -/
def builtins (extended : Bool) : List String :=
  (if extended then ["source", "let", "shopt"] else []) ++
    [":", "exit", "return", "break", "continue", "set", "shift", "export", "unset", "read", "kill",
      "wait", "exec", "eval", "cd", "trap", "local", "readonly", "command", "type", "ulimit",
      "umask", "times", "hash", "jobs", "alias", ".", "pwd", "["]

/-- Whether the search path leads to the programs. -/
def findsPrograms (path : String) : Bool :=
  (path.toList.splitOn ':').any fun d =>
    d == "/bin".toList || d == "/usr/bin".toList || d == "/bin/".toList || d == "/usr/bin/".toList

/-- The program that a path leads to. -/
def programAt? (path : String) : Option String :=
  let name := Program.baseName path ""
  let place := (path.dropEnd name.length).toString
  if Machine.programs.contains name && (place == "/bin/" || place == "/usr/bin/") then some name
  else none

/-- The search path of a process. -/
def Process.searchPath (p : Process) : String :=
  (p.lookUp? "PATH").getD "/usr/local/sbin:/usr/local/bin:/usr/sbin:/usr/bin:/sbin:/bin"

/-- Programs that the shell has of its own, wherever it searches. -/
def shellOwn : List String :=
  ["echo", "printf", "true", "false", "test", "["]

/-- The program of a name. -/
def programOf? (p : Process) (name : String) : Option String :=
  if name.toList.contains '/' then programAt? name
  else if shellOwn.contains name then some name
  else if Machine.programs.contains name && findsPrograms p.searchPath then some name
  else none

/-- Says what a name stands for. -/
def described (p : Process) (name : String) : Process :=
  if (builtins p.extended).contains name || shellOwn.contains name then
    p.say 1 (name ++ " is a shell builtin\n")
  else match programOf? p name with
    | some program => p.say 1 (name ++ " is /usr/bin/" ++ program ++ "\n")
    | none => { p.say 1 (name ++ ": not found\n") with status := 127 }

/-- Adds the outcome of a program to a process. -/
def Process.after (p : Process) (o : Outcome) : Process :=
  let p := { p with input := o.left }
  let p := if o.millis ≥ forever then p.stuck else { p with clock := p.clock + o.millis }
  { (p.write 1 o.out).say 2 o.complaint with status := o.status }

/-- What keeps output to a channel from being written. -/
def Process.hindrance? (p : Process) (channel : Nat) : Option String :=
  match p.sink channel with
  | .closed => some "Bad file descriptor"
  | .full => some "No space left on device"
  | _ => none

/-- Adds the outcome of a program of that name to a process; output that cannot be written is a
failure. -/
def Process.afterProgram (p : Process) (name : String) (o : Outcome) : Process :=
  let q := p.after o
  if o.out.bytes.isEmpty && !o.out.isEndless then q
  else match p.hindrance? 1 with
    | none => q
    | some why =>
      if shellOwn.contains name then
        if p.extended then { q.complain (name ++ ": write error: " ++ why) with status := 1 }
        else { q.complain (name ++ ": " ++ name ++ ": I/O error") with status := 1 }
      else
        let what := if name = "cat" then "standard output" else "write error"
        { q.say 2 (name ++ ": " ++ what ++ ": " ++ why ++ "\n") with status := 1 }

end HostAgent.Shell
