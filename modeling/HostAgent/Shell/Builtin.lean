import HostAgent.Shell.Arithmetic
import HostAgent.Shell.Lookup
import HostAgent.Shell.Signal

/-!
# Commands of the shell itself

Those that change the process without carrying out further commands.

* `Process.evaluate` — the value of an arithmetic expression or assignment.
* `Process.readLine` — a line of input into variables.
* `Process.signal` — a signal to the process itself, or to one in its background.
* `Process.builtin?` — the process after a command of its own, if there is one of that name.
-/

namespace HostAgent.Shell

/-- The value of an arithmetic expression or assignment; there may be a complaint instead. -/
def Process.evaluate (p : Process) (cs : List Char) : Option Int × Process :=
  let lookUp (name : String) : Int := ((p.lookUp? name).map Printf.intOf).getD 0
  let (name, value) := match Arithmetic.assignment? cs with
    | some (name, value) => (some name, value)
    | none => (none, cs)
  match Arithmetic.eval? lookUp value, name with
  | some n, some name => (some n, p.set name (toString n))
  | some n, none => (some n, p)
  | none, _ =>
    let s := String.ofList cs
    let divides := cs.contains '/' || cs.contains '%'
    let why := if p.extended then
        if divides then s ++ ": division by 0 (error token is \"" ++
          String.ofList ((cs.reverse.takeWhile fun c => c != '/' && c != '%').reverse) ++ "\")"
        else s ++ ": syntax error: operand expected (error token is \"" ++ s ++ "\")"
      else if divides then "arithmetic expression: division by zero: \"" ++ s ++ "\""
      else "arithmetic expression: expecting primary: \"" ++ s ++ "\""
    (none, p.complain why)

/-- What a line of input gives to variables: fields, and all that is left to the last one. -/
def sharedOut : List String → List Char → List (String × String)
  | [], _ => []
  | [n], cs =>
    let cs := (cs.dropWhile (·.isWhitespace)).reverse.dropWhile (·.isWhitespace)
    [(n, String.ofList cs.reverse)]
  | n :: ns, cs =>
    let cs := cs.dropWhile (·.isWhitespace)
    let field := cs.takeWhile (!·.isWhitespace)
    (n, String.ofList field) :: sharedOut ns (cs.drop field.length)

/-- Reads a line of input into variables. -/
def Process.readLine (p : Process) (names : List String) : Process :=
  let names := names.filter (!·.startsWith "-")
  let names := if names.isEmpty then ["REPLY"] else names
  let bytes := p.input.take (p.input.bytes.length + p.input.cycle.length)
  let line := bytes.takeWhile (· != 10)
  let ended := (bytes.drop line.length).isEmpty
  let p := { p with
    input := { p.input with bytes := bytes.drop (line.length + 1) }
    status := if ended then 1 else 0 }
  (sharedOut names (Text.Utf8.lossy line).toList).foldl (fun p (n, v) => p.set n v) p

/-- Sends a signal to the process itself or to one in its background. -/
def Process.signal (p : Process) (signal : Nat) (target : String) : Process :=
  let harmless := [0, 17, 18, 23, 28].contains signal
  if target = toString p.id ∨ target = "0" then
    if harmless then p
    else if signal = 19 ∨ signal = 20 then p.stuck
    else { p with flow := .killed signal }
  else match target.toNat? with
    | some n =>
      if p.jobs.any (·.id == n) then
        if harmless then p
        else { p with jobs := p.jobs.map fun j =>
          if j.id == n && j.finish > p.clock then
            { j with finish := p.clock, status := 128 + signal } else j }
      else { p.complain "kill: No such process\n" with status := 1 }
    | none => { p.complain ("kill: Illegal number: " ++ target) with status := 2 }

/-! ## The commands -/

namespace Process

/-- The process after something that succeeds. -/
def done (p : Process) : Process :=
  { p with status := 0 }

/-- The process after something that fails with a complaint. -/
def failing (p : Process) (status : Nat) (why : String) : Process :=
  { p.complain why with status }

/-- The process after something that fails and, but for the extended shell, ends it. -/
def giving (p : Process) (why extendedWhy : String) : Process :=
  if p.extended then p.failing 1 extendedWhy else { p.failing 2 why with flow := .ended }

/-- The first argument as a number. -/
def countOf? (args : List String) : Option Nat :=
  args.head?.bind String.toNat?

/-- Ends the shell. -/
def exit (p : Process) (args : List String) : Process :=
  match args.head?, countOf? args with
  | some a, none =>
    let why := if p.extended then "exit: " ++ a ++ ": numeric argument required"
      else "exit: Illegal number: " ++ a
    { p.failing 2 why with flow := .ended }
  | _, n => { p with status := n.getD p.status, flow := .ended }

/-- Sets options and arguments. -/
def setOptions (p : Process) (args : List String) : Process :=
  match args with
  | "--" :: rest => { p with arguments := rest }
  | args => args.foldl (fun p a =>
      let on := a.startsWith "-"
      let has (c : Char) := a.toList.contains c
      if a == "pipefail" then p
      else if !on && !a.startsWith "+" then { p with arguments := args.filter (!·.startsWith "-") }
      else
        { p with
          strict := if has 'e' then on else p.strict
          careful := if has 'u' then on else p.careful
          traced := if has 'x' then on else p.traced
          thorough := p.thorough || (p.extended && a == "-o" && args.contains "pipefail") }) p

/-- Gives variables values and makes them seen, constant or local. -/
def declare (p : Process) (name : String) (args : List String) : Process :=
  args.foldl (fun p a =>
    let k := String.ofList (a.toList.takeWhile (· != '='))
    let p := if name = "local" then p.makeLocal k else p
    let p := if a.toList.contains '=' then p.set k (a.drop (k.length + 1)).toString else p
    if name = "export" then { p with exported := k :: p.exported }
    else if name = "readonly" then { p with constants := k :: p.constants } else p) p

/-- Sets what is done at signals. -/
def trap (p : Process) (args : List String) : Process :=
  match args with
  | action :: names => names.foldl (fun p n =>
      let n := toString ((signalNumber? n).getD 0)
      let others := p.traps.filter (·.1 != n)
      { p with traps := if action = "-" then others else (n, action.toList) :: others }) p
  | [] => p

/-- Waits for what runs in the background. -/
def wait (p : Process) (args : List String) : Process :=
  let awaited : List Job := p.jobs.filter fun j => args.isEmpty || args.contains (toString j.id)
  let status := if args.isEmpty then 0 else (awaited.getLast?.map Job.status).getD 127
  let killed : List Job := awaited.filter fun j => j.status > 128
  let p : Process := { p with
    clock := (awaited.map Job.finish).foldl max p.clock, status
    jobs := p.jobs.filter fun j => !awaited.contains j }
  if p.extended then p
  else killed.foldl (fun p j => p.say 2 (signalText (j.status - 128))) p

/-- Goes to another place. -/
def changeDirectory (p : Process) (args : List String) : Process :=
  let target := args.headD ((p.lookUp? "HOME").getD "/root")
  let target := if target = "-" then (p.lookUp? "OLDPWD").getD "/" else target
  if p.isDirectory target then
    let place := p.placed target
    let q : Process := { (p.set "OLDPWD" p.directory).set "PWD" place with directory := place }
    done (if args.head? = some "-" then q.say 1 (place ++ "\n") else q)
  else if p.extended then
    let why := if p.isPresent target then "Not a directory" else "No such file or directory"
    p.failing 1 ("cd: " ++ target ++ ": " ++ why)
  else p.failing 2 ("cd: can't cd to " ++ target)

/-- Evaluates sums; the last one decides whether it succeeds. -/
def evaluateAll (p : Process) (args : List String) : Process :=
  args.foldl (fun p a =>
    match p.evaluate a.toList with
    | (some n, p) => { p with status := if n = 0 then 1 else 0 }
    | (none, p) => { p with status := 1 }) p.done

/-- The signal that arguments ask for and whom to send it to, or the process after another use of
the command. -/
def signalAndTargets (p : Process) (args : List String) : Except Process (Nat × List String) :=
  match args with
  | [] =>
    let usage := if p.extended then
        p.say 2 ("kill: usage: kill [-s sigspec | -n signum | -sigspec] pid | jobspec ... or " ++
          "kill -l [sigspec]\n")
      else p.complain ("kill: Usage: kill [-s sigspec | -signum | -sigspec] [pid | job]... or\n" ++
        "kill -l [exitstatus]")
    .error { usage with status := 2 }
  | ["-l", n] =>
    match n.toNat?.bind fun n => signalName? (if n > 128 then n - 128 else n) with
    | some s => .error (p.say 1 (s ++ "\n")).done
    | none => .error (p.failing 2 ("kill: Illegal number: " ++ n))
  | "-s" :: s :: rest => asked s rest
  | a :: rest =>
    if a = "--" then .ok (15, rest)
    else if a.startsWith "-" then asked (a.drop 1).toString rest
    else .ok (15, args)
where
  /-- A signal by its name or number. -/
  asked (s : String) (rest : List String) : Except Process (Nat × List String) :=
    match signalNumber? s with
    | some n => .ok (n, rest)
    | none =>
      let option := String.ofList (((args.headD "").toList.drop 1).take 1)
      .error (p.failing 2 ("kill: Illegal option -" ++ option))

/-- Says which program a name stands for, or fails. -/
def sayCommand (p : Process) (name : String) : Process :=
  if (builtins p.extended).contains name || shellOwn.contains name then
    (p.say 1 (name ++ "\n")).done
  else match programOf? p name with
    | some program => (p.say 1 ("/usr/bin/" ++ program ++ "\n")).done
    | none => { p with status := 127 }

/-- The process after looking in vain for a script to carry out. -/
def lackingScript (p : Process) (name path : String) : Process :=
  let why := if path.toList.contains '/' then "cannot open " ++ path ++ ": No such file"
    else path ++ ": not found"
  p.giving (name ++ ": " ++ why) (path ++ ": No such file or directory")

/-- The process after a command of its own, if there is one of that name. -/
def builtin? (p : Process) (name : String) (args : List String) : Option Process :=
  match name with
  | ":" | "ulimit" | "times" | "hash" | "jobs" | "alias" | "shopt" => some p.done
  | "umask" => some (if args.isEmpty then p.say 1 "0022\n" else p).done
  | "pwd" => some (p.say 1 (p.directory ++ "\n")).done
  | "type" => some (args.foldl described p.done)
  | "exit" => some (p.exit args)
  | "return" => some { p with status := (countOf? args).getD p.status, flow := .returning }
  | "break" => some { p with flow := .leaving ((countOf? args).getD 1) }
  | "continue" => some { p with flow := .repeating ((countOf? args).getD 1) }
  | "set" => some (p.setOptions args).done
  | "shift" =>
    let n := (countOf? args).getD 1
    some (if n ≤ p.arguments.length then { p with arguments := p.arguments.drop n }.done
      else { p.failing 2 "shift: can't shift that many" with flow := .ended })
  | "local" =>
    some (if p.inFunction then (p.declare name args).done
      else p.giving "local: not in a function" "local: can only be used in a function")
  | "export" | "readonly" => some (p.declare name args).done
  | "unset" =>
    some (args.foldl (fun p a =>
      { p with bindings := p.bindings.erase a, functions := p.functions.filter (·.1 != a) }) p).done
  | "read" => some (p.readLine args)
  | "trap" => some (p.trap args).done
  | "wait" => some (p.wait args)
  | "let" => some (p.evaluateAll args)
  | "cd" => some (p.changeDirectory args)
  | _ => none

end Process

end HostAgent.Shell
