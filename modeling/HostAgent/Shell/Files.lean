import HostAgent.Shell.Lookup

/-!
# Programs on files

Programs that make, change or remove files and places, which a process therefore carries out on its
own state; and programs whose complaints the shell words.

* `Process.perform` — the process after a program that carries out no other command.
-/

namespace HostAgent.Shell.Process

/-- The process after a program that fails with a complaint about a path. -/
def refusing (p : Process) (what path why : String) : Process :=
  { p.say 2 (what ++ " '" ++ path ++ "': " ++ why ++ "\n") with status := 1 }

/-- A program without its operand. -/
def lackingOperand (p : Process) (name what : String) : Process :=
  p.after (Program.misused name 1 ("missing " ++ what))

/-- Removes a file, or a place with all that lies in it. -/
def removePath (forced deep : Bool) (p : Process) (path : String) : Process :=
  let place := p.placed path
  let inside (other : String) := other == place || other.startsWith (place ++ "/")
  if (p.files.lookup place).isSome then p.remove path
  else if p.places.contains place && deep then
    { p with places := p.places.filter (!inside ·), files := p.files.filter (!inside ·.1) }
  else if p.isDirectory path then p.refusing "rm: cannot remove" path "Is a directory"
  else if p.isPresent path || forced then p
  else p.refusing "rm: cannot remove" path "No such file or directory"

/-- Removes files. -/
def removeAll (p : Process) (args : List String) : Process :=
  let (options, paths) := Program.letters args
  let forced := options.contains 'f'
  if paths.isEmpty && !forced then p.lackingOperand "rm" "operand"
  else paths.foldl (removePath forced (options.contains 'r' || options.contains 'R'))
    { p with status := 0 }

/-- Makes places. -/
def makeDirectories (p : Process) (args : List String) : Process :=
  let (options, paths) := Program.letters args
  let lenient := options.contains 'p'
  if paths.isEmpty then p.lackingOperand "mkdir" "operand"
  else paths.foldl (fun p a =>
    if p.isPresent a then
      if lenient && p.isDirectory a then p
      else p.refusing "mkdir: cannot create directory" a "File exists"
    else if lenient || p.hasRoom a then { p with places := p.placed a :: p.places }
    else p.refusing "mkdir: cannot create directory" a "No such file or directory")
    { p with status := 0 }

/-- Makes files that are not there. -/
def touchAll (p : Process) (args : List String) : Process :=
  let (_, paths) := Program.letters args
  if paths.isEmpty then p.lackingOperand "touch" "file operand"
  else paths.foldl (fun p a =>
    if p.isPresent a then p
    else if p.hasRoom a then p.store a []
    else p.refusing "touch: cannot touch" a "No such file or directory") { p with status := 0 }

/-- Writes what is read to all files and to the output. -/
def copyToAll (p : Process) (args : List String) : Process :=
  let all := p.input
  let p : Process := args.foldl (fun p a =>
    if a.startsWith "-" || a = "/dev/null" then p
    else if a = "/dev/stderr" then p.write 2 all
    else if a = "/dev/stdout" then p.write 1 all
    else p.store a all.bytes) { p with input := {} }
  { p.write 1 all with status := 0 }

/-- The complaint of the extended shell about words that are no condition. -/
def wordCountFault (words : List String) : String :=
  match words with
  | [a, _] => a ++ ": unary operator expected"
  | [_, b, _] => b ++ ": binary operator expected"
  | _ => "too many arguments"

/-- Tests a condition. -/
def testCondition (p : Process) (name : String) (args : List String) : Process :=
  if name = "[" && args.getLast? != some "]" then
    { p.complain (if p.extended then "[: missing \x60]'" else "[: missing ]") with status := 2 }
  else
    let words := if name = "[" then args.dropLast else args
    match Program.Condition.holds p.surroundings words with
    | .ok b => { p with status := if b then 0 else 1 }
    | .error why =>
      { p.complain (name ++ ": " ++ if p.extended then wordCountFault words else why) with
          status := 2 }

/-- The wording of what is wrong with a number. -/
def numberFault (extended : Bool) : Printf.Fault → String
  | .notNumber a => a ++ if extended then ": invalid number" else ": expected numeric value"
  | .trailing a => a ++ if extended then ": invalid number" else ": not completely converted"

/-- Writes a format. -/
def writeFormat (p : Process) (args : List String) : Process :=
  match if args.head? = some "--" then args.tail else args with
  | [] =>
    let q := if p.extended then p.say 2 "printf: usage: printf [-v var] format [arguments]\n"
      else p.complain "printf: usage: printf format [arg ...]"
    { q with status := 2 }
  | form :: args =>
    let r := Printf.format p.extended form args
    r.faults.foldl (fun q f =>
      { q.complain ("printf: " ++ numberFault p.extended f) with status := 1 })
      (p.afterProgram "printf" { out := { bytes := r.bytes }, left := p.input })

/-- The process after a program that carries out no other command. -/
def perform (p : Process) (name : String) (args : List String) : Process :=
  match name with
  | "tee" => p.copyToAll args
  | "rm" => p.removeAll args
  | "mkdir" => p.makeDirectories args
  | "touch" => p.touchAll args
  | "test" | "[" => p.testCondition name args
  | "printf" => p.writeFormat args
  | name =>
    match Program.run? p.surroundings name name args p.input with
    | some o => p.afterProgram name o
    | none => { p with status := 127 }

end HostAgent.Shell.Process
