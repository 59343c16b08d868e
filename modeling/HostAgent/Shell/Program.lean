import HostAgent.Shell.Program.Condition
import HostAgent.Shell.Program.Editing
import HostAgent.Shell.Program.Expression
import HostAgent.Shell.Program.Lines
import HostAgent.Shell.Program.ByteSets

/-!
# Programs

The small programs that scripts are made of, as functions: from arguments and input to output,
complaints and a status.

* `Program.run?` — the outcome of a program, if there is one of that name.
-/

namespace HostAgent.Shell.Program

/-- Writes its arguments. -/
def echo (extended : Bool) (args : List String) : Outcome :=
  let options (a : String) := a.length > 1 && a.startsWith "-" &&
    (a.toList.drop 1).all fun c => ['n', 'e', 'E'].contains c
  let (given, words) := if extended then (args.takeWhile options, args.dropWhile options)
    else match args with
      | "-n" :: rest => (["-n"], rest)
      | args => ([], args)
  let has (c : Char) := given.any (·.toList.contains c)
  let text := " ".intercalate words
  let (bs, stop) := if extended && !has 'e' then (Printf.bytes text, false)
    else Printf.echoed extended text
  writes (bs ++ if stop || has 'n' then [] else [10])

/-- Milliseconds of a length of time with a unit. -/
def millisOf? (s : String) : Option Nat :=
  let cs := s.toList
  let whole := cs.takeWhile Char.isDigit
  let (fraction, unit) := match cs.drop whole.length with
    | '.' :: r => (r.takeWhile Char.isDigit, r.dropWhile Char.isDigit)
    | r => ([], r)
  if whole.isEmpty && fraction.isEmpty then none
  else
    let millis := 1000 * Printf.natOf whole + Printf.natOf ((fraction ++ ['0', '0', '0']).take 3)
    match unit with
    | [] | ['s'] => some millis
    | ['m'] => some (60 * millis)
    | ['h'] => some (3600 * millis)
    | ['d'] => some (86400 * millis)
    | _ => none

/-- Waits. -/
def sleep (args : List String) : Outcome :=
  match args with
  | [] => fails 1 "sleep: missing operand\nTry 'sleep --help' for more information.\n"
  | args =>
    match args.find? fun a => (millisOf? a).isNone with
    | some a =>
      fails 1 ("sleep: invalid time interval '" ++ a ++
        "'\nTry 'sleep --help' for more information.\n")
    | none => { millis := (args.filterMap millisOf?).foldl (· + ·) 0 }

/-- The numbers from one to another. -/
def sequence (args : List String) : Outcome :=
  let numbers := args.map Printf.intOf
  let range (a step b : Int) : List UInt8 :=
    let n := if step > 0 then ((b - a) / step + 1).toNat
      else if step < 0 then ((a - b) / (-step) + 1).toNat else 0
    (List.range n).flatMap fun (i : Nat) => Printf.bytes (toString (a + step * (i : Int))) ++ [10]
  match numbers with
  | [b] => writes (range 1 1 b)
  | [a, b] => writes (range a 1 b)
  | [a, step, b] => writes (range a step b)
  | _ => fails 1 "seq: missing operand\nTry 'seq --help' for more information.\n"

/-- The last part of a path, without an ending. -/
def baseName (path ending : String) : String :=
  let cs := (path.toList.reverse.dropWhile (· == '/')).reverse
  if cs.isEmpty then (if path.isEmpty then "" else "/")
  else
    let last := (cs.reverse.takeWhile (· != '/')).reverse
    let s := String.ofList last
    if s != ending && s.endsWith ending then (s.dropEnd ending.length).toString else s

/-- A path without its last part. -/
def directoryName (path : String) : String :=
  let cs := path.toList.reverse.dropWhile (· == '/')
  let up := (cs.dropWhile (· != '/')).dropWhile (· == '/')
  if up.isEmpty then (if path.startsWith "/" then "/" else ".") else String.ofList up.reverse

/-- The outcome of a program whose options are known, if there is one of that name. -/
def perform? (s : Surroundings) (name : String) (args : List String) (input : Stream) :
    Option Outcome :=
  match name with
  | "true" => some { left := input }
  | "false" => some { status := 1, left := input }
  | "echo" => some { echo s.extended args with left := input }
  | "printf" =>
    match if args.head? = some "--" then args.tail else args with
    | [] => some { misused "printf" 1 "missing operand" with left := input }
    | form :: args =>
      let r := Printf.format false form args
      let unused := if r.left.isEmpty then ""
        else
          "printf: warning: ignoring excess arguments, starting with '" ++ r.left.headD "" ++ "'\n"
      let faults := String.join (r.faults.map fun
        | .notNumber a => "printf: '" ++ a ++ "': expected a numeric value\n"
        | .trailing a => "printf: '" ++ a ++ "': value not completely converted\n")
      some { writes r.bytes with
               complaint := faults ++ unused
               status := if r.faults.isEmpty then 0 else 1
               left := input }
  | "cat" => some (filter s "cat" (args.filter (· != "-u")) input fun all => { out := all })
  | "head" =>
    match (countFault? 'c' "bytes" args).or (countFault? 'n' "lines" args), count? 'c' args with
    | some fault, _ => some { fails 1 ("head: " ++ fault ++ "\n") with left := input }
    | none, some (n, files) =>
      some (filter s "head" files input fun all => writes (all.take n.toNat))
    | none, none =>
      let (n, files) := (count? 'n' args).getD (10, args)
      some (filter s "head" files input fun all => writes (firstLines n.toNat all))
  | "tail" =>
    match (countFault? 'c' "bytes" args).or (countFault? 'n' "lines" args), count? 'c' args with
    | some fault, _ => some { fails 1 ("tail: " ++ fault ++ "\n") with left := input }
    | none, some (n, files) =>
      some (filter s "tail" files input <| complete fun bs => bs.drop (bs.length - n.natAbs))
    | none, none =>
      let (n, files) := (count? 'n' args).getD (10, args)
      some (filter s "tail" files input <| complete fun bs =>
        unlines ((linesOf bs).drop ((linesOf bs).length - n.natAbs)))
  | "tr" => some (exchange args input)
  | "sed" =>
    let quiet := args.contains "-n"
    let args := args.filter fun a => a != "-n" && a != "-e"
    match args with
    | [] =>
      some (fails 1
        "Usage: sed [OPTION]... \x7bscript-only-if-no-other-script\x7d [input-file]...\n")
    | script :: files =>
      let es := edits (script.length + 1) script.toList
      some (filter s "sed" files input <| complete fun bs =>
        let out := unlines ((editLines quiet es 1 ((linesOf bs).map charsOf)).map bytesOf)
        if bs.getLast? == some 10 || bs.isEmpty then out else out.dropLast)
  | "grep" => some (search args s input)
  | "wc" => some (counts args s input)
  | "sort" =>
    let (options, files) := letters args
    some (filter s "sort" files input <| complete fun bs =>
      let sorted := (linesOf bs).mergeSort (lineBefore (options.contains 'n'))
      let sorted := if options.contains 'r' then sorted.reverse else sorted
      unlines (if options.contains 'u' then (runs sorted).map (·.2) else sorted))
  | "uniq" =>
    let (options, files) := letters args
    some (filter s "uniq" files input <| complete fun bs =>
      unlines ((runs (linesOf bs)).map fun (n, l) =>
        if options.contains 'c' then
          let digits := toString n
          let margin := String.ofList (List.replicate (7 - digits.length) ' ')
          Printf.bytes (margin ++ digits ++ " ") ++ l
        else l))
  | "rev" => some (filter s "rev" args input <| complete fun bs =>
      unlines ((linesOf bs).map fun l => bytesOf (charsOf l).reverse))
  | "cut" => some (cut args s input)
  | "seq" => some { sequence args with left := input }
  | "sleep" => some { sleep args with left := input }
  | "yes" =>
    let text := if args.isEmpty then "y" else " ".intercalate args
    some { out := { cycle := Printf.bytes (text ++ "\n") }, left := input }
  | "basename" =>
    some { writes (Printf.bytes (baseName (args.headD "") (args[1]?.getD "") ++ "\n")) with
             left := input }
  | "dirname" =>
    some { writes (Printf.bytes (directoryName (args.headD "") ++ "\n")) with left := input }
  | "printenv" =>
    match args with
    | [] => some (writes (Printf.bytes (String.join
        (s.exported.entries.map fun (k, v) => k ++ "=" ++ v ++ "\n"))))
    | k :: _ =>
      match s.exported.get? k with
      | some v => some (writes (Printf.bytes (v ++ "\n")))
      | none => some { status := 1 }
  | "test" =>
    match Condition.holds s args with
    | .ok b => some { status := if b then 0 else 1, left := input }
    | .error why => some { fails 2 ("test: " ++ why ++ "\n") with left := input }
  | "expr" => some { Expression.run args with left := input }
  | "uname" =>
    some { writes (Printf.bytes "Linux\n") with left := input }
  | "whoami" => some { writes (Printf.bytes "root\n") with left := input }
  | "id" =>
    let (options, _) := letters args
    let text := if options.isEmpty then "uid=0(root) gid=0(root) groups=0(root)"
      else if options.contains 'n' then "root" else "0"
    some { writes (Printf.bytes (text ++ "\n")) with left := input }
  | "tty" => some { writes (Printf.bytes "not a tty\n") with status := 1, left := input }
  | "ls" =>
    let (_, paths) := letters args
    let (found, missing) := paths.partition fun a => (s.files a).isSome || s.directories a
    let complaint := String.join (missing.map fun a =>
      "ls: cannot access '" ++ a ++ "': No such file or directory\n")
    some { writes (Printf.bytes (String.join (found.map (· ++ "\n")))) with
             complaint, status := if missing.isEmpty then 0 else 2, left := input }
  | _ => none

/-- The outcome of a program, if there is one of that name. -/
def run? (s : Surroundings) (name called : String) (args : List String) (input : Stream) :
    Option Outcome :=
  match refused? name called args with
  | some o => some { o with left := input }
  | none => perform? s name args input

end HostAgent.Shell.Program
