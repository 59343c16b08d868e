import HostAgent.Shell.Pattern
import HostAgent.Shell.Program.Options

/-!
# Programs on lines

Counting, ordering, searching and cutting the lines of what is read.
-/

namespace HostAgent.Shell.Program

/-- Counts lines, words and bytes. -/
def counts (args : List String) (s : Surroundings) (input : Stream) : Outcome :=
  let (options, files) := letters args
  filter s "wc" files input fun all =>
    let words (bs : List UInt8) : Nat :=
      ((bs.splitOnP fun b => b == 32 || (9 ≤ b && b ≤ 13)).filter (!·.isEmpty)).length
    let chosen := [('l', all.bytes.countP (· == 10)), ('w', words all.bytes),
      ('m', (charsOf all.bytes).length), ('c', all.bytes.length)].filter fun (c, _) =>
        if options.isEmpty then c != 'm' else options.contains c
    let texts := chosen.map fun (_, n) => toString n
    let padded (s : String) := String.ofList (List.replicate (7 - s.length) ' ') ++ s
    let line := match texts with
      | [t] => t
      | ts => " ".intercalate (ts.map padded)
    if all.isEndless then { millis := forever }
    else if !files.isEmpty && files.all (fun f => f != "-" && (s.files f).isNone) then writes []
    else
      let name := if files.length = 1 then " " ++ files.headD "" else ""
      writes (Printf.bytes (line ++ name ++ "\n"))

/-- Whether one line is another or comes before it: the first byte that differs decides, and the
shorter of two lines that agree comes first. -/
def notAfter : List UInt8 → List UInt8 → Bool
  | [], _ => true
  | _ :: _, [] => false
  | x :: a, y :: b => x < y || (x == y && notAfter a b)

/-- Whether one line comes before another. -/
def lineBefore (numeric : Bool) (a b : List UInt8) : Bool :=
  let number (l : List UInt8) := Printf.intOf
    (String.ofList ((charsOf l).dropWhile fun c => c == ' '))
  if numeric && number a != number b then decide (number a < number b)
  else notAfter a b

/-- The lines without those that equal the one before, each with how often it came. -/
def runs (lines : List (List UInt8)) : List (Nat × List UInt8) :=
  lines.foldr (fun l rs => match rs with
    | (n, l') :: rest => if l = l' then (n + 1, l) :: rest else (1, l) :: rs
    | [] => [(1, l)]) []

/-- The lines that hold an expression, or do not. -/
def search (args : List String) (s : Surroundings) (input : Stream) : Outcome :=
  let (options, rest) := letters args
  match rest with
  | [] =>
    fails 2 ("Usage: grep [OPTION]... PATTERNS [FILE]...\n" ++
      "Try 'grep --help' for more information.\n")
  | pattern :: files =>
    let lower (cs : List Char) := if options.contains 'i' then cs.map Char.toLower else cs
    let x : Regex := if options.contains 'F' then
        { atoms := (lower pattern.toList).map fun c => (.char c, false) }
      else Regex.read (lower pattern.toList)
    filter s "grep" files input fun all =>
      if all.isEndless then { millis := forever }
      else
        let found := (linesOf all.bytes).filter fun l =>
          (x.find? (lower (charsOf l))).isSome != options.contains 'v'
        let o := if options.contains 'q' then writes []
          else if options.contains 'c' then writes (Printf.bytes (toString found.length ++ "\n"))
          else writes (unlines found)
        { o with status := if found.isEmpty then 1 else 0 }

/-- The fields or characters of each line. -/
def cut (args : List String) (s : Surroundings) (input : Stream) : Outcome :=
  let option (c : Char) : Option String :=
    (args.zipIdx.findSome? fun (a, i) =>
      match a.toList with
      | '-' :: d :: r =>
        if c ≠ d then none else some (if r.isEmpty then args[i + 1]?.getD "" else String.ofList r)
      | _ => none)
  let chosen (spec : String) (n : Nat) : Bool :=
    (spec.toList.splitOn ',').any fun r =>
      match r.splitOn '-' with
      | [a] => Printf.natOf a == n
      | [a, []] => Printf.natOf a ≤ n
      | [[], b] => n ≤ Printf.natOf b
      | [a, b] => Printf.natOf a ≤ n && n ≤ Printf.natOf b
      | _ => false
  let delimiter := ((option 'd').bind (·.toList.head?)).getD '\t'
  filter s "cut" [] input <| complete fun bs =>
    unlines <| (linesOf bs).map fun l =>
      match option 'f', (option 'c').or (option 'b') with
      | some spec, _ =>
        let fields := (charsOf l).splitOn delimiter
        if fields.length ≤ 1 then l
        else bytesOf (List.intercalate [delimiter]
          ((fields.zipIdx.filter fun (_, i) => chosen spec (i + 1)).map (·.1)))
      | none, some spec =>
        (l.zipIdx.filter fun (_, i) => chosen spec (i + 1)).map (·.1)
      | none, none => l

end HostAgent.Shell.Program
