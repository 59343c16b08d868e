import HostAgent.Shell.Program.Basic

/-!
# Options of programs

* `letters` — the letters of options and the other arguments.
* `count?` — a count among options.
* `refused?` — the complaint of a program about an option that it does not know.
-/

namespace HostAgent.Shell.Program

/-- A count among options: behind its letter, or in the next argument; and what is left. -/
def count? (letter : Char) : List String → Option (Int × List String)
  | a :: rest =>
    match a.toList with
    | '-' :: c :: ds =>
      if c = letter then
        match ds, rest with
        | [], b :: rest => some (Printf.intOf b, rest)
        | ds, rest => some (Printf.intOf (String.ofList ds), rest)
      else if letter = 'n' ∧ c.isDigit then some (Printf.intOf (String.ofList (c :: ds)), rest)
      else none
    | _ => none
  | [] => none

/-- The complaint about a count that is none. -/
def countFault? (letter : Char) (what : String) (args : List String) : Option String := do
  let a ← args.head?
  let text ← match a.toList, args.tail with
    | ['-', c], b :: _ => if c = letter then some b else none
    | '-' :: c :: ds, _ => if c = letter then some (String.ofList ds) else none
    | _, _ => none
  let digits := match text.toList with
    | '-' :: ds | '+' :: ds => ds
    | ds => ds
  let shown := String.ofList (match text.toList with
    | '-' :: ds => ds
    | ds => ds)
  if !digits.isEmpty && digits.all Char.isDigit then none
  else some ("invalid number of " ++ what ++ ": '" ++ shown ++ "'")

/-- The letters of the options at the beginning, and the other arguments. -/
def letters : List String → List Char × List String
  | [] => ([], [])
  | a :: rest =>
    match a.toList with
    | '-' :: c :: cs =>
      if a = "--" then ([], rest)
      else
        let (more, args) := letters rest
        (c :: cs ++ more, args)
    | _ => ([], a :: rest)

/-- The complaint of a program about an option. -/
def misused (name : String) (status : Nat) (fault : String) : Outcome :=
  fails status (name ++ ": " ++ fault ++ "\nTry '" ++ name ++ " --help' for more information.\n")

/-- The letters of the options that a program knows, those with a value behind them, and the
status of its complaint about any other. -/
def known? (name : String) : Option (String × String × Nat) :=
  match name with
  | "cat" => some ("AbeEnstTuv", "", 1)
  | "head" => some ("qvz0123456789", "cn", 1)
  | "tail" => some ("fFqvz0123456789", "cns", 1)
  | "tr" => some ("cCdst", "", 1)
  | "wc" => some ("clLmw", "", 1)
  | "sort" => some ("bdfgiMhnRrVcCmsuz", "koStT", 2)
  | "uniq" => some ("cdDiuz", "fsw", 1)
  | "rev" => some ("0", "", 1)
  | "cut" => some ("nsz", "bcdf", 1)
  | "seq" => some ("w0123456789", "fs", 1)
  | "sleep" | "yes" | "whoami" | "pwd" => some ("", "", 1)
  | "basename" => some ("az", "s", 1)
  | "dirname" => some ("z", "", 1)
  | "printenv" => some ("0", "", 2)
  | "uname" => some ("asnrvmpio", "", 1)
  | "id" => some ("aZgGnruz", "", 1)
  | "tty" => some ("s", "", 2)
  | "tee" => some ("aip", "", 1)
  | "rm" => some ("dfiIrRv", "", 1)
  | "mkdir" => some ("pvZ", "m", 1)
  | "date" => some ("Ruhz", "dfIrs", 1)
  | "nohup" => some ("", "", 125)
  | "nice" => some ("0123456789", "n", 125)
  | "timeout" => some ("fpv", "ks", 125)
  | "touch" => some ("acfhm", "drt", 1)
  | "ls" => some ("aAbBcCdDfFgGhHiklLmnNopqQrRsStuUvxXZ1", "ITw", 2)
  | "env" => some ("0iv", "CSu", 125)
  | _ => none

/-- Whether a program reads options only in front of its other arguments. -/
def readsOptionsFirst (name : String) : Bool :=
  ["seq", "basename", "nohup", "nice", "timeout", "tr", "env"].contains name

/-- The first option that is not known. -/
def stranger? (flags valued : String) (first : Bool) : List String → Option String
  | [] => none
  | a :: rest =>
    match a.toList with
    | ['-'] => stranger? flags valued first rest
    | ['-', '-'] => none
    | '-' :: '-' :: _ => some ("unrecognized option '" ++ a ++ "'")
    | '-' :: cs =>
      let plain := cs.takeWhile flags.toList.contains
      match cs.drop plain.length with
      | [] => stranger? flags valued first rest
      | c :: value =>
        if valued.toList.contains c then
          match value, rest with
          | [], [] => some ("option requires an argument -- '" ++ String.ofList [c] ++ "'")
          | [], _ :: rest => stranger? flags valued first rest
          | _, rest => stranger? flags valued first rest
        else some ("invalid option -- '" ++ String.ofList [c] ++ "'")
    | _ => if first then none else stranger? flags valued first rest

/-- The complaint of a program, called by some name, about an option that it does not know. -/
def refused? (name called : String) (args : List String) : Option Outcome := do
  let (flags, valued, status) ← known? name
  let fault ← stranger? flags valued (readsOptionsFirst name) args
  pure (misused called status fault)

end HostAgent.Shell.Program
