import HostAgent.Shell.Pattern
import HostAgent.Shell.Program.Basic

/-!
# Editing of lines

* `Edit` — an editing command: on which lines, and what.
* `edits` — the commands that a text writes.
* `editLines` — lines after the commands.
-/

namespace HostAgent.Shell.Program

/-- A replacement with what was found in place of its ampersands. -/
def replacement (found : List Char) : List Char → List Char
  | '\\' :: 'n' :: r => '\n' :: replacement found r
  | '\\' :: c :: r => c :: replacement found r
  | '&' :: r => found ++ replacement found r
  | c :: r => c :: replacement found r
  | [] => []

/-- A line with the places that fit replaced: the first, or all. -/
def substitute (x : Regex) (new : List Char) (all : Bool) : Nat → List Char → List Char
  | 0, cs => cs
  | fuel + 1, cs =>
    match x.find? cs with
    | none => cs
    | some (before, found, after) =>
      let here := before ++ replacement found new
      if !all || x.fromStart then here ++ after
      else match found, after with
        | [], c :: after => here ++ c :: substitute x new all fuel after
        | [], [] => here
        | _, after => here ++ substitute x new all fuel after

/-- The text up to a delimiter that no backslash precedes, and what follows. -/
def upTo (delimiter : Char) : List Char → List Char × List Char
  | [] => ([], [])
  | '\\' :: c :: r =>
    let (a, b) := upTo delimiter r
    (if c = delimiter then c :: a else '\\' :: c :: a, b)
  | c :: r =>
    if c = delimiter then ([], r)
    else
      let (a, b) := upTo delimiter r
      (c :: a, b)

/-- An editing command: on which lines, and what. -/
structure Edit where
  line : Option Nat := none
  last : Bool := false
  pattern : Option Regex := none
  action : Char
  expression : Regex := {}
  replacement : List Char := []
  all : Bool := false
  prints : Bool := false

/-- Reads one editing command. -/
def edit? (cs : List Char) : Option (Edit × List Char) :=
  let cs := cs.dropWhile fun c => c == ' ' || c == ';' || c == '\n'
  let digits := cs.takeWhile Char.isDigit
  let (place, rest) : Edit × List Char :=
    if !digits.isEmpty then
      ({ line := some (Printf.natOf digits), action := ' ' }, cs.drop digits.length)
    else match cs with
      | '$' :: r => ({ last := true, action := ' ' }, r)
      | '/' :: r =>
        let (x, r) := upTo '/' r
        ({ pattern := some (Regex.read x), action := ' ' }, r)
      | r => ({ action := ' ' }, r)
  match rest with
  | 's' :: d :: r =>
    let (x, r) := upTo d r
    let (new, r) := upTo d r
    let flags := r.takeWhile fun c => c == 'g' || c == 'p'
    some ({ place with action := 's', expression := Regex.read x, replacement := new,
                       all := flags.contains 'g', prints := flags.contains 'p' },
      r.drop flags.length)
  | c :: r => if ['p', 'd', 'q'].contains c then some ({ place with action := c }, r) else none
  | [] => none

/-- Reads editing commands. -/
def edits : Nat → List Char → List Edit
  | 0, _ => []
  | fuel + 1, cs =>
    match edit? cs with
    | some (e, r) => e :: edits fuel r
    | none => []

/-- Edits one line: the lines that come out of it, and whether the rest is left out. -/
def editLine (quiet : Bool) (number : Nat) (isLast : Bool) :
    List Edit → List Char → List (List Char) × Bool
  | [], line => (if quiet then [] else [line], false)
  | e :: es, line =>
    let here := (e.line.all (· == number)) && (!e.last || isLast) &&
      e.pattern.all fun x => (x.find? line).isSome
    if !here then editLine quiet number isLast es line
    else match e.action with
      | 'd' => ([], false)
      | 'q' => (if quiet then [] else [line], true)
      | 'p' =>
        let (ls, stop) := editLine quiet number isLast es line
        (line :: ls, stop)
      | _ =>
        let new := substitute e.expression e.replacement e.all (line.length + 1) line
        let (ls, stop) := editLine quiet number isLast es new
        (if e.prints && (e.expression.find? line).isSome then new :: ls else ls, stop)

/-- Edits lines. -/
def editLines (quiet : Bool) (es : List Edit) : Nat → List (List Char) → List (List Char)
  | _, [] => []
  | n, l :: ls =>
    let (out, stop) := editLine quiet n ls.isEmpty es l
    if stop then out else out ++ editLines quiet es (n + 1) ls

end HostAgent.Shell.Program
