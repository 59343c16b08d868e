/-!
# Patterns

* `Pattern` — the patterns of the shell, in which a star stands for any text and a question mark
  for any character; a backslash takes a character as it is.
* `Regex` — basic regular expressions: characters, sets and points, each perhaps repeated, and
  anchors at the ends.
-/

namespace HostAgent.Shell

/-- A set of characters. -/
structure CharClass where
  negated : Bool := false
  ranges : List (Char × Char) := []
  deriving DecidableEq, Repr

/-- Whether a set has a character. -/
def CharClass.has (s : CharClass) (c : Char) : Bool :=
  s.ranges.any (fun (a, b) => a.val ≤ c.val && c.val ≤ b.val) != s.negated

/-- The ranges of the named classes. -/
def namedRanges (name : String) : List (Char × Char) :=
  match name with
  | "digit" => [('0', '9')]
  | "alpha" => [('a', 'z'), ('A', 'Z')]
  | "alnum" => [('a', 'z'), ('A', 'Z'), ('0', '9')]
  | "upper" => [('A', 'Z')]
  | "lower" => [('a', 'z')]
  | "space" => [('\t', '\r'), (' ', ' ')]
  | "blank" => [('\t', '\t'), (' ', ' ')]
  | "punct" => [('!', '/'), (':', '@'), ('[', '\x60'), ('\x7b', '~')]
  | "xdigit" => [('a', 'f'), ('A', 'F'), ('0', '9')]
  | _ => []

/-- The ranges of a set up to its bracket, and what follows. -/
def classRanges : Nat → List Char → Option (List (Char × Char) × List Char)
  | 0, _ => none
  | fuel + 1, cs =>
    match cs with
    | [] => none
    | '[' :: ':' :: r =>
      let name := r.takeWhile (· != ':')
      match r.drop name.length with
      | ':' :: ']' :: ']' :: rest => some (namedRanges (String.ofList name), rest)
      | ':' :: ']' :: rest =>
        (classRanges fuel rest).map fun (rs, r) => (namedRanges (String.ofList name) ++ rs, r)
      | _ => none
    | a :: ']' :: r => some ([(a, a)], r)
    | a :: '-' :: ']' :: r => some ([(a, a), ('-', '-')], r)
    | a :: '-' :: b :: ']' :: r => some ([(a, b)], r)
    | a :: '-' :: b :: r => (classRanges fuel r).map fun (rs, r) => ((a, b) :: rs, r)
    | a :: r => (classRanges fuel r).map fun (rs, r) => ((a, a) :: rs, r)

/-- The set behind an opening bracket, and what follows. -/
def charClass? (cs : List Char) : Option (CharClass × List Char) :=
  match cs with
  | '!' :: r | '^' :: r =>
    (classRanges r.length r).map fun (ranges, rest) => ({ negated := true, ranges }, rest)
  | r => (classRanges r.length r).map fun (ranges, rest) => ({ ranges }, rest)

/-- A piece of a pattern. -/
inductive Glob where
  | char (c : Char)
  | one
  | any
  | set (s : CharClass)
  deriving DecidableEq, Repr

namespace Pattern

/-- The pieces of a pattern. -/
def read : Nat → List Char → List Glob
  | 0, _ => []
  | fuel + 1, cs =>
    match cs with
    | [] => []
    | '\\' :: c :: r => .char c :: read fuel r
    | '*' :: r => .any :: read fuel r
    | '?' :: r => .one :: read fuel r
    | '[' :: r =>
      match charClass? r with
      | some (s, rest) => .set s :: read fuel rest
      | none => .char '[' :: read fuel r
    | c :: r => .char c :: read fuel r

/-- Whether pieces fit a whole text. -/
def fits : List Glob → List Char → Bool
  | [], cs => cs.isEmpty
  | .any :: gs, cs => (List.range (cs.length + 1)).any fun n => fits gs (cs.drop n)
  | .char a :: gs, c :: cs => a == c && fits gs cs
  | .one :: gs, _ :: cs => fits gs cs
  | .set s :: gs, c :: cs => s.has c && fits gs cs
  | _ :: _, [] => false

/-- Whether a pattern fits a whole text. -/
def isMatch (pattern text : List Char) : Bool :=
  fits (read (pattern.length + 1) pattern) text

/-- The text without the part at its beginning that fits: the longest one, or the shortest. -/
def dropPrefix (longest : Bool) (pattern text : List Char) : List Char :=
  let cuts := List.range (text.length + 1)
  let cuts := if longest then cuts.reverse else cuts
  match cuts.find? fun n => isMatch pattern (text.take n) with
  | some n => text.drop n
  | none => text

/-- The text without the part at its end that fits: the longest one, or the shortest. -/
def dropSuffix (longest : Bool) (pattern text : List Char) : List Char :=
  let cuts := List.range (text.length + 1)
  let cuts := if longest then cuts else cuts.reverse
  match cuts.find? fun n => isMatch pattern (text.drop n) with
  | some n => text.take n
  | none => text

end Pattern

/-- A piece of a regular expression. -/
inductive Atom where
  | char (c : Char)
  | point
  | set (s : CharClass)
  deriving DecidableEq, Repr

/-- A basic regular expression without groups. -/
structure Regex where
  fromStart : Bool := false
  atoms : List (Atom × Bool) := []
  toEnd : Bool := false
  deriving DecidableEq, Repr

namespace Regex

/-- Whether a piece fits a character. -/
def fitsChar : Atom → Char → Bool
  | .char a, c => a == c
  | .point, _ => true
  | .set s, c => s.has c

/-- The pieces of an expression, each with whether it is repeated, and whether the last is the
anchor at the end. -/
def readAtoms : Nat → List Char → List (Atom × Bool) × Bool
  | 0, _ => ([], false)
  | fuel + 1, cs =>
    let add (a : Atom) (r : List Char) : List (Atom × Bool) × Bool :=
      let isRepeated := r.head? == some '*'
      let (more, toEnd) := readAtoms fuel (if isRepeated then r.drop 1 else r)
      ((a, isRepeated) :: more, toEnd)
    match cs with
    | [] => ([], false)
    | ['$'] => ([], true)
    | '\\' :: c :: r => add (.char c) r
    | '.' :: r => add .point r
    | '[' :: r =>
      match charClass? r with
      | some (s, rest) => add (.set s) rest
      | none => add (.char '[') r
    | c :: r => add (.char c) r

/-- Reads an expression. -/
def read (cs : List Char) : Regex :=
  let fromStart := cs.head? == some '^'
  let (atoms, toEnd) := readAtoms (cs.length + 1) (if fromStart then cs.drop 1 else cs)
  { fromStart, atoms, toEnd }

/-- What is left of a text after pieces that fit at its beginning.  Repeated pieces take as much as
they can. -/
def rest? (toEnd : Bool) : List (Atom × Bool) → List Char → Option (List Char)
  | [], cs => if toEnd && !cs.isEmpty then none else some cs
  | (a, true) :: as, cs =>
    let n := (cs.takeWhile (fitsChar a)).length
    (List.range (n + 1)).reverse.findSome? fun k => rest? toEnd as (cs.drop k)
  | (a, false) :: as, c :: cs => if fitsChar a c then rest? toEnd as cs else none
  | (_, false) :: _, [] => none

/-- The first place that fits, as what precedes it, what it is, and what follows. -/
def find? (x : Regex) : List Char → Option (List Char × List Char × List Char)
  | cs =>
    let starts := if x.fromStart then [0] else List.range (cs.length + 1)
    starts.findSome? fun k =>
      (rest? x.toEnd x.atoms (cs.drop k)).map fun r =>
        (cs.take k, (cs.drop k).take (cs.length - k - r.length), r)

end Regex

end HostAgent.Shell
