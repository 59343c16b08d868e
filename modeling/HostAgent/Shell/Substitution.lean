import HostAgent.Shell.Pattern
import HostAgent.Shell.Printf

/-!
# Substitution in parameters

Operators that take a part of a text, replace parts of it, or change its case.

* `Substitution.perform?` — the text after an operator, if it is one.
-/

namespace HostAgent.Shell.Substitution

/-- The longest beginning of a text that fits a pattern, and what follows. -/
def leading? (pattern : List Char) (cs : List Char) : Option (List Char × List Char) :=
  (((List.range (cs.length + 1)).reverse.map cs.splitAt).find? fun (a, _) =>
    Pattern.isMatch pattern a)

/-- The text with what fits a pattern replaced: at the first place, or at all of them. -/
def replace (pattern new : List Char) (all : Bool) : Nat → List Char → List Char
  | 0, cs => cs
  | _, [] => []
  | fuel + 1, c :: cs =>
    match leading? pattern (c :: cs) with
    | some (_ :: _, rest) => new ++ (if all then replace pattern new all fuel rest else rest)
    | _ => c :: replace pattern new all fuel cs

/-- A pattern up to a stroke, and the text behind it. -/
def patternAndText (cs : List Char) : List Char × List Char :=
  let pattern := cs.takeWhile (· != '/')
  (pattern, cs.drop (pattern.length + 1))

/-- A part of a text: from a place on, counted from the end if it is negative, and so long. -/
def part? (argument : String) (cs : List Char) : Option (List Char) :=
  let number? (ds : List Char) : Option Int :=
    match ds.dropWhile (· == ' ') with
    | '-' :: ds => if ds.all Char.isDigit then some (-(Printf.natOf ds : Int)) else none
    | ds => if ds.all Char.isDigit then some (Printf.natOf ds : Int) else none
  let start (n : Int) : Nat := if n < 0 then cs.length - n.natAbs else n.toNat
  match argument.toList.splitOn ':' with
  | [a] => (number? a).map fun n => cs.drop (start n)
  | [a, b] => do
    let n ← number? a
    let k ← number? b
    let rest := cs.drop (start n)
    pure (if k < 0 then rest.take (rest.length - k.natAbs) else rest.take k.toNat)
  | _ => none

/-- The text after an operator, if it is one. -/
def perform? (operator : List Char) (text : String) : Option String :=
  let cs := text.toList
  let fuel := cs.length + 1
  match operator with
  | ['^', '^'] => some text.toUpper
  | [',', ','] => some text.toLower
  | ['^'] => some text.capitalize
  | [','] => some text.decapitalize
  | '/' :: '/' :: r =>
    let (pattern, new) := patternAndText r
    some (String.ofList (replace pattern new true fuel cs))
  | '/' :: r =>
    let (pattern, new) := patternAndText r
    some (String.ofList (replace pattern new false fuel cs))
  | ':' :: r => (part? (String.ofList r) cs).map String.ofList
  | _ => none

end HostAgent.Shell.Substitution
