import HostAgent.Shell.Token

/-!
# Braces

Words of the extended shell that stand for several: the parts between commas in braces, or the
numbers or letters of a range.

* `Word.alternatives` — the words that a word stands for.
-/

namespace HostAgent.Shell

/-- The parts between commas that stand outside of inner braces. -/
def commaParts : Nat → List Char → List Char → List (List Char)
  | _, current, [] => [current.reverse]
  | depth, current, c :: r =>
    if c = ',' ∧ depth = 0 then current.reverse :: commaParts depth [] r
    else
      let depth := if c = '\x7b' then depth + 1 else if c = '\x7d' then depth - 1 else depth
      commaParts depth (c :: current) r

/-- The numbers or letters of a range between braces. -/
def rangeOf? (cs : List Char) : Option (List (List Char)) :=
  let steps (a b : Int) : List Int :=
    (List.range ((b - a).natAbs + 1)).map fun (i : Nat) => if a ≤ b then a + i else a - i
  let number? (cs : List Char) : Option Int := (String.ofList cs).toInt?
  match cs.splitOn '.' with
  | [a, [], b] =>
    match number? a, number? b, a, b with
    | some m, some n, _, _ => some ((steps m n).map fun i => (toString i).toList)
    | _, _, [c], [d] =>
      if c.isAlpha && d.isAlpha then
        some ((steps c.toNat d.toNat).map fun i => [Char.ofNat i.toNat])
      else none
    | _, _, _, _ => none
  | _ => none

/-- The texts that a text with braces stands for. -/
def braceTexts : Nat → List Char → List (List Char)
  | 0, cs => [cs]
  | fuel + 1, cs =>
    let front := cs.takeWhile (· != '\x7b')
    match cs.drop front.length with
    | [] => [cs]
    | _ :: r =>
      match enclosed '\x7b' '\x7d' 0 none r with
      | none => [cs]
      | some (inner, rest) =>
        let parts := commaParts 0 [] inner
        let choices := if parts.length > 1 then some (parts.flatMap (braceTexts fuel))
          else rangeOf? inner
        match choices with
        | some choices =>
          let ends := braceTexts fuel rest
          choices.flatMap fun c => ends.map fun e => front ++ c ++ e
        | none =>
          (braceTexts fuel rest).map fun e => front ++ '\x7b' :: inner ++ '\x7d' :: e

/-- The words that a word with braces stands for. -/
def Word.alternatives (w : Word) : List Word :=
  match w with
  | [.text false cs] =>
    if cs.contains '\x7b' && cs.length > 2 then
      (braceTexts cs.length cs).map fun cs => [.text false cs]
    else [w]
  | w => [w]

end HostAgent.Shell
