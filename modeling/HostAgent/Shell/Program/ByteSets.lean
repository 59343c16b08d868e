import HostAgent.Shell.Pattern
import HostAgent.Shell.Program.Options

/-!
# Sets of bytes

Sets as arguments write them, and what becomes of the bytes of one set: others, none, or one for
many.
-/

namespace HostAgent.Shell.Program

/-- The bytes from one character to another. -/
def byteRange (first last : Char) : List UInt8 :=
  (List.range (last.toNat - first.toNat + 1)).map fun i => UInt8.ofNat (first.toNat + i)

/-- The bytes of a set of characters: ranges, escapes and named classes. -/
def byteSet : Nat → List Char → List UInt8
  | 0, _ => []
  | fuel + 1, cs =>
    let byte (c : Char) := UInt8.ofNat c.toNat
    match cs with
    | [] => []
    | '[' :: ':' :: r =>
      let name := r.takeWhile (· != ':')
      (namedRanges (String.ofList name)).flatMap (fun (a, b) => byteRange a b)
        ++ byteSet fuel (r.drop (name.length + 2))
    | '\\' :: c :: r =>
      let digits := ((c :: r).take 3).takeWhile Printf.isOctal
      if !digits.isEmpty then
        UInt8.ofNat (digits.foldl (fun n d => 8 * n + (d.toNat - 48)) 0) ::
          byteSet fuel ((c :: r).drop digits.length)
      else (Printf.simple? c).getD (byte c) :: byteSet fuel r
    | a :: '-' :: b :: r => byteRange a b ++ byteSet fuel r
    | c :: r => Printf.utf8 c ++ byteSet fuel r

/-- The bytes with neighbours of one set that are equal put together. -/
def squeezed (set : List UInt8) : List UInt8 → List UInt8
  | a :: b :: r =>
    if a = b ∧ set.contains a then squeezed set (b :: r) else a :: squeezed set (b :: r)
  | bs => bs

/-- What becomes of bytes with such options and sets. -/
def exchanged (options : List Char) (sets : List String) (input : Stream) : Outcome :=
  let set (i : Nat) : List UInt8 := match sets[i]? with
    | some s => byteSet (s.length + 1) s.toList
    | none => []
  let first := set 0
  let chosen (b : UInt8) := first.contains b != (options.contains 'c' || options.contains 'C')
  let second := set 1
  let replaced (b : UInt8) : UInt8 :=
    if chosen b then
      if options.contains 'c' then second.getLast?.getD b
      else (second[(first.idxOf? b).getD 0]?).getD (second.getLast?.getD b)
    else b
  if options.contains 'd' then { out := input.mapBytes fun b => if chosen b then [] else [b] }
  else
    let out := if sets.length < 2 then input else input.mapBytes fun b => [replaced b]
    let squeezing := if sets.length < 2 then first else second
    if options.contains 's' then
      { out := { bytes := squeezed squeezing out.bytes, cycle := squeezed squeezing out.cycle } }
    else { out }

/-- Exchanges, deletes or squeezes bytes. -/
def exchange (args : List String) (input : Stream) : Outcome :=
  let (options, sets) := letters args
  let lone := options.contains 'd' || options.contains 's'
  match sets with
  | [] => misused "tr" 1 "missing operand"
  | [a] =>
    if lone then exchanged options [a] input
    else misused "tr" 1 ("missing operand after '" ++ a ++
      "'\nTwo strings must be given when translating.")
  | sets => exchanged options sets input

end HostAgent.Shell.Program
