import HostAgent.Text.Hex

/-!
# Addresses of four bytes

A host whose last part is a number is an address.  Its parts may be written in ten, eight or
sixteen digits, and the last part fills all bytes that are left.

* `endsInNumber` — whether a host has to be an address.
* `parse?` — the address.
* `text` — the address in four decimal parts.
-/

namespace HostAgent.Url.Ipv4

/-- The value of digits of a base. -/
def number? (base : Nat) (cs : List Char) : Option Nat :=
  cs.foldlM (fun n c => do
    let d ← Text.Hex.value? c
    if d < base then some (base * n + d) else none) 0

/-- A part: `0x` announces sixteen digits and a leading zero eight. -/
def part? (cs : List Char) : Option Nat :=
  match cs with
  | [] => none
  | '0' :: 'x' :: r | '0' :: 'X' :: r => number? 16 r
  | '0' :: c :: r => number? 8 (c :: r)
  | _ => number? 10 cs

/-- The parts of a host between full stops, without an empty one at the end. -/
def parts (cs : List Char) : List (List Char) :=
  match (cs.splitOn '.').reverse with
  | [] :: p :: ps => (p :: ps).reverse
  | ps => ps.reverse

/-- Whether the last part of a host is a number. -/
def endsInNumber (cs : List Char) : Bool :=
  match (parts cs).getLast? with
  | none => false
  | some p => (!p.isEmpty && p.all Char.isDigit) || (part? p).isSome

/-- The address that a host of up to four numbers stands for. -/
def parse? (cs : List Char) : Option Nat := do
  let ps := parts cs
  if ps.length > 4 then none
  let ns ← ps.mapM part?
  let last ← ns.getLast?
  let front := ns.dropLast
  if front.any (· > 255) || last ≥ Nat.pow 256 (5 - ns.length) then none
  else
    let high := front.foldl (fun n b => 256 * n + b) 0
    some (high * Nat.pow 256 (5 - ns.length) + last)

/-- The address in four decimal parts. -/
def text (address : Nat) : String :=
  let byte (k : Nat) := toString (address / Nat.pow 256 k % 256)
  byte 3 ++ "." ++ byte 2 ++ "." ++ byte 1 ++ "." ++ byte 0

end HostAgent.Url.Ipv4
