import HostAgent.Text.Hex

/-!
# Addresses of sixteen bytes

Eight groups of up to four digits with colons between them.  Two colons stand for as many zero
groups as are missing, and the last two groups may be written as four decimal numbers.

* `parse?` — the eight groups.
* `text` — the address with the longest run of zero groups left out, if it has more than one.
-/

namespace HostAgent.Url.Ipv6

/-- A decimal number below 256 without needless zeros, and what follows it. -/
def byte? (cs : List Char) : Option (Nat × List Char) :=
  let ds := cs.takeWhile Char.isDigit
  let n := ds.foldl (fun n c => 10 * n + (c.toNat - 48)) 0
  if ds.isEmpty || ds.length > 3 || n > 255 || (ds.length > 1 && ds.head? == some '0') then none
  else some (n, cs.dropWhile Char.isDigit)

/-- Two groups written as four decimal numbers, with nothing behind them. -/
def dotted? (cs : List Char) : Option (List Nat) := do
  let (a, r) ← byte? cs
  let (b, r) ← next? r
  let (c, r) ← next? r
  let (d, r) ← next? r
  if r.isEmpty then some [256 * a + b, 256 * c + d] else none
where
  /-- A full stop and a number. -/
  next? : List Char → Option (Nat × List Char)
    | '.' :: r => byte? r
    | _ => none

/-- Up to four digits, and what follows them. -/
def group : Nat → List Char → List Nat × List Char
  | 0, cs => ([], cs)
  | _ + 1, [] => ([], [])
  | k + 1, c :: r =>
    match Text.Hex.value? c with
    | some d =>
      let (ds, rest) := group k r
      (d :: ds, rest)
    | none => ([], c :: r)

/-- The groups read so far, and how many of them come before the gap, if there is one. -/
structure Groups where
  seen : List Nat := []
  gap : Option Nat := none

/-- How many groups are taken, of which the gap takes at least one. -/
def Groups.taken (g : Groups) : Nat :=
  g.seen.length + (if g.gap.isSome then 1 else 0)

/-- Reads groups to the end of the text. -/
def read? : Nat → List Char → Groups → Option Groups
  | _, [], g => some g
  | 0, _ :: _, _ => none
  | fuel + 1, c :: r, g =>
    if g.taken ≥ 8 then none
    else if c = ':' then
      if g.gap.isSome then none else read? fuel r { g with gap := some g.seen.length }
    else
      let (ds, rest) := group 4 (c :: r)
      let g' := { g with seen := g.seen ++ [ds.foldl (fun n d => 16 * n + d) 0] }
      match rest with
      | [] => some g'
      | '.' :: _ =>
        if ds.isEmpty || g.taken > 6 then none
        else (dotted? (c :: r)).map fun ns => { g with seen := g.seen ++ ns }
      | ':' :: [] => none
      | ':' :: rest => read? fuel rest g'
      | _ => none

/-- The eight groups of an address. -/
def parse? (cs : List Char) : Option (List Nat) := do
  let start ← match cs with
    | ':' :: ':' :: r => some (r, { gap := some 0 : Groups })
    | ':' :: _ => none
    | cs => some (cs, {})
  let g ← read? cs.length start.1 start.2
  match g.gap with
  | some k => some (g.seen.take k ++ List.replicate (8 - g.seen.length) 0 ++ g.seen.drop k)
  | none => if g.seen.length = 8 then some g.seen else none

/-- The longest run of zeros from a place on: where it starts and how long it is.  Of several the
first counts. -/
def zeroRun : List Nat → Nat → Nat × Nat
  | [], place => (place, 0)
  | n :: ns, place =>
    let here := ((n :: ns).takeWhile (· == 0)).length
    let later := zeroRun ns (place + 1)
    if here ≥ later.2 && here > 0 then (place, here) else later

/-- Groups with colons between them. -/
def groupsText (ns : List Nat) : List Char :=
  [':'].intercalate (ns.map Text.Hex.ofNat)

/-- The address in its shortest form. -/
def text (ns : List Nat) : String :=
  let (start, size) := zeroRun ns 0
  if size < 2 then String.ofList (groupsText ns)
  else
    String.ofList
      (groupsText (ns.take start) ++ [':', ':'] ++ groupsText (ns.drop (start + size)))

end HostAgent.Url.Ipv6
