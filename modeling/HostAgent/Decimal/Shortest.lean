/-!
# The shortest decimal of a double

A finite double is `m · 2 ^ q`.  Among the decimals that round to it, this module picks one
with the fewest digits, and of those the nearest.

* `Dyadic` — the value `m · 2 ^ q` with the interval of reals that round to it.
* `Dyadic.hit?` — the grid point of one decimal place that falls into the interval, if any.
* `Dyadic.shortest` — the first hit on ever finer grids.  If a point of a grid lies in the
  interval then so does one of the two neighbours of the value on that grid, so only these two
  are looked at.
-/

namespace HostAgent.Decimal

/-- A positive number `m · 2 ^ q` as a double holds it.  `atPower` says that the next smaller
double is only half as far away as the next larger one. -/
structure Dyadic where
  m : Nat
  q : Int
  atPower : Bool
  deriving DecidableEq, Repr

/-- A decimal `digits · 10 ^ exponent`. -/
structure Digits where
  digits : Nat
  exponent : Int
  deriving DecidableEq, Repr

/-- Two raised to the 52 bits of a fraction: the first bit of a number that is not stored. -/
def hiddenBit : Nat := 4503599627370496

/-- The magnitude of a finite double from its bits. -/
def Dyadic.ofBits (bits : UInt64) : Dyadic :=
  let fraction := bits.toNat % hiddenBit
  let power := bits.toNat / hiddenBit % 2048
  if power = 0 then { m := fraction, q := -1074, atPower := false }
  else
    { m := fraction + hiddenBit, q := Int.ofNat power - 1075,
      atPower := fraction == 0 && power != 1 }

/-- The points `n · 10 ^ p` next to the value, tested against the interval of reals that round
to it; its ends belong to it iff `m` is even.  Of two hits the nearer one wins, and the even one
of a tie. -/
def Dyadic.hit? (x : Dyadic) (p : Int) : Option Digits :=
  -- in units of a quarter of the last binary place
  let up := Nat.pow 2 (x.q - 2).toNat * Nat.pow 10 (-p).toNat
  let den := Nat.pow 2 (2 - x.q).toNat * Nat.pow 10 p.toNat
  let value := 4 * x.m * up
  let low := (4 * x.m - (if x.atPower then 1 else 2)) * up
  let high := (4 * x.m + 2) * up
  let inside (n : Nat) : Bool :=
    if x.m % 2 = 0 then low ≤ n * den && n * den ≤ high else low < n * den && n * den < high
  let n := value / den
  let below := value - n * den
  let above := (n + 1) * den - value
  let nearer := if below < above then n else if above < below then n + 1
    else if n % 2 = 0 then n else n + 1
  match inside n, inside (n + 1) with
  | true, true => some ⟨nearer, p⟩
  | true, false => some ⟨n, p⟩
  | false, true => some ⟨n + 1, p⟩
  | false, false => none

/-- The first hit at places `p`, `p - 1`, …. -/
def Dyadic.search (x : Dyadic) : Nat → Int → Option Digits
  | 0, _ => none
  | fuel + 1, p => match x.hit? p with
    | some d => some d
    | none => x.search fuel (p - 1)

/-- A decimal of fewest digits that rounds to the value.  The search starts above the value's
first digit; seventeen digits always suffice. -/
def Dyadic.shortest (x : Dyadic) : Digits :=
  if x.m = 0 then ⟨0, 0⟩
  else
    let top : Int := (((Nat.log2 x.m : Nat) : Int) + x.q) * 30103 / 100000 + 2
    (x.search 24 top).getD ⟨x.m, 0⟩

/-- The ten's power of the first digit. -/
def Digits.leading (d : Digits) : Int :=
  d.exponent + ((toString d.digits).length : Int) - 1

end HostAgent.Decimal
