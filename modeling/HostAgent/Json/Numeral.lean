import HostAgent.Word
import HostAgent.Datum

/-!
# Numbers in JSON

The written form of a number and the value it stands for.

* `Numeral` — sign, digits before and after the point, and the power of ten.
* `Numeral.ofLexeme?` — reads the grammar of JSON numbers, nothing more.
* `Numeral.datum?` — an integer where the number is written as one and fits a 64-bit register,
  else a double.
* `Numeral.float?` — the double.  The digits are gathered in one 64-bit register; a digit that no
  longer fits, and all fraction digits behind it, only move the point.  The register is then scaled
  by powers of ten, in one rounding step for powers up to 308.
-/

namespace HostAgent.Json

/-- A number as it is written. -/
structure Numeral where
  negative : Bool
  whole : List Nat
  fraction : Option (List Nat)
  power : Option Int
  deriving DecidableEq, Repr

namespace Numeral

/-- The largest value of a 64-bit register. -/
def registerMax : Nat := Word.size64 - 1

/-- A maximal run of digits, as values, and what follows it. -/
def digits : List Char → List Nat × List Char
  | [] => ([], [])
  | c :: r => if c.isDigit then
      let (ds, rest) := digits r
      ((c.toNat - 48) :: ds, rest)
    else ([], c :: r)

/-- A maximal run of at least one digit. -/
def digits1? (cs : List Char) : Option (List Nat × List Char) :=
  match digits cs with
  | ([], _) => none
  | r => some r

/-- The value of decimal digits. -/
def natOfDigits (ds : List Nat) : Nat :=
  ds.foldl (fun n d => 10 * n + d) 0

/-- The fraction, if a point stands here. -/
def fraction? : List Char → Option (Option (List Nat) × List Char)
  | '.' :: r => (digits1? r).map fun (ds, rest) => (some ds, rest)
  | cs => some (none, cs)

/-- The power of ten, if its letter stands here. -/
def power? : List Char → Option (Option Int × List Char)
  | c :: r => if c = 'e' ∨ c = 'E' then
      let (negative, r) := match r with
        | '-' :: r => (true, r)
        | '+' :: r => (false, r)
        | r => (false, r)
      (digits1? r).map fun (ds, rest) =>
        let n : Int := natOfDigits ds
        (some (if negative then -n else n), rest)
    else some (none, c :: r)
  | [] => some (none, [])

/-- Reads a whole lexeme as a number.  The first of several whole digits is not zero. -/
def ofLexeme? (cs : List Char) : Option Numeral := do
  let (negative, cs) := match cs with
    | '-' :: r => (true, r)
    | cs => (false, cs)
  let (whole, cs) ← digits1? cs
  if whole.length > 1 ∧ whole.head? = some 0 then none
  let (fraction, cs) ← fraction? cs
  let (power, cs) ← power? cs
  if cs.isEmpty then some ⟨negative, whole, fraction, power⟩ else none

/-- Whether the number is written without fraction and power. -/
def isWhole (n : Numeral) : Bool :=
  n.fraction.isNone && n.power.isNone

/-- Gathers whole digits: the register and how many digits did not fit. -/
def gatherWhole : List Nat → Nat → Nat × Nat
  | [], acc => (acc, 0)
  | d :: ds, acc =>
    if 10 * acc + d ≤ registerMax then gatherWhole ds (10 * acc + d) else (acc, ds.length + 1)

/-- Gathers fraction digits: the register and how many digits went in. -/
def gatherFraction : List Nat → Nat → Nat × Nat
  | [], acc => (acc, 0)
  | d :: ds, acc =>
    if 10 * acc + d ≤ registerMax then
      let (acc, used) := gatherFraction ds (10 * acc + d)
      (acc, used + 1)
    else (acc, 0)

/-- The double nearest to a power of ten. -/
def tenTo (n : Nat) : Float :=
  Float.ofScientific 1 false n

/-- `x · 10 ^ power`, in steps of at most 308 places; `none` if it is too large. -/
def scale : Nat → Float → Int → Option Float
  | 0, x, _ => some x
  | fuel + 1, x, power =>
    if power.natAbs ≤ 308 then
      if power < 0 then some (x / tenTo power.natAbs)
      else
        let y := x * tenTo power.natAbs
        if y.isInf then none else some y
    else if x == 0.0 then some x
    else if power ≥ 0 then none
    else scale fuel (x / tenTo 308) (power + 308)

/-- The double that the number stands for; `none` if it is too large. -/
def float? (n : Numeral) : Option Float := do
  let (register, dropped) := gatherWhole n.whole 0
  let (register, used) := gatherFraction (n.fraction.getD []) register
  let x := (UInt64.ofNat register).toFloat
  let power : Int := (dropped : Int) - used + n.power.getD 0
  -- three steps of 308 places take every register to zero
  let y ← scale 4 x power
  pure (if n.negative then -y else y)

/-- The value: an integer if it is written as one and fits a signed or unsigned 64-bit register,
else a double.  Minus zero is a double. -/
def datum? (n : Numeral) : Option Datum :=
  let whole := natOfDigits n.whole
  if n.isWhole && !n.negative && whole ≤ registerMax then some (.int whole)
  else if n.isWhole && n.negative && whole ≤ Word.half64 && whole != 0 then some (.int (-whole))
  else n.float?.map .float

end Numeral

end HostAgent.Json
