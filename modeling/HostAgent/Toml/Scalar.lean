import HostAgent.Word
import HostAgent.Datum
import HostAgent.Text.Hex

/-!
# Scalars of TOML

Truth values, integers, doubles, dates and times, read from the run of characters that writes one.

* `integer?` — decimal with a sign, or sixteen, eight or two digits behind a mark; it has to fit a
  signed 64-bit register.
* `float?` — with a fraction, a power of ten or both.  One that is too large is refused, but only
  a positive one.
* `isDateTime` — a date, a time, or both with or without an offset, of days that exist.
* `scalar?` — any of these.
-/

namespace HostAgent.Toml

/-- Whether underscores stand only between two characters of the class, of which there is at least
one. -/
def separated (ok : Char → Bool) : List Char → Bool
  | [] => false
  | [c] => ok c
  | c :: '_' :: r => ok c && separated ok r
  | c :: r => ok c && separated ok r

/-- The value of digits of a base; underscores do not count. -/
def digitsValue (base : Nat) (cs : List Char) : Nat :=
  cs.foldl (fun n c => match Text.Hex.value? c with
    | some d => base * n + d
    | none => n) 0

/-- Whether a character is a digit of a base. -/
def isDigitOf (base : Nat) (c : Char) : Bool :=
  match Text.Hex.value? c with
  | some d => decide (d < base)
  | none => false

/-- A sign, if there is one: whether it is a minus, and what follows. -/
def sign : List Char → Bool × List Char
  | '-' :: r => (true, r)
  | '+' :: r => (false, r)
  | cs => (false, cs)

/-- Decimal digits without a needless zero. -/
def isDecimal (cs : List Char) : Bool :=
  separated Char.isDigit cs && (cs.length == 1 || cs.head? != some '0')

/-- An integer. -/
def integer? (cs : List Char) : Option Int :=
  let marked (base : Nat) (ds : List Char) : Option Int :=
    let n := digitsValue base ds
    if separated (isDigitOf base) ds && n < Word.half64 then some n else none
  match cs with
  | '0' :: 'x' :: ds => marked 16 ds
  | '0' :: 'o' :: ds => marked 8 ds
  | '0' :: 'b' :: ds => marked 2 ds
  | _ =>
    let (negative, ds) := sign cs
    let n := digitsValue 10 ds
    if !isDecimal ds then none
    else if negative then if n ≤ Word.half64 then some (-(n : Int)) else none
    else if n < Word.half64 then some n
    else none

/-- The power of ten of a double, if its letter stands here. -/
def power? : List Char → Option Int
  | [] => some 0
  | c :: r =>
    if c = 'e' ∨ c = 'E' then
      let (negative, ds) := sign r
      let n : Int := digitsValue 10 ds
      if separated Char.isDigit ds then some (if negative then -n else n) else none
    else none

/-- The double nearest to `digits · 10 ^ power`.  Powers far beyond its range count as infinite or
as nothing, whatever the digits. -/
def nearest (digits : Nat) (power : Int) : Float :=
  if digits = 0 then 0.0
  else
    let size : Int := (Nat.log2 digits : Nat)
    if 10 * power + 3 * size > 4000 then 1.0 / 0.0
    else if 10 * power + 4 * size < -4000 then 0.0
    else if power < 0 then Float.ofScientific digits true power.natAbs
    else Float.ofScientific digits false power.natAbs

/-- A double. -/
def float? (cs : List Char) : Option Float :=
  let (negative, body) := sign cs
  if body = ['i', 'n', 'f'] then some (if negative then -1.0 / 0.0 else 1.0 / 0.0)
  else if body = ['n', 'a', 'n'] then some (0.0 / 0.0)
  else
    let inNumber (c : Char) : Bool := c.isDigit || c == '_'
    let whole := body.takeWhile inNumber
    let rest := body.dropWhile inNumber
    let finish (fraction rest : List Char) : Option Float := do
      let power ← power? rest
      let places := (fraction.filter Char.isDigit).length
      let x := nearest (digitsValue 10 (whole ++ fraction)) (power - places)
      if negative then some (-x) else if x.isInf then none else some x
    if !isDecimal whole then none
    else match rest with
      | '.' :: r =>
        let fraction := r.takeWhile inNumber
        if separated Char.isDigit fraction then finish fraction (r.dropWhile inNumber) else none
      | [] => none
      | rest => finish [] rest

/-- The value of exactly so many digits, and what follows. -/
def fixed? (n : Nat) (cs : List Char) : Option (Nat × List Char) :=
  let ds := cs.take n
  if ds.length = n && ds.all Char.isDigit then some (digitsValue 10 ds, cs.drop n) else none

/-- A character that has to stand here. -/
def expect? (c : Char) : List Char → Option (List Char)
  | d :: r => if c = d then some r else none
  | [] => none

/-- How many days a month has. -/
def daysIn (year month : Nat) : Nat :=
  if month = 2 then
    if year % 4 = 0 ∧ (year % 100 ≠ 0 ∨ year % 400 = 0) then 29 else 28
  else if month = 4 ∨ month = 6 ∨ month = 9 ∨ month = 11 then 30
  else 31

/-- A date, and what follows. -/
def date? (cs : List Char) : Option (List Char) := do
  let (year, cs) ← fixed? 4 cs
  let cs ← expect? '-' cs
  let (month, cs) ← fixed? 2 cs
  let cs ← expect? '-' cs
  let (day, cs) ← fixed? 2 cs
  if 1 ≤ month ∧ month ≤ 12 ∧ 1 ≤ day ∧ day ≤ daysIn year month then some cs else none

/-- Hour and minute, and what follows. -/
def hourMinute? (cs : List Char) : Option (List Char) := do
  let (hour, cs) ← fixed? 2 cs
  let cs ← expect? ':' cs
  let (minute, cs) ← fixed? 2 cs
  if hour ≤ 23 ∧ minute ≤ 59 then some cs else none

/-- A time of the day, and what follows. -/
def time? (cs : List Char) : Option (List Char) := do
  let cs ← hourMinute? cs
  let cs ← expect? ':' cs
  let (second, cs) ← fixed? 2 cs
  if second > 60 then none
  match cs with
  | '.' :: r =>
    if r.takeWhile Char.isDigit = [] then none else some (r.dropWhile Char.isDigit)
  | cs => some cs

/-- Whether a distance from universal time stands here, up to the end. -/
def isOffset : List Char → Bool
  | ['Z'] | ['z'] => true
  | c :: r => (c == '+' || c == '-') && hourMinute? r == some []
  | [] => false

/-- Whether a text is a date, a time, or both. -/
def isDateTime (cs : List Char) : Bool :=
  match date? cs with
  | some [] => true
  | some (c :: r) =>
    (c == 'T' || c == 't' || c == ' ') &&
      (match time? r with
        | some rest => rest.isEmpty || isOffset rest
        | none => false)
  | none => time? cs == some []

/-- The value of a run of characters.  A date is a record of a single member, its text. -/
def scalar? (cs : List Char) : Option Datum :=
  if cs = ['t', 'r', 'u', 'e'] then some (.bool true)
  else if cs = ['f', 'a', 'l', 's', 'e'] then some (.bool false)
  else if isDateTime cs then some (.record [("datetime", .text (String.ofList cs))])
  else match integer? cs with
    | some n => some (.int n)
    | none => (float? cs).map .float

end HostAgent.Toml
