import HostAgent.Word
import HostAgent.Datum
import HostAgent.Decimal.Shortest
import HostAgent.Json.Escaped

/-!
# Writing JSON

Compact text: no blanks, members in the order of the record, texts in their shortest escapes.
Doubles are written with the fewest digits that read back the same, positionally while the power
of the first digit lies between minus five and fifteen, and always as doubles.
-/

namespace HostAgent.Json

/-- A text in quotes. -/
def quoted (s : String) : String :=
  String.ofList ('"' :: Escaped.encode s.toList ++ ['"'])

/-- Digits with a point after the first `k` of them, filled up with zeros on either side. -/
def pointed (digits : List Char) (k : Int) : String :=
  let n := digits.length
  if k ≤ 0 then
    String.ofList (['0', '.'] ++ List.replicate k.natAbs '0' ++ digits)
  else if k.toNat ≥ n then
    String.ofList (digits ++ List.replicate (k.toNat - n) '0' ++ ['.', '0'])
  else
    String.ofList (digits.take k.toNat ++ ['.'] ++ digits.drop k.toNat)

/-- Digits with a power of ten behind them. -/
def scientific (digits : List Char) (leading : Int) : String :=
  let mantissa := match digits with
    | [] => []
    | [d] => [d]
    | d :: ds => d :: '.' :: ds
  let sign := if leading < 0 then ['-'] else ['+']
  String.ofList (mantissa ++ 'e' :: sign ++ (toString leading.natAbs).toList)

/-- A double; those that are no numbers are null. -/
def floatText (x : Float) : String :=
  let bits := x.toBits
  if x.isNaN || x.isInf then "null"
  else
    let sign := if bits.toNat / Word.half64 = 1 then "-" else ""
    let d := (Decimal.Dyadic.ofBits bits).shortest
    let digits := (toString d.digits).toList
    let leading := d.leading
    sign ++ (if d.digits = 0 then "0.0"
      else if -5 ≤ leading ∧ leading ≤ 15 then pointed digits (leading + 1)
      else scientific digits leading)

mutual

/-- The text of a value. -/
def render : Datum → String
  | .null => "null"
  | .bool true => "true"
  | .bool false => "false"
  | .int i => toString i
  | .float x => floatText x
  | .text s => quoted s
  | .list [] => "[]"
  | .list (d :: ds) => "[" ++ render d ++ renderItems ds ++ "]"
  | .record [] => "\x7b\x7d"
  | .record ((k, d) :: ms) => "\x7b" ++ quoted k ++ ":" ++ render d ++ renderMembers ms ++ "\x7d"

/-- The items after the first. -/
def renderItems : List Datum → String
  | [] => ""
  | d :: ds => "," ++ render d ++ renderItems ds

/-- The members after the first. -/
def renderMembers : List (String × Datum) → String
  | [] => ""
  | (k, d) :: ms => "," ++ quoted k ++ ":" ++ render d ++ renderMembers ms

end

mutual

/-- The value with the members of every record in the order of their keys; of equal keys the last
one is kept. -/
def sorted : Datum → Datum
  | .list ds => .list (sortedItems ds)
  | .record ms => .record (sortedMembers ms)
  | d => d

/-- All items, sorted within. -/
def sortedItems : List Datum → List Datum
  | [] => []
  | d :: ds => sorted d :: sortedItems ds

/-- All members in the order of their keys. -/
def sortedMembers : List (String × Datum) → List (String × Datum)
  | [] => []
  | (k, d) :: ms => place k (sorted d) (sortedMembers ms)
where
  /-- Puts a member before the larger keys, unless a later one of that name is there. -/
  place (k : String) (d : Datum) : List (String × Datum) → List (String × Datum)
    | [] => [(k, d)]
    | (k', d') :: ms =>
      if k = k' then (k', d') :: ms
      else if k < k' then (k, d) :: (k', d') :: ms
      else (k', d') :: place k d ms

end

end HostAgent.Json
