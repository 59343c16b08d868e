/-!
# Hexadecimal

Bytes written as two digits each, and back.  `encode` writes lower case; `decode?` reads
either case.
-/

namespace HostAgent.Text.Hex

/-- The digit for a value below sixteen. -/
def digit (n : Nat) : Char :=
  if n < 10 then Char.ofNat (48 + n) else Char.ofNat (87 + n)

/-- The value of a digit, of either case. -/
def value? (c : Char) : Option Nat :=
  if '0' ≤ c ∧ c ≤ '9' then some (c.toNat - 48)
  else if 'a' ≤ c ∧ c ≤ 'f' then some (c.toNat - 87)
  else if 'A' ≤ c ∧ c ≤ 'F' then some (c.toNat - 55)
  else none

/-- The digits of a number, without leading zeros; zero has one digit. -/
def ofNat (n : Nat) : List Char :=
  if n < 16 then [digit n] else ofNat (n / 16) ++ [digit (n % 16)]
termination_by n
decreasing_by omega

/-- A number in exactly so many digits, its higher ones cut. -/
def padded : Nat → Nat → List Char
  | 0, _ => []
  | k + 1, n => padded k (n / 16) ++ [digit (n % 16)]

/-- The digits of a byte string. -/
def encode (bytes : List UInt8) : String :=
  String.ofList (bytes.flatMap fun b => [digit (b.toNat / 16), digit (b.toNat % 16)])

/-- The bytes that pairs of digits stand for. -/
def decodeChars? : List Char → Option (List UInt8)
  | [] => some []
  | [_] => none
  | a :: b :: r => do
    let hi ← value? a
    let lo ← value? b
    let rest ← decodeChars? r
    pure (UInt8.ofNat (16 * hi + lo) :: rest)

/-- The bytes of a text of digit pairs. -/
def decode? (s : String) : Option (List UInt8) :=
  decodeChars? s.toList

end HostAgent.Text.Hex
