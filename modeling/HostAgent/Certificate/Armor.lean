import HostAgent.Certificate.Der

/-!
# Armored certificates

A certificate file is a text.  The certificate stands in it in base 64, between a line that opens
it and a line that closes it; what comes before does not matter.

* `base64?` — the bytes that base 64 writes.
* `body?` — the lines between the two marks.
* `holdsCertificate` — whether a file holds a certificate.
-/

namespace HostAgent.Certificate

/-- The value of a digit of base 64. -/
def digit? (c : Char) : Option Nat :=
  if 'A' ≤ c ∧ c ≤ 'Z' then some (c.toNat - 65)
  else if 'a' ≤ c ∧ c ≤ 'z' then some (c.toNat - 71)
  else if '0' ≤ c ∧ c ≤ '9' then some (c.toNat + 4)
  else if c = '+' then some 62
  else if c = '/' then some 63
  else none

/-- The bytes that groups of four digits write.  Only the last group may be filled up. -/
def base64? : List Char → Option (List UInt8)
  | [] => some []
  | [a, b, '=', '='] => do
    let a ← digit? a
    let b ← digit? b
    some [UInt8.ofNat (4 * a + b / 16)]
  | [a, b, c, '='] => do
    let a ← digit? a
    let b ← digit? b
    let c ← digit? c
    some [UInt8.ofNat (4 * a + b / 16), UInt8.ofNat (16 * (b % 16) + c / 4)]
  | a :: b :: c :: d :: r => do
    let a ← digit? a
    let b ← digit? b
    let c ← digit? c
    let d ← digit? d
    let rest ← base64? r
    some (UInt8.ofNat (4 * a + b / 16) :: UInt8.ofNat (16 * (b % 16) + c / 4) ::
      UInt8.ofNat (64 * (c % 4) + d) :: rest)
  | _ => none

/-- A line without the blanks at its end. -/
def trimEnd (cs : List Char) : List Char :=
  (cs.reverse.dropWhile fun c => c.val ≤ 0x20).reverse

/-- The line that opens or closes a block of a name. -/
def mark (word name : String) : List Char :=
  ("-----" ++ word ++ " " ++ name ++ "-----").toList

/-- The names under which a certificate is kept. -/
def names : List String := ["CERTIFICATE", "X509 CERTIFICATE", "TRUSTED CERTIFICATE"]

/-- The lines of the first block of a certificate. -/
def body? (lines : List (List Char)) : Option (List (List Char)) :=
  match lines with
  | [] => none
  | l :: rest =>
    match names.find? fun n => l == mark "BEGIN" n with
    | some n =>
      if rest.contains (mark "END" n) then some (rest.takeWhile (· != mark "END" n)) else none
    | none => body? rest

/-- Whether a file holds a certificate. -/
def holdsCertificate (file : List UInt8) : Bool :=
  let text := file.map fun b => Char.ofNat b.toNat
  let lines := (text.splitOn '\n').map trimEnd
  match (body? lines).bind fun ls => base64? ls.flatten with
  | some bytes => isCertificate bytes
  | none => false

end HostAgent.Certificate
