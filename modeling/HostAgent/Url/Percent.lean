import HostAgent.Text.Hex

/-!
# Percent encoding

Characters that may not stand in a part of a URL are written as the bytes of their UTF-8 form,
each as a percent sign and two digits.  What may stand where differs from part to part; outside of
ASCII nothing may.

* `encode` — writes the characters of a set, and all outside of ASCII, by their bytes.
* `decode` — the bytes that a text stands for.
-/

namespace HostAgent.Url.Percent

/-- Control characters. -/
def controls (c : Char) : Bool :=
  c.val < 0x20 || c.val == 0x7F

/-- What may not stand in a fragment. -/
def inFragment (c : Char) : Bool :=
  controls c || c == ' ' || c == '"' || c == '<' || c == '>' || c.val == 0x60

/-- What may not stand in a path. -/
def inPath (c : Char) : Bool :=
  inFragment c || c == '#' || c == '?' || c == '\x7b' || c == '\x7d'

/-- What may not stand in a user name or password. -/
def inUserInfo (c : Char) : Bool :=
  inPath c || c == '/' || c == ':' || c == ';' || c == '=' || c == '@' || c == '[' || c == '\\' ||
    c == ']' || c == '^' || c == '|'

/-- What may not stand in a query. -/
def inQuery (c : Char) : Bool :=
  controls c || c == ' ' || c == '"' || c == '#' || c == '<' || c == '>'

/-- What may not stand in a query of a URL of the web. -/
def inWebQuery (c : Char) : Bool :=
  inQuery c || c == '\''

/-- A digit of a percent form, in upper case. -/
def digit (n : Nat) : Char :=
  if n < 10 then Char.ofNat (48 + n) else Char.ofNat (55 + n)

/-- One byte. -/
def ofByte (b : UInt8) : List Char :=
  ['%', digit (b.toNat / 16), digit (b.toNat % 16)]

/-- One character, of which some have to be written by their bytes. -/
def encodeChar (mustNot : Char → Bool) (c : Char) : List Char :=
  if c.val < 0x80 && !mustNot c then [c] else (String.utf8EncodeChar c).flatMap ofByte

/-- A text, of which some characters have to be written by their bytes. -/
def encode (mustNot : Char → Bool) (cs : List Char) : List Char :=
  cs.flatMap (encodeChar mustNot)

/-- The bytes that a text stands for.  A percent sign without two digits stands for itself. -/
def decode : List Char → List UInt8
  | '%' :: a :: b :: r =>
    match Text.Hex.value? a, Text.Hex.value? b with
    | some hi, some lo => UInt8.ofNat (16 * hi + lo) :: decode r
    | _, _ => 37 :: decode (a :: b :: r)
  | c :: r => String.utf8EncodeChar c ++ decode r
  | [] => []

end HostAgent.Url.Percent
