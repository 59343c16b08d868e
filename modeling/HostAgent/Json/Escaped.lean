import HostAgent.Text.Hex

/-!
# Texts in JSON

Between its quotes a text is written with escapes.

* `encode` — the written form.
* `decode?` — what a written form stands for; half of a surrogate pair stands for nothing.
-/

namespace HostAgent.Json.Escaped

open HostAgent.Text (Hex.digit Hex.value?)

/-- The written form of one character. -/
def encodeChar (c : Char) : List Char :=
  if c = '"' then ['\\', '"']
  else if c = '\\' then ['\\', '\\']
  else if c = '\x08' then ['\\', 'b']
  else if c = '\x0c' then ['\\', 'f']
  else if c = '\n' then ['\\', 'n']
  else if c = '\r' then ['\\', 'r']
  else if c = '\t' then ['\\', 't']
  else if c.val < 0x20 then
    ['\\', 'u', '0', '0', Hex.digit (c.toNat / 16), Hex.digit (c.toNat % 16)]
  else [c]

/-- The written form of a text, without the quotes. -/
def encode (cs : List Char) : List Char :=
  cs.flatMap encodeChar

/-- The character that a letter after a backslash stands for. -/
def simpleEscape? (c : Char) : Option Char :=
  match c with
  | '"' => some '"'
  | '\\' => some '\\'
  | '/' => some '/'
  | 'b' => some '\x08'
  | 'f' => some '\x0c'
  | 'n' => some '\n'
  | 'r' => some '\r'
  | 't' => some '\t'
  | _ => none

/-- The number of four digits. -/
def unit? (a b c d : Char) : Option Nat := do
  let a ← Hex.value? a
  let b ← Hex.value? b
  let c ← Hex.value? c
  let d ← Hex.value? d
  pure (((16 * a + b) * 16 + c) * 16 + d)

/-- What a written form stands for.  A pair of surrogates stands for one character. -/
def decode? : List Char → Option (List Char)
  | [] => some []
  | '\\' :: 'u' :: a :: b :: c :: d :: r => do
    let hi ← unit? a b c d
    if 0xD800 ≤ hi ∧ hi < 0xDC00 then
      match r with
      | '\\' :: 'u' :: e :: f :: g :: h :: r => do
        let lo ← unit? e f g h
        if 0xDC00 ≤ lo ∧ lo < 0xE000 then
          let rest ← decode? r
          pure (Char.ofNat (0x10000 + (hi - 0xD800) * 0x400 + (lo - 0xDC00)) :: rest)
        else none
      | _ => none
    else if 0xDC00 ≤ hi ∧ hi < 0xE000 then none
    else
      let rest ← decode? r
      pure (Char.ofNat hi :: rest)
  | '\\' :: c :: r => do
    let x ← simpleEscape? c
    let rest ← decode? r
    pure (x :: rest)
  | c :: r =>
    if c = '\\' ∨ c = '"' ∨ c.val < 0x20 then none else (decode? r).map (c :: ·)

end HostAgent.Json.Escaped
