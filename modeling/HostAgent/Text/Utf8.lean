/-!
# Reading UTF-8 with losses

Bytes that are no UTF-8 still have to become a text.  Each longest run of bytes that begins a
character but does not complete it, and each byte that begins none, is replaced by the replacement
character.

* `Reading` — what has been read of a character.
* `step` — one byte.
* `lossy` — the text of bytes.
-/

namespace HostAgent.Text.Utf8

/-- The character that stands for what cannot be read. -/
def replacement : Char := Char.ofNat 0xFFFD

/-- An unfinished character: the bits so far, how many bytes are missing, and the range in which
the next one has to lie. -/
structure Reading where
  bits : Nat
  missing : Nat
  low : Nat := 0x80
  high : Nat := 0xBF
  deriving DecidableEq, Repr

/-- A byte where a character begins. -/
def start (b : Nat) : List Char × Option Reading :=
  if b < 0x80 then ([Char.ofNat b], none)
  else if 0xC2 ≤ b ∧ b ≤ 0xDF then ([], some { bits := b - 0xC0, missing := 1 })
  else if b = 0xE0 then ([], some { bits := 0, missing := 2, low := 0xA0 })
  else if b = 0xED then ([], some { bits := 0xD, missing := 2, high := 0x9F })
  else if 0xE1 ≤ b ∧ b ≤ 0xEF then ([], some { bits := b - 0xE0, missing := 2 })
  else if b = 0xF0 then ([], some { bits := 0, missing := 3, low := 0x90 })
  else if 0xF1 ≤ b ∧ b ≤ 0xF3 then ([], some { bits := b - 0xF0, missing := 3 })
  else if b = 0xF4 then ([], some { bits := 4, missing := 3, high := 0x8F })
  else ([replacement], none)

/-- One byte: the characters that it completes or ends, and what is unfinished after it. -/
def step (r : Option Reading) (b : Nat) : List Char × Option Reading :=
  match r with
  | none => start b
  | some r =>
    if r.low ≤ b ∧ b ≤ r.high then
      let bits := 64 * r.bits + (b - 0x80)
      if r.missing = 1 then ([Char.ofNat bits], none)
      else ([], some { bits, missing := r.missing - 1 })
    else
      let (cs, r) := start b
      (replacement :: cs, r)

/-- The characters of bytes that follow an unfinished one. -/
def lossyFrom : Option Reading → List UInt8 → List Char
  | none, [] => []
  | some _, [] => [replacement]
  | r, b :: bs => (step r b.toNat).1 ++ lossyFrom (step r b.toNat).2 bs

/-- The text of bytes. -/
def lossy (bytes : List UInt8) : String :=
  String.ofList (lossyFrom none bytes)

end HostAgent.Text.Utf8
