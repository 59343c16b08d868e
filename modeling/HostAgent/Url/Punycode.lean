/-!
# Punycode

A label of a domain name with characters outside of ASCII is written in ASCII: its ASCII
characters, a hyphen, and then the others as one number each that tells both the character and its
place, in digits of a variable base.

* `encode` — the written form without its mark.
* `decode?` — the label that a written form stands for.
-/

namespace HostAgent.Url.Punycode

/-- The bias of the digits from then on, after a number has been written for the `count`-th
character. -/
def adapt (delta count : Nat) (first : Bool) : Nat :=
  let start := if first then delta / 700 else delta / 2
  go (start + start / count) 0
where
  /-- Counts how often the number can be cut by its base. -/
  go (delta k : Nat) : Nat :=
    if delta > 455 then go (delta / 35) (k + 36) else k + 36 * delta / (delta + 38)
  termination_by delta
  decreasing_by omega

/-- The smallest value of a last digit at the place `k`. -/
def threshold (k bias : Nat) : Nat :=
  if k ≤ bias + 1 then 1 else if k ≥ bias + 26 then 26 else k - bias

/-- The digit of a value below thirty-six. -/
def digit (n : Nat) : Char :=
  if n < 26 then Char.ofNat (97 + n) else Char.ofNat (22 + n)

/-- The value of a digit. -/
def value? (c : Char) : Option Nat :=
  if 'a' ≤ c ∧ c ≤ 'z' then some (c.toNat - 97)
  else if 'A' ≤ c ∧ c ≤ 'Z' then some (c.toNat - 65)
  else if '0' ≤ c ∧ c ≤ '9' then some (c.toNat - 22)
  else none

/-- A number in digits, of which the first stands at the place `k`. -/
def writeNumber (n k bias : Nat) : List Char :=
  let t := threshold k bias
  if n < t then [digit n]
  else digit (t + (n - t) % (36 - t)) :: writeNumber ((n - t) / (36 - t)) (k + 36) bias
termination_by n
decreasing_by
  have ht : 1 ≤ threshold k bias := by
    unfold threshold
    split
    · exact Nat.le_refl 1
    · split <;> omega
  exact Nat.lt_of_le_of_lt (Nat.div_le_self _ _) (by omega)

/-- What the writer keeps: the number in progress, the bias, how many characters are written, and
the digits so far, last first. -/
structure Writer where
  delta : Nat := 0
  bias : Nat := 72
  written : Nat
  out : List Char

/-- Writes all occurrences of the code point `n` in a label, after those of smaller ones. -/
def Writer.point (label : List Char) (basic : Nat) (w : Writer) (n : Nat) : Writer :=
  label.foldl
    (fun w c =>
      if c.toNat < n then { w with delta := w.delta + 1 }
      else if c.toNat = n then
        { delta := 0
          bias := adapt w.delta (w.written + 1) (w.written == basic)
          written := w.written + 1
          out := (writeNumber w.delta 36 w.bias).reverse ++ w.out }
      else w) w

/-- The written form of a label. -/
def encode (label : List Char) : List Char :=
  let basic := label.filter (·.val < 0x80)
  let points := ((label.filter (·.val ≥ 0x80)).map Char.toNat).mergeSort.eraseDups
  let start : Writer :=
    { written := basic.length, out := if basic.isEmpty then [] else '-' :: basic.reverse }
  let step (acc : Writer × Nat) (n : Nat) : Writer × Nat :=
    let w := { acc.1 with delta := acc.1.delta + (n - acc.2) * (acc.1.written + 1) }
    let w := w.point label basic.length n
    ({ w with delta := w.delta + 1 }, n + 1)
  (points.foldl step (start, 128)).1.out.reverse

/-- Reads a number: its value, added up from digits of growing weight, and what follows. -/
def readNumber? : List Char → Nat → Nat → Nat → Nat → Option (Nat × List Char)
  | [], _, _, _, _ => none
  | c :: rest, k, weight, acc, bias => do
    let d ← value? c
    let acc := acc + d * weight
    let t := threshold k bias
    if d < t then some (acc, rest) else readNumber? rest (k + 36) (weight * (36 - t)) acc bias

/-- A number leaves less to read. -/
theorem length_readNumber? {cs rest : List Char} {k w a b n : Nat}
    (h : readNumber? cs k w a b = some (n, rest)) : rest.length < cs.length := by
  induction cs generalizing k w a with
  | nil => simp [readNumber?] at h
  | cons c cs ih =>
    simp only [readNumber?, bind, Option.bind] at h
    split at h
    · cases h
    · dsimp only at h
      split at h
      · cases h
        exact Nat.lt_succ_self _
      · exact Nat.lt_succ_of_lt (ih h)

/-- Puts the characters that the numbers tell into a label. -/
def readPoints? (cs : List Char) (n i bias : Nat) (label : List Char) : Option (List Char) :=
  if cs.isEmpty then some label
  else
    match _h : readNumber? cs 36 1 i bias with
    | none => none
    | some (j, rest) =>
      let size := label.length + 1
      let m := n + j / size
      if m < 0xD800 ∨ (0xDFFF < m ∧ m < 0x110000) then
        readPoints? rest m (j % size + 1) (adapt (j - i) size (i == 0))
          (label.take (j % size) ++ Char.ofNat m :: label.drop (j % size))
      else none
termination_by cs.length
decreasing_by exact length_readNumber? _h

/-- The label that a written form stands for.  The last hyphen ends the ASCII characters, unless
it comes first. -/
def decode? (cs : List Char) : Option (List Char) :=
  let behind := (cs.reverse.takeWhile (· != '-')).reverse
  let before := cs.take (cs.length - behind.length - 1)
  let (basic, numbers) :=
    if behind.length = cs.length then ([], cs)
    else if before.isEmpty then ([], cs)
    else (before, behind)
  if basic.all (·.val < 0x80) then readPoints? numbers 128 0 72 basic else none

end HostAgent.Url.Punycode
