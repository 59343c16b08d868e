import HostAgent.Json.Printer
import HostAgent.Json.Raw
import HostAgent.Proofs.Text.Hex

/-!
# What is written between quotes can be read

* `decode?_encode` — the written form of a text stands for the text, whatever its characters are.
* `scan_encode`, `scan_quoted` — to the scanner it is one token.
-/

namespace HostAgent.Json

open Escaped Token
open Text (Hex.digit Hex.value?_digit)

variable {c : Char} {cs : List Char} {done : List Token}

namespace Escaped

/-! ## Reading the written form -/

/-- How a character is written: with a letter, with its number, or as it is. -/
inductive Written (c : Char) : List Char → Prop where
  | letter (x : Char) (hx : simpleEscape? x = some c) (hu : x ≠ 'u') : Written c ['\\', x]
  | number (hc : c.toNat < 32) :
      Written c ['\\', 'u', '0', '0', Hex.digit (c.toNat / 16), Hex.digit (c.toNat % 16)]
  | plain (hslash : c ≠ '\\') (hquote : c ≠ '"') (hc : ¬c.val < 0x20) : Written c [c]

lemma written_encodeChar (c : Char) : Written c (encodeChar c) := by
  unfold encodeChar
  split_ifs with h1 h2 h3 h4 h5 h6 h7 h8
  · exact h1 ▸ .letter '"' rfl (by decide)
  · exact h2 ▸ .letter '\\' rfl (by decide)
  · exact h3 ▸ .letter 'b' rfl (by decide)
  · exact h4 ▸ .letter 'f' rfl (by decide)
  · exact h5 ▸ .letter 'n' rfl (by decide)
  · exact h6 ▸ .letter 'r' rfl (by decide)
  · exact h7 ▸ .letter 't' rfl (by decide)
  · exact .number (by simpa [UInt32.lt_iff_toNat_lt] using h8)
  · exact .plain h2 h1 h8

/-- The four digits of a small number. -/
lemma unit?_digits {n : ℕ} (h : n < 32) :
    unit? '0' '0' (Hex.digit (n / 16)) (Hex.digit (n % 16)) = some n := by
  have hzero : Text.Hex.value? '0' = some 0 := rfl
  have hhi := Hex.value?_digit (n := n / 16) (by omega)
  have hlo := Hex.value?_digit (n := n % 16) (by omega)
  simp only [unit?, hzero, hhi, hlo, Option.bind_eq_bind, Option.bind_some, Option.pure_def,
    Option.some.injEq]
  omega

/-- One character of the written form is read. -/
lemma decode?_written {w : List Char} (h : Written c w) (rest : List Char) :
    decode? (w ++ rest) = (decode? rest).map (c :: ·) := by
  cases h with
  | letter x hx hu =>
      have hread : decode? ('\\' :: x :: rest)
          = (simpleEscape? x).bind fun y => (decode? rest).bind fun ys => some (y :: ys) := by
        rw [decode?]
        · rfl
        · rintro a b c d r h -
          exact hu h
      rw [List.cons_append, List.singleton_append, hread, hx, Option.map_eq_bind]
      rfl
  | number hc =>
      have hsurrogate : ¬(0xD800 ≤ c.toNat ∧ c.toNat < 0xDC00) := by omega
      have hsurrogate' : ¬(0xDC00 ≤ c.toNat ∧ c.toNat < 0xE000) := by omega
      simp only [List.cons_append, List.nil_append, decode?, unit?_digits hc,
        Option.bind_eq_bind, Option.bind_some, hsurrogate, hsurrogate', if_false, Char.ofNat_toNat]
      exact (Option.map_eq_bind (f := (c :: ·))).symm
  | plain hslash hquote hc =>
      have hread : decode? (c :: rest) = if c = '\\' ∨ c = '"' ∨ c.val < 0x20 then none
          else (decode? rest).map (c :: ·) := by
        rw [decode?]
        · rintro a b d e r h -
          exact hslash h
        · rintro d r h -
          exact hslash h
      rw [List.singleton_append, hread, if_neg (by simp [hslash, hquote, hc])]

/-- **The written form of a text stands for the text.** -/
theorem decode?_encode (cs : List Char) : decode? (encode cs) = some cs := by
  induction cs with
  | nil => rfl
  | cons c cs ih =>
      rw [encode, List.flatMap_cons, decode?_written (written_encodeChar c)]
      exact congrArg (Option.map (c :: ·)) ih

end Escaped

/-! ## Scanning the written form -/

namespace Token

/-- The scanner knows the letters that may follow a backslash. -/
lemma isEscapeLetter_of_simpleEscape? {x : Char} (h : simpleEscape? x = some c) :
    Scan.isEscapeLetter x = true := by
  unfold simpleEscape? at h
  split at h <;> first | rfl | cases h

/-- Between the quotes the scanner gathers the written form of a character. -/
lemma scan_encodeChar (done : List Token) (c : Char) (seen : List Char) :
    (encodeChar c).foldlM Scan.step? ⟨done, .text seen⟩
      = some ⟨done, .text ((encodeChar c).reverse ++ seen)⟩ := by
  have hwritten := written_encodeChar c
  generalize encodeChar c = w at hwritten
  cases hwritten with
  | letter x hx hu =>
      simp [Scan.step?, hu, isEscapeLetter_of_simpleEscape? hx]
  | number hc =>
      have hhi := Hex.value?_digit (n := c.toNat / 16) (by omega)
      have hlo := Hex.value?_digit (n := c.toNat % 16) (by omega)
      have hzero : Text.Hex.value? '0' = some 0 := rfl
      simp [Scan.step?, hhi, hlo, hzero]
  | plain hslash hquote hc =>
      simp [Scan.step?, hslash, hquote, hc]

/-- Between the quotes the scanner gathers the written form of a text. -/
lemma scan_encode (done : List Token) (cs seen : List Char) :
    (encode cs).foldlM Scan.step? ⟨done, .text seen⟩
      = some ⟨done, .text ((encode cs).reverse ++ seen)⟩ := by
  induction cs generalizing seen with
  | nil => rfl
  | cons c cs ih =>
      rw [encode, List.flatMap_cons, List.foldlM_append, scan_encodeChar, Option.bind_eq_bind,
        Option.bind_some, ← encode, ih, List.reverse_append, List.append_assoc]

/-- **A text in quotes is one token.** -/
theorem scan_quoted (done : List Token) (s : String) :
    (quoted s).toList.foldlM Scan.step? ⟨done, .nothing⟩
      = some ⟨.text (encode s.toList) :: done, .nothing⟩ := by
  have hlist : (quoted s).toList = '"' :: (encode s.toList ++ ['"']) := by
    rw [quoted, String.toList_ofList, List.cons_append]
  have hopen : Scan.step? ⟨done, .nothing⟩ '"' = some ⟨done, .text []⟩ := rfl
  rw [hlist, List.foldlM_cons, hopen, Option.bind_eq_bind, Option.bind_some, List.foldlM_append,
    scan_encode]
  simp [Scan.step?]

end Token

end HostAgent.Json
