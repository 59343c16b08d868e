import HostAgent.Json.Token
import Mathlib

/-!
# Written integers can be read

* `numeral` — an integer as it is written: its digits, without a point or a power of ten.
* `ofLexeme?_toString` — that is what is read.
* `datum?_numeral` — it stands for the integer, if that fits a signed or unsigned 64-bit register.
-/

namespace HostAgent.Json

variable {n : ℕ} {i : ℤ} {c : Char} {cs : List Char}

/-- The value of a digit. -/
def digitValue (c : Char) : ℕ :=
  c.toNat - 48

/-- An integer as it is written. -/
def numeral (i : ℤ) : Numeral :=
  ⟨decide (i < 0), (Nat.toDigits 10 i.natAbs).map digitValue, none, none⟩

/-! ## Digits -/

/-- The first digit is not zero, unless the number is. -/
lemma head?_toDigits (hn : n ≠ 0) : (Nat.toDigits 10 n).head?.map digitValue ≠ some 0 := by
  induction n using Nat.strongRecOn with
  | ind n ih =>
      by_cases hlt : n < 10
      · rw [Nat.toDigits_of_lt_base hlt]
        interval_cases n <;> first | exact absurd rfl hn | decide
      · have hrest := ih (n / 10) (by omega) (by omega)
        rwa [Nat.toDigits_of_base_le (by decide) (not_lt.mp hlt), List.head?_append_of_ne_nil]
        exact Nat.toDigits_ne_nil

lemma natOfDigits_toDigits (n : ℕ) :
    Numeral.natOfDigits ((Nat.toDigits 10 n).map digitValue) = n := by
  rw [Numeral.natOfDigits, List.foldl_map]
  exact Nat.ofDigitChars_eq_foldl.symm.trans (Nat.ofDigitChars_toDigits (by decide) (by decide))

/-- Digits alone are read up to their end. -/
lemma digits_of_forall (h : ∀ c ∈ cs, c.isDigit = true) :
    Numeral.digits cs = (cs.map digitValue, []) := by
  induction cs with
  | nil => rfl
  | cons c cs ih =>
      obtain ⟨hc, hcs⟩ := List.forall_mem_cons.mp h
      rw [Numeral.digits, if_pos hc, ih hcs]
      rfl

/-- The digits of a number are read as such. -/
lemma digits1?_toDigits (n : ℕ) :
    Numeral.digits1? (Nat.toDigits 10 n) = some ((Nat.toDigits 10 n).map digitValue, []) := by
  have hdigits := @digits_of_forall (Nat.toDigits 10 n) fun c hc =>
    Nat.isDigit_of_mem_toDigits (by decide) (by decide) hc
  obtain ⟨d, ds, hds⟩ := List.exists_cons_of_ne_nil (Nat.toDigits_ne_nil (n := n) (b := 10))
  rw [Numeral.digits1?, hdigits, hds]
  rfl

/-! ## Integers -/

/-- The characters of an integer. -/
lemma toList_toString (i : ℤ) : (toString i).toList =
    if i < 0 then '-' :: Nat.toDigits 10 i.natAbs else Nat.toDigits 10 i.natAbs := by
  rw [Int.toString_eq_repr, Int.repr_eq_if]
  by_cases hi : i < 0
  · have hminus : "-".toList = ['-'] := String.toList_ofList
    have hnat : (-i).toNat = i.natAbs := by omega
    rw [if_neg (not_le.mpr hi), if_pos hi, String.toList_append, hminus, hnat,
      Nat.repr_eq_ofList_toDigits, String.toList_ofList]
    rfl
  · have hnat : i.toNat = i.natAbs := by omega
    rw [if_pos (not_lt.mp hi), if_neg hi, hnat, Nat.repr_eq_ofList_toDigits, String.toList_ofList]

/-- No digit is wasted. -/
lemma not_leadingZero (n : ℕ) : ¬(((Nat.toDigits 10 n).map digitValue).length > 1 ∧
    ((Nat.toDigits 10 n).map digitValue).head? = some 0) := by
  rintro ⟨hlength, hhead⟩
  rw [List.head?_map] at hhead
  by_cases hn : n = 0
  · simp [hn] at hlength
  · exact head?_toDigits hn hhead

/-- Behind the sign the digits of a number are read, and nothing is left for a point or a power. -/
lemma read_toDigits (negative : Bool) (n : ℕ) : (do
    let (whole, cs) ← Numeral.digits1? (Nat.toDigits 10 n)
    if whole.length > 1 ∧ whole.head? = some 0 then none
    let (fraction, cs) ← Numeral.fraction? cs
    let (power, cs) ← Numeral.power? cs
    if cs.isEmpty then some (⟨negative, whole, fraction, power⟩ : Numeral) else none)
    = some ⟨negative, (Nat.toDigits 10 n).map digitValue, none, none⟩ := by
  rw [digits1?_toDigits]
  simp only [Option.bind_eq_bind, Option.bind_some, if_neg (not_leadingZero _)]
  rfl

/-- **A written integer is read as its numeral.** -/
theorem ofLexeme?_toString (i : ℤ) : Numeral.ofLexeme? (toString i).toList = some (numeral i) := by
  rw [toList_toString, numeral]
  by_cases hi : i < 0
  · rw [if_pos hi, decide_eq_true hi]
    exact read_toDigits true i.natAbs
  · rw [if_neg hi, decide_eq_false hi, ← read_toDigits false i.natAbs]
    obtain ⟨d, ds, hds⟩ :=
      List.exists_cons_of_ne_nil (Nat.toDigits_ne_nil (n := i.natAbs) (b := 10))
    have hd : d.isDigit = true := Nat.isDigit_of_mem_toDigits (b := 10) (n := i.natAbs) (by decide)
      (by decide) (hds ▸ List.mem_cons_self)
    have hminus : d ≠ '-' := fun h => by simp [h] at hd
    rw [hds]
    unfold Numeral.ofLexeme?
    split
    rename_i negative cs hsign
    split at hsign
    · rename_i heq
      exact absurd (List.cons.inj heq).1 hminus
    · obtain ⟨rfl, rfl⟩ := Prod.mk.inj hsign
      rfl

/-- All characters of an integer belong to numbers. -/
lemma isLexemeChar_of_mem (h : c ∈ (toString i).toList) : isLexemeChar c = true := by
  have hdigit : ∀ d ∈ Nat.toDigits 10 i.natAbs, isLexemeChar d = true := fun d hd => by
    have hd := Nat.isDigit_of_mem_toDigits (by decide) (by decide) hd
    simp [isLexemeChar, Char.isAlphanum, hd]
  rw [toList_toString] at h
  split_ifs at h
  · rcases List.mem_cons.mp h with rfl | h
    · rfl
    · exact hdigit c h
  · exact hdigit c h

/-- **The numeral of an integer stands for it**, if it fits a 64-bit register. -/
theorem datum?_numeral (hlow : -Word.half64 ≤ i) (hhigh : i < Word.size64) :
    (numeral i).datum? = some (.int i) := by
  have hwhole : (numeral i).isWhole = true := rfl
  have hvalue : Numeral.natOfDigits (numeral i).whole = i.natAbs := natOfDigits_toDigits _
  have hmax : Numeral.registerMax = Word.size64 - 1 := rfl
  unfold Word.half64 Word.size64 at *
  unfold Numeral.datum?
  rw [hwhole, hvalue]
  by_cases hi : i < 0
  · have hnegative : (numeral i).negative = true := decide_eq_true hi
    have hfits : i.natAbs ≤ 9223372036854775808 := by omega
    have hne : i.natAbs ≠ 0 := by omega
    have hneg : -(i.natAbs : ℤ) = i := by omega
    simp only [hnegative, Word.half64, hfits, hne, hneg, Bool.not_true, Bool.and_false,
      Bool.false_and, Bool.true_and, Bool.and_true, decide_true, bne_iff_ne, ne_eq,
      not_false_eq_true, if_true, if_false, Bool.false_eq_true]
  · have hnegative : (numeral i).negative = false := decide_eq_false hi
    have hfits : i.natAbs ≤ Numeral.registerMax := by omega
    have hpos : (i.natAbs : ℤ) = i := by omega
    simp only [hnegative, hfits, hpos, Bool.not_false, Bool.and_true, decide_true, if_true]

end HostAgent.Json
