import HostAgent.Text.Hex
import Mathlib

/-!
# Digits of numbers written to the base sixteen

* `value?_digit` — a digit stands for its value.
* `mem_digits`, `value?_lt` — the characters that stand for a value, and the values they stand for.
-/

namespace HostAgent.Text.Hex

variable {c : Char} {n : ℕ}

/-- A digit stands for its value. -/
lemma value?_digit (h : n < 16) : value? (digit n) = some n := by
  interval_cases n <;> rfl

/-- The digits of either case. -/
def digits : List Char :=
  ['0', '1', '2', '3', '4', '5', '6', '7', '8', '9', 'a', 'b', 'c', 'd', 'e', 'f', 'A', 'B', 'C',
    'D', 'E', 'F']

lemma mem_digits (h : (value? c).isSome) : c ∈ digits := by
  have hmem : ∀ n < 128, (value? (Char.ofNat n)).isSome → digits.contains (Char.ofNat n) := by
    decide +kernel
  have hlt : c.toNat < 128 := by
    have hle : ∀ {d : Char}, c ≤ d → c.toNat ≤ d.toNat := fun h => h
    unfold value? at h
    split_ifs at h with h1 h2 h3
    · exact lt_of_le_of_lt (hle h1.2) (by decide)
    · exact lt_of_le_of_lt (hle h2.2) (by decide)
    · exact lt_of_le_of_lt (hle h3.2) (by decide)
    · cases h
  have hc := hmem c.toNat hlt
  rw [Char.ofNat_toNat] at hc
  exact List.contains_iff_mem.mp (hc h)

lemma value?_lt (h : value? c = some n) : n < 16 := by
  have hall : digits.all fun d => (value? d).all (· < 16) := by decide +kernel
  have hc := List.all_eq_true.mp hall c (mem_digits (by rw [h]; rfl))
  simpa [h] using hc

end HostAgent.Text.Hex
