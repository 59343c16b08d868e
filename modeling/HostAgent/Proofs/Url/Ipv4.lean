import HostAgent.Url.Ipv4
import HostAgent.Proofs.Text.Lists

/-!
# Addresses of four bytes are read as they are written

* `lt_of_parse?` — what is read are four bytes.
* `parse?_text`, `endsInNumber_text` — an address is read as it is written.
* `mem_text` — it is written in digits and full stops.
-/

namespace HostAgent.Url.Ipv4

variable {a n : ℕ} {c : Char} {cs : List Char} {ns : List ℕ}

/-! ## What is read -/

lemma foldl_lt (hns : ∀ n ∈ ns, n ≤ 255) (a : ℕ) :
    ns.foldl (fun n b => 256 * n + b) a < (a + 1) * 256 ^ ns.length := by
  induction ns generalizing a with
  | nil => simp
  | cons n ns ih =>
      obtain ⟨hn, hns⟩ := List.forall_mem_cons.mp hns
      have hstep : 256 * a + n + 1 ≤ (a + 1) * 256 := by omega
      refine (ih hns _).trans_le ?_
      rw [List.length_cons, pow_succ, ← mul_assoc, mul_right_comm]
      exact Nat.mul_le_mul_right _ hstep

/-- An address is read from the numbers of up to four parts. -/
lemma parse?_eq (cs : List Char) : parse? cs = if (parts cs).length > 4 then none else
    ((parts cs).mapM part?).bind fun ns => ns.getLast?.bind fun last =>
      if ns.dropLast.any (· > 255) || last ≥ 256 ^ (5 - ns.length) then none
      else some (ns.dropLast.foldl (fun n b => 256 * n + b) 0 * 256 ^ (5 - ns.length) + last) := by
  by_cases hlen : (parts cs).length > 4
  · simp [parse?, hlen]
  · simp only [parse?, hlen, if_false]
    rfl

/-- **What is read are four bytes.** -/
theorem lt_of_parse? (h : parse? cs = some a) : a < 256 ^ 4 := by
  rw [parse?_eq] at h
  split_ifs at h with hparts
  obtain ⟨ns, hns, h⟩ := Option.bind_eq_some_iff.mp h
  obtain ⟨last, hlast, h⟩ := Option.bind_eq_some_iff.mp h
  split_ifs at h with hbad
  obtain rfl := Option.some.inj h
  simp only [Bool.or_eq_true, not_or, List.any_eq_true, decide_eq_true_eq, not_exists, not_and,
    not_lt, ge_iff_le, not_le] at hbad
  obtain ⟨hfront, hlt⟩ := hbad
  have hlen : ns.length ≤ 4 := by
    rw [← (List.mapM_eq_some_iff.mp hns).length_eq]
    omega
  have hne : ns.length ≠ 0 := fun h0 => by
    rw [List.length_eq_zero_iff.mp h0] at hlast
    cases hlast
  have hhigh := foldl_lt hfront 0
  rw [List.length_dropLast, Nat.zero_add, Nat.one_mul] at hhigh
  set high := ns.dropLast.foldl (fun n b => 256 * n + b) 0
  calc high * 256 ^ (5 - ns.length) + last
      < (high + 1) * 256 ^ (5 - ns.length) := by
        rw [Nat.succ_mul]
        exact Nat.add_lt_add_left hlt _
    _ ≤ 256 ^ (ns.length - 1) * 256 ^ (5 - ns.length) := Nat.mul_le_mul_right _ hhigh
    _ = 256 ^ 4 := by
        rw [← pow_add]
        congr 1
        omega

/-! ## What is written -/

/-- The bytes of an address as they are written. -/
def byteTexts (a : ℕ) : List (List Char) :=
  [3, 2, 1, 0].map fun k => Nat.toDigits 10 (a / 256 ^ k % 256)

lemma toList_text (a : ℕ) : (text a).toList = ['.'].intercalate (byteTexts a) := by
  have hdot : ".".toList = ['.'] := String.toList_ofList
  have hbyte (n : ℕ) : (toString n).toList = Nat.toDigits 10 n := by
    rw [Nat.toString_eq_repr, Nat.repr_eq_ofList_toDigits, String.toList_ofList]
  simp only [text, String.toList_append, hdot, hbyte, byteTexts]
  simp [List.intercalate]

lemma part?_toDigits : ∀ n < 256, part? (Nat.toDigits 10 n) = some n ∧
    (Nat.toDigits 10 n).all Char.isDigit = true ∧ (Nat.toDigits 10 n).contains '.' = false ∧
    (Nat.toDigits 10 n).isEmpty = false := by
  decide +kernel

/-- The parts of an address are its bytes. -/
lemma parts_text (a : ℕ) : parts (text a).toList = byteTexts a := by
  have hbyte : ∀ t ∈ byteTexts a, '.' ∉ t ∧ t ≠ [] := by
    intro t ht
    obtain ⟨k, -, rfl⟩ := List.mem_map.mp ht
    obtain ⟨-, -, hdot, hne⟩ := part?_toDigits _ (Nat.mod_lt (a / 256 ^ k) (by decide))
    exact ⟨by simpa using hdot, List.isEmpty_eq_false_iff.mp hne⟩
  obtain ⟨c, cs, hlast⟩ := List.exists_cons_of_ne_nil
    (hbyte (Nat.toDigits 10 (a / 256 ^ 0 % 256)) (by simp [byteTexts])).2
  have hreverse : (byteTexts a).reverse
      = (c :: cs) :: [1, 2, 3].map fun k => Nat.toDigits 10 (a / 256 ^ k % 256) := by
    rw [← hlast]
    rfl
  rw [toList_text, parts, List.splitOn_intercalate '.' (fun t ht => (hbyte t ht).1)
    (by simp [byteTexts]), hreverse]
  dsimp only
  rw [← hreverse, List.reverse_reverse]

/-- **An address is written as one.** -/
theorem endsInNumber_text (a : ℕ) : endsInNumber (text a).toList = true := by
  obtain ⟨-, hdigits, -, hne⟩ := part?_toDigits _ (Nat.mod_lt (a / 256 ^ 0) (by decide))
  rw [endsInNumber, parts_text]
  simp only [byteTexts, List.map_cons, List.map_nil, List.getLast?_cons_cons,
    List.getLast?_singleton, hdigits, hne]
  rfl

/-- **An address is read as it is written.** -/
theorem parse?_text (ha : a < 256 ^ 4) : parse? (text a).toList = some a := by
  have hread : (byteTexts a).mapM part? = some ([3, 2, 1, 0].map fun k => a / 256 ^ k % 256) := by
    rw [List.mapM_eq_some_iff, byteTexts, List.forall₂_map_left_iff, List.forall₂_map_right_iff,
      List.forall₂_same]
    exact fun k _ => (part?_toDigits _ (Nat.mod_lt _ (by decide))).1
  rw [parse?_eq, parts_text, hread]
  simp [byteTexts]
  omega

/-- It is written in digits and full stops. -/
lemma mem_text (h : c ∈ (text a).toList) : c.isDigit = true ∨ c = '.' := by
  rw [toList_text] at h
  rcases List.mem_intercalate_singleton.mp h with ⟨t, ht, hc⟩ | ⟨rfl, -⟩
  · obtain ⟨k, -, rfl⟩ := List.mem_map.mp ht
    exact .inl (Nat.isDigit_of_mem_toDigits (by decide) (by decide) hc)
  · exact .inr rfl

end HostAgent.Url.Ipv4
