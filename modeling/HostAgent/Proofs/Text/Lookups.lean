import HostAgent.Text.Table
import Mathlib

/-!
# What lookups find

* `countUpTo_eq` — the binary search counts what is at most its number.
* `Table.below?_ofEntries`, `Table.at?_of_mem`, `Table.at?_eq_none` — a lookup in terms of the
  entries.
* `below?_numbers`, `contains_ofGaps` — the same for what is written with gaps.
-/

namespace HostAgent.Text

variable {α : Type} {xs : List ℕ} {es : List (ℕ × α)} {n low size : ℕ} {v : α}

/-! ## The search -/

/-- In an ascending list an element parts what is at most it from what is at least it. -/
lemma le_of_getElem? (hasc : xs.Pairwise (· ≤ ·)) {i x : ℕ} (hx : xs[i]? = some x) :
    (∀ y ∈ xs.take (i + 1), y ≤ x) ∧ ∀ y ∈ xs.drop i, x ≤ y := by
  obtain ⟨hi, rfl⟩ := List.getElem?_eq_some_iff.mp hx
  rw [← List.take_append_drop i xs, List.drop_eq_getElem_cons hi, List.pairwise_append,
    List.pairwise_cons] at hasc
  obtain ⟨-, ⟨hbehind, -⟩, hbefore⟩ := hasc
  rw [List.take_add_one, hx, List.drop_eq_getElem_cons hi]
  constructor
  · rintro y hy
    rcases List.mem_append.mp hy with hy | hy
    · exact hbefore y hy _ List.mem_cons_self
    · exact (List.mem_singleton.mp hy).le
  · exact List.forall_mem_cons.mpr ⟨le_rfl, hbehind⟩

/-- The search stops between what is at most its number and what exceeds it. -/
lemma countUpTo_spec (hasc : xs.Pairwise (· ≤ ·)) (hsize : low + size ≤ xs.length)
    (hbelow : ∀ x ∈ xs.take low, x ≤ n) (habove : ∀ x ∈ xs.drop (low + size), n < x) :
    countUpTo xs.toArray n low size ≤ xs.length ∧
      (∀ x ∈ xs.take (countUpTo xs.toArray n low size), x ≤ n) ∧
      ∀ x ∈ xs.drop (countUpTo xs.toArray n low size), n < x := by
  induction low, size using countUpTo.induct xs.toArray n with
  | case1 low =>
      rw [countUpTo, if_pos rfl]
      exact ⟨hsize, hbelow, habove⟩
  | case2 low size h0 half hnone =>
      rw [List.getElem?_toArray, List.getElem?_eq_none_iff] at hnone
      omega
  | case3 low size h0 half x hx hle ih =>
      have hend : low + half + 1 + (size - half - 1) = low + size := by omega
      rw [List.getElem?_toArray] at hx
      rw [countUpTo, if_neg h0]
      simp only [List.getElem?_toArray, hx, half, if_pos hle]
      exact ih (hend ▸ hsize) (fun y hy => ((le_of_getElem? hasc hx).1 y hy).trans hle)
        (hend ▸ habove)
  | case4 low size h0 half x hx hle ih =>
      rw [List.getElem?_toArray] at hx
      rw [countUpTo, if_neg h0]
      simp only [List.getElem?_toArray, hx, half, if_neg hle]
      exact ih (by omega) hbelow fun y hy =>
        lt_of_lt_of_le (not_le.mp hle) ((le_of_getElem? hasc hx).2 y hy)

/-- **The search counts what is at most its number.** -/
theorem countUpTo_eq (hasc : xs.Pairwise (· ≤ ·)) (n : ℕ) :
    countUpTo xs.toArray n 0 xs.length = (xs.takeWhile (· ≤ n)).length := by
  obtain ⟨hle, hbelow, habove⟩ :=
    @countUpTo_spec xs n 0 xs.length hasc (by simp) (by simp) (by simp)
  generalize countUpTo xs.toArray n 0 xs.length = k at hle hbelow habove
  have hnone : (xs.drop k).takeWhile (· ≤ n) = [] :=
    List.takeWhile_eq_nil_iff.mpr fun h => by
      simpa using habove _ (List.getElem_mem h)
  conv_rhs => rw [← List.take_append_drop k xs]
  rw [List.takeWhile_append_of_pos (by simpa using hbelow), hnone, List.append_nil,
    List.length_take_of_le hle]

/-! ## Lookups -/

namespace Table

/-- The last entry at or below a code point. -/
def lastUpTo (es : List (ℕ × α)) (n : ℕ) : Option (ℕ × α) :=
  (es.takeWhile (·.1 ≤ n)).getLast?

/-- The search ends behind the last entry at or below a code point. -/
lemma lastUpTo_eq (hasc : (es.map Prod.fst).Pairwise (· ≤ ·)) (n : ℕ) :
    lastUpTo es n = match countUpTo (ofEntries es).points n 0 (ofEntries es).points.size with
      | 0 => none
      | k + 1 => es[k]? := by
  have hcount : countUpTo (ofEntries es).points n 0 (ofEntries es).points.size
      = (es.takeWhile (·.1 ≤ n)).length := by
    rw [ofEntries, List.size_toArray, countUpTo_eq hasc, List.takeWhile_map, List.length_map]
    rfl
  have hfront : es.takeWhile (·.1 ≤ n) <+: es := List.takeWhile_prefix _
  rw [hcount, lastUpTo, List.getLast?_eq_getElem?]
  cases hlen : (es.takeWhile (·.1 ≤ n)).length with
  | zero => rw [List.length_eq_zero_iff.mp hlen]; rfl
  | succ k =>
      have hk : k < (es.takeWhile (·.1 ≤ n)).length := by omega
      rw [Nat.add_sub_cancel, List.getElem?_eq_getElem hk, hfront.getElem hk]
      exact (List.getElem?_eq_getElem _).symm

/-- **What holds at a code point is what the last entry at or below it tells.** -/
theorem below?_ofEntries (hasc : (es.map Prod.fst).Pairwise (· ≤ ·)) (n : ℕ) :
    (ofEntries es).below? n = (lastUpTo es n).map Prod.snd := by
  rw [lastUpTo_eq hasc, below?]
  cases countUpTo (ofEntries es).points n 0 (ofEntries es).points.size with
  | zero => rfl
  | succ k => simp [ofEntries]

/-- **What is found at a code point is what the entry for it tells, if there is one.** -/
theorem at?_ofEntries (hasc : (es.map Prod.fst).Pairwise (· ≤ ·)) (n : ℕ) :
    (ofEntries es).at? n = ((lastUpTo es n).filter (·.1 == n)).map Prod.snd := by
  rw [lastUpTo_eq hasc, at?]
  cases countUpTo (ofEntries es).points n 0 (ofEntries es).points.size with
  | zero => rfl
  | succ k =>
      cases hk : es[k]? with
      | none => simp [ofEntries, hk]
      | some e =>
          by_cases he : e.1 = n
          · subst he
            simp [ofEntries, hk]
          · simp [ofEntries, hk, he]

theorem at?_of_mem (hasc : (es.map Prod.fst).Pairwise (· < ·)) (hv : (n, v) ∈ es) :
    (ofEntries es).at? n = some v := by
  obtain ⟨front, behind, rfl⟩ := List.append_of_mem hv
  have hle := hasc.imp le_of_lt
  rw [List.map_append, List.map_cons, List.pairwise_append, List.pairwise_cons] at hasc
  obtain ⟨-, ⟨hbehind, -⟩, hbefore⟩ := hasc
  have hfront : ∀ e ∈ front, decide (e.1 ≤ n) = true := fun e he =>
    decide_eq_true (hbefore _ (List.mem_map_of_mem he) _ List.mem_cons_self).le
  have hnone : behind.takeWhile (·.1 ≤ n) = [] := List.takeWhile_eq_nil_iff.mpr fun h => by
    simpa using hbehind _ (List.mem_map_of_mem (List.getElem_mem h))
  have hlast : lastUpTo (front ++ (n, v) :: behind) n = some (n, v) := by
    rw [lastUpTo, List.takeWhile_append_of_pos hfront, List.takeWhile_cons_of_pos (by simp), hnone,
      List.getLast?_concat]
  rw [at?_ofEntries hle, hlast]
  simp

theorem at?_eq_none (hasc : (es.map Prod.fst).Pairwise (· ≤ ·)) (hn : n ∉ es.map Prod.fst) :
    (ofEntries es).at? n = none := by
  rw [at?_ofEntries hasc, Option.map_eq_none_iff, Option.filter_eq_none_iff]
  rintro e he hen
  have hmem : e ∈ es := List.takeWhile_subset _ (List.mem_of_getLast? he)
  exact hn (by simpa [← beq_iff_eq.mp hen] using ⟨e.2, hmem⟩)

end Table

/-! ## What is written with gaps -/

section Gaps

variable {rows : List (List ℕ)} {gaps : List ℕ} {last : ℕ}

lemma le_of_mem_placed {e : ℕ × List ℕ} (he : e ∈ placed last rows) : last ≤ e.1 := by
  induction rows generalizing last with
  | nil => cases he
  | cons row rows ih =>
      cases row with
      | nil => cases he
      | cons gap told =>
          rcases List.mem_cons.mp he with rfl | he
          · exact Nat.le_add_right _ _
          · exact (Nat.le_add_right _ _).trans (ih he)

/-- Gaps lead upward. -/
lemma pairwise_placed (last : ℕ) (rows : List (List ℕ)) :
    ((placed last rows).map Prod.fst).Pairwise (· ≤ ·) := by
  induction rows generalizing last with
  | nil => exact .nil
  | cons row rows ih =>
      cases row with
      | nil => exact .nil
      | cons gap told =>
          refine .cons (fun k hk => ?_) (ih _)
          obtain ⟨e, he, rfl⟩ := List.mem_map.mp hk
          exact le_of_mem_placed he

lemma lt_of_mem_placed {e : ℕ × List ℕ} (hrows : ∀ r ∈ rows, r.head? ≠ some 0)
    (he : e ∈ placed last rows) : last < e.1 := by
  cases rows with
  | nil => cases he
  | cons row rows =>
      cases row with
      | nil => cases he
      | cons gap told =>
          have hgap : gap ≠ 0 := by simpa using hrows (gap :: told) List.mem_cons_self
          have hlt : last < last + gap := Nat.lt_add_of_pos_right (Nat.pos_of_ne_zero hgap)
          rcases List.mem_cons.mp he with rfl | he
          · exact hlt
          · exact hlt.trans_le (le_of_mem_placed he)

/-- Gaps lead to points of their own, if none is empty. -/
lemma pairwise_lt_placed (last : ℕ) (hrows : ∀ r ∈ rows, r.head? ≠ some 0) :
    ((placed last rows).map Prod.fst).Pairwise (· < ·) := by
  induction rows generalizing last with
  | nil => exact .nil
  | cons row rows ih =>
      obtain ⟨-, hrest⟩ := List.forall_mem_cons.mp hrows
      cases row with
      | nil => exact .nil
      | cons gap told =>
          refine .cons (fun k hk => ?_) (ih _ hrest)
          obtain ⟨e, he, rfl⟩ := List.mem_map.mp hk
          exact lt_of_mem_placed hrest he

/-- **What a table of numbers tells of a code point.** -/
theorem below?_numbers (rows : List (List (List ℕ))) (n : ℕ) :
    (Table.numbers rows).below? n
      = (Table.lastUpTo (placed 0 rows.flatten) n).map (·.2.headD 0) := by
  have hkeys : ((placed 0 rows.flatten).map fun e => (e.1, e.2.headD 0)).map Prod.fst
      = (placed 0 rows.flatten).map Prod.fst := by rw [List.map_map]; rfl
  rw [Table.numbers, Table.below?_ofEntries (hkeys ▸ pairwise_placed _ _), Table.lastUpTo,
    List.takeWhile_map, List.getLast?_map, Option.map_map]
  rfl

lemma le_of_mem_points {n : ℕ} (hn : n ∈ CharSet.points last gaps) : last ≤ n := by
  induction gaps generalizing last with
  | nil => cases hn
  | cons gap gaps ih =>
      rcases List.mem_cons.mp hn with rfl | hn
      · exact Nat.le_add_right _ _
      · exact (Nat.le_add_right _ _).trans (ih hn)

lemma pairwise_points (last : ℕ) (gaps : List ℕ) :
    (CharSet.points last gaps).Pairwise (· ≤ ·) := by
  induction gaps generalizing last with
  | nil => exact .nil
  | cons gap gaps ih => exact .cons (fun n hn => le_of_mem_points hn) (ih _)

/-- **Whether a character is in a set that gaps write.** -/
theorem contains_ofGaps (gaps : List ℕ) (c : Char) : (CharSet.ofGaps gaps).contains c
    = (((CharSet.points 0 gaps).takeWhile (· ≤ c.toNat)).length % 2 == 1) := by
  rw [CharSet.contains, CharSet.ofGaps, List.size_toArray, countUpTo_eq (pairwise_points _ _)]

end Gaps

end HostAgent.Text
