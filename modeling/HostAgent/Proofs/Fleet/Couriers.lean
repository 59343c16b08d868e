import HostAgent.Fleet.Basic
import Mathlib.Tactic

/-!
# One courier changes, the others do not

Every action of a fleet changes one courier.  This file says what such a change does to the two
ways in which the couriers are looked at:

* `phase_modify` and its cases — the phase of each courier;
* `total_modify`, `total_change` — something added up over all couriers, or over all phases.
-/

namespace HostAgent.Fleet

variable {f g : Fleet} {i j : ℕ} {p : Phase}

/-- The courier of a number. -/
def courier (f : Fleet) (i : ℕ) : Courier :=
  f.couriers[i]?.getD {}

lemma phase_eq (f : Fleet) (i : ℕ) : f.phase i = (f.courier i).phase := rfl

/-- Beyond the last courier there is nobody, who is about to look. -/
lemma phase_of_size_le (h : f.couriers.size ≤ i) : f.phase i = .looking := by
  simp [phase, Array.getElem?_eq_none h]

lemma lt_size_of_phase_ne (h : f.phase i ≠ .looking) : i < f.couriers.size := by
  by_contra hi
  exact h (phase_of_size_le (not_lt.mp hi))

/-! ## Phases -/

lemma courier_modify (hi : i < f.couriers.size) (g : Courier → Courier) :
    (f.modify i g).courier j = if j = i then g (f.courier i) else f.courier j := by
  simp only [courier, modify, Array.getElem?_modify]
  by_cases h : i = j
  · subst h
    simp [hi]
  · simp [h, Ne.symm h]

lemma phase_modify (hi : i < f.couriers.size) (g : Courier → Courier) :
    (f.modify i g).phase j = if j = i then (g (f.courier i)).phase else f.phase j := by
  rw [phase_eq, courier_modify hi]
  split_ifs <;> rfl

lemma phase_become (hi : i < f.couriers.size) :
    (f.become i p).phase j = if j = i then p else f.phase j :=
  phase_modify hi _

lemma phase_rest (hi : i < f.couriers.size) :
    (f.rest i p).phase j = if j = i then p else f.phase j :=
  phase_modify hi _

lemma phase_wake (hi : i < f.couriers.size) :
    (f.wake i p).phase j = if j = i then p else f.phase j :=
  phase_modify hi _

/-- Counting changes nobody's phase. -/
lemma phase_modify_tally (i : ℕ) (t : Tally → Tally) :
    (f.modify i fun c => { c with tally := t c.tally }).phase j = f.phase j := by
  simp only [phase, modify, Array.getElem?_modify]
  split_ifs
  · cases f.couriers[j]? <;> rfl
  · rfl

/-- A courier counts and changes its phase. -/
lemma phase_tally_become (hi : i < f.couriers.size) (t : Tally → Tally) :
    ((f.modify i fun c => { c with tally := t c.tally }).become i p).phase j
      = if j = i then p else f.phase j := by
  rw [phase_become (by simpa [modify] using hi), phase_modify_tally]

@[simp] lemma size_modify (f : Fleet) (i : ℕ) (g : Courier → Courier) :
    (f.modify i g).couriers.size = f.couriers.size := by
  simp [modify]

@[simp] lemma size_become (f : Fleet) (i : ℕ) (p : Phase) :
    (f.become i p).couriers.size = f.couriers.size :=
  size_modify _ _ _

@[simp] lemma size_rest (f : Fleet) (i : ℕ) (p : Phase) :
    (f.rest i p).couriers.size = f.couriers.size :=
  size_modify _ _ _

/-! ## Sums over all couriers -/

/-- Something for each courier, added up. -/
def total {M : Type} [AddCommMonoid M] (f : Fleet) (w : Courier → M) : M :=
  ∑ i ∈ Finset.range f.couriers.size, w (f.courier i)

variable {M : Type} [AddCommMonoid M]

/-- One summand changes, and the rest stays. -/
lemma sum_change {n : ℕ} (hi : i < n) {a b : ℕ → M} (h : ∀ j ≠ i, b j = a j) :
    ∃ rest, ∑ j ∈ Finset.range n, a j = a i + rest ∧ ∑ j ∈ Finset.range n, b j = b i + rest := by
  have hmem : i ∈ Finset.range n := Finset.mem_range.mpr hi
  have hrest : ∑ j ∈ (Finset.range n).erase i, b j = ∑ j ∈ (Finset.range n).erase i, a j :=
    Finset.sum_congr rfl fun j hj => h j (Finset.ne_of_mem_erase hj)
  exact ⟨_, (Finset.add_sum_erase _ a hmem).symm, by rw [← hrest, Finset.add_sum_erase _ b hmem]⟩

/-- One courier changes, and the others add up to the same. -/
lemma total_modify (hi : i < f.couriers.size) (g : Courier → Courier) (w : Courier → M) :
    ∃ rest, f.total w = w (f.courier i) + rest ∧
      (f.modify i g).total w = w (g (f.courier i)) + rest := by
  obtain ⟨rest, ha, hb⟩ := sum_change hi (a := fun j => w (f.courier j))
    (b := fun j => w ((f.modify i g).courier j)) fun j hj => by rw [courier_modify hi, if_neg hj]
  refine ⟨rest, ha, ?_⟩
  rw [courier_modify hi, if_pos rfl] at hb
  rwa [total, size_modify]

/-- One phase changes, and the others add up to the same. -/
lemma total_change (hi : i < f.couriers.size) (hsize : g.couriers.size = f.couriers.size)
    (hphase : ∀ j, g.phase j = if j = i then p else f.phase j) (w : Phase → M) :
    ∃ rest, f.total (fun c => w c.phase) = w (f.phase i) + rest ∧
      g.total (fun c => w c.phase) = w p + rest := by
  obtain ⟨rest, ha, hb⟩ := sum_change hi (a := fun j => w (f.phase j))
    (b := fun j => w (g.phase j)) fun j hj => by rw [hphase, if_neg hj]
  refine ⟨rest, ha, ?_⟩
  rw [hphase, if_pos rfl] at hb
  rwa [total, hsize]

/-- A sum along the list of couriers. -/
lemma sum_map_couriers (f : Fleet) (w : Courier → ℕ) :
    (f.couriers.toList.map w).sum = f.total w := by
  rw [total, Finset.sum_range, ← List.sum_ofFn]
  congr 1
  exact List.ext_getElem (by simp) fun k hk hk' => by simp [courier]

end HostAgent.Fleet
