/-!
# Heaps

A binary tree in which nothing stands above what is greater than itself, so a greatest element is
at the top.

* `Heap.meld` — one heap of two.  The right part of the higher top is melded with the other heap
  and changes sides with the left part.
* `Heap.push`, `Heap.pop?` — one more element, and a greatest element less.
* `meld_perm`, `IsOrdered.meld` — melding keeps exactly the elements of both heaps, and the order.
* `IsOrdered.isLE_pop` — nothing is greater than what is removed.
-/

namespace HostAgent

/-- A binary tree. -/
inductive Heap (α : Type) where
  | nil
  | node (top : α) (left right : Heap α)
  deriving Repr, Inhabited

namespace Heap

variable {α : Type}

/-- The elements, the top first. -/
def toList : Heap α → List α
  | nil => []
  | node a l r => a :: (l.toList ++ r.toList)

/-- How many elements there are. -/
def size : Heap α → Nat
  | nil => 0
  | node _ l r => l.size + r.size + 1

@[simp] theorem length_toList (h : Heap α) : h.toList.length = h.size := by
  induction h with
  | nil => rfl
  | node a l r ihl ihr => simp [toList, size, ihl, ihr]

variable [Ord α]

/-- Melds a heap, given by its parts and by what its right part is melded to, with another. -/
def meldNode (a : α) (l r : Heap α) (meldRight : Heap α → Heap α) : Heap α → Heap α
  | nil => node a l r
  | node b l' r' =>
    if (compare b a).isLE then node a (meldRight (node b l' r')) l
    else node b (meldNode a l r meldRight r') l'

/-- One heap of two. -/
def meld : Heap α → Heap α → Heap α
  | nil => id
  | node a l r => meldNode a l r r.meld

/-- Adds an element. -/
def push (h : Heap α) (a : α) : Heap α :=
  h.meld (node a nil nil)

/-- Removes a greatest element. -/
def pop? : Heap α → Option (α × Heap α)
  | nil => none
  | node a l r => some (a, l.meld r)

theorem pop?_eq_none_iff {h : Heap α} : h.pop? = none ↔ h.size = 0 := by
  cases h <;> simp [pop?, size]

theorem meldNode_perm {a : α} {l r : Heap α} {meldRight : Heap α → Heap α}
    (hr : ∀ k, (meldRight k).toList.Perm (r.toList ++ k.toList)) (k : Heap α) :
    (meldNode a l r meldRight k).toList.Perm ((node a l r).toList ++ k.toList) := by
  induction k with
  | nil => simp [meldNode, toList]
  | node b l' r' _ ihr =>
    simp only [meldNode]
    split
    · -- the left part goes behind what the right part is melded to
      have h := ((hr (node b l' r')).append_right l.toList).trans List.perm_append_comm
      simpa [toList, List.append_assoc] using h.cons a
    · -- the higher top moves back into its own heap, in front of its left part
      have h := (ihr.append_right l'.toList).cons b
      simp only [toList, List.cons_append, List.append_assoc] at h ⊢
      refine h.trans (.trans (.swap a b _) (.cons a ?_))
      refine List.perm_middle.symm.trans (.append_left _ (List.perm_middle.symm.trans ?_))
      exact .append_left _ (List.perm_append_comm.cons b)

/-- Melding keeps exactly the elements of both heaps. -/
theorem meld_perm (h k : Heap α) : (h.meld k).toList.Perm (h.toList ++ k.toList) := by
  induction h generalizing k with
  | nil => exact List.Perm.refl _
  | node a l r _ ihr => exact meldNode_perm ihr k

theorem push_perm (h : Heap α) (a : α) : (h.push a).toList.Perm (a :: h.toList) :=
  (h.meld_perm _).trans (List.perm_append_singleton a h.toList)

theorem size_push (h : Heap α) (a : α) : (h.push a).size = h.size + 1 := by
  rw [← length_toList, (h.push_perm a).length_eq, List.length_cons, length_toList]

/-- What is removed and what is left are the elements. -/
theorem pop?_perm {h k : Heap α} {a : α} (hpop : h.pop? = some (a, k)) :
    h.toList.Perm (a :: k.toList) := by
  cases h with
  | nil => cases hpop
  | node b l r =>
    obtain ⟨rfl, rfl⟩ := by simpa [pop?] using hpop
    exact (l.meld_perm r).symm.cons _

/-- Nothing stands above what is greater than itself. -/
def IsOrdered : Heap α → Prop
  | nil => True
  | node a l r => (∀ x ∈ l.toList ++ r.toList, (compare x a).isLE) ∧ l.IsOrdered ∧ r.IsOrdered

theorem IsOrdered.isLE_top [Std.ReflOrd α] {a x : α} {l r : Heap α}
    (h : (node a l r).IsOrdered) (hx : x ∈ (node a l r).toList) : (compare x a).isLE := by
  rcases List.mem_cons.1 hx with rfl | hx
  · simp
  · exact h.1 x hx

/-- Nothing in a heap is greater than what is removed. -/
theorem IsOrdered.isLE_pop [Std.ReflOrd α] {h k : Heap α} {a x : α} (hh : h.IsOrdered)
    (hpop : h.pop? = some (a, k)) (hx : x ∈ h.toList) : (compare x a).isLE := by
  cases h with
  | nil => cases hpop
  | node b l r =>
    obtain ⟨rfl, -⟩ := by simpa [pop?] using hpop
    exact hh.isLE_top hx

variable [Std.TransOrd α]

theorem IsOrdered.meldNode {a : α} {l r : Heap α} {meldRight : Heap α → Heap α}
    (h : (node a l r).IsOrdered)
    (hperm : ∀ k, (meldRight k).toList.Perm (r.toList ++ k.toList))
    (hr : ∀ k : Heap α, k.IsOrdered → (meldRight k).IsOrdered) {k : Heap α} (hk : k.IsOrdered) :
    (Heap.meldNode a l r meldRight k).IsOrdered := by
  induction k with
  | nil => exact h
  | node b l' r' _ ihr =>
    simp only [Heap.meldNode]
    split
    · rename_i hba
      refine ⟨fun x hx => ?_, hr _ hk, h.2.1⟩
      rcases List.mem_append.1 hx with hx | hx
      · rcases List.mem_append.1 ((hperm _).mem_iff.1 hx) with hx | hx
        · exact h.1 x (List.mem_append_right _ hx)
        · exact Std.TransOrd.isLE_trans (hk.isLE_top hx) hba
      · exact h.1 x (List.mem_append_left _ hx)
    · rename_i hba
      have hab : (compare a b).isLE := by
        rw [Std.OrientedOrd.eq_swap, Ordering.isLE_swap]
        cases hcmp : compare b a <;> simp_all
      refine ⟨fun x hx => ?_, ihr hk.2.2, hk.2.1⟩
      rcases List.mem_append.1 hx with hx | hx
      · rcases List.mem_append.1 ((meldNode_perm hperm r').mem_iff.1 hx) with hx | hx
        · exact Std.TransOrd.isLE_trans (h.isLE_top hx) hab
        · exact hk.1 x (List.mem_append_right _ hx)
      · exact hk.1 x (List.mem_append_left _ hx)

/-- Melding keeps the order. -/
theorem IsOrdered.meld {h k : Heap α} (hh : h.IsOrdered) (hk : k.IsOrdered) :
    (h.meld k).IsOrdered := by
  induction h generalizing k with
  | nil => exact hk
  | node a l r _ ihr => exact hh.meldNode (meld_perm r) (fun _ => ihr hh.2.2) hk

theorem IsOrdered.push {h : Heap α} (hh : h.IsOrdered) (a : α) : (h.push a).IsOrdered :=
  hh.meld ⟨by simp [toList], trivial, trivial⟩

theorem IsOrdered.pop {h k : Heap α} {a : α} (hh : h.IsOrdered) (hpop : h.pop? = some (a, k)) :
    k.IsOrdered := by
  cases h with
  | nil => cases hpop
  | node b l r =>
    obtain ⟨rfl, rfl⟩ := by simpa [pop?] using hpop
    exact hh.2.1.meld hh.2.2

end Heap

end HostAgent
