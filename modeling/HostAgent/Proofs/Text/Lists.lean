import Mathlib

/-!
# Lists cut where a property ends

* `dropWhile_append_cons`, `rdropWhile_append_cons`, `rtakeWhile_append` — an element that does not
  have the property ends what is cut.
* `exists_rdropWhile_append` — what is cut off the back are copies of one element.
* `eq_false_of_mem_splitOnP` — what splits a list is in none of the pieces.
-/

namespace List

variable {α : Type*} {p : α → Bool} {xs ys : List α} {y : α}

/-- An element that stays ends what is dropped from the front. -/
lemma dropWhile_append_cons (h : p y = false) :
    (xs ++ y :: ys).dropWhile p = xs.dropWhile p ++ y :: ys := by
  rw [dropWhile_append]
  split
  · next hxs => simp [isEmpty_iff.mp hxs, h]
  · rfl

/-- An element that stays ends what is dropped from the back. -/
lemma rdropWhile_append_cons (h : p y = false) :
    (xs ++ y :: ys).rdropWhile p = xs ++ y :: ys.rdropWhile p := by
  have hsplit : (xs ++ y :: ys).reverse = ys.reverse ++ y :: xs.reverse := by simp
  rw [rdropWhile, rdropWhile, hsplit, dropWhile_append_cons h]
  simp

/-- An element that stays ends what is taken from the back. -/
lemma rtakeWhile_append (h : ∃ y ∈ ys, p y = false) :
    (xs ++ ys).rtakeWhile p = ys.rtakeWhile p := by
  obtain ⟨y, hy, hp⟩ := h
  have hlt : ¬(ys.reverse.takeWhile p).length = ys.reverse.length := fun hlen => by
    have hwhole : ys.reverse.takeWhile p = ys.reverse := (takeWhile_sublist p).eq_of_length hlen
    have hall := takeWhile_eq_self_iff.mp hwhole
    exact absurd (hall y (mem_reverse.mpr hy)) (by simp [hp])
  rw [rtakeWhile, rtakeWhile, reverse_append, takeWhile_append, if_neg hlt]

/-- The last element that stays parts what is taken from the back. -/
lemma rtakeWhile_append_cons (hy : p y = false) (hys : ∀ x ∈ ys, p x = true) :
    (xs ++ y :: ys).rtakeWhile p = ys := by
  have hall : ∀ x ∈ ys.reverse, p x = true := fun x hx => hys x (mem_reverse.mp hx)
  rw [rtakeWhile, reverse_append, reverse_cons, append_assoc, takeWhile_append_of_pos hall]
  simp [hy]

/-- What is dropped from the back are elements that go. -/
lemma rtakeWhile_beq [BEq α] [LawfulBEq α] (a : α) (xs : List α) :
    ∃ k, xs.rtakeWhile (· == a) = replicate k a :=
  ⟨_, eq_replicate_of_mem fun _ h => eq_of_beq (mem_rtakeWhile_imp (p := (· == a)) h)⟩

/-- A list is what stays of it and copies of what is dropped from its back. -/
lemma exists_rdropWhile_append [BEq α] [LawfulBEq α] (a : α) (xs : List α) :
    ∃ k, xs = xs.rdropWhile (· == a) ++ replicate k a := by
  obtain ⟨k, hk⟩ := rtakeWhile_beq a xs
  exact ⟨k, by rw [← hk, rdropWhile_append_rtakeWhile]⟩

/-- Copies of what is dropped from the back do not matter there. -/
lemma rdropWhile_append_replicate [BEq α] [LawfulBEq α] (a : α) (k : ℕ) (xs : List α) :
    (xs ++ replicate k a).rdropWhile (· == a) = xs.rdropWhile (· == a) := by
  induction k with
  | zero => simp
  | succ k ih => rw [replicate_succ', ← append_assoc, rdropWhile_concat_pos _ _ _ (by simp), ih]

/-- An element of a list occurs in it for a last time. -/
lemma exists_append_cons_of_mem {a : α} (h : a ∈ xs) :
    ∃ front behind, xs = front ++ a :: behind ∧ a ∉ behind := by
  obtain ⟨front, behind, hxs, ha⟩ := eq_append_cons_of_mem (mem_reverse.mpr h)
  exact ⟨behind.reverse, front.reverse, by simpa using congrArg reverse hxs, by simpa using ha⟩

/-- Between the elements that split a list there are none of them. -/
lemma eq_false_of_mem_splitOnP {s : List α} (hs : s ∈ xs.splitOnP p) (hy : y ∈ s) :
    p y = false := by
  induction xs generalizing s with
  | nil => simp_all
  | cons x xs ih =>
      rw [splitOnP_cons_eq_if_modifyHead] at hs
      split_ifs at hs with hx
      · rcases mem_cons.mp hs with rfl | hs
        · simp at hy
        · exact ih hs hy
      · obtain ⟨t, ts, hts⟩ := exists_cons_of_ne_nil (splitOnP_ne_nil p xs)
        rw [hts, modifyHead_cons, mem_cons] at hs
        rcases hs with rfl | hs
        · rcases mem_cons.mp hy with rfl | hy
          · simpa using hx
          · exact ih (by rw [hts]; exact mem_cons_self) hy
        · exact ih (by rw [hts]; exact mem_cons_of_mem _ hs) hy

lemma not_mem_of_mem_splitOn [BEq α] [LawfulBEq α] {a : α} {s : List α} (hs : s ∈ xs.splitOn a) :
    a ∉ s := fun ha => by
  rw [splitOn_eq_splitOnP] at hs
  simpa using eq_false_of_mem_splitOnP hs ha

/-- What is in joined pieces. -/
lemma mem_intercalate_singleton {a : α} {ls : List (List α)} :
    y ∈ [a].intercalate ls ↔ (∃ l ∈ ls, y ∈ l) ∨ y = a ∧ 2 ≤ ls.length := by
  induction ls with
  | nil => simp
  | cons l ls ih =>
      cases ls with
      | nil => simp
      | cons l' ls =>
          rw [intercalate_cons_cons, append_assoc, mem_append, singleton_append, mem_cons, ih]
          have hlen : 2 ≤ (l :: l' :: ls).length := by simp
          simp only [exists_mem_cons_iff, hlen, and_true]
          grind

lemma Forall₂.exists_left {β : Type*} {R : α → β → Prop} {zs : List β} (h : Forall₂ R xs zs) :
    ∀ z ∈ zs, ∃ x ∈ xs, R x z := by
  induction h with
  | nil => exact nofun
  | cons hxz _ ih =>
      refine forall_mem_cons.mpr ⟨⟨_, mem_cons_self, hxz⟩, fun z hz => ?_⟩
      obtain ⟨x, hx, h⟩ := ih z hz
      exact ⟨x, mem_cons_of_mem _ hx, h⟩

lemma Forall₂.exists_right {β : Type*} {R : α → β → Prop} {zs : List β} (h : Forall₂ R xs zs) :
    ∀ x ∈ xs, ∃ z ∈ zs, R x z :=
  h.flip.exists_left

/-- What a function that can fail makes of a list. -/
lemma mapM_eq_some_iff {β : Type*} {f : α → Option β} {zs : List β} :
    xs.mapM f = some zs ↔ Forall₂ (fun x z => f x = some z) xs zs := by
  induction xs generalizing zs with
  | nil => cases zs <;> simp
  | cons x xs ih =>
      rw [mapM_cons]
      cases hx : f x with
      | none => cases zs <;> simp [hx]
      | some z =>
          cases hxs : xs.mapM f with
          | none =>
              cases zs with
              | nil => simp
              | cons z' zs => simpa [hx] using fun _ h => by simpa [hxs] using ih.mpr h
          | some zs' =>
              cases zs with
              | nil => simp
              | cons z' zs => simp [hx, ← ih, hxs]

end List
