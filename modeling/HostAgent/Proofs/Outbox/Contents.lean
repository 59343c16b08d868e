import HostAgent.Outbox.Basic
import Mathlib.Tactic

/-!
# What an outbox holds after an operation

The operations of an outbox, read as equations on its list of entries and on its counter.

* `insert_entries`, `insert_fst`, `insert_dropped` — an insertion places the request if there is
  room, and otherwise only counts.
* `entries_of_take?` — taking uncovers the tail of the list.
* `mem_take_place`, `due_mem_take_place` — where the entries move that stand near the front.  An
  insertion pushes them back by one place at most, and an entry that is taken and put back leaves
  every due time as near to the front as it was.
-/

namespace HostAgent.Outbox

open Outbound (Request)

variable {b b' : Outbox} {r e : Request} {es : List Request} {k : ℕ} {d : Int}

/-! ## Insertion -/

@[simp] lemma insert_fst (b : Outbox) (r : Request) : (b.insert r).1 = b.hasRoom := by
  by_cases h : b.entries.length < b.capacity <;> simp [insert, hasRoom, h]

lemma insert_entries (b : Outbox) (r : Request) :
    (b.insert r).2.entries = if b.hasRoom then place r b.entries else b.entries := by
  by_cases h : b.entries.length < b.capacity <;> simp [insert, hasRoom, h]

lemma insert_dropped (b : Outbox) (r : Request) :
    (b.insert r).2.dropped = if b.hasRoom then b.dropped else b.dropped + 1 := by
  by_cases h : b.entries.length < b.capacity <;> simp [insert, hasRoom, h]

@[simp] lemma insert_capacity (b : Outbox) (r : Request) :
    (b.insert r).2.capacity = b.capacity := by
  unfold insert
  split_ifs <;> rfl

@[simp] lemma insert_retryLimit (b : Outbox) (r : Request) :
    (b.insert r).2.retryLimit = b.retryLimit := by
  unfold insert
  split_ifs <;> rfl

/-! ## Taking -/

lemma take?_eq_none_iff : b.take? = none ↔ b.entries = [] := by
  unfold take?
  split <;> simp_all

lemma take?_eq_some_iff : b.take? = some (r, b') ↔ b' = b.tail ∧ b.entries = r :: b'.entries := by
  unfold take?
  split
  · simp_all
  · rename_i q qs h
    simp only [Option.some.injEq, Prod.mk.injEq]
    constructor
    · rintro ⟨rfl, rfl⟩
      exact ⟨rfl, by simp [tail, h]⟩
    · rintro ⟨rfl, h'⟩
      rw [h] at h'
      exact ⟨(List.cons.inj h').1, rfl⟩

lemma entries_of_take? (h : b.take? = some (r, b')) : b.entries = r :: b'.entries :=
  (take?_eq_some_iff.mp h).2

/-- Taking changes nothing but the entries. -/
lemma limits_of_take? (h : b.take? = some (r, b')) :
    b'.capacity = b.capacity ∧ b'.retryLimit = b.retryLimit ∧ b'.dropped = b.dropped := by
  obtain ⟨rfl, -⟩ := take?_eq_some_iff.mp h
  exact ⟨rfl, rfl, rfl⟩

/-- Who has taken a request finds room for it. -/
lemma hasRoom_of_take? (h : b.take? = some (r, b')) : b'.hasRoom = true := by
  have hfits := b.fits
  rw [entries_of_take? h, List.length_cons] at hfits
  have hcap := (limits_of_take? h).1
  simp only [hasRoom, decide_eq_true_eq]
  omega

/-! ## Where entries move -/

/-- An insertion pushes no entry back by more than one place. -/
lemma mem_take_place (h : e ∈ es.take k) : e ∈ (place r es).take (k + 1) := by
  induction es generalizing k with
  | nil => simp at h
  | cons q es ih =>
      cases k with
      | zero => simp at h
      | succ k =>
          rw [List.take_succ_cons, List.mem_cons] at h
          rw [place]
          split_ifs
          · simp only [List.take_succ_cons, List.mem_cons]
            exact Or.inr h
          · simp only [List.take_succ_cons, List.mem_cons]
            exact h.imp_right ih

/-- The first entry after an insertion in front of nobody less urgent has the due time of the
request that was inserted. -/
lemma head_place_of_ordered (h : (r :: es).Pairwise fun a c => c.precedes a = false) :
    ∃ q qs, place r es = q :: qs ∧ q.due = r.due := by
  cases es with
  | nil => exact ⟨r, [], rfl, rfl⟩
  | cons q es =>
      rw [place]
      split_ifs with hr
      · exact ⟨r, q :: es, rfl, rfl⟩
      · refine ⟨q, place r es, rfl, ?_⟩
        have hq : q.precedes r = false := (List.pairwise_cons.mp h).1 q (by simp)
        rw [Bool.eq_false_iff, ne_eq, Request.precedes_iff] at hq
        rw [Request.precedes_iff] at hr
        omega

/-- Taking the first entry and putting it back keeps every due time as near to the front as it
was. -/
lemma due_mem_take_place (h : (r :: es).Pairwise fun a c => c.precedes a = false)
    (hd : d ∈ ((r :: es).take k).map (·.due)) : d ∈ ((place r es).take k).map (·.due) := by
  cases k with
  | zero => simp at hd
  | succ k =>
      rw [List.take_succ_cons, List.map_cons, List.mem_cons] at hd
      rcases hd with rfl | hd
      · obtain ⟨q, qs, hq, hdue⟩ := head_place_of_ordered h
        rw [hq, List.take_succ_cons, List.map_cons, hdue]
        exact List.mem_cons_self
      · obtain ⟨e, he, rfl⟩ := List.mem_map.mp hd
        exact List.mem_map.mpr ⟨e, mem_take_place he, rfl⟩

end HostAgent.Outbox
