import HostAgent.Outbox.Tray
import HostAgent.Proofs.Outbox.Arrivals

/-!
# Trays and outboxes

A tray numbers its requests and keeps them on a heap.  As long as the register of numbers has not
come round, who came in later has the higher number, so the heap hands out what the ordered list of
an outbox does.

* `Slot.compareKeys_eq_lt_iff` — a slot comes before another if its request is more urgent, or not
  less urgent and numbered lower.
* `exists_placed` — a slot with the highest number goes where its request is placed.
* `Keeps` — a tray keeps an outbox if its slots, in the order of their keys, hold the entries of the
  outbox.  `Keeps.obey` says that every operation keeps this and gets the same reply.
* `tray_serves_roll` — so a tray is a plain list in the order of arrival to those who use it.
-/

namespace HostAgent

open Outbound (Request)

namespace Slot

variable {a b s : Slot} {ss : List Slot}

/-- **The order of keys** is that of urgency, and within a rank that of numbers. -/
lemma compareKeys_eq_lt_iff : compareKeys a b = .lt ↔
    a.request.precedes b.request = true ∨
      b.request.precedes a.request = false ∧ a.number < b.number := by
  simp only [compareKeys, compareLex, compareOn, Ordering.then_eq_lt, Std.compare_eq_lt,
    Std.compare_eq_iff_eq, Bool.eq_false_iff, ne_eq, Request.precedes_iff,
    UInt64.lt_iff_toNat_lt]
  omega

/-- Slots in the order of their keys. -/
abbrev Sorted (ss : List Slot) : Prop :=
  ss.Pairwise fun a b => compareKeys a b = .lt

/-- **A slot with the highest number goes where its request is placed**: behind all that are not
less urgent. -/
lemma exists_placed (hss : Sorted ss) (hs : ∀ a ∈ ss, a.number < s.number) :
    ∃ ss', ss'.Perm (s :: ss) ∧ Sorted ss' ∧
      ss'.map (·.request) = Outbox.place s.request (ss.map (·.request)) := by
  induction ss with
  | nil => exact ⟨[s], .refl _, List.pairwise_singleton _ _, rfl⟩
  | cons a ss ih =>
      obtain ⟨ha, hss'⟩ := List.pairwise_cons.mp hss
      cases hsa : s.request.precedes a.request with
      | true =>
          have hlt : compareKeys s a = .lt := compareKeys_eq_lt_iff.mpr (.inl hsa)
          have hfirst : ∀ b ∈ a :: ss, compareKeys s b = .lt :=
            List.forall_mem_cons.mpr ⟨hlt, fun b hb => Std.TransCmp.lt_trans hlt (ha b hb)⟩
          exact ⟨s :: a :: ss, .refl _, List.pairwise_cons.mpr ⟨hfirst, hss⟩,
            by simp [Outbox.place, hsa]⟩
      | false =>
          obtain ⟨ss', hperm, hsorted, hmap⟩ := ih hss' fun b hb => hs b (List.mem_cons_of_mem a hb)
          refine ⟨a :: ss', (hperm.cons a).trans (.swap s a ss),
            List.pairwise_cons.mpr ⟨fun b hb => ?_, hsorted⟩, by simp [Outbox.place, hsa, hmap]⟩
          rcases List.mem_cons.mp (hperm.mem_iff.mp hb) with rfl | hb
          · exact compareKeys_eq_lt_iff.mpr (.inr ⟨hsa, hs a List.mem_cons_self⟩)
          · exact ha b hb

/-- The greatest slot of a heap is the first in the order of keys. -/
lemma eq_head {slots rest : Heap Slot} (hordered : slots.IsOrdered)
    (hpop : slots.pop? = some (s, rest)) (hss : Sorted (a :: ss))
    (hperm : (a :: ss).Perm slots.toList) : a = s := by
  have hs : s ∈ a :: ss := hperm.mem_iff.mpr ((Heap.pop?_perm hpop).mem_iff.mpr List.mem_cons_self)
  rcases List.mem_cons.mp hs with rfl | hs
  · rfl
  · -- what is popped is not after the first, and the first is before all others
    have hle : (compareKeys s a).isLE :=
      hordered.isLE_pop hpop (hperm.mem_iff.mp List.mem_cons_self)
    have hgt : compareKeys s a = .gt :=
      Std.OrientedCmp.gt_iff_lt.mpr ((List.pairwise_cons.mp hss).1 s hs)
    simp [hgt] at hle

end Slot

namespace Tray

open Outbox (Op Reply Roll handedOut serve sorted)

variable {t : Tray} {b : Outbox} {k : ℕ}

/-- A tray carries out an operation. -/
def obey (t : Tray) : Op → Reply × Tray
  | .offer r => (.silent, (t.offer r).2)
  | .tryOffer r => (.receipt (t.receipt (t.offer r).1), (t.offer r).2)
  | .retry r | .putBack r => (.silent, (t.insert r).2)
  | .take =>
    match t.take? with
    | some (r, rest) => (.handed (some r), rest)
    | none => (.handed none, t)

/-- **A tray keeps an outbox** after so many operations. -/
structure Keeps (t : Tray) (b : Outbox) (k : ℕ) : Prop where
  capacity : t.capacity = b.capacity
  retryLimit : t.retryLimit = b.retryLimit
  dropped : t.dropped.toNat = b.dropped
  /-- The slots in the order of their keys hold the entries. -/
  slots : ∃ ss : List Slot, ss.Perm t.slots.toList ∧ Slot.Sorted ss ∧
    ss.map (·.request) = b.entries
  /-- The next number is higher than all that were given. -/
  fresh : ∀ s ∈ t.slots.toList, s.number < t.next
  next_le : t.next.toNat ≤ k
  dropped_le : b.dropped ≤ k

lemma Keeps.size_eq (h : Keeps t b k) : t.size = b.size := by
  obtain ⟨ss, hperm, -, hmap⟩ := h.slots
  rw [size, ← Heap.length_toList, ← hperm.length_eq, Outbox.size, ← hmap, List.length_map]

lemma Keeps.hasRoom (h : Keeps t b k) : t.hasRoom = b.hasRoom := by
  rw [Tray.hasRoom, Outbox.hasRoom, h.size_eq, h.capacity, Outbox.size]

/-- Counting on in a register is counting on as long as it does not come round. -/
lemma toNat_succ {n : UInt64} (hn : n.toNat ≤ k) (hk : k + 1 < 2 ^ 64) :
    (n + 1).toNat = n.toNat + 1 := by
  rw [UInt64.toNat_add, UInt64.toNat_one, Nat.mod_eq_of_lt (by omega)]

lemma Keeps.insert (h : Keeps t b k) (hk : k + 1 < 2 ^ 64) (r : Request) :
    Keeps (t.insert r).2 (b.insert r).2 (k + 1) := by
  have hroom := h.hasRoom
  cases hb : b.hasRoom with
  | true =>
      have hnext := toNat_succ h.next_le hk
      have hinsert : (t.insert r).2.slots = t.slots.push ⟨t.next, r⟩ ∧
          (t.insert r).2.next = t.next + 1 ∧ (t.insert r).2.dropped = t.dropped ∧
          (t.insert r).2.capacity = t.capacity ∧ (t.insert r).2.retryLimit = t.retryLimit := by
        simp [Tray.insert, hroom, hb]
      obtain ⟨ss, hperm, hsorted, hmap⟩ := h.slots
      obtain ⟨ss', hperm', hsorted', hmap'⟩ := Slot.exists_placed (s := ⟨t.next, r⟩) hsorted
        fun a ha => h.fresh a (hperm.mem_iff.mp ha)
      refine ⟨?_, ?_, ?_, ⟨ss', ?_, hsorted', ?_⟩, fun s hs => ?_, ?_, ?_⟩
      · simp [hinsert, h.capacity]
      · simp [hinsert, h.retryLimit]
      · simp [hinsert, Outbox.insert_dropped, hb, h.dropped]
      · rw [hinsert.1]
        exact (hperm'.trans (hperm.cons _)).trans (t.slots.push_perm _).symm
      · rw [Outbox.insert_entries, if_pos hb, hmap', hmap]
      · rw [hinsert.1, (t.slots.push_perm _).mem_iff, List.mem_cons] at hs
        rw [hinsert.2.1, UInt64.lt_iff_toNat_lt, hnext]
        rcases hs with rfl | hs
        · exact Nat.lt_succ_self _
        · exact Nat.lt_succ_of_lt (UInt64.lt_iff_toNat_lt.mp (h.fresh s hs))
      · rw [hinsert.2.1, hnext]
        exact Nat.succ_le_succ h.next_le
      · rw [Outbox.insert_dropped, if_pos hb]
        exact Nat.le_succ_of_le h.dropped_le
  | false =>
      have hinsert : (t.insert r).2 = { t with dropped := t.dropped + 1 } := by
        simp [Tray.insert, hroom, hb]
      have hentries : (b.insert r).2.entries = b.entries := by
        rw [Outbox.insert_entries, hb, if_neg Bool.false_ne_true]
      have hdropped : (b.insert r).2.dropped = b.dropped + 1 := by
        rw [Outbox.insert_dropped, hb, if_neg Bool.false_ne_true]
      rw [hinsert]
      refine ⟨?_, ?_, ?_, by rw [hentries]; exact h.slots, h.fresh, Nat.le_succ_of_le h.next_le, ?_⟩
      · rw [Outbox.insert_capacity, h.capacity]
      · rw [Outbox.insert_retryLimit, h.retryLimit]
      · rw [hdropped, ← h.dropped]
        exact toNat_succ (h.dropped ▸ h.dropped_le) hk
      · rw [hdropped]
        exact Nat.succ_le_succ h.dropped_le

lemma Keeps.offer (h : Keeps t b k) (hk : k + 1 < 2 ^ 64) (r : Request) :
    Keeps (t.offer r).2 (b.offer r).2 (k + 1) := by
  rw [Tray.offer, Outbox.offer, stamp, Outbox.stamp, h.retryLimit]
  exact h.insert hk _

lemma Keeps.take (h : Keeps t b k) :
    (t.obey .take).1 = (b.obey .take).1 ∧ Keeps (t.obey .take).2 (b.obey .take).2 k := by
  obtain ⟨ss, hperm, hsorted, hmap⟩ := h.slots
  cases hpop : t.slots.pop? with
  | none =>
      have htake : t.take? = none :=
        take?_eq_none_iff.mpr (beq_iff_eq.mpr (Heap.pop?_eq_none_iff.mp hpop))
      have hentries : b.entries = [] := by
        rw [← List.length_eq_zero_iff, ← Outbox.size, ← h.size_eq, size,
          Heap.pop?_eq_none_iff.mp hpop]
      simp only [obey, Outbox.obey, htake, Outbox.take?_eq_none_iff.mpr hentries]
      exact ⟨trivial, h⟩
  | some popped =>
      obtain ⟨s, slots⟩ := popped
      have hslots := Heap.pop?_perm hpop
      obtain ⟨q, qs, rfl⟩ : ∃ q qs, ss = q :: qs := List.exists_cons_of_ne_nil fun hnil => by
        simpa [hnil] using hperm.trans hslots
      obtain rfl : q = s := Slot.eq_head t.ordered hpop hsorted hperm
      have htake : b.take? = some (q.request, b.tail) := by
        simp [Outbox.take?, ← hmap]
      simp only [obey, Outbox.obey, take?_of_pop? hpop, htake]
      refine ⟨trivial, h.capacity, h.retryLimit, h.dropped, ⟨qs, ?_, hsorted.of_cons, ?_⟩,
        fun s hs => h.fresh s (hslots.mem_iff.mpr (List.mem_cons_of_mem q hs)), h.next_le,
        h.dropped_le⟩
      · exact (hperm.trans hslots).cons_inv
      · simp [Outbox.tail, ← hmap]

/-- **Every operation gets the same reply, and the tray keeps the outbox afterwards**, as long as
the registers do not come round. -/
theorem Keeps.obey (h : Keeps t b k) (hk : k + 1 < 2 ^ 64) (o : Op) :
    (t.obey o).1 = (b.obey o).1 ∧ Keeps (t.obey o).2 (b.obey o).2 (k + 1) := by
  cases o with
  | offer r => exact ⟨rfl, h.offer hk r⟩
  | tryOffer r =>
      refine ⟨?_, h.offer hk r⟩
      rw [Tray.obey, Outbox.obey, receipt, Outbox.receipt, Tray.offer, Outbox.offer, insert_fst,
        Outbox.insert_fst, h.hasRoom, h.capacity]
  | retry r => exact ⟨rfl, h.insert hk r⟩
  | putBack r => exact ⟨rfl, h.insert hk r⟩
  | take =>
      obtain ⟨hreply, hkeeps⟩ := h.take
      exact ⟨hreply, { hkeeps with
        next_le := Nat.le_succ_of_le hkeeps.next_le
        dropped_le := Nat.le_succ_of_le hkeeps.dropped_le }⟩

/-- The same of a sequence of operations. -/
lemma Keeps.serve (h : Keeps t b k) (os : List Op) (hk : k + os.length < 2 ^ 64) :
    (serve Tray.obey t os).1 = (serve Outbox.obey b os).1 ∧
      Keeps (serve Tray.obey t os).2 (serve Outbox.obey b os).2 (k + os.length) := by
  induction os generalizing t b k with
  | nil => exact ⟨rfl, h⟩
  | cons o os ih =>
      rw [List.length_cons] at hk ⊢
      obtain ⟨hreply, hkeeps⟩ := h.obey (by omega) o
      obtain ⟨hreplies, hafter⟩ := ih hkeeps (by omega)
      refine ⟨by rw [Outbox.serve, Outbox.serve, hreply, hreplies], ?_⟩
      rwa [Nat.add_right_comm, Nat.add_assoc] at hafter

/-- Taking asks for no number, so it may go on for ever. -/
lemma Keeps.serve_take (h : Keeps t b k) (n : ℕ) :
    (Outbox.serve Tray.obey t (List.replicate n .take)).1
      = (Outbox.serve Outbox.obey b (List.replicate n .take)).1 := by
  induction n generalizing t b with
  | zero => rfl
  | succ n ih =>
      obtain ⟨hreply, hkeeps⟩ := h.take
      rw [List.replicate_succ, Outbox.serve, Outbox.serve, hreply, ih hkeeps]

/-- **A tray is a plain list to those who use it.**  For every capacity and every sequence of fewer
than `2 ^ 64` operations the tray replies as the list does and counts as many refusals.  The list
never grows beyond the capacity; the requests that came in are those that were handed out and those
that are still there, as they were written; and taking until nothing is left yields the stable sort
of the list by urgency. -/
theorem tray_serves_roll (capacity limit : ℕ) (os : List Op) (hos : os.length < 2 ^ 64) :
    let roll : Roll := { capacity, retryLimit := limit }
    let (replies, t) := serve obey (.empty capacity limit) os
    let (replies', l) := serve Roll.obey roll os
    replies = replies' ∧ t.dropped.toNat = l.dropped ∧ t.size = l.entries.length ∧
      l.entries.length ≤ capacity ∧
      (roll.admitted os : Multiset Request) = handedOut replies + l.entries ∧
      (serve obey t (List.replicate (t.size + 1) .take)).1
        = (sorted l.entries).map (fun r => .handed (some r)) ++ [.handed none] := by
  intro roll
  have hstart : Keeps (.empty capacity limit) (.empty capacity limit) 0 :=
    ⟨rfl, rfl, rfl, ⟨[], .refl _, List.Pairwise.nil, rfl⟩, by simp [empty, Heap.toList], le_rfl,
      le_rfl⟩
  obtain ⟨hreplies, hkeeps⟩ := hstart.serve os (by simpa using hos)
  obtain ⟨houtbox, hdropped, hsize, hfits, hbalance, hdrained⟩ :=
    Outbox.serve_roll capacity limit os
  refine ⟨hreplies.trans houtbox, hkeeps.dropped.trans hdropped, hkeeps.size_eq.trans hsize, hfits,
    by rw [hreplies]; exact hbalance, ?_⟩
  rw [hkeeps.serve_take, hkeeps.size_eq]
  exact hdrained

/-- Three requests of one rank at a tray with room for two: the first leaves first, and the third
is refused. -/
theorem tray_serves_roll_refusal :
    let os : List Op := [.offer { path := "/a", due := 0 }, .retry { path := "/b", due := 0 },
      .tryOffer { path := "/c", due := 0 }, .take]
    let done := serve obey (.empty 2 5) os
    os.length < 2 ^ 64 ∧ done.1 = (serve Roll.obey { capacity := 2, retryLimit := 5 } os).1 ∧
      (handedOut done.1).map (·.path) = ["/a"] ∧ done.2.dropped.toNat = 1 := by
  intro os done
  obtain ⟨hreplies, hdropped, -⟩ := tray_serves_roll 2 5 os (by decide)
  exact ⟨by decide, hreplies, congrArg (fun rs => (handedOut rs).map (·.path)) hreplies, hdropped⟩

/-- Where the register comes round, one who came in later leaves first. -/
example :
    let os : List Op :=
      [.offer { path := "/a", due := 0 }, .offer { path := "/b", due := 0 }, .take]
    (handedOut (serve obey { next := 18446744073709551615 } os).1).map (·.path) = ["/b"] := by
  decide

end Tray

end HostAgent
