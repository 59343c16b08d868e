import HostAgent.Proofs.Outbox.Contents

/-!
# The order of arrival

An outbox keeps its requests in the order in which they leave.  Those who use it need not know: to
them it is a plain list in the order of arrival, from which the first of the most urgent requests
leaves.

* `sorted` — the stable sort of a list by urgency.  `sorted_snoc` and `sorted_uncover` say what it
  makes of one who comes last, and of the first of the most urgent.
* `Op`, `Reply`, `obey` — the operations of an outbox and what it replies.
* `Roll` — the plain list, with the same operations.
* `Lists` — an outbox lists a roll if its entries are the sorted ones of the roll.
  `Lists.obey` says that every operation keeps this and gets the same reply.
* `serve_roll` — so an outbox and a roll reply alike to all sequences of operations, and draining
  the outbox yields the stable sort of the roll.
-/

namespace HostAgent

open Outbound (Failure Request)

namespace Outbound.Request

/-- Whether a request may leave before another: it is not less urgent. -/
def mayPrecede (a b : Request) : Bool :=
  !b.precedes a

lemma mayPrecede_iff {a b : Request} : a.mayPrecede b = true ↔ b.precedes a = false := by
  simp [mayPrecede]

lemma mayPrecede_trans (a b c : Request) (hab : a.mayPrecede b = true)
    (hbc : b.mayPrecede c = true) : a.mayPrecede c = true := by
  rw [mayPrecede_iff] at *
  exact not_precedes_trans hbc hab

lemma mayPrecede_total (a b : Request) : (a.mayPrecede b || b.mayPrecede a) = true := by
  rw [Bool.or_eq_true, mayPrecede_iff, mayPrecede_iff, Bool.eq_false_iff, Bool.eq_false_iff, ne_eq,
    ne_eq, precedes_iff, precedes_iff]
  omega

/-- Whoever is not less urgent than one that is more urgent than a third, is so too. -/
lemma precedes_of_mayPrecede_of_precedes {a b c : Request} (hab : a.mayPrecede b = true)
    (hbc : b.precedes c = true) : a.precedes c = true := by
  rw [mayPrecede_iff, Bool.eq_false_iff, ne_eq, precedes_iff] at hab
  rw [precedes_iff] at *
  omega

end Outbound.Request

namespace Outbox

open Outbound.Request

variable {b : Outbox} {r : Request} {es front back : List Request} {o : Op} {os : List Op}

/-! ## The stable sort by urgency -/

/-- The requests by urgency, and those of one rank in the order in which they came. -/
def sorted (es : List Request) : List Request :=
  es.mergeSort mayPrecede

@[simp] lemma sorted_nil : sorted [] = [] := by
  simp [sorted]

lemma sorted_perm (es : List Request) : (sorted es).Perm es :=
  List.mergeSort_perm es mayPrecede

/-- One who came before all others stands in front of its rank. -/
lemma sorted_cons (r : Request) (es : List Request) :
    sorted (r :: es) = (sorted es).orderedInsert (fun a b => a.mayPrecede b) r := by
  obtain ⟨before, behind, hcons, hes, hbefore⟩ :=
    List.mergeSort_cons mayPrecede_trans mayPrecede_total r es
  have hordered := List.pairwise_mergeSort mayPrecede_trans mayPrecede_total (r :: es)
  rw [hcons] at hordered
  have hbehind := (List.pairwise_cons.mp (List.pairwise_append.mp hordered).2.1).1
  rw [sorted, sorted, hcons, hes]
  clear hcons hes hordered
  induction before with
  | nil =>
      cases behind with
      | nil => rfl
      | cons q qs => simp [hbehind q List.mem_cons_self]
  | cons q qs ih =>
      have hq := hbefore q List.mem_cons_self
      rw [Bool.not_eq_true'] at hq
      rw [List.cons_append, List.cons_append, List.orderedInsert_cons, hq,
        if_neg Bool.false_ne_true, ← ih fun e he => hbefore e (List.mem_cons_of_mem q he)]

/-- It does not matter which of two comes in first, if one goes in front of its rank and the other
behind. -/
lemma orderedInsert_place (a r : Request) (es : List Request) :
    (place r es).orderedInsert (fun a b => a.mayPrecede b) a
      = place r (es.orderedInsert (fun a b => a.mayPrecede b) a) := by
  have har : a.mayPrecede r = !r.precedes a := rfl
  induction es with
  | nil => cases hra : r.precedes a <;> simp [place, har, hra]
  | cons e es ih =>
      have hae : a.mayPrecede e = !e.precedes a := rfl
      cases hr : r.precedes e <;> cases ha : e.precedes a
      · have hra : r.precedes a = false := not_precedes_trans hr ha
        simp [place, hr, ha, hae, hra]
      · simp [place, hr, ha, hae, ih]
      · cases hra : r.precedes a <;> simp [place, hr, ha, hae, har, hra]
      · have hra : r.precedes a = true := by
          rw [precedes_iff] at *
          omega
        simp [place, hr, ha, hae, har, hra]

/-- **One who came after all others is placed.** -/
theorem sorted_snoc (es : List Request) (r : Request) :
    sorted (es ++ [r]) = place r (sorted es) := by
  induction es with
  | nil => simp [sorted, place]
  | cons e es ih => rw [List.cons_append, sorted_cons, sorted_cons, ih, orderedInsert_place]

/-- **The first of the most urgent stands at the head.** -/
theorem sorted_uncover (hfront : ∀ e ∈ front, r.precedes e = true)
    (hback : ∀ e ∈ back, e.precedes r = false) :
    sorted (front ++ r :: back) = r :: sorted (front ++ back) := by
  induction front with
  | nil =>
      rw [List.nil_append, List.nil_append, sorted_cons]
      cases hes : sorted back with
      | nil => rfl
      | cons q qs =>
          have hq : q ∈ back := (sorted_perm back).mem_iff.mp (by simp [hes])
          rw [List.orderedInsert_cons, if_pos (mayPrecede_iff.mpr (hback q hq))]
  | cons e front ih =>
      have he : e.mayPrecede r = false := by simp [mayPrecede, hfront e List.mem_cons_self]
      rw [List.cons_append, List.cons_append, sorted_cons, sorted_cons,
        ih fun q hq => hfront q (List.mem_cons_of_mem e hq), List.orderedInsert_cons, he,
        if_neg Bool.false_ne_true]

/-! ## Operations -/

/-- What may be asked of an outbox. -/
inductive Op where
  /-- Inserts a fresh request. -/
  | offer (r : Request)
  /-- Inserts a fresh request and asks whether there was room. -/
  | tryOffer (r : Request)
  /-- Inserts a request again that could not be delivered. -/
  | retry (r : Request)
  /-- Inserts a request again that was taken too early. -/
  | putBack (r : Request)
  /-- Removes the most urgent request. -/
  | take

/-- What comes back. -/
inductive Reply where
  | silent
  | receipt (verdict : Except Failure Unit)
  | handed (r : Option Request)

/-- An outbox carries out an operation. -/
def obey (b : Outbox) : Op → Reply × Outbox
  | .offer r => (.silent, (b.offer r).2)
  | .tryOffer r => (.receipt (b.receipt (b.offer r).1), (b.offer r).2)
  | .retry r | .putBack r => (.silent, (b.insert r).2)
  | .take =>
    match b.take? with
    | some (r, rest) => (.handed (some r), rest)
    | none => (.handed none, b)

/-- The replies to a sequence of operations, and what the store is after them. -/
def serve {S : Type} (obey : S → Op → Reply × S) (s : S) : List Op → List Reply × S
  | [] => ([], s)
  | o :: os => ((obey s o).1 :: (serve obey (obey s o).2 os).1, (serve obey (obey s o).2 os).2)

/-! ## The plain list -/

/-- A plain list of requests, in the order in which they came. -/
structure Roll where
  capacity : ℕ
  retryLimit : ℕ
  entries : List Request := []
  dropped : ℕ := 0

namespace Roll

/-- A request is written at the end of the list.  If the list is full it is only counted. -/
def write (l : Roll) (r : Request) : Roll :=
  if l.entries.length < l.capacity then { l with entries := l.entries ++ [r] }
  else { l with dropped := l.dropped + 1 }

/-- Whether nobody on the list is more urgent. -/
def leads (l : Roll) (r : Request) : Bool :=
  l.entries.all fun e => r.mayPrecede e

/-- The list carries out an operation.  The first of the most urgent requests leaves. -/
def obey (l : Roll) : Op → Reply × Roll
  | .offer r => (.silent, l.write { r with retriesLeft := l.retryLimit })
  | .tryOffer r =>
    (.receipt (if l.entries.length < l.capacity then .ok () else .error (.full l.capacity)),
      l.write { r with retriesLeft := l.retryLimit })
  | .retry r | .putBack r => (.silent, l.write r)
  | .take => (.handed (l.entries.find? l.leads), { l with entries := l.entries.eraseP l.leads })

/-- The request that an operation brings, as it is written on the list. -/
def bringing (l : Roll) : Op → Option Request
  | .offer r | .tryOffer r => some { r with retriesLeft := l.retryLimit }
  | .retry r | .putBack r => some r
  | .take => none

/-- The request that comes in with an operation: none if the list is full. -/
def arriving (l : Roll) (o : Op) : List Request :=
  if l.entries.length < l.capacity then (l.bringing o).toList else []

/-- The requests that came in, as they were written on the list. -/
def admitted (l : Roll) : List Op → List Request
  | [] => []
  | o :: os => l.arriving o ++ admitted (l.obey o).2 os

end Roll

/-- The request that was handed out with a reply. -/
def Reply.request? : Reply → Option Request
  | .handed r => r
  | .silent | .receipt _ => none

/-- The requests that were handed out. -/
def handedOut (rs : List Reply) : List Request :=
  rs.filterMap Reply.request?

/-! ## An outbox lists a roll -/

variable {l : Roll}

/-- The entries of the outbox are those of the roll, sorted. -/
structure Lists (b : Outbox) (l : Roll) : Prop where
  capacity : b.capacity = l.capacity
  retryLimit : b.retryLimit = l.retryLimit
  dropped : b.dropped = l.dropped
  entries : b.entries = sorted l.entries

lemma Lists.length_eq (h : Lists b l) : b.entries.length = l.entries.length := by
  rw [h.entries, (sorted_perm l.entries).length_eq]

lemma Lists.hasRoom (h : Lists b l) :
    b.hasRoom = decide (l.entries.length < l.capacity) := by
  rw [Outbox.hasRoom, h.length_eq, h.capacity]

lemma Lists.insert (h : Lists b l) (r : Request) : Lists (b.insert r).2 (l.write r) := by
  have hroom := h.hasRoom
  by_cases hl : l.entries.length < l.capacity
  · have hb : b.hasRoom = true := by simpa [hl] using hroom
    rw [Roll.write, if_pos hl]
    refine ⟨?_, ?_, ?_, ?_⟩
    · rw [insert_capacity, h.capacity]
    · rw [insert_retryLimit, h.retryLimit]
    · rw [insert_dropped, if_pos hb, h.dropped]
    · rw [insert_entries, if_pos hb, h.entries, sorted_snoc]
  · have hb : ¬ b.hasRoom = true := by simpa [hl] using hroom
    rw [Roll.write, if_neg hl]
    refine ⟨?_, ?_, ?_, ?_⟩
    · rw [insert_capacity, h.capacity]
    · rw [insert_retryLimit, h.retryLimit]
    · rw [insert_dropped, if_neg hb, h.dropped]
    · rw [insert_entries, if_neg hb, h.entries]

lemma Lists.offer (h : Lists b l) (r : Request) :
    Lists (b.offer r).2 (l.write { r with retriesLeft := l.retryLimit }) := by
  rw [Outbox.offer, stamp, h.retryLimit]
  exact h.insert _

/-- On a list that is not empty somebody leads, and the first who does is more urgent than all in
front of it and not less urgent than all behind it. -/
lemma Roll.exists_lead (h : l.entries ≠ []) : ∃ front r back, l.entries = front ++ r :: back ∧
    l.entries.find? l.leads = some r ∧ l.entries.eraseP l.leads = front ++ back ∧
    (∀ e ∈ front, r.precedes e = true) ∧ ∀ e ∈ back, e.precedes r = false := by
  -- the head of the sorted list leads
  obtain ⟨q, qs, hq⟩ := List.exists_cons_of_ne_nil
    (fun hnil => h (List.perm_nil.mp (hnil ▸ (sorted_perm l.entries).symm)))
  have hqmem : q ∈ l.entries := (sorted_perm l.entries).mem_iff.mp (by simp [hq])
  have hqleads : l.leads q = true := by
    have hordered := List.pairwise_mergeSort mayPrecede_trans mayPrecede_total l.entries
    rw [← sorted, hq] at hordered
    refine List.all_eq_true.mpr fun e he => ?_
    rcases List.mem_cons.mp (hq ▸ (sorted_perm l.entries).mem_iff.mpr he) with rfl | he
    · simpa using mayPrecede_total e e
    · exact (List.pairwise_cons.mp hordered).1 e he
  obtain ⟨r, hr⟩ : ∃ r, l.entries.find? l.leads = some r :=
    Option.isSome_iff_exists.mp (List.find?_isSome.mpr ⟨q, hqmem, hqleads⟩)
  obtain ⟨hleads, front, back, hsplit, hfront⟩ := List.find?_eq_some_iff_append.mp hr
  have hbest : ∀ e ∈ l.entries, r.mayPrecede e = true := List.all_eq_true.mp hleads
  refine ⟨front, r, back, hsplit, hr, ?_, fun e he => ?_, fun e he => ?_⟩
  · rw [hsplit, List.eraseP_append_right _ (by simpa using hfront), List.eraseP_cons_of_pos hleads]
  · have he' : ¬ l.leads e = true := by simpa using hfront e he
    rw [Roll.leads, List.all_eq_true] at he'
    push Not at he'
    obtain ⟨c, hc, hce⟩ := he'
    rw [ne_eq, mayPrecede_iff, Bool.not_eq_false] at hce
    exact precedes_of_mayPrecede_of_precedes (hbest c hc) hce
  · exact mayPrecede_iff.mp (hbest e (by simp [hsplit, he]))

lemma Lists.take (h : Lists b l) :
    (b.obey .take).1 = (l.obey .take).1 ∧ Lists (b.obey .take).2 (l.obey .take).2 := by
  by_cases hl : l.entries = []
  · have htake : b.take? = none := take?_eq_none_iff.mpr (by rw [h.entries, hl, sorted_nil])
    simp only [obey, Roll.obey, htake, hl]
    exact ⟨rfl, h.capacity, h.retryLimit, h.dropped, by rw [h.entries, hl]; rfl⟩
  · obtain ⟨front, r, back, hsplit, hfind, herase, hfront, hback⟩ := Roll.exists_lead hl
    have hentries : b.entries = r :: sorted (front ++ back) := by
      rw [h.entries, hsplit, sorted_uncover hfront hback]
    have htail : b.tail.entries = sorted (front ++ back) := congrArg List.tail hentries
    have htake : b.take? = some (r, b.tail) :=
      take?_eq_some_iff.mpr ⟨rfl, by rw [hentries, htail]⟩
    simp only [obey, Roll.obey, htake, hfind, herase]
    exact ⟨trivial, h.capacity, h.retryLimit, h.dropped, htail⟩

/-- **Every operation gets the same reply, and the outbox lists the roll afterwards.** -/
theorem Lists.obey (h : Lists b l) (o : Op) :
    (b.obey o).1 = (l.obey o).1 ∧ Lists (b.obey o).2 (l.obey o).2 := by
  cases o with
  | offer r => exact ⟨rfl, h.offer r⟩
  | tryOffer r =>
      refine ⟨?_, h.offer r⟩
      rw [Outbox.obey, Roll.obey, receipt, Outbox.offer, insert_fst, h.hasRoom, h.capacity]
      simp
  | retry r => exact ⟨rfl, h.insert r⟩
  | putBack r => exact ⟨rfl, h.insert r⟩
  | take => exact h.take

/-- The same of a sequence of operations. -/
lemma Lists.serve (h : Lists b l) (os : List Op) :
    (serve Outbox.obey b os).1 = (serve Roll.obey l os).1 ∧
      Lists (serve Outbox.obey b os).2 (serve Roll.obey l os).2 := by
  induction os generalizing b l with
  | nil => exact ⟨rfl, h⟩
  | cons o os ih =>
      obtain ⟨hreply, hlists⟩ := h.obey o
      obtain ⟨hreplies, hafter⟩ := ih hlists
      exact ⟨by rw [Outbox.serve, Outbox.serve, hreply, hreplies], hafter⟩

/-! ## Nothing is lost and nothing is doubled -/

lemma Roll.capacity_write (l : Roll) (r : Request) : (l.write r).capacity = l.capacity := by
  unfold write
  split_ifs <;> rfl

lemma Roll.capacity_obey (l : Roll) (o : Op) : (l.obey o).2.capacity = l.capacity := by
  cases o with
  | take => rfl
  | _ => exact l.capacity_write _

lemma Roll.capacity_serve (l : Roll) (os : List Op) :
    (Outbox.serve Roll.obey l os).2.capacity = l.capacity := by
  induction os generalizing l with
  | nil => rfl
  | cons o os ih => exact (ih _).trans (l.capacity_obey o)

/-- Who comes in is on the list afterwards, and who leaves the list is handed out. -/
lemma Roll.obey_balance (l : Roll) (o : Op) :
    (l.arriving o : Multiset Request) + l.entries
      = (l.obey o).1.request?.toList + (l.obey o).2.entries := by
  have hwrite (r : Request) : (if l.entries.length < l.capacity then [r] else [] : List Request)
      + (l.entries : Multiset Request) = (l.write r).entries := by
    unfold write
    split_ifs
    · exact Multiset.coe_eq_coe.mpr (List.perm_append_singleton r l.entries).symm
    · rfl
  cases o with
  | take =>
      have hnone : l.arriving .take = [] := by simp [arriving, bringing]
      by_cases hl : l.entries = []
      · simp [hnone, Roll.obey, Reply.request?, hl]
      · obtain ⟨front, r, back, hsplit, hfind, herase, -, -⟩ := Roll.exists_lead hl
        rw [hnone, Roll.obey, hfind, herase, hsplit]
        exact Multiset.coe_eq_coe.mpr List.perm_middle
  | _ => exact (hwrite _).trans (zero_add _).symm

/-- Those who came in, and those who were there, have been handed out or are there still. -/
lemma Roll.serve_balance (l : Roll) (os : List Op) :
    (l.admitted os : Multiset Request) + l.entries
      = handedOut (Outbox.serve Roll.obey l os).1 + (Outbox.serve Roll.obey l os).2.entries := by
  induction os generalizing l with
  | nil => simp [admitted, Outbox.serve, handedOut]
  | cons o os ih =>
      have hhanded (a : Reply) (as : List Reply) : (handedOut (a :: as) : Multiset Request)
          = a.request?.toList + handedOut as := by
        cases h : a.request? <;> simp [handedOut, h]
      rw [admitted, Outbox.serve, hhanded, add_assoc, ← ih (l.obey o).2, ← Multiset.coe_add]
      calc (l.arriving o : Multiset Request) + (l.obey o).2.admitted os + l.entries
          = (l.obey o).2.admitted os + (l.arriving o + l.entries) := by abel
        _ = (l.obey o).2.admitted os + ((l.obey o).1.request?.toList + (l.obey o).2.entries) := by
            rw [l.obey_balance o]
        _ = _ := by abel

/-- Taking until nothing is left hands out the entries in their order. -/
lemma serve_take (b : Outbox) :
    (serve obey b (List.replicate (b.size + 1) .take)).1
      = b.entries.map (fun r => .handed (some r)) ++ [.handed none] := by
  induction h : b.entries generalizing b with
  | nil =>
      have htake : b.take? = none := take?_eq_none_iff.mpr h
      simp [size, h, serve, obey, htake]
  | cons r es ih =>
      have htake : b.take? = some (r, b.tail) := take?_eq_some_iff.mpr ⟨rfl, by simp [tail, h]⟩
      have hobey : b.obey .take = (.handed (some r), b.tail) := by simp only [obey, htake]
      have hsize : b.size = b.tail.size + 1 := by simp [size, tail, h]
      rw [hsize, List.replicate_succ, serve, hobey, List.map_cons, List.cons_append,
        ih b.tail (congrArg List.tail h)]

/-! ## The plain list and the outbox -/

/-- **An outbox is a plain list to those who use it.**  For every capacity and every sequence of
operations the outbox replies as the list does and counts as many refusals.  The list never grows
beyond the capacity; the requests that came in are those that were handed out and those that are
still there, as they were written; and taking until nothing is left yields the stable sort of the
list by urgency. -/
theorem serve_roll (capacity limit : ℕ) (os : List Op) :
    let roll : Roll := { capacity, retryLimit := limit }
    let (replies, b) := serve obey (.empty capacity limit) os
    let (replies', l) := serve Roll.obey roll os
    replies = replies' ∧ b.dropped = l.dropped ∧ b.size = l.entries.length ∧
      l.entries.length ≤ capacity ∧
      (roll.admitted os : Multiset Request) = handedOut replies + l.entries ∧
      (serve obey b (List.replicate (b.size + 1) .take)).1
        = (sorted l.entries).map (fun r => .handed (some r)) ++ [.handed none] := by
  intro roll
  have hstart : Lists (.empty capacity limit) roll := ⟨rfl, rfl, rfl, sorted_nil.symm⟩
  obtain ⟨hreplies, hlists⟩ := hstart.serve os
  refine ⟨hreplies, hlists.dropped, hlists.length_eq, ?_, ?_, ?_⟩
  · have hfits := (serve obey (.empty capacity limit) os).2.fits
    rw [hlists.length_eq, hlists.capacity, Roll.capacity_serve] at hfits
    exact hfits
  · rw [hreplies, ← Roll.serve_balance]
    exact (add_zero _).symm
  · rw [serve_take, hlists.entries]

end Outbox

end HostAgent
