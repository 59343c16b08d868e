import HostAgent.Outbound.Failure
import HostAgent.Outbound.Request

/-!
# The outbox

A bounded store of requests.  The most urgent request leaves first; among requests of the same
rank the one that came in first.

* `Outbox.insert` — puts a request behind all that are not less urgent; a full outbox counts and
  refuses it.
* `Outbox.offer` — inserts a fresh request with the full number of attempts.
* `Outbox.receipt` — what a producer is told who asks whether there was room.
* `Outbox.take?` — removes the most urgent request.
* `place_perm`, `ordered_place` — insertion adds exactly the request and keeps the order.

No insertion number is kept here: since a request is put behind those of its rank, the order of the
list is the order of arrival.  `Tray` keeps the same requests with numbers on a heap.
-/

namespace HostAgent

open Outbound (Failure Request)

/-- Requests in the order in which they leave, at most `capacity` of them. -/
structure Outbox where
  capacity : Nat := 36000
  retryLimit : Nat := 5
  entries : List Request := []
  dropped : Nat := 0
  ordered : entries.Pairwise (fun a b => b.precedes a = false) := by exact List.Pairwise.nil
  fits : entries.length ≤ capacity := by exact Nat.zero_le _

namespace Outbox

/-- An outbox without requests. -/
def empty (capacity retryLimit : Nat) : Outbox where
  capacity := capacity
  retryLimit := retryLimit

/-- Puts a request behind all that are not less urgent. -/
def place (r : Request) : List Request → List Request
  | [] => [r]
  | e :: es => if r.precedes e then r :: e :: es else e :: place r es

/-- Placing a request adds exactly that request. -/
theorem place_perm (r : Request) (es : List Request) : (place r es).Perm (r :: es) := by
  induction es with
  | nil => exact List.Perm.refl _
  | cons e es ih =>
    simp only [place]
    split
    · exact List.Perm.refl _
    · exact (ih.cons e).trans (List.Perm.swap r e es)

/-- Placing a request keeps the order. -/
theorem ordered_place (r : Request) {es : List Request}
    (h : es.Pairwise (fun a b => b.precedes a = false)) :
    (place r es).Pairwise (fun a b => b.precedes a = false) := by
  induction es with
  | nil => simp [place]
  | cons e es ih =>
    have ⟨he, hes⟩ := List.pairwise_cons.1 h
    simp only [place]
    split
    · rename_i hr
      refine List.pairwise_cons.2 ⟨fun x hx => ?_, h⟩
      rcases List.mem_cons.1 hx with rfl | hx
      · simp only [Request.precedes_iff, Bool.eq_false_iff, ne_eq] at hr ⊢
        omega
      · have hxe := he x hx
        simp only [Request.precedes_iff, Bool.eq_false_iff, ne_eq] at hr hxe ⊢
        omega
    · rename_i hr
      refine List.pairwise_cons.2 ⟨fun x hx => ?_, ih hes⟩
      rcases List.mem_cons.1 ((place_perm r es).mem_iff.1 hx) with rfl | hx
      · simpa using hr
      · exact he x hx

/-- An outbox counts what it holds. -/
def size (b : Outbox) : Nat :=
  b.entries.length

/-- Whether there is room for one more. -/
def hasRoom (b : Outbox) : Bool :=
  decide (b.entries.length < b.capacity)

/-- Inserts a request; says whether there was room.  A refused request is counted. -/
def insert (b : Outbox) (r : Request) : Bool × Outbox :=
  if h : b.entries.length < b.capacity then
    (true,
      { b with
        entries := place r b.entries
        ordered := ordered_place r b.ordered
        fits := by rw [(place_perm r b.entries).length_eq]; exact h })
  else (false, { b with dropped := b.dropped + 1 })

/-- A request as it enters for the first time, with the full number of attempts. -/
def stamp (b : Outbox) (r : Request) : Request :=
  { r with retriesLeft := b.retryLimit }

/-- Inserts a fresh request. -/
def offer (b : Outbox) (r : Request) : Bool × Outbox :=
  b.insert (b.stamp r)

/-- What a producer is told who asks: that there was room, or that the outbox is full. -/
def receipt (b : Outbox) (accepted : Bool) : Except Failure Unit :=
  if accepted then .ok () else .error (.full b.capacity)

/-- The outbox without its first request. -/
def tail (b : Outbox) : Outbox :=
  { b with
    entries := b.entries.tail
    ordered := b.ordered.tail
    fits := by
      have := b.fits
      rw [List.length_tail]
      omega }

/-- Removes the most urgent request. -/
def take? (b : Outbox) : Option (Request × Outbox) :=
  match b.entries with
  | [] => none
  | r :: _ => some (r, b.tail)

/-- All requests in the order in which they leave, and the outbox without them. -/
def drain (b : Outbox) : List Request × Outbox :=
  (b.entries, { b with entries := [], ordered := List.Pairwise.nil, fits := Nat.zero_le _ })

end Outbox

end HostAgent
