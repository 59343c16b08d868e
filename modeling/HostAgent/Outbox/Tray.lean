import HostAgent.Outbound.Failure
import HostAgent.Outbound.Request
import HostAgent.Outbox.Heap

/-!
# Trays

The requests of an outbox lie on a heap.  Each comes in under the next number of a 64-bit register,
and where rank does not decide, the lower number does.

* `Slot` — a request with its number; `Slot.compareKeys` compares priority, due time and number.
* `Tray.insert` — puts a request on the heap under the next number; a full tray counts and refuses
  it.
* `Tray.take?` — removes the top of the heap.

The register starts again at zero behind its last number.  Up to there a tray hands out its requests
as `Outbox` does.
-/

namespace HostAgent

open Outbound (Failure Request)

/-- A request and the number under which it came in. -/
structure Slot where
  number : UInt64
  request : Request
  deriving Inhabited

namespace Slot

/-- Compares priorities, then due times, then numbers. -/
def compareKeys : Slot → Slot → Ordering :=
  compareLex (compareOn (·.request.priority))
    (compareLex (compareOn (·.request.due)) (compareOn (·.number)))

instance : Std.TransCmp compareKeys :=
  inferInstanceAs (Std.TransCmp (compareLex _ (compareLex _ _)))

/-- A heap hands out what is greatest, so the lowest key counts as that. -/
instance : Ord Slot := ⟨fun a b => compareKeys b a⟩

instance : Std.TransOrd Slot :=
  inferInstanceAs (Std.TransCmp fun a b => compareKeys b a)

end Slot

/-- Requests on a heap. -/
structure Tray where
  capacity : Nat := 36000
  retryLimit : Nat := 5
  slots : Heap Slot := .nil
  next : UInt64 := 0
  dropped : UInt64 := 0
  ordered : slots.IsOrdered := by exact trivial

namespace Tray

/-- A tray without requests. -/
def empty (capacity retryLimit : Nat) : Tray where
  capacity := capacity
  retryLimit := retryLimit

/-- A tray counts what it holds. -/
def size (t : Tray) : Nat :=
  t.slots.size

/-- Whether there is room for one more. -/
def hasRoom (t : Tray) : Bool :=
  decide (t.size < t.capacity)

/-- Inserts a request under the next number; says whether there was room.  A refused request is
counted. -/
def insert (t : Tray) (r : Request) : Bool × Tray :=
  if t.hasRoom then
    (true,
      { t with
        slots := t.slots.push ⟨t.next, r⟩
        next := t.next + 1
        ordered := t.ordered.push _ })
  else (false, { t with dropped := t.dropped + 1 })

/-- A request as it enters for the first time, with the full number of attempts. -/
def stamp (t : Tray) (r : Request) : Request :=
  { r with retriesLeft := t.retryLimit }

/-- Inserts a fresh request. -/
def offer (t : Tray) (r : Request) : Bool × Tray :=
  t.insert (t.stamp r)

/-- What a producer is told who asks: that there was room, or that the tray is full. -/
def receipt (t : Tray) (accepted : Bool) : Except Failure Unit :=
  if accepted then .ok () else .error (.full t.capacity)

/-- Removes the most urgent request. -/
def take? (t : Tray) : Option (Request × Tray) :=
  match h : t.slots.pop? with
  | none => none
  | some (s, slots) => some (s.request, { t with slots, ordered := t.ordered.pop h })

/-- Whether there is nothing to take. -/
def isEmpty (t : Tray) : Bool :=
  t.size == 0

@[simp] theorem insert_fst (t : Tray) (r : Request) : (t.insert r).1 = t.hasRoom := by
  unfold insert
  split <;> simp_all

theorem size_insert (t : Tray) (r : Request) :
    (t.insert r).2.size = if t.hasRoom then t.size + 1 else t.size := by
  unfold insert
  split
  · exact t.slots.size_push _
  · rfl

theorem take?_eq_none_iff {t : Tray} : t.take? = none ↔ t.isEmpty = true := by
  rw [isEmpty, beq_iff_eq, size, ← Heap.pop?_eq_none_iff, take?]
  split <;> simp_all

theorem take?_of_pop? {t : Tray} {s : Slot} {slots : Heap Slot}
    (h : t.slots.pop? = some (s, slots)) :
    t.take? = some (s.request, { t with slots, ordered := t.ordered.pop h }) := by
  unfold take?
  split
  · simp_all
  · rename_i hpop
    cases h.symm.trans hpop
    rfl

end Tray

end HostAgent
