import HostAgent.Datum
import HostAgent.Outbound.Method
import HostAgent.Time

/-!
# Outbound requests

What waits to be sent to the management plane.

* `Request` — where it goes, what it carries, how urgent it is, from when and until when it may
  be sent, and how many attempts are left.
* `Request.precedes` — the order of urgency: the lower priority number first, then the earlier
  due time.
-/

namespace HostAgent.Outbound

/-- What a request carries. -/
inductive Body where
  | json (value : Datum)
  | bytes (bytes : List UInt8)
  deriving Inhabited

/-- A request on its way out.  The number `id` tells requests of the same content apart. -/
structure Request where
  id : Nat := 0
  method : Method := .post
  path : String
  priority : Int := 50
  body : Option Body := none
  due : Int
  expiry : Option Int := none
  retriesLeft : Nat := 0
  timeout : Option Span := none
  deriving Inhabited

namespace Request

/-- Whether the request may be sent. -/
def isDue (r : Request) (now : Int) : Bool :=
  decide (r.due ≤ now)

/-- Whether the request is too old to be sent.  The moment of expiry itself is too late. -/
def isExpired (r : Request) (now : Int) : Bool :=
  match r.expiry with
  | some e => decide (e ≤ now)
  | none => false

/-- Whether one request is strictly more urgent than another. -/
def precedes (a b : Request) : Bool :=
  a.priority < b.priority || (a.priority == b.priority && a.due < b.due)

/-- Urgency is decided by the pair of priority and due time. -/
theorem precedes_iff {a b : Request} :
    a.precedes b = true ↔
      a.priority < b.priority ∨ (a.priority = b.priority ∧ a.due < b.due) := by
  simp [precedes]

/-- Of two requests, if neither is more urgent than the other, both have the same rank; so not
being less urgent is transitive. -/
theorem not_precedes_trans {a b c : Request} (hab : a.precedes b = false)
    (hbc : b.precedes c = false) : a.precedes c = false := by
  rw [Bool.eq_false_iff, ne_eq, precedes_iff] at *
  omega

/-- More urgent than one that is not less urgent. -/
theorem precedes_of_precedes_of_not {a b c : Request} (hab : a.precedes b = true)
    (hcb : c.precedes b = false) : a.precedes c = true := by
  rw [Bool.eq_false_iff, ne_eq, precedes_iff] at hcb
  rw [precedes_iff] at *
  omega

end Request

end HostAgent.Outbound
