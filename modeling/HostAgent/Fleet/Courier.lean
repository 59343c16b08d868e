import HostAgent.Fleet.Tally
import HostAgent.Outbound.Request

/-!
# Couriers

A courier takes requests from an outbox and calls the carrier with them, one at a time.

* `Outcome` — what the carrier does with one attempt; `Carrier` — what it does with each.
* `Call` — an attempt under way, with the time of its answer and the time at which the courier
  gives up on it.
* `Phase` — what a courier is doing.  In some phases it runs, in the others it waits.
-/

namespace HostAgent.Fleet

open Outbound (Request)

/-- What becomes of one attempt: an answer after some milliseconds, or none ever. -/
structure Outcome where
  latency : Nat := 0
  status : Nat := 200
  hangs : Bool := false
  deriving DecidableEq, Repr, Inhabited

/-- Whether the answer is a success. -/
def Outcome.succeeds (o : Outcome) : Bool :=
  200 ≤ o.status && o.status < 300

/-- What becomes of the `n`-th attempt on a path. -/
abbrev Carrier := String → Nat → Outcome

/-- An attempt as the carrier sees it. -/
structure Attempt where
  time : Int
  request : Request
  timeout : Span

/-- An attempt under way. -/
structure Call where
  request : Request
  started : Int
  outcome : Outcome
  giveUp : Int
  deriving Inhabited

namespace Call

/-- When the answer comes. -/
def answerAt? (c : Call) : Option Int :=
  if c.outcome.hangs then none else some (c.started + c.outcome.latency)

/-- When the call ends, by its answer or without one. -/
def endsAt (c : Call) : Int :=
  match c.answerAt? with
  | some t => min t c.giveUp
  | none => c.giveUp

/-- Whether the call succeeds.  An answer at the very moment of giving up still counts. -/
def succeeds (c : Call) : Bool :=
  match c.answerAt? with
  | some t => decide (t ≤ c.giveUp) && c.outcome.succeeds
  | none => false

end Call

/-- What a courier is doing. -/
inductive Phase where
  /-- It is about to take a request. -/
  | looking
  /-- It has a request in hand. -/
  | holding (r : Request)
  /-- It has put back a request that was not due and is about to wait for it. -/
  | enlisting (due : Int)
  /-- It stands in line; there is nothing to send. -/
  | parked
  /-- It stands in line, but not longer than until a request is due. -/
  | guarding (due : Int)
  /-- It waits for the end of a call. -/
  | calling (c : Call)
  /-- Its call has ended. -/
  | reporting (c : Call)
  /-- It has stopped. -/
  | ended
  deriving Inhabited

/-- Whether a courier in this phase goes on by itself. -/
def Phase.runs : Phase → Bool
  | .looking | .holding _ | .enlisting _ | .reporting _ => true
  | .parked | .guarding _ | .calling _ | .ended => false

/-- When a waiting courier goes on at the latest. -/
def Phase.alarm? : Phase → Option Int
  | .guarding due => some due
  | .calling c => some c.endsAt
  | _ => none

/-- A courier: what it is doing, since which entry in the order of waits, and its tally. -/
structure Courier where
  phase : Phase := .looking
  waitNumber : Nat := 0
  tally : Tally := {}
  deriving Inhabited

end HostAgent.Fleet
