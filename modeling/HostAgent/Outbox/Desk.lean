import HostAgent.Outbox.Gate
import HostAgent.Outbox.Tray

/-!
# The desk

A tray on a clock, and the callers that wait at it.  A caller wants either the most urgent request
or only to be told of the next insertion, the latter until a deadline.

* `Desk.admit` — an insertion that wakes: it serves the caller who has waited longest.
* `Desk.putBack` — an insertion that wakes nobody.
* `Desk.call` — a new caller; what it wants may be there at once.
* `Desk.cancel` — a caller goes away without an answer.
* `Desk.advance` — the clock runs and stops at each deadline.

Deadlines are points of time, so whole milliseconds.
-/

namespace HostAgent

open Outbound (Request)

namespace Desk

/-- What a caller waits for. -/
inductive Wish where
  | request
  | news (deadline : Int)
  deriving DecidableEq, Repr

/-- One who waits. -/
structure Caller where
  id : Nat
  wish : Wish
  deriving DecidableEq, Repr

/-- The end of a wait: when, whose, and the request that was handed out, if one was wanted. -/
structure Answer where
  time : Int
  caller : Nat
  request : Option Request

end Desk

open Desk (Wish Caller Answer)

/-- A tray on a clock with callers waiting at it. -/
structure Desk where
  now : Int := 0
  tray : Tray := {}
  gate : Gate Caller := {}

namespace Desk

/-- A caller is let through.  One that wants a request gets the most urgent one; if there is none
it goes back in line. -/
def serve (d : Desk) (c : Caller) : List Answer × Desk :=
  match c.wish with
  | .news _ => ([⟨d.now, c.id, none⟩], d)
  | .request =>
    match d.tray.take? with
    | some (r, rest) => ([⟨d.now, c.id, some r⟩], { d with tray := rest })
    | none => ([], { d with gate := (d.gate.arrive c).2 })

/-- What follows an insertion: if there was room, one signal. -/
def afterInsert (d : Desk) (done : Bool × Tray) : Bool × List Answer × Desk :=
  let d := { d with tray := done.2 }
  if done.1 then
    match d.gate.signal with
    | (none, gate) => (true, [], { d with gate })
    | (some c, gate) => (true, serve { d with gate } c)
  else (false, [], d)

/-- Inserts a fresh request. -/
def offer (d : Desk) (r : Request) : Bool × List Answer × Desk :=
  d.afterInsert (d.tray.offer r)

/-- Inserts a request again that could not be delivered. -/
def retry (d : Desk) (r : Request) : Bool × List Answer × Desk :=
  d.afterInsert (d.tray.insert r)

/-- Inserts a request again that was taken too early.  Nobody is woken. -/
def putBack (d : Desk) (r : Request) : Bool × List Answer × Desk :=
  let done := d.tray.insert r
  (done.1, [], { d with tray := done.2 })

/-- A new caller.  It is served at once if what it wants is there, or if its deadline has passed;
the permit of an earlier signal answers one that wants news, and tells one that wants a request
nothing it does not know.  If a permit lies there and the deadline has passed as well, it is open
which of the two the caller looks at first; if the clock, the permit stays. -/
def call (d : Desk) (c : Caller) (clockFirst : Bool) : List Answer × Desk :=
  match c.wish with
  | .request =>
    if d.tray.isEmpty then
      let arrived := if d.gate.permit then (d.gate.arrive c).2.arrive c else d.gate.arrive c
      ([], { d with gate := arrived.2 })
    else d.serve c
  | .news deadline =>
    if clockFirst && decide (deadline ≤ d.now) then ([⟨d.now, c.id, none⟩], d)
    else match d.gate.arrive c with
      | (true, gate) => ([⟨d.now, c.id, none⟩], { d with gate })
      | (false, gate) =>
        if deadline ≤ d.now then ([⟨d.now, c.id, none⟩], d) else ([], { d with gate })

/-- A caller goes away. -/
def cancel (d : Desk) (id : Nat) : Desk :=
  { d with gate := d.gate.leave fun c => c.id == id }

/-- The deadline of a caller. -/
def deadline? (c : Caller) : Option Int :=
  match c.wish with
  | .news deadline => some deadline
  | .request => none

/-- The first of the earliest deadlines in line that are not after a moment. -/
def nextDeadline? (target : Int) : List Caller → Option (Int × Nat)
  | [] => none
  | c :: cs =>
    match deadline? c with
    | none => nextDeadline? target cs
    | some due =>
      if due ≤ target then
        match nextDeadline? target cs with
        | some (due', id) => if due' < due then some (due', id) else some (due, c.id)
        | none => some (due, c.id)
      else nextDeadline? target cs

/-- Lets the clock run to a moment, answering at most so many deadlines on the way. -/
def runTo (target : Int) : Nat → Desk → List Answer × Desk
  | 0, d => ([], { d with now := target })
  | fuel + 1, d =>
    match nextDeadline? target d.gate.line with
    | none => ([], { d with now := target })
    | some (due, id) =>
      let rest := runTo target fuel ({ d with now := max d.now due }.cancel id)
      (⟨max d.now due, id, none⟩ :: rest.1, rest.2)

/-- Lets the clock run.  Each deadline takes a caller out of the line, so there are no more of
them than callers. -/
def advance (d : Desk) (ms : Nat) : List Answer × Desk :=
  runTo (d.now + ms) d.gate.line.length d

end Desk

end HostAgent
