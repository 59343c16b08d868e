import HostAgent.Fleet.Courier
import HostAgent.Outbound.Pause
import HostAgent.Outbox.Basic
import HostAgent.Outbox.Gate

/-!
# A fleet of couriers

Couriers that share one outbox, the gate at which they wait, and a clock.

* `Fleet.step` — one action of the courier whose turn it is.  An action touches the outbox at most
  once, so any two couriers and producers interleave action by action.
* `Fleet.settle` — lets all couriers go on until each of them waits.
* `Fleet.advance` — lets the clock run, stopping at each alarm.
* `Fleet.shutDown` — tells the couriers to stop, and lets the clock run until their calls have
  ended.

Couriers take turns: one goes on until it waits, and one that is woken queues up behind those that
are already awake.  Alarms of one moment ring in the order in which the waits began.

Due times are points of time, so whole milliseconds; the time that a call may take is a span, whose
alarm is rounded up.
-/

namespace HostAgent

open Outbound (Request)
open Fleet

/-- Couriers around an outbox. -/
structure Fleet where
  now : Int := 0
  outbox : Outbox := {}
  gate : Gate Nat := {}
  couriers : Array Courier := #[]
  awake : List Nat := []
  waits : Nat := 0
  timeout : Span := .seconds 5
  stopping : Bool := false
  attempts : List Attempt := []

namespace Fleet

/-- A fleet of at least one courier, each about to begin. -/
def start (outbox : Outbox) (gate : Gate Nat) (workers : Nat) (timeout : Span) : Fleet :=
  let n := max workers 1
  { outbox, gate, timeout, couriers := Array.replicate n {}, awake := List.range n }

/-- The phase of a courier. -/
def phase (f : Fleet) (i : Nat) : Phase :=
  (f.couriers[i]?.getD {}).phase

/-- Changes one courier. -/
def modify (f : Fleet) (i : Nat) (g : Courier → Courier) : Fleet :=
  { f with couriers := f.couriers.modify i g }

/-- A courier goes over to another phase and goes on. -/
def become (f : Fleet) (i : Nat) (p : Phase) : Fleet :=
  f.modify i fun c => { c with phase := p }

/-- The courier whose turn it is begins to wait. -/
def rest (f : Fleet) (i : Nat) (p : Phase) : Fleet :=
  { f.modify i (fun c => { c with phase := p, waitNumber := f.waits }) with
    awake := f.awake.tail
    waits := f.waits + 1 }

/-- A waiting courier goes on when its turn comes. -/
def wake (f : Fleet) (i : Nat) (p : Phase) : Fleet :=
  { f.become i p with awake := f.awake ++ [i] }

/-- What follows an insertion: if there was room, one signal. -/
def afterInsert (f : Fleet) (done : Bool × Outbox) : Fleet :=
  let f := { f with outbox := done.2 }
  if done.1 then
    match f.gate.signal with
    | (none, gate) => { f with gate }
    | (some i, gate) => { f with gate }.wake i .looking
  else f

/-- A producer inserts a fresh request. -/
def offer (f : Fleet) (r : Request) : Fleet :=
  f.afterInsert (f.outbox.offer r)

/-- The most urgent request is taken by somebody else. -/
def pop (f : Fleet) : Option Request × Fleet :=
  match f.outbox.take? with
  | some (r, b) => (some r, { f with outbox := b })
  | none => (none, f)

/-- When a call that starts now is given up. -/
def giveUpAt (now : Int) (timeout : Span) : Int :=
  timeout.alarm now

/-- How many attempts on a path have begun. -/
def attemptsOn (f : Fleet) (path : String) : Nat :=
  f.attempts.countP (·.request.path == path)

/-- The call of a courier that begins now. -/
def callFor (carrier : Carrier) (f : Fleet) (r : Request) : Call where
  request := r
  started := f.now
  outcome := carrier r.path (f.attemptsOn r.path)
  giveUp := giveUpAt f.now (r.timeout.getD f.timeout)

/-- The record of an attempt that begins now. -/
def attemptFor (f : Fleet) (r : Request) : Attempt where
  time := f.now
  request := r
  timeout := r.timeout.getD f.timeout

/-- A courier takes the most urgent request, or stands in line. -/
def look (f : Fleet) (i : Nat) : Fleet :=
  if f.stopping then f.rest i .ended
  else match f.outbox.take? with
    | some (r, b) => { f with outbox := b }.become i (.holding r)
    | none =>
      match f.gate.arrive i with
      | (true, gate) => { f with gate }
      | (false, gate) => { f with gate }.rest i .parked

/-- A courier drops the request in its hand if it is expired, puts it back if it is not due, and
calls the carrier otherwise. -/
def handle (carrier : Carrier) (f : Fleet) (i : Nat) (r : Request) : Fleet :=
  if r.isExpired f.now then
    (f.modify i fun c => { c with tally := c.tally.ignored }).become i .looking
  else if !r.isDue f.now then
    { f with outbox := (f.outbox.insert r).2 }.become i (.enlisting r.due)
  else
    let c := callFor carrier f r
    let f := { f with attempts := attemptFor f r :: f.attempts }
    if c.endsAt ≤ f.now then f.become i (.reporting c) else f.rest i (.calling c)

/-- A courier begins to wait for a request that is not due. -/
def enlist (f : Fleet) (i : Nat) (due : Int) : Fleet :=
  match f.gate.arrive i with
  | (true, gate) => { f with gate }.become i .looking
  | (false, gate) => { f with gate }.rest i (.guarding due)

/-- The request after a failed attempt: one attempt fewer, due after a rest.  The clock has no end,
so there is such a point of time however long the rest is. -/
def retried (f : Fleet) (r : Request) : Request :=
  { r with
    retriesLeft := r.retriesLeft - 1
    due := (Outbound.pause f.outbox.retryLimit (r.retriesLeft - 1)).after f.now }

/-- A courier counts the end of its call.  After a failure the request goes back as long as it has
attempts left. -/
def report (f : Fleet) (i : Nat) (c : Call) : Fleet :=
  let late := Span.between c.request.due c.started
  let took := Span.between c.started f.now
  if c.succeeds then
    (f.modify i fun w => { w with tally := w.tally.success late took }).become i .looking
  else
    let f := f.modify i fun w => { w with tally := w.tally.failure late took }
    if c.request.retriesLeft - 1 > 0 then
      (f.become i .looking).afterInsert (f.outbox.insert (f.retried c.request))
    else
      (f.modify i fun w => { w with tally := w.tally.ignored }).become i .looking

/-- One action of the courier whose turn it is. -/
def step (carrier : Carrier) (f : Fleet) : Fleet :=
  match f.awake with
  | [] => f
  | i :: others =>
    match f.phase i with
    | .looking => f.look i
    | .holding r => handle carrier f i r
    | .enlisting due => f.enlist i due
    | .reporting c => f.report i c
    | .parked | .guarding _ | .calling _ | .ended => { f with awake := others }

/-- So many actions, or fewer if all couriers wait. -/
def stepMany (carrier : Carrier) : Nat → Fleet → Fleet
  | 0, f => f
  | n + 1, f => if f.awake.isEmpty then f else stepMany carrier n (step carrier f)

/-- More actions than one moment can hold.  In one moment a request is called once and looked at
too early once for each signal and courier, and a look takes at most three actions. -/
def actionBound (f : Fleet) : Nat :=
  20 * (f.outbox.size + 2 * f.couriers.size + 5)

/-- Lets all couriers go on until each of them waits. -/
def settle (carrier : Carrier) (f : Fleet) : Fleet :=
  stepMany carrier f.actionBound f

/-- The alarms that are set: when, since when in the order of waits, and whose. -/
def alarms (f : Fleet) : List (Int × Nat × Nat) :=
  (f.couriers.toList.zipIdx).filterMap fun (c, i) =>
    c.phase.alarm?.map fun t => (t, c.waitNumber, i)

/-- The earliest alarm. -/
def nextAlarm? (f : Fleet) : Option Int :=
  (f.alarms.map (·.1)).min?

/-- The alarm of a courier rings: it leaves the line if it stands there, and goes on. -/
def ring (f : Fleet) (i : Nat) : Fleet :=
  match f.phase i with
  | .guarding _ => { f with gate := f.gate.leave (· == i) }.wake i .looking
  | .calling c => f.wake i (.reporting c)
  | _ => f

/-- Rings every alarm that is due, by its time and then by the order of waits. -/
def ringAll (f : Fleet) : Fleet :=
  let due := f.alarms.filter fun a => a.1 ≤ f.now
  let order := due.mergeSort fun a b => a.1 < b.1 || (a.1 == b.1 && a.2.1 ≤ b.2.1)
  order.foldl (fun f a => f.ring a.2.2) f

/-- Lets the clock run to a moment, with at most so many stops on the way. -/
def runTo (carrier : Carrier) (target : Int) : Nat → Fleet → Fleet
  | 0, f => { f with now := max f.now target }
  | fuel + 1, f =>
    match f.nextAlarm? with
    | none => { f with now := max f.now target }
    | some t =>
      if t ≤ target then
        runTo carrier target fuel (settle carrier { f with now := max f.now t }.ringAll)
      else { f with now := max f.now target }

/-- Lets the clock run.  Every alarm lies at least a millisecond ahead, so there are no more stops
than milliseconds. -/
def advance (carrier : Carrier) (f : Fleet) (ms : Nat) : Fleet :=
  let f := settle carrier f
  runTo carrier (f.now + ms) (ms + 1) f

/-- Tells the couriers to stop.  Those in line leave it. -/
def stop (f : Fleet) : Fleet :=
  let f := { f with stopping := true }
  (List.range f.couriers.size).foldl
    (fun f i => match f.phase i with
      | .parked | .guarding _ => { f with gate := f.gate.leave (· == i) }.wake i .looking
      | _ => f) f

/-- Lets the clock run from one end of a call to the next. -/
def finishCalls (carrier : Carrier) : Nat → Fleet → Fleet
  | 0, f => f
  | fuel + 1, f =>
    match f.nextAlarm? with
    | none => f
    | some t => finishCalls carrier fuel (settle carrier { f with now := max f.now t }.ringAll)

/-- Tells the couriers to stop and waits until they have.  Each courier ends at most one call. -/
def shutDown (carrier : Carrier) (f : Fleet) : Fleet :=
  finishCalls carrier f.couriers.size (settle carrier f.stop)

/-- The tallies of all couriers. -/
def tallies (f : Fleet) : List Tally :=
  f.couriers.toList.map (·.tally)

end Fleet

end HostAgent
