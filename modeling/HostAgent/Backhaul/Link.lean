import HostAgent.Backhaul.Pace
import HostAgent.Intake

/-!
# The link

The link keeps one connection to the management plane alive.  It connects, serves the connection
until it ends, and connects again, after a pause if connecting failed or the connection did not
last.  It ends for good when it is told to quit, from either side, or to restart.

* `Phase` — what the link is doing; `Stage` — what others see of it.
* `Link.tick` — what the link does next by itself, if it does not wait for anything.
* `Link.connected`, `Link.failed`, `Link.rested`, `Link.receive`, `Link.ask` — what happens to it.
* `Link.settle` — lets it go on until it waits.
* `Link.exit?` — what is left of it when it has ended.

Wishes from outside lie in a cell that keeps only the latest one.  The link looks at the cell
while it connects, serves or pauses, and before each attempt.
-/

namespace HostAgent.Backhaul

open Intake (Verdict Handling)

/-- What others see of the link. -/
inductive Stage where
  | disconnected
  | connecting
  | connected
  | closing
  | closed
  deriving DecidableEq, Repr, Inhabited

/-- What others may wish of the link. -/
inductive Wish where
  | nothing
  | reconnect
  | quit
  deriving DecidableEq, Repr, Inhabited

/-- How a connection ends: it is lost, or a verdict ends it. -/
inductive Ending where
  | lost
  | verdict (v : Verdict)
  deriving DecidableEq, Repr

/-- What the link is doing. -/
inductive Phase where
  /-- It has not begun. -/
  | starting
  /-- It waits for a handshake, until a deadline. -/
  | connecting (deadline : Int)
  /-- It serves a connection that was made at a point of time. -/
  | serving (since : Int)
  /-- It sends its last frame over a connection. -/
  | closing (since : Int) (ending : Ending)
  /-- It rests before the next attempt. -/
  | pausing (til : Int)
  /-- It has ended. -/
  | finished
  deriving DecidableEq, Repr, Inhabited

/-- What comes in over a connection. -/
inductive Message where
  | text (s : String)
  | binary (bytes : List UInt8)
  | ping (bytes : List UInt8)
  | pong (bytes : List UInt8)
  | close
  | broken
  | ended
  deriving DecidableEq, Repr

/-- What goes out over a connection. -/
inductive Sent where
  | text (s : String)
  | pong (bytes : List UInt8)
  | close
  deriving DecidableEq, Repr

/-- How a link has ended: whether the agent is to begin anew. -/
structure Exit where
  restart : Bool
  deriving DecidableEq, Repr

/-- The link.  The stages it has shown come last first. -/
structure Link where
  now : Int := 0
  phase : Phase := .starting
  pace : Pace := .standard
  wish : Wish := .nothing
  unseen : Bool := false
  restart : Bool := false
  shown : List Stage := [.disconnected]
  deriving Inhabited

namespace Link

/-- How long a handshake may take, in milliseconds. -/
def handshakeLimit : Nat := 30000

/-- What others see. -/
def stage (l : Link) : Stage :=
  l.shown.headD .disconnected

/-- Shows a stage. -/
def present (l : Link) (s : Stage) : Link :=
  { l with shown := s :: l.shown }

/-- Somebody wishes something. -/
def ask (l : Link) (w : Wish) : Link :=
  { l with wish := w, unseen := true }

/-- The link takes notice of the cell. -/
def notice (l : Link) : Link :=
  { l with unseen := false }

/-- The end. -/
def finish (l : Link) : Link :=
  { l.present .closed with phase := .finished }

/-- The beginning of an attempt, unless the last wish is to quit. -/
def attempt (l : Link) : Link :=
  if l.wish = .quit then l.finish
  else { l.present .connecting with phase := .connecting (l.now + handshakeLimit) }

/-- A rest as long as the pace says. -/
def pause (l : Link) : Link :=
  let (rest, pace) := l.pace.take
  { l with pace, phase := .pausing (rest.alarm l.now) }

/-- The handshake is done. -/
def connected (l : Link) : Link :=
  match l.phase with
  | .connecting _ => { l.present .connected with phase := .serving l.now }
  | _ => l

/-- The attempt has failed. -/
def failed (l : Link) : Link :=
  match l.phase with
  | .connecting _ => (l.present .disconnected).pause
  | _ => l

/-- The rest is over.  If there is a wish too, the link need not have seen it yet. -/
def rested (l : Link) : Link :=
  match l.phase with
  | .pausing til => if til ≤ l.now then l.attempt else l
  | _ => l

/-- The connection that was made at a point of time is gone, without a verdict.  If it lasted as
long as the first pause it counts as healthy. -/
def lost (l : Link) (since : Int) : Link :=
  let l := l.present .disconnected
  if l.pace.initial ≤ Span.between since l.now then { l with pace := l.pace.restart }.attempt
  else l.pause

/-- What follows a connection that has been closed. -/
def afterClose (l : Link) (since : Int) : Ending → Link
  | .verdict .quit => l.finish
  | .verdict .restart => { l with restart := true }.finish
  | .verdict _ => ({ l with pace := l.pace.restart }.present .disconnected).attempt
  | .lost => l.lost since

/-- The link begins to close its connection. -/
def close (l : Link) (since : Int) (e : Ending) : Link :=
  { l.present .closing with phase := .closing since e }

/-- What the link does next by itself: what it sends, and the link after that; `none` if it
waits. -/
def tick (l : Link) : Option (List Sent × Link) :=
  match l.phase with
  | .starting => some ([], l.attempt)
  | .connecting deadline =>
    if l.unseen then some ([], (l.notice.present .disconnected).attempt)
    else if deadline ≤ l.now then some ([], l.failed)
    else none
  | .serving since =>
    if l.unseen then
      let v := if l.wish = .quit then Verdict.quit else .reconnect
      some ([.close], l.notice.close since (.verdict v))
    else none
  | .closing since e => some ([], l.afterClose since e)
  | .pausing til =>
    if l.unseen then some ([], l.notice.attempt)
    else if til ≤ l.now then some ([], l.attempt)
    else none
  | .finished => none

/-- Lets the link do so many things by itself, or fewer if it waits. -/
def ticks : Nat → Link → List Sent × Link
  | 0, l => ([], l)
  | n + 1, l =>
    match l.tick with
    | none => ([], l)
    | some (sent, l) =>
      let (more, l) := ticks n l
      (sent ++ more, l)

/-- Lets the link go on until it waits.  At one moment it can end a pause, abort an attempt, close
a connection and follow it up, each at most once or twice. -/
def settle (l : Link) : List Sent × Link :=
  ticks 8 l

/-- The text of a data frame, if it is one. -/
def dataText? : Message → Option (Option String)
  | .text s => some (some s)
  | .binary bytes => some (String.fromUTF8? ⟨bytes.toArray⟩)
  | _ => none

/-- A message comes in over the connection that was made at a point of time.  Each data frame is
handled and, if the connection goes on, answered with a probe; bytes that are no text are only
answered. -/
def take (l : Link) (since : Int) (m : Message) : Handling × List Sent × Link :=
  match m with
  | .ping bytes =>
    if bytes.length ≤ 125 then ({}, [.pong bytes], l) else ({}, [.close], l.close since .lost)
  | .pong _ => ({}, [], l)
  | .close | .broken => ({}, [.close], l.close since .lost)
  | .ended => ({}, [], l.lost since)
  | .text _ | .binary _ =>
    let h : Handling := match dataText? m with
      | some (some s) => Intake.handleText l.now s
      | _ => {}
    if h.verdict = .proceed then (h, [.text Wire.pingText], l)
    else (h, [.close], l.close since (.verdict h.verdict))

/-- A message comes in.  Without a connection there are none. -/
def receive (l : Link) (m : Message) : Handling × List Sent × Link :=
  match l.phase with
  | .serving since => l.take since m
  | _ => ({}, [], l)

/-- What is left of a link that has ended. -/
def exit? (l : Link) : Option Exit :=
  match l.phase with
  | .finished => some { restart := l.restart }
  | _ => none

/-- The clock jumps ahead. -/
def elapse (l : Link) (ms : Nat) : Link :=
  { l with now := l.now + ms }

/-- Whether there is a connection. -/
def isServing (l : Link) : Bool :=
  match l.phase with
  | .serving _ => true
  | _ => false

/-- Whether a handshake is awaited. -/
def isConnecting (l : Link) : Bool :=
  match l.phase with
  | .connecting _ => true
  | _ => false

/-- When the link goes on by itself at the latest. -/
def alarm? (l : Link) : Option Int :=
  match l.phase with
  | .connecting deadline => some deadline
  | .pausing til => some til
  | _ => none

/-- Lets the clock run to the next alarm. -/
def toAlarm (l : Link) : Link :=
  match l.alarm? with
  | some t => { l with now := max l.now t }.settle.2
  | none => l

/-- The link at its next attempt: pauses run out, and so does an attempt that has been taken
already.  An attempt, a pause and another attempt are three alarms at most. -/
def untilAttempt (l : Link) (taken : Bool) : Link :=
  let l := if taken && l.isConnecting then l.toAlarm else l
  if l.isConnecting then l else l.toAlarm

end Link

end HostAgent.Backhaul
