import HostAgent.Backhaul.Link
import HostAgent.Backhaul.Target
import HostAgent.Execution
import HostAgent.Fleet.Basic
import HostAgent.Outbound.Exchange
import HostAgent.Report
import HostAgent.Settings.Display
import HostAgent.Settings.File

/-!
# The agent

One outbox with the couriers that empty it, the link that feeds it, and the commands in between.

* `Agent.prepare` — the agent of settings.
* `Agent.receive` — a message that comes in over the backhaul, with all that follows from it.
* `Agent.windDown` — what is done when the link has ended: waiting messages get five seconds.
* `Agent.successor?` — the agent that takes over after a restart.
* `check` — what a check of settings prints.
-/

namespace HostAgent

open Backhaul (Link Target Message Sent Wish)
open Fleet (Attempt Carrier)
open Intake (Handling)
open Outbound (Request Session)

/-- The agent at work. -/
structure Agent where
  settings : Settings
  session : Session
  target : Target
  link : Link
  fleet : Fleet
  /-- The attempts of the agents before it. -/
  earlier : List Attempt := []

namespace Agent

/-- An agent that begins. -/
def fresh (settings : Settings) (session : Session) (target : Target) : Agent where
  settings := settings
  session := session
  target := target
  link := { pace := .of settings.control.initial settings.control.ceiling }
  fleet := Fleet.start (.empty settings.delivery.capacity settings.delivery.retryLimit) {}
    settings.delivery.workers settings.delivery.timeout

/-- The agent of settings, or why there is none. -/
def prepare (p : Outbound.Platform) (settings : Settings) : Except Report Agent :=
  match Session.of p settings.server with
  | .error e => .error ⟨"failed to build HTTP session", e.chain⟩
  | .ok session =>
    match Target.of p settings.server settings.control.path with
    | .error e => .error ⟨"failed to configure control channel", e.chain⟩
    | .ok target => .ok (fresh settings session target)

/-- Puts requests into the outbox. -/
def post (a : Agent) (rs : List Request) : Agent :=
  { a with fleet := rs.foldl Fleet.offer a.fleet }

/-- Carries out what a query asks for: notices are posted, then a command is started and, when it
has ended, reported. -/
def carryOut (a : Agent) (h : Handling) : Agent :=
  let a := a.post h.notices
  match h.command with
  | none => a
  | some c =>
    let notice := Execution.complete a.settings.control.commandTimeout c
    a.post [Intake.report c.id notice a.fleet.now]

/-- Lets the couriers go on until each of them waits. -/
def settle (carrier : Carrier) (a : Agent) : Agent :=
  { a with fleet := Fleet.settle carrier a.fleet }

/-- A message comes in over the backhaul. -/
def receive (carrier : Carrier) (a : Agent) (m : Message) : List Sent × Agent :=
  let (h, sent, link) := a.link.receive m
  let (more, link) := link.settle
  (sent ++ more, ({ a with link }.carryOut h).settle carrier)

/-- Somebody on this machine wishes something. -/
def ask (a : Agent) (w : Wish) : List Sent × Agent :=
  let (sent, link) := (a.link.ask w).settle
  (sent, { a with link })

/-- Whether the link has ended. -/
def hasEnded (a : Agent) : Bool :=
  a.link.phase == .finished

/-- Lets so many tenths of a second pass, or fewer once the outbox is empty. -/
def drain (carrier : Carrier) : Nat → Agent → Agent
  | 0, a => a
  | n + 1, a =>
    if a.fleet.outbox.entries.isEmpty then a
    else drain carrier n { a with fleet := Fleet.advance carrier a.fleet 100 }

/-- What is done when the link has ended. -/
def windDown (carrier : Carrier) (a : Agent) : Agent :=
  let a := a.drain carrier 50
  { a with fleet := Fleet.shutDown carrier a.fleet }

/-- All attempts so far, in order. -/
def attempts (a : Agent) : List Attempt :=
  a.earlier ++ a.fleet.attempts.reverse

/-- The agent that takes over, if the link has ended with a restart. -/
def successor? (carrier : Carrier) (a : Agent) : Option Agent :=
  match a.link.exit? with
  | some { restart := true } =>
    let a := a.windDown carrier
    some { fresh a.settings a.session a.target with earlier := a.attempts }
  | _ => none

end Agent

/-! ## Settings from a file -/

/-- Why settings cannot be used, for one who gave the path of their file. -/
def Settings.Fault.report (path : String) (f : Settings.Fault) : Report :=
  let causes := match f with
    | .unreadable refusal => [f.message path, refusal.message]
    | .malformed => [f.message path, Settings.malformedText]
    | _ => [f.message path]
  ⟨"invalid configuration in " ++ path, causes⟩

/-- What a check of settings prints, or why they cannot be used. -/
def check (path : String) (loaded : Except Settings.Fault Settings) : Except Report String :=
  match loaded with
  | .error f => .error (f.report path)
  | .ok s =>
    match Backhaul.backhaulUrl s.server.url s.control.path with
    | .error e => .error ⟨"cannot derive backhaul URL", [e.message]⟩
    | .ok url => .ok (String.join ((s.summary path url.text).map (· ++ "\n")))

/-- The agent of settings from a file, or why there is none. -/
def prepare (p : Outbound.Platform) (path : String) (loaded : Except Settings.Fault Settings) :
    Except Report Agent :=
  match loaded with
  | .error f => .error (f.report path)
  | .ok s => Agent.prepare p s

end HostAgent
