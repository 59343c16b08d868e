import HostAgent.Outbox.Basic
import HostAgent.Wire.Completion
import HostAgent.Wire.Envelope

/-!
# Intake

What the agent does with a query: which notices it posts, which command it starts, and what is to
become of the connection the query came over.

* `Verdict` — what is to become of the connection.
* `Handling` — all effects of a query.
* `handle` — the handling of a query.  A command is acknowledged before it is started; the agent's
  own restart is also reported as complete, and starts nothing.
-/

namespace HostAgent

open Outbound (Request)
open Wire (Command Completion Query)

namespace Intake

/-- What is to become of a connection. -/
inductive Verdict where
  | proceed
  | reconnect
  | quit
  | restart
  deriving DecidableEq, Repr, Inhabited

/-- The effects of a query: requests to post, in order, and a command to start after that. -/
structure Handling where
  notices : List Request := []
  command : Option Command := none
  verdict : Verdict := .proceed

/-- The acknowledgement of a command. -/
def acknowledgement (id : String) (now : Int) : Request :=
  { path := Wire.acknowledgePath id, priority := Wire.noticePriority, due := now }

/-- The report that a command is complete. -/
def report (id : String) (c : Completion) (now : Int) : Request :=
  { path := Wire.completionPath id, priority := Wire.noticePriority, due := now,
    body := some (.json c.datum) }

/-- What is reported of a restart. -/
def restarting : Completion :=
  { success := true, result := "restarting agent", elapsed := 0.0 }

/-- The handling of a query. -/
def handle (now : Int) : Query → Handling
  | .command c =>
    if c.isInternal "restart" then
      { notices := [acknowledgement c.id now, report c.id restarting now], verdict := .restart }
    else { notices := [acknowledgement c.id now], command := some c }
  | .quit _ => { verdict := .quit }
  | .reconnect _ => { verdict := .reconnect }
  | .unknown _ => {}

/-- The handling of a text.  What is no query changes nothing. -/
def handleText (now : Int) (text : String) : Handling :=
  match Query.decode text with
  | .ok q => handle now q
  | .error _ => {}

/-- The outbox with the notices posted. -/
def Handling.post (h : Handling) (b : Outbox) : Outbox :=
  h.notices.foldl (fun b r => (b.offer r).2) b

end Intake

end HostAgent
