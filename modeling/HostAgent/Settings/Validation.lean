import HostAgent.Settings.Basic
import HostAgent.Text.Blank
import HostAgent.Text.Quoted
import HostAgent.Url.Parser

/-!
# Checking settings

Settings the agent cannot run with are refused before it starts.

* `Problem` — what is wrong; `Problem.message` is its wording.
* `check` — the first problem, in a fixed order.
-/

namespace HostAgent.Settings

/-- What is wrong with settings. -/
inductive Problem where
  | badUrl (url : String) (fault : Url.Fault)
  | badScheme (scheme : String)
  | emptyId
  | emptyKey
  | noWorkers
  | noCapacity
  | noTimeout
  | badRetryLimit (n : Nat)
  | badPath (path : String)
  | noInitialPause
  | noCommandTimeout
  | pauses (initial ceiling : Nat)
  deriving DecidableEq, Repr

/-- The wording of a problem. -/
def Problem.message : Problem → String
  | .badUrl url fault => "server.url " ++ Text.quoted url ++ ": " ++ fault.message
  | .badScheme scheme => "server.url must use http or https, got " ++ Text.quoted scheme
  | .emptyId => "server.id must not be empty"
  | .emptyKey => "server.key must not be empty"
  | .noWorkers => "delivery.workers must be at least 1"
  | .noCapacity => "delivery.queue_capacity must be at least 1"
  | .noTimeout => "delivery.request_timeout_secs must be at least 1"
  | .badRetryLimit n => "delivery.retry_limit must be between 1 and 30, got " ++ toString n
  | .badPath path => "control.backhaul_path must start with '/', got " ++ Text.quoted path
  | .noInitialPause => "control.reconnect_initial_secs must be at least 1"
  | .noCommandTimeout => "control.command_timeout_secs must be at least 1"
  | .pauses initial ceiling =>
    "control.reconnect_initial_secs (" ++ toString initial ++
      ") exceeds control.reconnect_max_secs (" ++ toString ceiling ++ ")"

/-- The first problem with the server. -/
def Server.problem? (s : Server) : Option Problem :=
  match Url.parse s.url with
  | .error fault => some (.badUrl s.url fault)
  | .ok url =>
    if url.scheme ≠ "http" ∧ url.scheme ≠ "https" then some (.badScheme url.scheme)
    else if Text.allBlank s.id then some .emptyId
    else if Text.allBlank s.key then some .emptyKey
    else none

/-- The first problem with the delivery. -/
def Delivery.problem? (d : Delivery) : Option Problem :=
  if d.workers = 0 then some .noWorkers
  else if d.capacity = 0 then some .noCapacity
  else if d.timeoutSeconds = 0 then some .noTimeout
  else if d.retryLimit = 0 ∨ d.retryLimit > 30 then some (.badRetryLimit d.retryLimit)
  else none

/-- The first problem with the control channel. -/
def Control.problem? (c : Control) : Option Problem :=
  if c.path.toList.head? ≠ some '/' then some (.badPath c.path)
  else if c.initialSeconds = 0 then some .noInitialPause
  else if c.commandSeconds = 0 then some .noCommandTimeout
  else if c.initialSeconds > c.ceilingSeconds then some (.pauses c.initialSeconds c.ceilingSeconds)
  else none

/-- The first problem. -/
def problem? (s : Settings) : Option Problem :=
  (s.server.problem?.or s.delivery.problem?).or s.control.problem?

/-- Whether the agent can run with the settings. -/
def check (s : Settings) : Except Problem Unit :=
  match s.problem? with
  | some p => .error p
  | none => .ok ()

end HostAgent.Settings
