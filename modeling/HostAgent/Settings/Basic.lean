import HostAgent.Dictionary
import HostAgent.Time

/-!
# Settings

What the agent is told before it starts: the server it belongs to, how it delivers requests, and
how it keeps its backhaul.  Only the server has to be given.

* `Settings` — all of it, with the values that hold where nothing is said.
* `Settings.overridden` — the server's address and credentials taken from the environment.
-/

namespace HostAgent

/-- The management plane and the agent's credentials there. -/
structure Settings.Server where
  url : String
  id : String
  key : String
  certificate : Option String := none
  verify : Bool := true
  deriving DecidableEq, Repr

/-- How requests are delivered. -/
structure Settings.Delivery where
  workers : Nat := 4
  timeoutSeconds : Nat := 5
  retryLimit : Nat := 5
  capacity : Nat := 36000
  statsSeconds : Nat := 60
  deriving DecidableEq, Repr

/-- How the backhaul is kept. -/
structure Settings.Control where
  path : String := "/ws/servers/backhaul/"
  initialSeconds : Nat := 5
  ceilingSeconds : Nat := 60
  commandSeconds : Nat := 600
  deriving DecidableEq, Repr

/-- All settings. -/
structure Settings where
  server : Settings.Server
  delivery : Settings.Delivery := {}
  control : Settings.Control := {}
  deriving DecidableEq, Repr

namespace Settings

/-- The time that a delivery may take. -/
def Delivery.timeout (d : Delivery) : Span := .seconds d.timeoutSeconds

/-- The first pause before connecting again. -/
def Control.initial (c : Control) : Span := .seconds c.initialSeconds

/-- The longest pause before connecting again. -/
def Control.ceiling (c : Control) : Span := .seconds c.ceilingSeconds

/-- The time that a command may take. -/
def Control.commandTimeout (c : Control) : Span := .seconds c.commandSeconds

/-- The settings with the server's address and credentials from the environment, where given. -/
def overridden (s : Settings) (env : Dictionary) : Settings :=
  { s with
    server :=
      { s.server with
        url := (env.get? "TETHER_SERVER_URL").getD s.server.url
        id := (env.get? "TETHER_SERVER_ID").getD s.server.id
        key := (env.get? "TETHER_SERVER_KEY").getD s.server.key } }

end Settings

end HostAgent
