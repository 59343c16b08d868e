import HostAgent.Backhaul.Target
import HostAgent.Settings.Basic
import HostAgent.Text.Quoted

/-!
# Showing settings

* `Settings.debugText` — all members on one line.
* `Settings.summary` — the lines that a check prints.

Neither shows the key.
-/

namespace HostAgent.Settings

/-- A truth value in words. -/
def word (b : Bool) : String := if b then "true" else "false"

/-- A record in one line: its name, and its members between braces. -/
def recordText (name : String) (members : List (String × String)) : String :=
  name ++ " \x7b " ++ String.intercalate ", " (members.map fun (k, v) => k ++ ": " ++ v) ++ " \x7d"

/-- An optional text in one line. -/
def optionText : Option String → String
  | none => "None"
  | some s => "Some(" ++ Text.quoted s ++ ")"

/-- The server in one line. -/
def Server.debugText (s : Server) : String :=
  recordText "ServerConfig"
    [("url", Text.quoted s.url), ("id", Text.quoted s.id), ("key", Text.quoted "<redacted>"),
      ("ca_certificate", optionText s.certificate), ("verify_certificate", word s.verify)]

/-- The delivery in one line. -/
def Delivery.debugText (d : Delivery) : String :=
  recordText "DeliveryConfig"
    [("workers", toString d.workers), ("request_timeout_secs", toString d.timeoutSeconds),
      ("retry_limit", toString d.retryLimit), ("queue_capacity", toString d.capacity),
      ("stats_interval_secs", toString d.statsSeconds)]

/-- The control channel in one line. -/
def Control.debugText (c : Control) : String :=
  recordText "ControlConfig"
    [("backhaul_path", Text.quoted c.path), ("reconnect_initial_secs", toString c.initialSeconds),
      ("reconnect_max_secs", toString c.ceilingSeconds),
      ("command_timeout_secs", toString c.commandSeconds)]

/-- All settings in one line. -/
def debugText (s : Settings) : String :=
  recordText "AgentConfig"
    [("server", s.server.debugText), ("delivery", s.delivery.debugText),
      ("control", s.control.debugText)]

/-- The lines that a check of the file at a path prints. -/
def summary (s : Settings) (path backhaul : String) : List String :=
  ["configuration OK: " ++ path,
    "  server:           " ++ s.server.url,
    "  agent id:         " ++ s.server.id,
    "  backhaul:         " ++ backhaul,
    "  tls:              verify=" ++ word s.server.verify ++ " ca=" ++
      s.server.certificate.getD "system",
    "  delivery:         workers=" ++ toString s.delivery.workers ++ " timeout=" ++
      toString s.delivery.timeoutSeconds ++ "s retries=" ++ toString s.delivery.retryLimit ++
      " capacity=" ++ toString s.delivery.capacity,
    "  reconnect:        " ++ toString s.control.initialSeconds ++ "s.." ++
      toString s.control.ceilingSeconds ++ "s"]

end HostAgent.Settings
