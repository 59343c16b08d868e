import HostAgent.Word
import HostAgent.Datum
import HostAgent.Settings.Basic

/-!
# Reading settings

Settings are read from a record of three records, whatever format it was written in.  A record may
also be given as a list of its values in order.  Unknown members do not matter.

* `Settings.ofDatum?` — all settings.
* `Strictness` — whether a list may have more values than the record has members.
* `Settings.datum` — the record of all members.
-/

namespace HostAgent.Settings

/-- Whether a list may be longer than the record it stands for. -/
inductive Strictness where
  | exact
  | lenient
  deriving DecidableEq, Repr

/-- The values of the named members: of a record by their names, of a list by their order. -/
def fields? (how : Strictness) (names : List String) : Datum → Option (List (Option Datum))
  | .record ms => some (names.map fun n => (Datum.record ms).get? n)
  | .list items =>
    if how = .exact ∧ items.length > names.length then none
    else some ((items.map some ++ List.replicate names.length none).take names.length)
  | _ => none

/-- A member that has a value of its own where it is not given. -/
def orElse? {α : Type} (standard : α) (read? : Datum → Option α) : Option Datum → Option α
  | none => some standard
  | some d => read? d

/-- A whole number below a bound. -/
def natBelow? (bound : Nat) : Datum → Option Nat
  | .int (.ofNat n) => if n < bound then some n else none
  | _ => none

/-- A text or null. -/
def textOrNull? : Datum → Option (Option String)
  | .null => some none
  | .text s => some (some s)
  | _ => none

/-- The members of the server's record, in order. -/
def serverNames : List String := ["url", "id", "key", "ca_certificate", "verify_certificate"]

/-- Reads the server's record. -/
def Server.ofDatum? (how : Strictness) (d : Datum) : Option Server := do
  match ← fields? how serverNames d with
  | [some url, some id, some key, certificate, verify] =>
    let url ← url.text?
    let id ← id.text?
    let key ← key.text?
    let certificate ← orElse? none textOrNull? certificate
    let verify ← orElse? true Datum.bool? verify
    pure { url, id, key, certificate, verify }
  | _ => none

/-- The members of the delivery record, in order. -/
def deliveryNames : List String :=
  ["workers", "request_timeout_secs", "retry_limit", "queue_capacity", "stats_interval_secs"]

/-- Reads the delivery record. -/
def Delivery.ofDatum? (how : Strictness) (d : Datum) : Option Delivery := do
  match ← fields? how deliveryNames d with
  | [workers, timeout, retries, capacity, stats] =>
    let workers ← orElse? 4 (natBelow? Word.size64) workers
    let timeoutSeconds ← orElse? 5 (natBelow? Word.size64) timeout
    let retryLimit ← orElse? 5 (natBelow? Word.size32) retries
    let capacity ← orElse? 36000 (natBelow? Word.size64) capacity
    let statsSeconds ← orElse? 60 (natBelow? Word.size64) stats
    pure { workers, timeoutSeconds, retryLimit, capacity, statsSeconds }
  | _ => none

/-- The members of the control record, in order. -/
def controlNames : List String :=
  ["backhaul_path", "reconnect_initial_secs", "reconnect_max_secs", "command_timeout_secs"]

/-- Reads the control record. -/
def Control.ofDatum? (how : Strictness) (d : Datum) : Option Control := do
  match ← fields? how controlNames d with
  | [path, initial, ceiling, command] =>
    let path ← orElse? "/ws/servers/backhaul/" Datum.text? path
    let initialSeconds ← orElse? 5 (natBelow? Word.size64) initial
    let ceilingSeconds ← orElse? 60 (natBelow? Word.size64) ceiling
    let commandSeconds ← orElse? 600 (natBelow? Word.size64) command
    pure { path, initialSeconds, ceilingSeconds, commandSeconds }
  | _ => none

/-- Reads all settings. -/
def ofDatum? (how : Strictness) (d : Datum) : Option Settings := do
  match ← fields? how ["server", "delivery", "control"] d with
  | [some server, delivery, control] =>
    let server ← Server.ofDatum? how server
    let delivery ← orElse? {} (Delivery.ofDatum? how) delivery
    let control ← orElse? {} (Control.ofDatum? how) control
    pure { server, delivery, control }
  | _ => none

/-- A whole number as a datum. -/
def number (n : Nat) : Datum := .int n

/-- The record of all members. -/
def datum (s : Settings) : Datum :=
  .record
    [("server", .record
        [("url", .text s.server.url), ("id", .text s.server.id), ("key", .text s.server.key),
          ("ca_certificate", .optText s.server.certificate),
          ("verify_certificate", .bool s.server.verify)]),
      ("delivery", .record
        [("workers", number s.delivery.workers),
          ("request_timeout_secs", number s.delivery.timeoutSeconds),
          ("retry_limit", number s.delivery.retryLimit),
          ("queue_capacity", number s.delivery.capacity),
          ("stats_interval_secs", number s.delivery.statsSeconds)]),
      ("control", .record
        [("backhaul_path", .text s.control.path),
          ("reconnect_initial_secs", number s.control.initialSeconds),
          ("reconnect_max_secs", number s.control.ceilingSeconds),
          ("command_timeout_secs", number s.control.commandSeconds)])]

end HostAgent.Settings
