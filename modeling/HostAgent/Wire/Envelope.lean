import HostAgent.Json.Printer
import HostAgent.Json.Raw
import HostAgent.Wire.Command

/-!
# Envelopes and queries

The management plane speaks in envelopes: JSON values that name a query and may carry a command
and a reason.

* `Envelope.read?` — reads an envelope.  Unknown members are skipped, known ones may come in any
  order, and a list of the members in their order will do.  A missing or null member of a command
  is empty.
* `Envelope.datum` — the envelope as it is written; what is absent is left out.
* `Query.ofEnvelope` — what the envelope asks for.
* `Query.decode` — both reading steps in one.
-/

namespace HostAgent.Wire

/-- An envelope. -/
structure Envelope where
  query : String
  command : Option Command := none
  reason : Option String := none
  deriving DecidableEq, Repr

/-- Why a text is no query. -/
inductive Fault where
  | malformed
  | missingCommand
  | emptyCommandId
  deriving DecidableEq, Repr

/-- The wording of a fault. -/
def Fault.message : Fault → String
  | .malformed => "malformed envelope"
  | .missingCommand => "'command' query without a command body"
  | .emptyCommandId => "command body has an empty id"

/-- What the management plane asks for. -/
inductive Query where
  | command (c : Command)
  | quit (reason : Option String)
  | reconnect (reason : Option String)
  | unknown (name : String)
  deriving DecidableEq, Repr

open Json (Raw)

/-- A member that may be absent or null, read by `read?` otherwise. -/
def optional? {α : Type} (read? : Raw → Option α) : Option Raw → Option (Option α)
  | none => some none
  | some .null => some none
  | some v => (read? v).map some

/-- A member that is `empty` if it is absent or null. -/
def orEmpty? {α : Type} (empty : α) (read? : Raw → Option α) (v : Option Raw) : Option α :=
  (optional? read? v).map (·.getD empty)

/-- A record of texts. -/
def readDictionary? (v : Raw) : Option Dictionary := do
  let ms ← v.members?
  let es ← ms.mapM fun (k, v) => v.text?.map fun s => (k, s)
  pure (.ofList es)

/-- The members of a command, in order. -/
def Command.fieldNames : List String :=
  ["id", "shell", "line", "user", "group", "env", "data"]

/-- Reads a command. -/
def Command.read? (v : Raw) : Option Command := do
  match ← v.fields? fieldNames with
  | [id, shell, line, user, group, env, data] =>
    let id ← orEmpty? "" Raw.text? id
    let shell ← orEmpty? "" Raw.text? shell
    let line ← orEmpty? "" Raw.text? line
    let user ← orEmpty? "" Raw.text? user
    let group ← orEmpty? "" Raw.text? group
    let env ← orEmpty? .empty readDictionary? env
    let data ← orEmpty? "" Raw.text? data
    pure { id, shell, line, user, group, env, data }
  | _ => none

/-- Reads an envelope. -/
def Envelope.ofRaw? (v : Raw) : Option Envelope := do
  match ← v.fields? ["query", "command", "reason"] with
  | [some query, command, reason] =>
    let query ← query.text?
    let command ← optional? Command.read? command
    let reason ← optional? Raw.text? reason
    pure { query, command, reason }
  | _ => none

/-- Reads the text of an envelope. -/
def Envelope.read? (s : String) : Option Envelope := do
  let v ← Raw.parse? s
  ofRaw? v

/-- Reads the text of a command. -/
def Command.parse? (s : String) : Option Command := do
  let v ← Raw.parse? s
  read? v

/-- A dictionary as a record. -/
def dictionaryDatum (d : Dictionary) : Datum :=
  .record (d.entries.map fun (k, v) => (k, .text v))

/-- A command as it is written. -/
def Command.datum (c : Command) : Datum :=
  .record
    [("id", .text c.id), ("shell", .text c.shell), ("line", .text c.line), ("user", .text c.user),
      ("group", .text c.group), ("env", dictionaryDatum c.env), ("data", .text c.data)]

/-- An envelope as it is written. -/
def Envelope.datum (e : Envelope) : Datum :=
  .record
    (("query", .text e.query)
      :: (e.command.map fun c => ("command", c.datum)).toList
      ++ (e.reason.map fun s => ("reason", .text s)).toList)

/-- The text of an envelope. -/
def Envelope.text (e : Envelope) : String :=
  Json.render e.datum

/-- What an envelope asks for.  A command needs a body with an id. -/
def Query.ofEnvelope (e : Envelope) : Except Fault Query :=
  match e.query with
  | "command" =>
    match e.command with
    | none => .error .missingCommand
    | some c => if c.id.isEmpty then .error .emptyCommandId else .ok (.command c)
  | "quit" => .ok (.quit e.reason)
  | "reconnect" => .ok (.reconnect e.reason)
  | name => .ok (.unknown name)

/-- What a text asks for. -/
def Query.decode (s : String) : Except Fault Query :=
  match Envelope.read? s with
  | none => .error .malformed
  | some e => ofEnvelope e

/-- The probe that follows each frame that was taken. -/
def pingText : String := "\x7b\"query\":\"ping\"\x7d"

end HostAgent.Wire
