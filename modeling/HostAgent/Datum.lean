/-!
# Dynamic data

The values that the formats of this library have in common: what a JSON text or a TOML document
holds once its numbers and strings are understood.  A `record` keeps its members in the order in
which they were written.
-/

namespace HostAgent

/-- A value of a data format. -/
inductive Datum where
  | null
  | bool (b : Bool)
  | int (i : Int)
  | float (x : Float)
  | text (s : String)
  | list (items : List Datum)
  | record (members : List (String × Datum))
  deriving Inhabited

namespace Datum

/-- The value of a member of a record; the last one of that name counts. -/
def get? (d : Datum) (key : String) : Option Datum :=
  match d with
  | .record members => members.reverse.lookup key
  | _ => none

/-- The text of a text value. -/
def text? : Datum → Option String
  | .text s => some s
  | _ => none

/-- The integer of an integer value. -/
def int? : Datum → Option Int
  | .int i => some i
  | _ => none

/-- The truth value of a Boolean. -/
def bool? : Datum → Option Bool
  | .bool b => some b
  | _ => none

/-- The items of a list value. -/
def list? : Datum → Option (List Datum)
  | .list items => some items
  | _ => none

/-- A text, or null in its absence. -/
def optText : Option String → Datum
  | some s => .text s
  | none => .null

end Datum

end HostAgent
