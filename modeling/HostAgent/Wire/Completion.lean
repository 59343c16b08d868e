import HostAgent.Json.Printer
import HostAgent.Json.Raw

/-!
# Completion notices

What is reported at the end of a command: whether it succeeded, what it printed, and how many
seconds it took.  All three are needed to read one.
-/

namespace HostAgent.Wire

open Json (Raw)

/-- The end of a command. -/
structure Completion where
  success : Bool
  result : String
  elapsed : Float
  deriving Repr

namespace Completion

/-- A truth value. -/
def bool? : Raw → Option Bool
  | .bool b => some b
  | _ => none

/-- A number as a double. -/
def float? : Raw → Option Float
  | .number n => n.float?
  | _ => none

/-- Reads a notice. -/
def read? (s : String) : Option Completion := do
  let v ← Raw.parse? s
  match ← v.fields? ["success", "result", "elapsed_time"] with
  | [some success, some result, some elapsed] =>
    let success ← bool? success
    let result ← result.text?
    let elapsed ← float? elapsed
    pure { success, result, elapsed }
  | _ => none

/-- A notice as it is written; a time that is no number is null. -/
def datum (c : Completion) : Datum :=
  .record
    [("success", .bool c.success), ("result", .text c.result),
      ("elapsed_time", if c.elapsed.isNaN || c.elapsed.isInf then .null else .float c.elapsed)]

/-- The text of a notice. -/
def text (c : Completion) : String :=
  Json.render c.datum

end Completion

end HostAgent.Wire
