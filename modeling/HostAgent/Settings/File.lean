import HostAgent.Refusal
import HostAgent.Settings.Reader
import HostAgent.Settings.Validation
import HostAgent.Toml.Document

/-!
# The settings file

Settings are kept in a TOML file of at most one mebibyte.

* `Fault` — why there are no settings; `Fault.message` is its wording.
* `ofFile` — reads the bytes of a file.
* `load` — reads, applies the environment, and checks.
-/

namespace HostAgent.Settings

/-- Why there are no settings. -/
inductive Fault where
  | unreadable (refusal : Refusal)
  | malformed
  | tooLarge (size : Nat)
  | invalid (problem : Problem)
  deriving DecidableEq, Repr

/-- The largest file that is read. -/
def sizeLimit : Nat := 1024 * 1024

/-- The wording of a file whose text gives no settings. -/
def malformedText : String := "malformed settings"

/-- The wording of a fault of the file at a path. -/
def Fault.message (path : String) : Fault → String
  | .unreadable refusal => "failed to read config file " ++ path ++ ": " ++ refusal.message
  | .malformed => "failed to parse config file " ++ path ++ ": " ++ malformedText
  | .tooLarge size =>
    "config file " ++ path ++ " is " ++ toString size ++ " bytes, exceeding the " ++
      toString sizeLimit ++ "-byte limit"
  | .invalid problem => "configuration error: " ++ problem.message

/-- Reads the bytes of a file, unless the machine refuses them. -/
def ofFile (content : Except Refusal ByteArray) : Except Fault Settings :=
  match content with
  | .error refusal => .error (.unreadable refusal)
  | .ok bytes =>
    if bytes.size > sizeLimit then .error (.tooLarge bytes.size)
    else match String.fromUTF8? bytes with
      | none => .error (.unreadable .notText)
      | some text =>
        match (Toml.parse? text).bind (ofDatum? .lenient) with
        | none => .error .malformed
        | some s => .ok s

/-- Reads a file, applies the environment, and checks the outcome. -/
def load (content : Except Refusal ByteArray) (env : Dictionary) : Except Fault Settings :=
  match ofFile content with
  | .error e => .error e
  | .ok s =>
    let s := s.overridden env
    match s.problem? with
    | some p => .error (.invalid p)
    | none => .ok s

end HostAgent.Settings
