import HostAgent.Dictionary
import HostAgent.Text.Blank

/-!
# Commands

A command that the management plane sends, and the two paths on which its life is reported: the
acknowledgement on receipt and the completion at its end.
-/

namespace HostAgent.Wire

/-- A command as it arrives.  A field that is not given is empty. -/
structure Command where
  id : String := ""
  shell : String := ""
  line : String := ""
  user : String := ""
  group : String := ""
  env : Dictionary := .empty
  data : String := ""
  deriving DecidableEq, Repr, Inhabited

namespace Command

/-- The shell of commands that the agent carries out itself. -/
def internalShell : String := "internal"

/-- Whether this is the agent's own command of that name.  Blanks around the line do not count. -/
def isInternal (c : Command) (name : String) : Bool :=
  c.shell == internalShell && Text.trim c.line == name

end Command

/-- The priority of acknowledgements and completion notices. -/
def noticePriority : Int := 10

/-- Where the receipt of a command is acknowledged. -/
def acknowledgePath (id : String) : String :=
  "/api/events/commands/" ++ id ++ "/ack/"

/-- Where the completion of a command is reported. -/
def completionPath (id : String) : String :=
  "/api/events/commands/" ++ id ++ "/fin/"

end HostAgent.Wire
