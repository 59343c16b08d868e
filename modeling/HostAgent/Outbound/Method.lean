/-!
# Methods

The verbs of outbound requests, their names, and which of them carry a body.
-/

namespace HostAgent.Outbound

/-- The verb of a request. -/
inductive Method where
  | get
  | post
  | put
  | patch
  | delete
  deriving DecidableEq, Repr, Inhabited

namespace Method

/-- The name on the wire. -/
def name : Method → String
  | .get => "GET"
  | .post => "POST"
  | .put => "PUT"
  | .patch => "PATCH"
  | .delete => "DELETE"

/-- The method of that name. -/
def ofName? (s : String) : Option Method :=
  [get, post, put, patch, delete].find? (·.name == s)

/-- Whether a body is sent with the verb. -/
def carriesBody : Method → Bool
  | .post | .put | .patch => true
  | .get | .delete => false

end Method

end HostAgent.Outbound
