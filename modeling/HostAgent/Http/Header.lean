/-!
# Header values

The credentials of the agent travel in a header, and not every text may stand in one.

* `isHeaderValue` — a text without control characters other than the tab.
* `authorization` — the credentials as they are sent.
-/

namespace HostAgent.Http

/-- Whether a text may be the value of a header. -/
def isHeaderValue (s : String) : Bool :=
  s.toList.all fun c => c == '\t' || (c.val ≥ 0x20 && c.val != 0x7F)

/-- The credentials of an agent. -/
def authorization (id key : String) : String :=
  "id=\"" ++ id ++ "\", key=\"" ++ key ++ "\""

end HostAgent.Http
