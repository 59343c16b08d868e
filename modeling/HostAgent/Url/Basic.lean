import HostAgent.Url.Ipv4
import HostAgent.Url.Ipv6

/-!
# URLs

The parts of a URL and its text.

* `Host` — a name or an address.
* `Path` — segments between slashes, or plain text where a URL has no hierarchy.
* `Url` — all parts; `Url.text` is the text of the whole.
* `Fault` — why a text is no URL.
-/

namespace HostAgent

namespace Url

/-- Where a URL points. -/
inductive Host where
  | name (text : String)
  | ipv4 (address : Nat)
  | ipv6 (groups : List Nat)
  deriving DecidableEq, Repr

/-- The text of a host. -/
def Host.text : Host → String
  | .name s => s
  | .ipv4 a => Ipv4.text a
  | .ipv6 gs => "[" ++ Ipv6.text gs ++ "]"

/-- What a URL names at its host. -/
inductive Path where
  | segments (parts : List String)
  | plain (text : String)
  deriving DecidableEq, Repr

/-- The text of a path. -/
def Path.text : Path → String
  | .segments parts => String.join (parts.map ("/" ++ ·))
  | .plain s => s

/-- Why a text is no URL. -/
inductive Fault where
  | emptyHost
  | domain
  | portNumber
  | ipv4
  | ipv6
  | domainCharacter
  | noBase
  deriving DecidableEq, Repr

/-- The wording of a fault. -/
def Fault.message : Fault → String
  | .emptyHost => "empty host"
  | .domain => "invalid international domain name"
  | .portNumber => "invalid port number"
  | .ipv4 => "invalid IPv4 address"
  | .ipv6 => "invalid IPv6 address"
  | .domainCharacter => "invalid domain character"
  | .noBase => "relative URL without a base"

/-- How a scheme treats hosts and slashes. -/
inductive Kind where
  | web
  | file
  | other
  deriving DecidableEq, Repr

/-- The kind of a scheme. -/
def kind (scheme : String) : Kind :=
  if scheme = "http" ∨ scheme = "https" ∨ scheme = "ws" ∨ scheme = "wss" ∨ scheme = "ftp" then .web
  else if scheme = "file" then .file
  else .other

/-- The `portNumber` that goes without saying. -/
def defaultPortNumber? (scheme : String) : Option Nat :=
  if scheme = "http" ∨ scheme = "ws" then some 80
  else if scheme = "https" ∨ scheme = "wss" then some 443
  else if scheme = "ftp" then some 21
  else none

end Url

/-- The parts of a URL, each as it is written. -/
structure Url where
  scheme : String
  username : String := ""
  password : String := ""
  host : Option Url.Host := none
  portNumber : Option Nat := none
  path : Url.Path
  query : Option String := none
  fragment : Option String := none
  deriving DecidableEq, Repr

namespace Url

/-- User name and password, with the sign that ends them. -/
def userInfo (u : Url) : String :=
  if u.username.isEmpty && u.password.isEmpty then ""
  else u.username ++ (if u.password.isEmpty then "" else ":" ++ u.password) ++ "@"

/-- The host and, if it is not the usual one, the `portNumber`. -/
def hostAndPortNumber (u : Url) : String :=
  (u.host.elim "" Host.text) ++ (u.portNumber.elim "" fun p => ":" ++ toString p)

/-- What precedes the path: the authority, or a dot segment that keeps two slashes at the start of
a path from being taken for one. -/
def beforePath (u : Url) : String :=
  match u.host, u.path with
  | some _, _ => "//" ++ u.userInfo ++ u.hostAndPortNumber
  | none, .segments ("" :: _ :: _) => "/."
  | none, _ => ""

/-- The path with the query. -/
def pathAndQuery (u : Url) : String :=
  u.path.text ++ u.query.elim "" ("?" ++ ·)

/-- The text of a URL. -/
def text (u : Url) : String :=
  u.scheme ++ ":" ++ u.beforePath ++ u.pathAndQuery ++ u.fragment.elim "" ("#" ++ ·)

end Url

end HostAgent
