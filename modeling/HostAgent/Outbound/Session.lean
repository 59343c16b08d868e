import HostAgent.Certificate.Armor
import HostAgent.Http.Header
import HostAgent.Outbound.Failure
import HostAgent.Settings.Basic
import HostAgent.Url.Parser

/-!
# Sessions

A session is bound to one management plane and one set of credentials.

* `Platform` — what is left to the machine and to the libraries of the network.
* `Session.of` — the session of a server on a platform.
* `Session.urlFor` — the address of a path.
-/

namespace HostAgent.Outbound

/-- A management plane and the credentials for it.  The base has no slash at its end. -/
structure Session where
  base : String
  authorization : String
  deriving DecidableEq, Repr

/-- A text without the slashes at its end. -/
def trimSlashes (s : String) : String :=
  String.ofList ((s.toList.reverse.dropWhile (· == '/')).reverse)

/-- What the machine says when a file is to be read. -/
abbrev Files := String → Except Refusal (List UInt8)

/-- What is left to the machine and to the libraries of the network. -/
structure Platform where
  files : Files
  /-- Whether a file holds a certificate. -/
  holdsCertificate : List UInt8 → Bool := Certificate.holdsCertificate
  /-- What is said if there is no client that sends these credentials, checks certificates or not,
  and trusts one more. -/
  client? : String → Bool → Option (List UInt8) → Option Complaint := fun _ _ _ => none
  /-- What is said if there is no connector that checks certificates or not, and trusts one more. -/
  connector? : Bool → Option (List UInt8) → Option Complaint := fun _ _ => none

/-- The certificate at a path, if one is given; or the path, and the refusal to read it if it is not
its content that is wrong. -/
def Platform.certificate (p : Platform) :
    Option String → Except (String × Option Refusal) (Option (List UInt8))
  | none => .ok none
  | some path =>
    match p.files path with
    | .error refusal => .error (path, some refusal)
    | .ok bytes => if p.holdsCertificate bytes then .ok (some bytes) else .error (path, none)

namespace Session

/-- The session of a server. -/
def of (p : Platform) (server : Settings.Server) : Except Failure Session :=
  match Url.parse server.url with
  | .error fault => .error (.invalidUrl server.url fault.message)
  | .ok url =>
    let authorization := Http.authorization server.id server.key
    if !Http.isHeaderValue authorization then .error .invalidHeader
    else match p.certificate server.certificate with
      | .error (path, refusal) => .error (.certificate path refusal)
      | .ok certificate =>
        match p.client? authorization server.verify certificate with
        | some complaint => .error (.clientBuild complaint)
        | none => .ok { base := trimSlashes url.text, authorization }

/-- The address of a path. -/
def urlFor (s : Session) (path : String) : String :=
  if path.toList.head? = some '/' then s.base ++ path else s.base ++ "/" ++ path

end Session

end HostAgent.Outbound
