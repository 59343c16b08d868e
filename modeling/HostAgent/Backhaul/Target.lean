import HostAgent.Outbound.Session

/-!
# Where the backhaul leads

The backhaul is a websocket at a path of the server.

* `backhaulUrl` — its address: the server's, with the scheme of websockets.
* `Target.of` — the address with the headers that are sent there.
-/

namespace HostAgent.Backhaul

/-- Why there is no backhaul. -/
inductive Fault where
  | invalidUrl (url reason : String)
  | certificate (path : String) (refusal : Option Refusal)
  | tls (complaint : Complaint)
  | invalidHeader (name : String)
  deriving DecidableEq, Repr

/-- The wording of a fault, as far as it is this library's own. -/
def Fault.message : Fault → String
  | .invalidUrl url reason => "invalid backhaul URL " ++ Text.quoted url ++ ": " ++ reason
  | .certificate path refusal =>
    "failed to load CA certificate " ++ path ++ Outbound.Failure.because refusal
  | .tls complaint => "TLS setup failed: " ++ complaint.text
  | .invalidHeader name => "invalid header value for " ++ name

/-- The wording of a fault and of its causes. -/
def Fault.chain (f : Fault) : List String :=
  match f with
  | .tls complaint => f.message :: complaint.text :: complaint.causes
  | _ => [f.message]

/-- The scheme of websockets that belongs to a scheme of the web. -/
def socketScheme? (scheme : String) : Option String :=
  if scheme = "http" ∨ scheme = "ws" then some "ws"
  else if scheme = "https" ∨ scheme = "wss" then some "wss"
  else none

/-- The address of the backhaul. -/
def backhaulUrl (serverUrl path : String) : Except Fault Url :=
  let joined := Outbound.trimSlashes serverUrl ++ path
  match Url.parse joined with
  | .error fault => .error (.invalidUrl joined fault.message)
  | .ok url =>
    match socketScheme? url.scheme with
    | some scheme => .ok { url with scheme }
    | none => .error (.invalidUrl joined ("unsupported scheme " ++ Text.quoted url.scheme))

/-- Where to connect, and what to send there. -/
structure Target where
  url : Url
  authorization : String
  origin : String
  deriving DecidableEq, Repr

/-- Why there is no secure connection to a server, if there is none. -/
def secureFault? (p : Outbound.Platform) (server : Settings.Server) : Option Fault :=
  match p.certificate server.certificate with
  | .error (path, refusal) => some (.certificate path refusal)
  | .ok certificate => (p.connector? server.verify certificate).map .tls

/-- The target of a server. -/
def Target.of (p : Outbound.Platform) (server : Settings.Server) (path : String) :
    Except Fault Target :=
  match backhaulUrl server.url path with
  | .error e => .error e
  | .ok url =>
    let authorization := Http.authorization server.id server.key
    let origin := Outbound.trimSlashes server.url
    if !Http.isHeaderValue authorization then .error (.invalidHeader "Authorization")
    else if !Http.isHeaderValue origin then .error (.invalidHeader "Origin")
    else match if url.scheme == "wss" then secureFault? p server else none with
      | some fault => .error fault
      | none => .ok { url, authorization, origin }

end HostAgent.Backhaul
