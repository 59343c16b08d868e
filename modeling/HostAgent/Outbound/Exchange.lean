import HostAgent.Http.Reference
import HostAgent.Json.Printer
import HostAgent.Outbound.Request
import HostAgent.Outbound.Session

/-!
# Exchanges

How a request is brought to its server, and what becomes of it.

* `Posting` — a request as it goes over the wire.
* `Reply` — what comes back.
* `Posting.next` — what follows a reply: the exchange is over, or the server sends the posting
  elsewhere.
* `exchange` — a whole exchange, with all postings that it takes.

A server may send a posting elsewhere ten times.  On the way a POST may turn into a GET, which
carries nothing, and the credentials stay with the server they are meant for.
-/

namespace HostAgent.Outbound

/-- A request as it goes over the wire. -/
structure Posting where
  method : Method
  address : Http.Address
  authorization : Option String
  contentType : Option String := none
  body : List UInt8 := []
  deriving DecidableEq, Repr

/-- What comes back: a response, nothing in time, or the end of the connection. -/
inductive Reply where
  | response (status : Nat) (headers : List (String × String))
  | silence
  | ended
  deriving DecidableEq, Repr

/-- The name under which the agent introduces itself. -/
def userAgent : String := "tether/0.1.0"

namespace Posting

/-- What is sent of a body: its kind and its bytes.  The members of JSON records are sorted. -/
def content : Body → String × List UInt8
  | .json v => ("application/json", (Json.render (Json.sorted v)).toUTF8.data.toList)
  | .bytes bytes => ("application/octet-stream", bytes)

/-- The posting of a request. -/
def of? (s : Session) (r : Request) : Option Posting :=
  match Url.parse (s.urlFor r.path) with
  | .error _ => none
  | .ok url =>
    let plain : Posting :=
      { method := r.method, address := .ofUrl url, authorization := some s.authorization }
    match r.body with
    | some b =>
      if r.method.carriesBody then
        some { plain with contentType := some (content b).1, body := (content b).2 }
      else some plain
    | none => some plain

/-- The first line. -/
def line (p : Posting) : String :=
  p.method.name ++ " " ++ p.address.target ++ " HTTP/1.1"

/-- The length that is announced. -/
def contentLength (p : Posting) : Option Nat :=
  if p.body.isEmpty then none else some p.body.length

/-- The posting as a GET that carries nothing. -/
def bare (p : Posting) : Posting :=
  { p with method := .get, contentType := none, body := [] }

/-- The posting as it is after a response that sends it elsewhere, wherever that is; `none` if the
response does not do that. -/
def turned? (p : Posting) (status : Nat) : Option Posting :=
  if status = 301 ∨ status = 302 then some (if p.method = .post then p.bare else p)
  else if status = 303 then some p.bare
  else if status = 307 ∨ status = 308 then some p
  else none

/-- The posting to another address. -/
def sentTo (p : Posting) (a : Http.Address) : Posting :=
  { p with
    address := a
    authorization := if a.authority = p.address.authority then p.authorization else none }

end Posting

/-- Whether a header can be read. -/
def readable (h : String × String) : Bool :=
  !h.1.isEmpty &&
    h.1.toList.all (fun c => c.isAlphanum || "!#$%&'*+-.^_|~\x60".toList.contains c) &&
    Http.isHeaderValue h.2

/-- The value of the first header of a name, without the blanks around it. -/
def header? (headers : List (String × String)) (name : String) : Option String :=
  let blank (c : Char) := c == ' ' || c == '\t'
  (headers.find? fun h => h.1.toLower == name).map fun h =>
    String.ofList ((h.2.toList.dropWhile blank).reverse.dropWhile blank).reverse

/-- Whether a response ends an exchange, whatever it says.  Those that only announce another one,
which never comes, do not. -/
def isFinal (status : Nat) : Bool :=
  decide (status = 101 ∨ (200 ≤ status ∧ status < 1000))

/-- What a final status says about the delivery. -/
def outcome (status : Nat) : Except Failure Nat :=
  if 200 ≤ status ∧ status < 300 then .ok status else .error (.status status)

/-- What follows a reply. -/
inductive Next where
  | over (result : Except Failure Nat)
  | again (p : Posting)

/-- What follows a reply to a posting that may be sent elsewhere so many times. -/
def Posting.next (p : Posting) (timeout : Span) (hops : Nat) : Reply → Next
  | .silence => .over (.error (.timeout timeout))
  | .ended => .over (.error .http)
  | .response status headers =>
    if !isFinal status || !headers.all readable then .over (.error .http)
    else
      match p.turned? status, (header? headers "location").bind p.address.follow? with
      | some q, some a =>
        if hops = 0 ∨ (a.scheme ≠ "http" ∧ a.scheme ≠ "https") then .over (.error .http)
        else .again (q.sentTo a)
      | _, _ => .over (outcome status)

/-- An exchange that may be sent elsewhere so many times more, with a server that answers the
posting of each number: all postings, and what became of the last. -/
def exchangeFrom (serve : Nat → Posting → Reply) (timeout : Span) :
    Nat → Nat → Posting → List (Posting × Reply) × Except Failure Nat
  | 0, n, p =>
    let reply := serve n p
    ([(p, reply)], match p.next timeout 0 reply with
      | .over result => result
      | .again _ => .error .http)
  | hops + 1, n, p =>
    let reply := serve n p
    match p.next timeout (hops + 1) reply with
    | .over result => ([(p, reply)], result)
    | .again q =>
      let (more, result) := exchangeFrom serve timeout hops (n + 1) q
      ((p, reply) :: more, result)

/-- How often a posting may be sent elsewhere. -/
def hopLimit : Nat := 10

/-- A whole exchange. -/
def exchange (serve : Nat → Posting → Reply) (s : Session) (r : Request) (timeout : Span) :
    List (Posting × Reply) × Except Failure Nat :=
  match Posting.of? s r with
  | none => ([], .error .http)
  | some p => exchangeFrom serve timeout hopLimit 0 p

end HostAgent.Outbound
