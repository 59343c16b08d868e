import HostAgent.Refusal
import HostAgent.Text.Quoted
import HostAgent.Time

/-!
# Failures of delivery

What can go wrong with a session, with a request on its way, and with the store it waits in; and
the wording of each.
-/

namespace HostAgent.Outbound

/-- Why a session cannot be set up or a request was not delivered. -/
inductive Failure where
  | invalidUrl (url reason : String)
  | certificate (path : String) (refusal : Option Refusal)
  | clientBuild (complaint : Complaint)
  | invalidHeader
  | http
  | status (code : Nat)
  | timeout (after : Span)
  | encode
  | full (capacity : Nat)
  deriving DecidableEq, Repr

namespace Failure

/-- The wording of a refusal that may be known, behind a colon. -/
def because (refusal : Option Refusal) : String :=
  refusal.elim "" fun r => ": " ++ r.message

/-- The wording of a failure, as far as it is this library's own. -/
def message : Failure → String
  | .invalidUrl url reason => "invalid server URL " ++ Text.quoted url ++ ": " ++ reason
  | .certificate path refusal => "failed to load CA certificate " ++ path ++ because refusal
  | .clientBuild complaint => "failed to build HTTP client: " ++ complaint.text
  | .invalidHeader => "credentials are not a valid header value"
  | .http => "HTTP request failed"
  | .status code => "server returned HTTP " ++ toString code
  | .timeout after => "request timed out after " ++ after.text
  | .encode => "failed to encode request body: key must be a string"
  | .full capacity => "delivery queue is full (" ++ toString capacity ++ " entries)"

/-- The wording of a failure to set up a session, and of its causes. -/
def chain (f : Failure) : List String :=
  match f with
  | .clientBuild complaint => f.message :: complaint.text :: complaint.causes
  | _ => [f.message]

end Failure

end HostAgent.Outbound
