import HostAgent.Word
import HostAgent.Time

/-!
# The pause before another attempt

After a failure a request rests for a number of seconds that doubles with each failure: two raised
to the number of attempts used up.  The number stops at the largest 64-bit one.
-/

namespace HostAgent.Outbound

/-- The seconds of rest once the attempts left have been lowered. -/
def pauseSeconds (retryLimit retriesLeft : Nat) : Nat :=
  if retryLimit - retriesLeft < 64 then Nat.pow 2 (retryLimit - retriesLeft) else Word.size64 - 1

/-- The rest before the next attempt. -/
def pause (retryLimit retriesLeft : Nat) : Span :=
  .seconds (pauseSeconds retryLimit retriesLeft)

end HostAgent.Outbound
