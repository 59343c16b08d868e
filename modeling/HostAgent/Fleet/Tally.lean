import HostAgent.Time

/-!
# Tallies

What a courier counts of its deliveries: totals, and averages that forget.  Each new sample
weighs a tenth, all history nine tenths.

* `Tally.success`, `Tally.failure`, `Tally.ignored` — one more outcome.
* `Tally.combine` — the totals of several tallies summed and their averages averaged.
-/

namespace HostAgent.Fleet

/-- Totals and moving averages of one courier. -/
structure Tally where
  successTotal : Nat := 0
  failureTotal : Nat := 0
  ignoredTotal : Nat := 0
  successRate : Float := 0.0
  failureRate : Float := 0.0
  ignoredRate : Float := 0.0
  lateness : Float := 0.0
  latency : Float := 0.0
  deriving Inhabited, Repr

namespace Tally

/-- The moving average after one more sample. -/
def smooth (average sample : Float) : Float :=
  average * 0.9 + sample * 0.1

/-- The averages of lateness and latency after one more call. -/
def timed (t : Tally) (late took : Span) : Tally :=
  { t with
    lateness := smooth t.lateness late.toSeconds
    latency := smooth t.latency took.toSeconds }

/-- The shares of the three outcomes after one more outcome. -/
def share (t : Tally) (success failure ignored : Float) : Tally :=
  { t with
    successRate := smooth t.successRate success
    failureRate := smooth t.failureRate failure
    ignoredRate := smooth t.ignoredRate ignored }

/-- One more successful call: how late it began and how long it took. -/
def success (t : Tally) (late took : Span) : Tally :=
  ({ t with successTotal := t.successTotal + 1 }.share 1.0 0.0 0.0).timed late took

/-- One more failed call: how late it began and how long it took. -/
def failure (t : Tally) (late took : Span) : Tally :=
  ({ t with failureTotal := t.failureTotal + 1 }.share 0.0 1.0 0.0).timed late took

/-- One more request given up. -/
def ignored (t : Tally) : Tally :=
  { t with ignoredTotal := t.ignoredTotal + 1 }.share 0.0 0.0 1.0

/-- The totals and averages added up, field by field. -/
def add (a b : Tally) : Tally where
  successTotal := a.successTotal + b.successTotal
  failureTotal := a.failureTotal + b.failureTotal
  ignoredTotal := a.ignoredTotal + b.ignoredTotal
  successRate := a.successRate + b.successRate
  failureRate := a.failureRate + b.failureRate
  ignoredRate := a.ignoredRate + b.ignoredRate
  lateness := a.lateness + b.lateness
  latency := a.latency + b.latency

/-- The tally of a whole fleet. -/
def combine (ts : List Tally) : Tally :=
  if ts.isEmpty then {}
  else
    let sum := ts.foldl add {}
    let n := (UInt64.ofNat ts.length).toFloat
    { sum with
      successRate := sum.successRate / n
      failureRate := sum.failureRate / n
      ignoredRate := sum.ignoredRate / n
      lateness := sum.lateness / n
      latency := sum.latency / n }

end Tally

end HostAgent.Fleet
