import HostAgent.Time

/-!
# The pace of reconnecting

The pauses between connection attempts double from an initial pause up to a ceiling, and start
over after a healthy connection.

* `Pace.of` — a fresh pace; a ceiling below the initial pause is raised to it.
* `Pace.take` — the pause to make now, and the pace from then on.
* `Pace.restart` — back to the initial pause.
-/

namespace HostAgent.Backhaul

/-- The pauses between connection attempts. -/
structure Pace where
  initial : Span
  ceiling : Span
  next : Span
  deriving DecidableEq, Repr

namespace Pace

/-- A fresh pace. -/
def of (initial ceiling : Span) : Pace :=
  { initial, ceiling := max ceiling initial, next := initial }

/-- Five seconds at first, a minute at most. -/
def standard : Pace :=
  of (.seconds 5) (.seconds 60)

/-- The pause to make now, and the pace from then on. -/
def take (p : Pace) : Span × Pace :=
  (p.next, { p with next := min p.next.double p.ceiling })

/-- The pace after a healthy connection. -/
def restart (p : Pace) : Pace :=
  { p with next := p.initial }

end Pace

end HostAgent.Backhaul
