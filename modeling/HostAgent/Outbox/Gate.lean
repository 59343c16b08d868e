/-!
# Gates

Those who wait for news stand in line at a gate.  A signal lets the one through who has waited
longest; with nobody in line it leaves one permit behind, and only one, however many signals
follow.  Who arrives while a permit lies there takes it and need not wait.

* `Gate.signal` — one signal.
* `Gate.arrive` — one arrival; says whether it got the permit.
* `Gate.leave` — gives up waiting.
-/

namespace HostAgent

/-- A line, longest wait first, and the permit left behind. -/
structure Gate (α : Type) where
  line : List α := []
  permit : Bool := false
  deriving DecidableEq, Repr, Inhabited

namespace Gate

variable {α : Type}

/-- Lets the first in line through, or leaves the permit. -/
def signal (g : Gate α) : Option α × Gate α :=
  match g.line with
  | [] => (none, { g with permit := true })
  | a :: rest => (some a, { g with line := rest })

/-- Takes the permit if there is one, else joins the line. -/
def arrive (g : Gate α) (a : α) : Bool × Gate α :=
  if g.permit then (true, { g with permit := false })
  else (false, { g with line := g.line ++ [a] })

/-- Leaves the line. -/
def leave (g : Gate α) (who : α → Bool) : Gate α :=
  { g with line := g.line.filter fun a => !who a }

end Gate

end HostAgent
