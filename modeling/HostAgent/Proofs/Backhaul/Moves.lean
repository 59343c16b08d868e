import HostAgent.Backhaul.Link
import Mathlib.Tactic

/-!
# Moves

Everything that may happen to a link, one small step at a time, and courses made of such steps.

* `Move`, `move` — a wish from outside, the clock, the server, or what the link does by itself.  A
  rest may also run out before the link takes notice of a wish that is there already.
* `course` — what a list of moves makes of a link, in any order.
* `ticks_eq_course` — the link left alone makes such a course too.
-/

namespace HostAgent.Backhaul

namespace Link

/-- One move in the course of a link. -/
inductive Move where
  | quit
  | reconnect
  | elapse (ms : ℕ)
  /-- The link does one thing by itself, if it does not wait. -/
  | tick
  | connected
  | failed
  | receive (m : Message)
  /-- A rest is over before the link takes notice of a wish. -/
  | rested

/-- The link after a move. -/
def move (l : Link) : Move → Link
  | .quit => l.ask .quit
  | .reconnect => l.ask .reconnect
  | .elapse ms => l.elapse ms
  | .tick => (l.tick.map (·.2)).getD l
  | .connected => l.connected
  | .failed => l.failed
  | .receive m => (l.receive m).2.2
  | .rested => l.rested

/-- The link after one move after another. -/
def course (l : Link) (ms : List Move) : Link :=
  ms.foldl move l

@[simp] lemma course_nil (l : Link) : l.course [] = l := rfl

@[simp] lemma course_cons (l : Link) (m : Move) (ms : List Move) :
    l.course (m :: ms) = (l.move m).course ms := rfl

lemma course_snoc (l : Link) (ms : List Move) (m : Move) :
    l.course (ms ++ [m]) = (l.course ms).move m :=
  List.foldl_append

lemma course_append (l : Link) (ms ms' : List Move) :
    l.course (ms ++ ms') = (l.course ms).course ms' :=
  List.foldl_append

/-- What the link does by itself is a row of moves. -/
lemma ticks_eq_course (l : Link) (n : ℕ) : (l.ticks n).2 = l.course (List.replicate n .tick) := by
  induction n generalizing l with
  | zero => rfl
  | succ n ih =>
      rw [List.replicate_succ, course_cons, ticks, move]
      cases htick : l.tick with
      | none =>
          have hstill : (l.ticks n).2 = l := by cases n <;> simp [ticks, htick]
          exact hstill.symm.trans (ih l)
      | some next => exact ih next.2

end Link

end HostAgent.Backhaul
