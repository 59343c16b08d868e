import HostAgent.Proofs.Backhaul.Messages
import HostAgent.Proofs.Backhaul.Moves

/-!
# The course of a link

What one move can make of a link is said once, in `Step`.  All that holds along every course of a
link is read off it.

* `Turn`, `turn?` — what comes to its end, or begins, with a move: an attempt, a connection, a rest.
* `hears?` — the query that a move brings over a connection.
* `heard`, `turns` — both along a course.
* `step` — a move makes of a link what one of the cases of `Step` says.
-/

namespace HostAgent.Backhaul

open Intake (Verdict)
open Wire (Query)

/-- When the connection was made, if there is one. -/
def Phase.since? : Phase → Option Int
  | .serving since | .closing since _ => some since
  | _ => none

namespace Link

/-- What is noted along a course. -/
def notes {α : Type} (note : Link → Move → List α) : Link → List Move → List α
  | _, [] => []
  | l, m :: ms => note l m ++ notes note (l.move m) ms

/-- A link that has not begun. -/
def fresh (now : Int) (pace : Pace) : Link :=
  { now, pace }

/-! ## What comes about -/

/-- What comes to its end, or begins, with a move. -/
inductive Turn where
  /-- The link has begun. -/
  | begun
  /-- An attempt has failed. -/
  | failed
  /-- An attempt is given up because of a wish. -/
  | aborted
  /-- A connection is there. -/
  | made
  /-- A connection is gone without a verdict, so many milliseconds after it was made. -/
  | lost (age : ℕ)
  /-- A connection is gone because of a verdict. -/
  | decided (v : Verdict)
  /-- A rest is cut short by a wish. -/
  | cut
  /-- A rest has run out. -/
  | rested
  deriving DecidableEq

/-- The age of a connection in milliseconds. -/
def age (l : Link) (since : Int) : ℕ :=
  (l.now - since).toNat

/-- What comes about when the link does one thing by itself. -/
def ownTurn? (l : Link) : Option Turn :=
  match l.phase with
  | .starting => some .begun
  | .connecting deadline =>
    if l.unseen then some .aborted else if deadline ≤ l.now then some .failed else none
  | .closing since .lost => some (.lost (l.age since))
  | .closing _ (.verdict v) => some (.decided v)
  | .pausing til => if l.unseen then some .cut else if til ≤ l.now then some .rested else none
  | .serving _ | .finished => none

/-- What comes about with a move. -/
def turn? (l : Link) (m : Move) : Option Turn :=
  match m, l.phase with
  | .tick, _ => l.ownTurn?
  | .connected, .connecting _ => some .made
  | .failed, .connecting _ => some .failed
  | .receive .ended, .serving since => some (.lost (l.age since))
  | .rested, .pausing til => if til ≤ l.now then some .rested else none
  | _, _ => none

/-- The query that a move brings over a connection. -/
def hears? (l : Link) (m : Move) : Option Query :=
  match m, l.phase with
  | .receive x, .serving _ => x.query?
  | _, _ => none

/-- What came about along a course. -/
def turns : Link → List Move → List Turn :=
  notes fun l m => (l.turn? m).toList

/-- The queries that the link heard along a course. -/
def heard : Link → List Move → List Query :=
  notes fun l m => (l.hears? m).toList

variable {l l' : Link} {m : Move} {ms : List Move} {t : Option Turn} {since : Int}

lemma notes_snoc {α : Type} (note : Link → Move → List α) (l : Link) (ms : List Move) (m : Move) :
    notes note l (ms ++ [m]) = notes note l ms ++ note (l.course ms) m := by
  induction ms generalizing l with
  | nil => simp [notes]
  | cons x ms ih => simp [notes, ih]

lemma turns_cons (l : Link) (m : Move) (ms : List Move) :
    l.turns (m :: ms) = (l.turn? m).toList ++ (l.move m).turns ms := rfl

lemma turns_snoc (l : Link) (ms : List Move) (m : Move) :
    l.turns (ms ++ [m]) = l.turns ms ++ ((l.course ms).turn? m).toList :=
  notes_snoc _ l ms m

lemma heard_cons (l : Link) (m : Move) (ms : List Move) :
    l.heard (m :: ms) = (l.hears? m).toList ++ (l.move m).heard ms := rfl

lemma heard_snoc (l : Link) (ms : List Move) (m : Move) :
    l.heard (ms ++ [m]) = l.heard ms ++ ((l.course ms).hears? m).toList :=
  notes_snoc _ l ms m

/-! ## What one operation leaves alone -/

@[simp] lemma present_wish (l : Link) (s : Stage) : (l.present s).wish = l.wish := rfl

@[simp] lemma present_now (l : Link) (s : Stage) : (l.present s).now = l.now := rfl

@[simp] lemma present_pace (l : Link) (s : Stage) : (l.present s).pace = l.pace := rfl

@[simp] lemma present_restart (l : Link) (s : Stage) : (l.present s).restart = l.restart := rfl

lemma attempt_of_quit (h : l.wish = .quit) : l.attempt = l.finish := if_pos h

lemma attempt_of_ne_quit (h : l.wish ≠ .quit) :
    l.attempt = { l.present .connecting with phase := .connecting (l.now + handshakeLimit) } :=
  if_neg h

lemma phase_attempt (l : Link) :
    l.attempt.phase = if l.wish = .quit then .finished
      else .connecting (l.now + handshakeLimit) := by
  unfold attempt
  split_ifs <;> rfl

@[simp] lemma attempt_wish (l : Link) : l.attempt.wish = l.wish := by
  unfold attempt
  split_ifs <;> rfl

@[simp] lemma attempt_now (l : Link) : l.attempt.now = l.now := by
  unfold attempt
  split_ifs <;> rfl

@[simp] lemma attempt_pace (l : Link) : l.attempt.pace = l.pace := by
  unfold attempt
  split_ifs <;> rfl

/-! ## No connection is left -/

@[simp] lemma since?_attempt (l : Link) : l.attempt.phase.since? = none := by
  rw [phase_attempt]
  split_ifs <;> rfl

@[simp] lemma since?_lost (l : Link) (since : Int) : (l.lost since).phase.since? = none := by
  dsimp only [Link.lost]
  split_ifs
  · exact since?_attempt _
  · rfl

@[simp] lemma since?_afterClose (l : Link) (since : Int) (e : Ending) :
    (l.afterClose since e).phase.since? = none := by
  cases e with
  | lost => exact since?_lost l since
  | verdict v =>
      cases v with
      | quit | restart => rfl
      | proceed | reconnect => exact since?_attempt _

/-! ## What a move makes of a link -/

/-- What a move can make of a link, and what comes about by it.  Each case says when it is the
case. -/
inductive Step (l : Link) : Move → Option Turn → Link → Prop
  /-- Nothing changes.  If there was a query, it was not one that ends the connection. -/
  | still {m : Move} (h : ∀ q ∈ l.hears? m, endingOf q = none) : Step l m none l
  | quit : Step l .quit none (l.ask .quit)
  | reconnect : Step l .reconnect none (l.ask .reconnect)
  | elapse (ms : ℕ) : Step l (.elapse ms) none (l.elapse ms)
  | begun (h : l.phase = .starting) : Step l .tick (some .begun) l.attempt
  | aborted {deadline : Int} (h : l.phase = .connecting deadline) (hseen : l.unseen = true) :
    Step l .tick (some .aborted) (l.notice.present .disconnected).attempt
  | failed {m : Move} {deadline : Int} (h : l.phase = .connecting deadline)
      (hm : m = .tick ∨ m = .failed) :
    Step l m (some .failed) (l.present .disconnected).pause
  | made {deadline : Int} (h : l.phase = .connecting deadline) :
    Step l .connected (some .made)
      { l.present .connected with phase := .serving l.now }
  /-- The link closes its connection because of a wish. -/
  | obeyed {since : Int} (h : l.phase = .serving since) (hseen : l.unseen = true) :
    Step l .tick none
      (l.notice.close since (.verdict (if l.wish = .quit then .quit else .reconnect)))
  /-- The link closes its connection because of a message. -/
  | told {since : Int} {x : Message} {e : Ending} (h : l.phase = .serving since)
      (he : x.ending? = some e) (hx : x ≠ .ended) :
    Step l (.receive x) none (l.close since e)
  | ended {since : Int} (h : l.phase = .serving since) :
    Step l (.receive .ended) (some (.lost (l.age since))) (l.lost since)
  | lost {since : Int} (h : l.phase = .closing since .lost) :
    Step l .tick (some (.lost (l.age since))) (l.lost since)
  | decided {since : Int} {v : Verdict} (h : l.phase = .closing since (.verdict v)) :
    Step l .tick (some (.decided v)) (l.afterClose since (.verdict v))
  | cut {til : Int} (h : l.phase = .pausing til) (hseen : l.unseen = true) :
    Step l .tick (some .cut) l.notice.attempt
  | rested {m : Move} {til : Int} (h : l.phase = .pausing til) (hdue : til ≤ l.now)
      (hm : m = .tick ∨ m = .rested) : Step l m (some .rested) l.attempt

/-- What the link does by itself. -/
lemma step_tick (l : Link) : Step l .tick l.ownTurn? (l.move .tick) := by
  have hstill : Step l .tick none l := .still (by simp [hears?])
  cases hphase : l.phase with
  | starting => simpa [move, tick, ownTurn?, hphase] using Step.begun hphase
  | connecting deadline =>
      by_cases hseen : l.unseen = true
      · simpa [move, tick, ownTurn?, hphase, hseen] using Step.aborted hphase hseen
      · by_cases hdue : deadline ≤ l.now
        · simpa [move, tick, Link.failed, ownTurn?, hphase, hseen, hdue]
            using Step.failed hphase (.inl rfl)
        · simpa [move, tick, ownTurn?, hphase, hseen, hdue] using hstill
  | serving since =>
      by_cases hseen : l.unseen = true
      · simpa [move, tick, ownTurn?, hphase, hseen] using Step.obeyed hphase hseen
      · simpa [move, tick, ownTurn?, hphase, hseen] using hstill
  | closing since e =>
      cases e with
      | lost => simpa [move, tick, afterClose, ownTurn?, hphase] using Step.lost hphase
      | verdict v => simpa [move, tick, ownTurn?, hphase] using Step.decided hphase
  | pausing til =>
      by_cases hseen : l.unseen = true
      · simpa [move, tick, ownTurn?, hphase, hseen] using Step.cut hphase hseen
      · by_cases hdue : til ≤ l.now
        · simpa [move, tick, ownTurn?, hphase, hseen, hdue]
            using Step.rested hphase hdue (.inl rfl)
        · simpa [move, tick, ownTurn?, hphase, hseen, hdue] using hstill
  | finished => simpa [move, tick, ownTurn?, hphase] using hstill

/-- What the link does with a message. -/
lemma step_receive (l : Link) (x : Message) :
    Step l (.receive x) (l.turn? (.receive x)) (l.move (.receive x)) := by
  by_cases hserving : l.isServing = true
  · obtain ⟨since, hphase⟩ : ∃ since, l.phase = .serving since := by
      unfold isServing at hserving
      split at hserving
      · next since hphase => exact ⟨since, hphase⟩
      · exact absurd hserving Bool.false_ne_true
    have hmove : l.move (.receive x) = (l.take since x).2.2 :=
      congrArg (·.2.2) (receive_of_serving hphase x)
    rw [hmove, take_eq]
    cases hending : x.ending? with
    | none =>
        have hended : x ≠ .ended := by
          rintro rfl
          exact absurd hending (by simp [Message.ending?])
        have hturn : l.turn? (.receive x) = none := by
          cases x <;> simp [turn?] at hended ⊢
        rw [hturn]
        refine .still fun q hq => ?_
        have hquery : x.query? = some q := by simpa [hears?, hphase] using hq
        have hdata : x.isData = true := by
          by_contra hdata
          rw [Message.query?_eq_none (by simpa using hdata)] at hquery
          exact absurd hquery (by simp)
        rw [Message.ending?_of_isData hdata, hquery] at hending
        exact hending
    | some e =>
        by_cases hended : x = .ended
        · subst hended
          simpa [turn?, hphase] using Step.ended hphase
        · have hturn : l.turn? (.receive x) = none := by
            cases x <;> simp [turn?] at hended ⊢
          rw [hturn]
          simpa [hended] using Step.told hphase hending hended
  · have hserving : l.isServing = false := by simpa using hserving
    have hmove : l.move (.receive x) = l :=
      congrArg (·.2.2) (receive_of_not_serving hserving x)
    have hhears : l.hears? (.receive x) = none := by
      unfold hears?
      split
      · next hphase => simp [isServing, hphase] at hserving
      · rfl
    have hturn : l.turn? (.receive x) = none := by
      unfold turn?
      split <;> simp_all [isServing]
    rw [hmove, hturn]
    exact .still (by simp [hhears])

/-- **What a move makes of a link.** -/
theorem step (l : Link) (m : Move) : Step l m (l.turn? m) (l.move m) := by
  have hstill (hm : l.hears? m = none) : Step l m none l := .still (by simp [hm])
  cases m with
  | rested =>
      cases hphase : l.phase with
      | pausing til =>
          by_cases hdue : til ≤ l.now
          · simpa [move, Link.rested, turn?, hphase, hdue]
              using Step.rested hphase hdue (.inr rfl)
          · simpa [move, Link.rested, turn?, hphase, hdue] using hstill rfl
      | _ => simpa [move, Link.rested, turn?, hphase] using hstill rfl
  | quit => exact .quit
  | reconnect => exact .reconnect
  | elapse ms => exact .elapse ms
  | tick => exact l.step_tick
  | receive x => exact l.step_receive x
  | connected =>
      cases hphase : l.phase with
      | connecting deadline =>
          simpa [move, Link.connected, turn?, hphase] using Step.made hphase
      | _ => simpa [move, Link.connected, turn?, hphase] using hstill rfl
  | failed =>
      cases hphase : l.phase with
      | connecting deadline =>
          simpa [move, Link.failed, turn?, hphase] using Step.failed hphase (.inr rfl)
      | _ => simpa [move, Link.failed, turn?, hphase] using hstill rfl

end Link

end HostAgent.Backhaul
