import HostAgent.Proofs.Backhaul.Course

/-!
# The stages of a link

Others see of a link only the stages that it shows.  They move along the arrows of a small machine,
and the end is reached only for a reason.

* `Follows` — the arrows, and the one that only a certain move can take.
* `Shows` — a move shows stages along the arrows.  `Step.shows` says that every move does.
* `Turn.opens`, `Turn.drops` — when there is a connection more, and one less.
* `RestartHeard`, `QuitHeard` — whether the management plane has asked for the end.
* `Account` — how the phase of a link agrees with what has come about and with what it has heard.
* `keeps_stage_machine` — the machine is kept along every course.
-/

namespace HostAgent.Backhaul

open Wire (Query)

/-- What others see of a link in a phase. -/
def Phase.stage : Phase → Stage
  | .starting | .pausing _ => .disconnected
  | .connecting _ => .connecting
  | .serving _ => .connected
  | .closing _ _ => .closing
  | .finished => .closed

/-- How many connections there are in a phase. -/
def Phase.connections : Phase → ℕ
  | .serving _ | .closing _ _ => 1
  | _ => 0

namespace Link

/-- Whether there is a connection more. -/
def Turn.opens : Turn → Bool
  | .made => true
  | _ => false

/-- Whether there is a connection less. -/
def Turn.drops : Turn → Bool
  | .lost _ | .decided _ => true
  | _ => false

/-- The arrows between the stages.  A connection that is not closed first disappears only at the
end of its stream. -/
inductive Follows : Move → Stage → Stage → Prop
  | connecting (m : Move) : Follows m .disconnected .connecting
  | connected (m : Move) : Follows m .connecting .connected
  | failed (m : Move) : Follows m .connecting .disconnected
  | closing (m : Move) : Follows m .connected .closing
  | ended : Follows (.receive .ended) .connected .disconnected
  | gone (m : Move) : Follows m .closing .disconnected
  | closed (m : Move) : Follows m .closing .closed
  | never (m : Move) : Follows m .disconnected .closed

/-- Whether the management plane has sent an internal restart command. -/
def RestartHeard (qs : List Query) : Prop :=
  ∃ c, Query.command c ∈ qs ∧ c.isInternal "restart" = true

/-- Whether the management plane has asked to quit. -/
def QuitHeard (qs : List Query) : Prop :=
  ∃ reason, Query.quit reason ∈ qs

variable {k l l' : Link} {m : Move} {t : Option Turn} {since : Int} {s : Stage} {q : Query}
  {qs : List Query} {ts : List Turn} {asked : Prop}

/-! ## Every move follows the arrows -/

/-- The move shows stages along the arrows, and the last one is that of the phase. -/
structure Shows (l : Link) (m : Move) (l' : Link) : Prop where
  fits : l'.stage = l'.phase.stage
  along : ∃ new, l'.shown = new.reverse ++ l.shown ∧ (l.stage :: new).IsChain (Follows m)

namespace Shows

lemma nothing (hshown : l'.shown = l.shown) (hphase : l'.phase = l.phase)
    (hfits : l.stage = l.phase.stage) : Shows l m l' :=
  ⟨by rw [hphase, ← hfits, stage, hshown, stage], [], by simp [hshown]⟩

lemma one (hshown : l'.shown = s :: l.shown) (hs : Follows m l.stage s)
    (hphase : l'.phase.stage = s) : Shows l m l' :=
  ⟨by rw [hphase, stage, hshown]; rfl, [s], by simp [hshown, hs]⟩

lemma two {s' : Stage} (hshown : l'.shown = s' :: s :: l.shown) (hs : Follows m l.stage s)
    (hs' : Follows m s s') (hphase : l'.phase.stage = s') : Shows l m l' :=
  ⟨by rw [hphase, stage, hshown]; rfl, [s, s'], by simp [hshown, hs, hs']⟩

end Shows

/-- An attempt shows one stage that follows on being disconnected. -/
lemma exists_attempt_shown (l : Link) (m : Move) :
    ∃ s, l.attempt.shown = s :: l.shown ∧ l.attempt.phase.stage = s ∧
      Follows m .disconnected s := by
  by_cases hquit : l.wish = .quit
  · exact ⟨.closed, by rw [attempt_of_quit hquit]; exact ⟨rfl, rfl, .never m⟩⟩
  · exact ⟨.connecting, by rw [attempt_of_ne_quit hquit]; exact ⟨rfl, rfl, .connecting m⟩⟩

lemma Shows.attempt (hshown : k.shown = l.shown) (hstage : l.stage = .disconnected) :
    Shows l m k.attempt := by
  obtain ⟨s, hs, hphase, hfollows⟩ := k.exists_attempt_shown m
  exact .one (by rw [hs, hshown]) (hstage ▸ hfollows) hphase

/-- A link that is disconnected by the move, and goes on at once. -/
lemma Shows.again (hshown : k.shown = .disconnected :: l.shown)
    (hstage : Follows m l.stage .disconnected) : Shows l m k.attempt := by
  obtain ⟨s, hs, hphase, hfollows⟩ := k.exists_attempt_shown m
  exact .two (by rw [hs, hshown]) hstage hfollows hphase

lemma Shows.lost (hstage : Follows m l.stage .disconnected) (since : Int) :
    Shows l m (l.lost since) := by
  dsimp only [Link.lost]
  split_ifs
  · exact .again rfl hstage
  · exact .one rfl hstage rfl

/-- **Every move follows the arrows.** -/
theorem Step.shows (h : Step l m t l') (hfits : l.stage = l.phase.stage) : Shows l m l' := by
  cases h with
  | still | quit | reconnect | elapse ms => exact .nothing rfl rfl hfits
  | begun hphase | rested hphase hdue hm => exact .attempt rfl (by rw [hfits, hphase]; rfl)
  | cut hphase hseen => exact .attempt rfl (by rw [hfits, hphase]; rfl)
  | aborted hphase hseen => exact .again rfl (by rw [hfits, hphase]; exact .failed _)
  | failed hphase hm => exact .one rfl (by rw [hfits, hphase]; exact .failed _) rfl
  | made hphase => exact .one rfl (by rw [hfits, hphase]; exact .connected _) rfl
  | obeyed hphase hseen => exact .one rfl (by rw [hfits, hphase]; exact .closing _) rfl
  | told hphase he hx => exact .one rfl (by rw [hfits, hphase]; exact .closing _) rfl
  | ended hphase => exact .lost (by rw [hfits, hphase]; exact .ended) _
  | lost hphase => exact .lost (by rw [hfits, hphase]; exact .gone _) _
  | @decided since v hphase =>
      have hgone : Follows .tick l.stage .disconnected := by rw [hfits, hphase]; exact .gone _
      have hclosed : Follows .tick l.stage .closed := by rw [hfits, hphase]; exact .closed _
      cases v with
      | quit | restart => exact .one rfl hclosed rfl
      | proceed | reconnect => exact .again rfl hgone

/-! ## Connections are opened and dropped in turn -/

lemma connections_eq_zero {p : Phase} (h : p.since? = none) : p.connections = 0 := by
  cases p with
  | serving since | closing since e => exact absurd h (by simp [Phase.since?])
  | _ => rfl

/-- A connection is opened only if there is none, and dropped only if there is one. -/
lemma Step.connections (h : Step l m t l') :
    l.phase.connections + t.toList.countP Turn.opens
      = l'.phase.connections + t.toList.countP Turn.drops := by
  cases h with
  | still | quit | reconnect | elapse ms => rfl
  | begun hphase | aborted hphase | cut hphase | rested hphase =>
      rw [hphase, connections_eq_zero (since?_attempt _)]
      rfl
  | failed hphase | made hphase | obeyed hphase | told hphase =>
      rw [hphase]
      rfl
  | ended hphase | lost hphase =>
      rw [hphase, connections_eq_zero (since?_lost _ _)]
      rfl
  | decided hphase =>
      rw [hphase, connections_eq_zero (since?_afterClose _ _ _)]
      rfl

/-! ## The end has a reason -/

lemma endingOf_eq_restart :
    endingOf q = some (.verdict .restart) ↔
      ∃ c, q = .command c ∧ c.isInternal "restart" = true := by
  cases q <;> simp [endingOf]

lemma endingOf_eq_quit : endingOf q = some (.verdict .quit) ↔ ∃ reason, q = .quit reason := by
  cases q <;> simp [endingOf]

lemma restartHeard_append (qs : List Query) (q? : Option Query) :
    RestartHeard (qs ++ q?.toList) ↔
      RestartHeard qs ∨ ∃ q ∈ q?, endingOf q = some (.verdict .restart) := by
  constructor
  · rintro ⟨c, hmem, hc⟩
    rcases List.mem_append.mp hmem with hmem | hmem
    · exact .inl ⟨c, hmem, hc⟩
    · exact .inr ⟨.command c, Option.mem_toList.mp hmem, endingOf_eq_restart.mpr ⟨c, rfl, hc⟩⟩
  · rintro (⟨c, hmem, hc⟩ | ⟨q, hq, hending⟩)
    · exact ⟨c, List.mem_append_left _ hmem, hc⟩
    · obtain ⟨c, rfl, hc⟩ := endingOf_eq_restart.mp hending
      exact ⟨c, List.mem_append_right _ (Option.mem_toList.mpr hq), hc⟩

lemma QuitHeard.append (h : QuitHeard qs) (qs' : List Query) : QuitHeard (qs ++ qs') :=
  h.imp fun _ hmem => List.mem_append_left qs' hmem

/-- Why a link is in its phase, if it is about to end, and whether it is to begin anew. -/
def Caused (asked : Prop) (qs : List Query) (restart : Bool) : Phase → Prop
  | .finished => (asked ∨ QuitHeard qs ∨ RestartHeard qs) ∧ (restart = true ↔ RestartHeard qs)
  | .closing _ (.verdict .restart) => RestartHeard qs ∧ restart = false
  | .closing _ (.verdict .quit) => (asked ∨ QuitHeard qs) ∧ ¬ RestartHeard qs ∧ restart = false
  | _ => ¬ RestartHeard qs ∧ restart = false

namespace Caused

lemma congr {restart : Bool} {p : Phase} {asked' : Prop} {qs' : List Query}
    (h : Caused asked qs restart p) (hasked : asked → asked') (hquit : QuitHeard qs → QuitHeard qs')
    (hrestart : RestartHeard qs' ↔ RestartHeard qs) : Caused asked' qs' restart p := by
  unfold Caused at *
  rw [hrestart]
  split at h
  · exact ⟨h.1.imp hasked (Or.imp_left hquit), h.2⟩
  · exact h
  · exact ⟨h.1.imp hasked hquit, h.2⟩
  · exact h

lemma attempt (hnone : ¬ RestartHeard qs) (hrestart : l.restart = false)
    (hwish : l.wish = .quit → asked) : Caused asked qs l.attempt.restart l.attempt.phase := by
  by_cases hquit : l.wish = .quit
  · rw [attempt_of_quit hquit]
    exact ⟨.inl (hwish hquit), by simp [finish, hrestart, hnone]⟩
  · rw [attempt_of_ne_quit hquit]
    exact ⟨hnone, hrestart⟩

lemma lost (hnone : ¬ RestartHeard qs) (hrestart : l.restart = false)
    (hwish : l.wish = .quit → asked) (since : Int) :
    Caused asked qs (l.lost since).restart (l.lost since).phase := by
  dsimp only [Link.lost]
  split_ifs
  · exact attempt hnone hrestart hwish
  · exact ⟨hnone, hrestart⟩

end Caused

/-- What a link that serves hears with a message that ends its connection. -/
lemma hears?_of_ending {x : Message} {e : Ending} (hphase : l.phase = .serving since)
    (he : x.ending? = some e) :
    (∃ q, l.hears? (.receive x) = some q ∧ endingOf q = some e) ∨
      l.hears? (.receive x) = none ∧ e = .lost := by
  have hhears : l.hears? (.receive x) = x.query? := by simp [hears?, hphase]
  rw [hhears]
  by_cases hdata : x.isData = true
  · rw [Message.ending?_of_isData hdata, Option.bind_eq_some_iff] at he
    exact .inl he
  · refine .inr ⟨Message.query?_eq_none (by simpa using hdata), ?_⟩
    cases x with
    | text s | binary bytes => exact absurd rfl hdata
    | ping bytes =>
        simp only [Message.ending?, Option.ite_none_left_eq_some, Option.some.injEq] at he
        exact he.2.symm
    | pong bytes => exact absurd he (by simp [Message.ending?])
    | close | broken | ended => exact (Option.some.inj he).symm

/-- A message that ends the connection is the reason of what follows. -/
lemma caused_told {x : Message} {e : Ending} (hphase : l.phase = .serving since)
    (he : x.ending? = some e) (hnone : ¬ RestartHeard qs) (hrestart : l.restart = false) :
    Caused asked (qs ++ (l.hears? (.receive x)).toList) l.restart (.closing since e) := by
  rcases hears?_of_ending hphase he with ⟨q, hq, hending⟩ | ⟨hq, rfl⟩
  · have hiff : RestartHeard (qs ++ [q]) ↔ e = .verdict .restart := by
      have happend := restartHeard_append qs (some q)
      simpa [hnone, hending] using happend
    rw [hq, Option.toList_some]
    cases e with
    | lost => exact ⟨by simp [hiff], hrestart⟩
    | verdict v =>
        cases v with
        | proceed | reconnect => exact ⟨by simp [hiff], hrestart⟩
        | restart => exact ⟨hiff.mpr rfl, hrestart⟩
        | quit =>
            obtain ⟨reason, rfl⟩ := endingOf_eq_quit.mp hending
            exact ⟨.inr ⟨reason, by simp⟩, by simp [hiff], hrestart⟩
  · rw [hq, Option.toList_none, List.append_nil]
    exact ⟨hnone, hrestart⟩

/-- The last wish is to quit only if somebody has wished it. -/
lemma Step.wish (h : Step l m t l') (hquit : l'.wish = .quit) :
    l.wish = .quit ∨ m = .quit := by
  cases h with
  | quit => exact .inr rfl
  | reconnect => exact absurd hquit (by simp [ask])
  | still | elapse ms | failed | made | obeyed | told => exact .inl hquit
  | begun | aborted | cut | rested => exact .inl (by simpa [notice] using hquit)
  | ended | lost =>
      dsimp only [Link.lost] at hquit
      split_ifs at hquit
      · exact .inl (by simpa using hquit)
      · exact .inl hquit
  | @decided since v =>
      cases v with
      | quit | restart => exact .inl hquit
      | proceed | reconnect => exact .inl (by simpa [afterClose] using hquit)

/-- Each move keeps the reasons. -/
lemma Step.caused (h : Step l m t l') (hc : Caused asked qs l.restart l.phase)
    (hwish : l.wish = .quit → asked) :
    Caused (asked ∨ m = .quit) (qs ++ (l.hears? m).toList) l'.restart l'.phase := by
  -- a move that brings no query leaves the reasons as they are
  have hsilent {k : Link} (hm : l.hears? m = none) (hk : Caused asked qs k.restart k.phase) :
      Caused (asked ∨ m = .quit) (qs ++ (l.hears? m).toList) k.restart k.phase := by
    rw [hm, Option.toList_none, List.append_nil]
    exact hk.congr .inl id .rfl
  cases h with
  | still hq =>
      refine hc.congr .inl (fun h => h.append _) ?_
      rw [restartHeard_append]
      refine or_iff_left ?_
      rintro ⟨q, hmem, hending⟩
      exact absurd ((hq q hmem).symm.trans hending) (by simp)
  | quit | reconnect | elapse ms => exact hsilent rfl hc
  | begun hphase | aborted hphase | cut hphase =>
      rw [hphase] at hc
      exact hsilent rfl (.attempt hc.1 hc.2 hwish)
  | rested hphase hdue hm =>
      rw [hphase] at hc
      exact hsilent (by rcases hm with rfl | rfl <;> rfl) (.attempt hc.1 hc.2 hwish)
  | failed hphase hm =>
      rw [hphase] at hc
      exact hsilent (by rcases hm with rfl | rfl <;> rfl) hc
  | made hphase =>
      rw [hphase] at hc
      exact hsilent rfl hc
  | obeyed hphase =>
      rw [hphase] at hc
      refine hsilent rfl ?_
      by_cases hquit : l.wish = .quit
      · rw [if_pos hquit]
        exact ⟨.inl (hwish hquit), hc⟩
      · rw [if_neg hquit]
        exact hc
  | told hphase he =>
      rw [hphase] at hc
      exact (caused_told hphase he hc.1 hc.2).congr .inl id .rfl
  | ended hphase =>
      rw [hphase] at hc
      exact hsilent (by simp [hears?, hphase, Message.query?, dataText?])
        (.lost hc.1 hc.2 hwish _)
  | lost hphase =>
      rw [hphase] at hc
      exact hsilent rfl (.lost hc.1 hc.2 hwish _)
  | @decided since v hphase =>
      rw [hphase] at hc
      refine hsilent rfl ?_
      cases v with
      | quit =>
          obtain ⟨hreason, hnone, hrestart⟩ := hc
          refine ⟨hreason.imp_right .inl, ?_⟩
          simp [afterClose, finish, hrestart, hnone]
      | restart => exact ⟨.inr (.inr hc.1), by simp [afterClose, finish, hc.1]⟩
      | proceed | reconnect => exact .attempt hc.1 hc.2 hwish

/-- How a link agrees with what has been asked of it, what it has heard and what came about. -/
structure Account (l : Link) (asked : Prop) (qs : List Query) (ts : List Turn) : Prop where
  fits : l.stage = l.phase.stage
  connections : ts.countP Turn.opens = ts.countP Turn.drops + l.phase.connections
  wish : l.wish = .quit → asked
  caused : Caused asked qs l.restart l.phase

namespace Account

lemma fresh (now : Int) (pace : Pace) : Account (fresh now pace) False [] [] :=
  ⟨rfl, rfl, nofun, by simp [RestartHeard], rfl⟩

/-- Each move is entered into the account. -/
lemma step (h : Account l asked qs ts) (hstep : Step l m t l') :
    Account l' (asked ∨ m = .quit) (qs ++ (l.hears? m).toList) (ts ++ t.toList) where
  fits := (hstep.shows h.fits).fits
  connections := by
    have hbefore := h.connections
    have hmove := hstep.connections
    rw [List.countP_append, List.countP_append]
    omega
  wish := fun hquit => (hstep.wish hquit).imp_left h.wish
  caused := hstep.caused h.caused h.wish

/-- The account of a whole course. -/
lemma course (now : Int) (pace : Pace) (ms : List Move) :
    Account ((Link.fresh now pace).course ms) (.quit ∈ ms)
      ((Link.fresh now pace).heard ms) ((Link.fresh now pace).turns ms) := by
  induction ms using List.reverseRecOn with
  | nil => simpa [heard, turns, notes] using fresh now pace
  | append_singleton ms m ih =>
      have hnext := ih.step (((Link.fresh now pace).course ms).step m)
      rw [course_snoc, heard_snoc, turns_snoc]
      simpa [eq_comm] using hnext

end Account

/-- A link that has ended shows nothing any more. -/
lemma Step.shown_of_finished (h : Step l m t l') (hphase : l.phase = .finished) :
    l'.shown = l.shown := by
  cases h with
  | still | quit | reconnect | elapse ms => rfl
  | begun h | aborted h | failed h | made h | obeyed h | told h | ended h | lost h | decided h
  | cut h | rested h => exact absurd (h.symm.trans hphase) (by simp)

lemma stage_eq_closed {p : Phase} : p.stage = .closed ↔ p = .finished := by
  cases p <;> simp [Phase.stage]

lemma exit?_eq_some_iff {e : Exit} :
    l.exit? = some e ↔ l.phase = .finished ∧ e.restart = l.restart := by
  obtain ⟨restart⟩ := e
  unfold exit?
  split
  · next hphase => simp [hphase, eq_comm]
  · next hphase => simpa using fun h => absurd h hphase

/-- **The stages keep their machine.**  Along every course of a link, whatever the other side does
and whoever wishes what and when:

* each move shows stages along the arrows;
* there is one connection at most, and none while the link is disconnected or closed;
* a link that is closed shows nothing any more.  It is closed only after a wish or a query to quit
  or an internal restart command;
* exactly then there is an exit.  The exit and the link both say that the agent is to begin anew if
  the link has heard an internal restart command, and both deny it otherwise. -/
theorem keeps_stage_machine (now : Int) (pace : Pace) (ms : List Move) (m : Move) :
    let l := (fresh now pace).course ms
    let ts := (fresh now pace).turns ms
    let qs := (fresh now pace).heard ms
    (∃ new, (l.move m).shown = new.reverse ++ l.shown ∧ (l.stage :: new).IsChain (Follows m)) ∧
      (ts.countP Turn.drops ≤ ts.countP Turn.opens ∧
        ts.countP Turn.opens ≤ ts.countP Turn.drops + 1) ∧
      (l.stage = .disconnected ∨ l.stage = .closed →
        ts.countP Turn.opens = ts.countP Turn.drops) ∧
      (l.stage = .closed → (l.move m).shown = l.shown) ∧
      (l.stage = .closed → .quit ∈ ms ∨ QuitHeard qs ∨ RestartHeard qs) ∧
      (∀ e, l.exit? = some e ↔ l.stage = .closed ∧ (e.restart = true ↔ RestartHeard qs)) ∧
      (l.stage = .closed → (l.restart = true ↔ RestartHeard qs)) := by
  intro l ts qs
  have haccount : Account l (.quit ∈ ms) qs ts := .course now pace ms
  have hclosed : l.stage = .closed ↔ l.phase = .finished := by
    rw [haccount.fits, stage_eq_closed]
  have hconnections := haccount.connections
  have hend (h : l.stage = .closed) : (.quit ∈ ms ∨ QuitHeard qs ∨ RestartHeard qs) ∧
      (l.restart = true ↔ RestartHeard qs) := by
    have hcaused := haccount.caused
    rw [hclosed.mp h] at hcaused
    exact hcaused
  refine ⟨((l.step m).shows haccount.fits).along, ?_, fun h => ?_, fun h => ?_,
    fun h => (hend h).1, fun e => ?_, fun h => (hend h).2⟩
  · have hone : l.phase.connections ≤ 1 := by
      cases l.phase <;> simp [Phase.connections]
    omega
  · have hnone : l.phase.connections = 0 := by
      rw [haccount.fits] at h
      cases hphase : l.phase <;> simp [hphase, Phase.stage, Phase.connections] at h ⊢
    omega
  · exact (l.step m).shown_of_finished (hclosed.mp h)
  · rw [exit?_eq_some_iff, hclosed]
    refine and_congr_right fun hphase => ?_
    rw [← (hend (hclosed.mpr hphase)).2]
    exact Bool.eq_iff_iff

end Link

end HostAgent.Backhaul
