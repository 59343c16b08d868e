import HostAgent.Proofs.Backhaul.Moves

/-!
# When quitting is final

Wishes reach the link through a cell that keeps only the latest one, and the link looks at the cell
while it connects, serves or pauses, but not while it closes.  So whether a wish to quit is final
depends on what follows it.

* `attempts` — how often it has begun to connect.
* `isEnding` — it has committed itself to ending, and no wish can change that.
* `Declines` — nothing has begun, and the last wish is still to quit.  Only a wish to reconnect can
  change that.
* `quit_final_iff` — a wish to quit is final exactly if each later wish to reconnect finds the link
  committed to ending.
-/

namespace HostAgent.Backhaul

namespace Link

/-- How often the link has begun to connect. -/
def attempts (l : Link) : ℕ :=
  l.shown.count .connecting

/-- Whether the link has committed itself to ending: it has ended, or it closes its connection in
order to. -/
def isEnding (l : Link) : Bool :=
  match l.phase with
  | .finished | .closing _ (.verdict .quit) | .closing _ (.verdict .restart) => true
  | _ => false

variable {l l' : Link} {m : Move} {ms : List Move}

/-! ## The last wish is to quit -/

/-- No attempt has begun between the two, and the last wish is to quit. -/
structure Declines (l l' : Link) : Prop where
  wish : l'.wish = .quit
  attempts : l'.attempts = l.attempts

namespace Declines

lemma refl (h : l.wish = .quit) : Declines l l :=
  ⟨h, rfl⟩

lemma present (h : Declines l l') {s : Stage} (hs : s ≠ .connecting) : Declines l (l'.present s) :=
  ⟨h.wish, (List.count_cons_of_ne hs).trans h.attempts⟩

lemma notice (h : Declines l l') : Declines l l'.notice :=
  ⟨h.wish, h.attempts⟩

lemma restart (h : Declines l l') : Declines l { l' with restart := true } :=
  ⟨h.wish, h.attempts⟩

lemma paced (h : Declines l l') (p : Pace) : Declines l { l' with pace := p } :=
  ⟨h.wish, h.attempts⟩

lemma phased (h : Declines l l') (p : Phase) : Declines l { l' with phase := p } :=
  ⟨h.wish, h.attempts⟩

lemma pause (h : Declines l l') : Declines l l'.pause :=
  ⟨h.wish, h.attempts⟩

lemma finish (h : Declines l l') : Declines l l'.finish :=
  (h.present (by decide)).phased _

/-- Before an attempt the link looks at the last wish. -/
lemma attempt (h : Declines l l') : Declines l l'.attempt := by
  rw [Link.attempt, if_pos h.wish]
  exact h.finish

lemma close (h : Declines l l') (since : Int) (e : Ending) : Declines l (l'.close since e) :=
  (h.present (by decide)).phased _

lemma lost (h : Declines l l') (since : Int) : Declines l (l'.lost since) := by
  have hshown := h.present (s := .disconnected) (by decide)
  dsimp only [Link.lost]
  split_ifs
  · exact (hshown.paced _).attempt
  · exact hshown.pause

lemma failed (h : Declines l l') : Declines l l'.failed := by
  unfold Link.failed
  split
  · exact (h.present (by decide)).pause
  · exact h

lemma afterClose (h : Declines l l') (since : Int) (e : Ending) :
    Declines l (l'.afterClose since e) := by
  cases e with
  | lost => exact h.lost since
  | verdict v =>
      cases v with
      | quit => exact h.finish
      | restart => exact h.restart.finish
      | proceed => exact ((h.paced _).present (by decide)).attempt
      | reconnect => exact ((h.paced _).present (by decide)).attempt

/-- Whatever the link does by itself, it does not begin to connect. -/
lemma tick (h : Declines l l') : Declines l (l'.move .tick) := by
  dsimp only [Link.move, Link.tick]
  split
  · exact h.attempt
  · split_ifs
    · exact (h.notice.present (by decide)).attempt
    · exact h.failed
    · exact h
  · split_ifs
    · exact h.notice.close _ _
    · exact h.notice.close _ _
    · exact h
  · exact h.afterClose _ _
  · split_ifs
    · exact h.notice.attempt
    · exact h.attempt
    · exact h
  · exact h

lemma connected (h : Declines l l') : Declines l l'.connected := by
  unfold Link.connected
  split
  · exact (h.present (by decide)).phased _
  · exact h

/-- A rest may be over before the link takes notice of the wish, and still it is looked at. -/
lemma rested (h : Declines l l') : Declines l l'.rested := by
  unfold Link.rested
  split
  · split_ifs
    · exact h.attempt
    · exact h
  · exact h

lemma take (h : Declines l l') (since : Int) (x : Message) :
    Declines l (l'.take since x).2.2 := by
  cases x with
  | pong bytes => exact h
  | close => exact h.close since _
  | broken => exact h.close since _
  | ended => exact h.lost since
  | ping bytes | text s | binary bytes =>
      dsimp only [Link.take]
      split_ifs
      · exact h
      · exact h.close since _

lemma receive (h : Declines l l') (x : Message) : Declines l (l'.receive x).2.2 := by
  unfold Link.receive
  split
  · exact h.take _ x
  · exact h

/-- Only a wish to reconnect takes the wish to quit back. -/
lemma move (h : Declines l l') (hm : m ≠ .reconnect) : Declines l (l'.move m) := by
  cases m with
  | quit => exact ⟨rfl, h.attempts⟩
  | reconnect => exact absurd rfl hm
  | elapse ms => exact ⟨h.wish, h.attempts⟩
  | tick => exact h.tick
  | connected => exact h.connected
  | failed => exact h.failed
  | receive x => exact h.receive x
  | rested => exact h.rested

end Declines

/-! ## The link has committed itself to ending -/

lemma phase_of_isEnding (h : l.isEnding) :
    l.phase = .finished ∨
      ∃ since, l.phase = .closing since (.verdict .quit) ∨
        l.phase = .closing since (.verdict .restart) := by
  unfold isEnding at h
  split at h
  · next hphase => exact .inl hphase
  · next since hphase => exact .inr ⟨since, .inl hphase⟩
  · next since hphase => exact .inr ⟨since, .inr hphase⟩
  · exact absurd h Bool.false_ne_true

/-- A link that is ending does not look at the wishes any more. -/
lemma isEnding_move (h : l.isEnding) (m : Move) :
    (l.move m).isEnding ∧ (l.move m).attempts = l.attempts := by
  rcases phase_of_isEnding h with hphase | ⟨since, hphase | hphase⟩ <;>
    cases m <;>
      simp [move, ask, elapse, tick, connected, failed, receive, rested, afterClose, finish,
        present, attempts, isEnding, hphase]

/-! ## Whether the wish is final -/

/-- Each wish to reconnect finds the link committed to ending. -/
def Harmless : Link → List Move → Prop
  | _, [] => True
  | l, m :: ms => (m = .reconnect → l.isEnding) ∧ Harmless (l.move m) ms

lemma harmless_append {ms' : List Move} :
    l.Harmless (ms ++ ms') ↔ l.Harmless ms ∧ (l.course ms).Harmless ms' := by
  induction ms generalizing l with
  | nil => simp [Harmless]
  | cons m ms ih => simp [Harmless, ih, and_assoc]

lemma harmless_ticks (n : ℕ) : l.Harmless (List.replicate n .tick) := by
  induction n generalizing l with
  | zero => trivial
  | succ n ih => exact ⟨nofun, ih⟩

/-- While no wish to reconnect can do harm, the link does not connect after a wish to quit. -/
lemma attempts_course (h : l.wish = .quit ∨ l.isEnding) (hharmless : l.Harmless ms) :
    (l.course ms).attempts = l.attempts := by
  induction ms generalizing l with
  | nil => rfl
  | cons m ms ih =>
      obtain ⟨hm, hrest⟩ := hharmless
      rw [course_cons]
      by_cases hend : l.isEnding
      · obtain ⟨hend', hsame⟩ := isEnding_move hend m
        rw [ih (.inr hend') hrest, hsame]
      · have hmoved := (Declines.refl (h.resolve_right hend)).move (mt hm hend)
        rw [ih (.inl hmoved.wish) hrest, hmoved.attempts]

/-- What a wish to reconnect does to a link that is not ending. -/
lemma exists_attempt (h : ¬ l.isEnding) :
    ∃ n, l.attempts < ((l.ask .reconnect).course (List.replicate n .tick)).attempts := by
  cases hphase : l.phase with
  | finished => exact absurd (by simp [isEnding, hphase]) h
  | starting | connecting deadline | pausing til =>
      refine ⟨1, ?_⟩
      simp [move, tick, ask, notice, attempt, present, attempts, hphase]
  | serving since =>
      refine ⟨2, ?_⟩
      simp [List.replicate, move, tick, ask, notice, close, afterClose, attempt, present, attempts,
        hphase]
  | closing since e =>
      cases e with
      | verdict v =>
          cases v with
          | quit | restart => exact absurd (by simp [isEnding, hphase]) h
          | proceed | reconnect =>
              refine ⟨1, ?_⟩
              simp [move, tick, ask, afterClose, attempt, present, attempts, hphase]
      | lost =>
          -- If the connection did not last there is a pause first, which the wish cuts short.
          refine ⟨2, ?_⟩
          by_cases hlong : l.pace.initial ≤ Span.between since l.now <;>
            simp [List.replicate, move, tick, ask, afterClose, lost, pause, notice, attempt,
              present, attempts, hphase, hlong]

/-- **A wish to quit is final exactly if no later wish to reconnect does harm.**  Otherwise the
link, left alone at the right moment, connects again. -/
theorem quit_final_iff (l : Link) (ms : List Move) :
    (l.ask .quit).Harmless ms ↔
      ∀ before, before <+: ms → ∀ n,
        (((l.ask .quit).course before).ticks n).2.attempts = l.attempts := by
  constructor
  · rintro hharmless before ⟨rest, rfl⟩ n
    have hbefore := (harmless_append.1 hharmless).1
    rw [ticks_eq_course, ← course_append]
    exact attempts_course (.inl rfl) (harmless_append.2 ⟨hbefore, harmless_ticks n⟩)
  · intro hsame
    induction ms using List.reverseRecOn with
    | nil => trivial
    | append_singleton ms m ih =>
        have hbefore : (l.ask .quit).Harmless ms :=
          ih fun before hpre => hsame before (hpre.trans (List.prefix_append ms [m]))
        refine harmless_append.2 ⟨hbefore, ?_, trivial⟩
        rintro rfl
        by_contra hend
        obtain ⟨n, hn⟩ := exists_attempt hend
        have hagain := hsame (ms ++ [.reconnect]) List.prefix_rfl n
        have hbegun : ((l.ask .quit).course ms).attempts = l.attempts :=
          attempts_course (.inl rfl) hbefore
        rw [course_append, ticks_eq_course] at hagain
        exact absurd (hbegun.trans hagain.symm) hn.ne

/-- A connected link that is asked to quit, and at once to reconnect, connects again. -/
theorem reconnect_takes_quit_back :
    ¬ ∀ before ms : List Move,
        (((({} : Link).course before).ask .quit).course ms).attempts =
          (({} : Link).course before).attempts := by
  intro hfinal
  have hagain := hfinal [.tick, .connected] [.reconnect, .tick, .tick]
  exact absurd hagain (by decide)

end Link

end HostAgent.Backhaul
