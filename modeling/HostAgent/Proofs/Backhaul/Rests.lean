import HostAgent.Proofs.Backhaul.Course
import HostAgent.Proofs.Backhaul.Doubling

/-!
# The rests between attempts

When a link rests before its next attempt, and for how long.

* `Turn.rests`, `Turn.isHealthy`, `Turn.goesOn` — whether a rest follows on what has come about,
  whether the schedule starts over, and whether the next attempt follows at once.
* `streak` — how many rests there have been since the schedule has started over.
* `Sequel` — what follows on a move: a rest as long as the schedule says, the next attempt, or
  neither.  `Step.sequel` says that nothing else follows.
* `reconnect_schedule` — the rests of every course keep the schedule.
-/

namespace HostAgent.Backhaul

/-- Whether a link rests. -/
def Phase.isPausing : Phase → Bool
  | .pausing _ => true
  | _ => false

namespace Link

open Pace (scheduled)

/-! ## The schedule -/

/-- Whether a rest follows: an attempt has failed, or a connection has not lasted as long as the
first pause. -/
def Turn.rests (initial : Span) : Turn → Bool
  | .failed => true
  | .lost age => age * 1000000 < initial.nanos
  | _ => false

/-- Whether the schedule starts over: a connection has lasted, or somebody wanted another one. -/
def Turn.isHealthy (initial : Span) : Turn → Bool
  | .lost age => initial.nanos ≤ age * 1000000
  | .decided .reconnect => true
  | _ => false

/-- Whether the next attempt follows at once. -/
def Turn.goesOn (initial : Span) : Turn → Bool
  | .begun | .aborted | .cut | .rested => true
  | t => t.isHealthy initial

/-- How many rests there have been since the beginning, or since the schedule has started over. -/
def streak (initial : Span) (ts : List Turn) : ℕ :=
  (ts.reverse.takeWhile fun t => !t.isHealthy initial).countP (Turn.rests initial)

/-- When connections were made. -/
def madeAt : Link → List Move → List Int :=
  notes fun l m => if l.turn? m = some .made then [l.now] else []

/-- The link begins to rest as long as the schedule says after so many rests. -/
def Rests (initial ceiling : Span) (j : ℕ) (l l' : Link) : Prop :=
  ∃ rest : Span, rest.nanos = scheduled initial ceiling j ∧ l'.now = l.now ∧
    l'.phase = .pausing (rest.alarm l.now)

/-- The next attempt begins at once, or the link ends because the last wish is to quit. -/
def GoesOn (l l' : Link) : Prop :=
  l'.now = l.now ∧
    l'.phase = if l.wish = .quit then .finished else .connecting (l.now + handshakeLimit)

/-- Whether a move is not a wish. -/
def Move.isQuiet : Move → Bool
  | .quit | .reconnect => false
  | _ => true

variable {k l l' : Link} {m : Move} {ms more : List Move} {t : Turn} {t? : Option Turn}
  {since til : Int} {initial ceiling : Span} {j : ℕ} {ts : List Turn} {e : Ending}

lemma streak_snoc (initial : Span) (ts : List Turn) (t : Turn) :
    streak initial (ts ++ [t]) = if t.isHealthy initial then 0
      else streak initial ts + if t.rests initial then 1 else 0 := by
  rw [streak, List.reverse_append, List.reverse_singleton, List.singleton_append,
    List.takeWhile_cons]
  by_cases hhealthy : t.isHealthy initial = true
  · simp [hhealthy]
  · simp [hhealthy, streak, List.countP_cons]

lemma Turn.not_isHealthy_of_rests (h : t.rests initial = true) : t.isHealthy initial = false := by
  cases t with
  | lost age => simpa [rests, isHealthy] using h
  | failed => rfl
  | _ => exact absurd h (by simp [rests])

lemma Turn.not_goesOn_of_rests (h : t.rests initial = true) : t.goesOn initial = false := by
  cases t with
  | lost age => exact not_isHealthy_of_rests h
  | failed => rfl
  | _ => exact absurd h (by simp [rests])

lemma Turn.goesOn_of_isHealthy (h : t.isHealthy initial = true) : t.goesOn initial = true := by
  cases t with
  | begun | aborted | cut | rested => rfl
  | _ => exact h

/-! ## What follows on a move -/

lemma GoesOn.attempt (hnow : k.now = l.now) (hwish : k.wish = l.wish) : GoesOn l k.attempt :=
  ⟨by rw [attempt_now, hnow], by rw [phase_attempt, hwish, hnow]⟩

lemma Rests.pause (hnow : k.now = l.now) (h : k.pace.After initial ceiling j) :
    Rests initial ceiling j l k.pause :=
  ⟨k.pace.take.1, h.take.1, hnow, by rw [← hnow]; rfl⟩

lemma isPausing_eq_false (h : l'.phase = if l.wish = .quit then .finished
      else .connecting (l.now + handshakeLimit)) : l'.phase.isPausing = false := by
  rw [h]
  split_ifs <;> rfl

/-- What follows on a move, of a link whose pace has made so many pauses. -/
inductive Sequel (initial ceiling : Span) (j : ℕ) (l : Link) : Option Turn → Link → Prop
  | rest {t : Turn} {l' : Link} (ht : t.rests initial = true) (h : Rests initial ceiling j l l')
      (hpace : l'.pace.After initial ceiling (j + 1)) : Sequel initial ceiling j l (some t) l'
  /-- The schedule starts over. -/
  | anew {t : Turn} {l' : Link} (ht : t.isHealthy initial = true) (h : GoesOn l l')
      (hpace : l'.pace.After initial ceiling 0) : Sequel initial ceiling j l (some t) l'
  | next {t : Turn} {l' : Link} (ht : t.rests initial = false) (hgoes : t.goesOn initial = true)
      (ht' : t.isHealthy initial = false) (h : GoesOn l l')
      (hpace : l'.pace.After initial ceiling j) : Sequel initial ceiling j l (some t) l'
  /-- No rest begins, and no attempt. -/
  | neither {t? : Option Turn} {l' : Link}
      (ht : ∀ t ∈ t?, t.rests initial = false ∧ t.goesOn initial = false)
      (h : l'.phase.isPausing = true → l'.phase = l.phase)
      (hpace : l'.pace.After initial ceiling j) : Sequel initial ceiling j l t? l'

/-- A connection that is gone without a verdict is healthy exactly if it has lasted. -/
lemma sequel_lost (h : l.pace.After initial ceiling j) (since : Int) :
    Sequel initial ceiling j l (some (.lost (l.age since))) (l.lost since) := by
  have hage : l.pace.initial ≤ Span.between since l.now ↔
      initial.nanos ≤ l.age since * 1000000 := by
    rw [Span.le_between_iff, h.initial_eq, age]
  dsimp only [Link.lost]
  rw [present_now, present_pace]
  by_cases hhealthy : initial.nanos ≤ l.age since * 1000000
  · rw [if_pos (hage.mpr hhealthy)]
    refine .anew (by simpa [Turn.isHealthy] using hhealthy) (.attempt rfl rfl) ?_
    rw [attempt_pace]
    exact h.restart
  · rw [if_neg (mt hage.mp hhealthy)]
    exact .rest (by simpa [Turn.rests] using hhealthy) (.pause rfl h) h.take.2

/-- **Nothing else follows on a move.** -/
theorem Step.sequel (h : Step l m t? l') (hpace : l.pace.After initial ceiling j)
    (hverdict : ∀ since, l.phase ≠ .closing since (.verdict .proceed)) :
    Sequel initial ceiling j l t? l' := by
  cases h with
  | still | quit | reconnect | elapse ms =>
      exact .neither (by simp) (fun _ => rfl) hpace
  | begun | aborted | cut | rested =>
      exact .next rfl rfl rfl (.attempt rfl rfl) (by rw [attempt_pace]; exact hpace)
  | failed => exact .rest rfl (.pause rfl hpace) hpace.take.2
  | made | obeyed | told =>
      exact .neither (by simp [Turn.rests, Turn.goesOn, Turn.isHealthy]) nofun hpace
  | ended | lost => exact sequel_lost hpace _
  | @decided since v hphase =>
      cases v with
      | proceed => exact absurd hphase (hverdict since)
      | quit | restart =>
          exact .neither (by simp [Turn.rests, Turn.goesOn, Turn.isHealthy]) nofun hpace
      | reconnect =>
          have hnext : (l.afterClose since (.verdict .reconnect)).pace = l.pace.restart :=
            attempt_pace _
          exact .anew rfl (.attempt rfl rfl) (hnext ▸ hpace.restart)

namespace Sequel

/-- The pace has made as many pauses as there were rests since the schedule has started over. -/
lemma after (h : Sequel initial ceiling (streak initial ts) l t? l') :
    l'.pace.After initial ceiling (streak initial (ts ++ t?.toList)) := by
  cases h with
  | rest ht h hpace =>
      rw [Option.toList_some, streak_snoc, Turn.not_isHealthy_of_rests ht, ht]
      exact hpace
  | anew ht h hpace =>
      rw [Option.toList_some, streak_snoc, ht]
      exact hpace
  | next ht hgoes ht' h hpace =>
      rw [Option.toList_some, streak_snoc, ht, ht']
      exact hpace
  | neither ht h hpace =>
      cases t? with
      | none => simpa using hpace
      | some t =>
          obtain ⟨hrests, hgoes⟩ := ht t rfl
          have hhealthy : t.isHealthy initial = false := by
            by_contra hhealthy
            rw [Turn.goesOn_of_isHealthy (by simpa using hhealthy)] at hgoes
            exact absurd hgoes (by simp)
          rw [Option.toList_some, streak_snoc, hrests, hhealthy]
          exact hpace

/-- A link that did not rest rests now exactly if what came about makes for it. -/
lemma isPausing_iff (h : Sequel initial ceiling j l t? l') (hbefore : l.phase.isPausing = false) :
    l'.phase.isPausing = true ↔ ∃ t ∈ t?, t.rests initial = true := by
  cases h with
  | rest ht h hpace =>
      obtain ⟨rest, -, -, hphase⟩ := h
      simp [hphase, Phase.isPausing, ht]
  | @anew t l' ht h hpace =>
      have hrests : t.rests initial = false := by
        by_contra hrests
        rw [Turn.not_isHealthy_of_rests (by simpa using hrests)] at ht
        exact absurd ht (by simp)
      simp [isPausing_eq_false h.2, hrests]
  | next ht hgoes ht' h hpace => simp [isPausing_eq_false h.2, ht]
  | neither ht h hpace =>
      constructor
      · intro hpausing
        rw [h hpausing, hbefore] at hpausing
        exact absurd hpausing (by simp)
      · rintro ⟨t, hmem, hrests⟩
        rw [(ht t hmem).1] at hrests
        exact absurd hrests (by simp)

lemma rests (h : Sequel initial ceiling j l t? l') (ht : ∃ t ∈ t?, t.rests initial = true) :
    Rests initial ceiling j l l' := by
  obtain ⟨t, hmem, hrests⟩ := ht
  cases h with
  | rest ht h hpace => exact h
  | anew ht h hpace =>
      obtain rfl := Option.some.inj hmem
      rw [Turn.not_isHealthy_of_rests hrests] at ht
      exact absurd ht (by simp)
  | next ht hgoes ht' h hpace =>
      obtain rfl := Option.some.inj hmem
      exact absurd (ht.symm.trans hrests) (by simp)
  | neither ht h hpace => exact absurd ((ht t hmem).1.symm.trans hrests) (by simp)

lemma goesOn (h : Sequel initial ceiling j l (some t) l') (ht : t.goesOn initial = true) :
    GoesOn l l' := by
  cases h with
  | rest hrests h hpace =>
      rw [Turn.not_goesOn_of_rests hrests] at ht
      exact absurd ht (by simp)
  | anew ht' h hpace => exact h
  | next ht' hgoes ht'' h hpace => exact h
  | neither ht' h hpace => exact absurd ((ht' t rfl).2.symm.trans ht) (by simp)

end Sequel

/-- What makes for a rest does not come about in one. -/
lemma Step.isPausing_eq_false (h : Step l m (some t) l') (ht : t.rests initial = true) :
    l.phase.isPausing = false := by
  cases h with
  | begun | aborted | made | decided | cut | rested => exact absurd ht (by simp [Turn.rests])
  | failed hphase | ended hphase | lost hphase =>
      rw [hphase]
      rfl

/-! ## Along a course -/

@[simp] lemma pause_now (l : Link) : l.pause.now = l.now := rfl

@[simp] lemma lost_now (l : Link) (since : Int) : (l.lost since).now = l.now := by
  dsimp only [Link.lost]
  split_ifs <;> simp

@[simp] lemma afterClose_now (l : Link) (since : Int) (e : Ending) :
    (l.afterClose since e).now = l.now := by
  cases e with
  | lost => exact lost_now l since
  | verdict v =>
      cases v with
      | quit | restart => rfl
      | proceed | reconnect => exact attempt_now _

/-- Time does not run backwards. -/
lemma Step.now_le (h : Step l m t? l') : l.now ≤ l'.now := by
  cases h with
  | elapse ms => exact le_add_of_nonneg_right (Int.natCast_nonneg ms)
  | still | quit | reconnect | failed | made | obeyed | told => exact le_rfl
  | begun | aborted | cut | rested => exact (attempt_now _).ge
  | ended | lost => exact (lost_now l _).ge
  | decided => exact (afterClose_now l _ _).ge

/-- A rest lasts until its end, if nobody wishes anything. -/
lemma rest_lasts (hphase : l.phase = .pausing til) (hseen : l.unseen = false) (more : List Move)
    (hquiet : ∀ m ∈ more, m.isQuiet = true) (hnow : (l.course more).now < til) :
    (l.course more).phase = .pausing til ∧ (l.course more).unseen = false := by
  induction more using List.reverseRecOn with
  | nil => exact ⟨hphase, hseen⟩
  | append_singleton ms m ih =>
      -- time does not run backwards, so the end of the rest has not come before this move either
      rw [course_snoc] at hnow ⊢
      have hstep := (l.course ms).step m
      obtain ⟨hphase, hseen⟩ := ih (fun x hx => hquiet x (List.mem_append_left _ hx))
        (hstep.now_le.trans_lt hnow)
      have hm : m.isQuiet = true := hquiet m (by simp)
      generalize (l.course ms).move m = k at *
      generalize (l.course ms).turn? m = t? at *
      cases hstep with
      | still | elapse ms => exact ⟨hphase, hseen⟩
      | quit | reconnect => exact absurd hm (by simp [Move.isQuiet])
      | begun h | aborted h | failed h | made h | obeyed h | told h | ended h | lost h
      | decided h =>
          exact absurd (h.symm.trans hphase) (by simp)
      | cut h hunseen => exact absurd (hseen.symm.trans hunseen) (by simp)
      | rested h hdue =>
          obtain rfl := Phase.pausing.inj (h.symm.trans hphase)
          rw [attempt_now] at hnow
          omega

/-- A connection was made when the link says. -/
lemma Step.since? (h : Step l m t? l') (hsince : since ∈ l'.phase.since?) :
    if t? = some .made then since = l.now else since ∈ l.phase.since? := by
  cases h with
  | still | quit | reconnect | elapse ms => exact hsince
  | begun | aborted | cut | rested => exact absurd hsince (by simp [since?_attempt])
  | failed => exact absurd hsince (by simp [Link.pause, Phase.since?])
  | made => exact (Option.some.inj hsince).symm
  | obeyed h | told h =>
      rw [h]
      exact hsince
  | ended | lost => exact absurd hsince (by simp [since?_lost])
  | decided => exact absurd hsince (by simp [since?_afterClose])

/-- The link does not close a connection to proceed with it. -/
lemma Step.verdict (h : Step l m t? l')
    (hverdict : ∀ since, l.phase ≠ .closing since (.verdict .proceed)) (since : Int) :
    l'.phase ≠ .closing since (.verdict .proceed) := by
  have hnone {p : Phase} (hp : p.since? = none) : p ≠ .closing since (.verdict .proceed) := by
    rintro rfl
    exact absurd hp (by simp [Phase.since?])
  cases h with
  | still | quit | reconnect | elapse ms => exact hverdict since
  | begun | aborted | cut | rested => exact hnone (since?_attempt _)
  | failed | made => exact nofun
  | obeyed h =>
      by_cases hquit : l.wish = .quit <;> simp [close, hquit]
  | @told since' x e h he hx =>
      rintro heq
      obtain ⟨rfl, rfl⟩ := Phase.closing.inj heq
      exact absurd he x.ending?_ne_proceed
  | ended | lost => exact hnone (since?_lost _ _)
  | decided => exact hnone (since?_afterClose _ _ _)

/-- How a link agrees with what came about and with when connections were made. -/
structure Agrees (initial ceiling : Span) (l : Link) (ts : List Turn) (made : List Int) :
    Prop where
  pace : l.pace.After initial ceiling (streak initial ts)
  verdict : ∀ since, l.phase ≠ .closing since (.verdict .proceed)
  since : ∀ since ∈ l.phase.since?, made.getLast? = some since ∧ since ≤ l.now

namespace Agrees

lemma fresh (now : Int) (initial ceiling : Span) :
    Agrees initial ceiling (fresh now (.of initial ceiling)) [] [] :=
  ⟨.of initial ceiling, nofun, nofun⟩

lemma step {made : List Int} (h : Agrees initial ceiling l ts made) (hstep : Step l m t? l') :
    Agrees initial ceiling l' (ts ++ t?.toList)
      (made ++ if t? = some .made then [l.now] else []) where
  pace := (hstep.sequel h.pace h.verdict).after
  verdict := hstep.verdict h.verdict
  since := fun since hsince => by
    have hbefore := hstep.since? hsince
    have hnow := hstep.now_le
    split_ifs at hbefore ⊢
    · subst hbefore
      exact ⟨List.getLast?_concat, hnow⟩
    · rw [List.append_nil]
      exact (h.since since hbefore).imp_right hnow.trans'

lemma course (now : Int) (initial ceiling : Span) (ms : List Move) :
    Agrees initial ceiling ((Link.fresh now (.of initial ceiling)).course ms)
      ((Link.fresh now (.of initial ceiling)).turns ms)
      ((Link.fresh now (.of initial ceiling)).madeAt ms) := by
  induction ms using List.reverseRecOn with
  | nil => exact fresh now initial ceiling
  | append_singleton ms m ih =>
      rw [course_snoc, turns_snoc, madeAt, notes_snoc]
      exact ih.step (Link.step _ m)

end Agrees

/-- A connection that is gone without a verdict is as old as the link says. -/
lemma Step.age {age : ℕ} (h : Step l m (some (.lost age)) l') :
    ∃ since ∈ l.phase.since?, age = l.age since := by
  cases h with
  | @ended since h | @lost since h => exact ⟨since, by rw [h]; rfl, rfl⟩

/-- **The rests of a link keep the schedule.**  Along every course of a link, whatever the other
side does and whoever wishes what and when:

* a rest begins exactly when an attempt has failed, or when a connection is lost that has lasted
  for less than the first pause;
* it is as long as the schedule says after the rests since the schedule has started over;
* it ends by then, or with a wish, and not before: then the next attempt begins at once, as it does
  when an attempt is given up and when the schedule starts over;
* an attempt that is given up and a rest that is cut short leave the schedule alone;
* the age of a connection is the time since the last one was made. -/
theorem reconnect_schedule (now : Int) (initial ceiling : Span) (ms : List Move) (m : Move) :
    let l := (fresh now (.of initial ceiling)).course ms
    let ts := (fresh now (.of initial ceiling)).turns
    let j := streak initial (ts ms)
    (l.phase.isPausing = false ∧ (l.move m).phase.isPausing = true ↔
        ∃ t ∈ l.turn? m, t.rests initial = true) ∧
      ((∃ t ∈ l.turn? m, t.rests initial = true) → Rests initial ceiling j l (l.move m)) ∧
      (∀ til, l.phase = .pausing til → l.unseen = false → ∀ more, (∀ x ∈ more, x.isQuiet = true) →
        (l.course more).now < til → (l.course more).phase = .pausing til) ∧
      (∀ til, l.phase = .pausing til → l.unseen = true ∨ til ≤ l.now →
        ∃ t ∈ l.turn? .tick, t = .cut ∨ t = .rested) ∧
      (∀ t ∈ l.turn? m, t.goesOn initial = true → GoesOn l (l.move m)) ∧
      (∀ t ∈ l.turn? m, t = .aborted ∨ t = .cut → streak initial (ts (ms ++ [m])) = j) ∧
      (∀ age, l.turn? m = some (.lost age) → ∃ since ≤ l.now,
        ((fresh now (.of initial ceiling)).madeAt ms).getLast? = some since ∧
          age = (l.now - since).toNat) := by
  intro l ts j
  have hagrees : Agrees initial ceiling l (ts ms) _ := .course now initial ceiling ms
  have hstep : Step l m (l.turn? m) (l.move m) := l.step m
  have hsequel := hstep.sequel hagrees.pace hagrees.verdict
  refine ⟨⟨fun h => (hsequel.isPausing_iff h.1).mp h.2, fun h => ?_⟩, hsequel.rests,
    fun til hphase hseen more hquiet hnow => (rest_lasts hphase hseen more hquiet hnow).1,
    fun til hphase hends => ?_, fun t ht hgoes => ?_, fun t ht hcalm => ?_, fun age hage => ?_⟩
  · -- what makes for a rest does not come about in one
    have hbefore : l.phase.isPausing = false := by
      obtain ⟨t, ht, hrests⟩ := h
      rw [Option.mem_def.mp ht] at hstep
      exact hstep.isPausing_eq_false hrests
    exact ⟨hbefore, (hsequel.isPausing_iff hbefore).mpr h⟩
  · have hturn : l.turn? .tick = l.ownTurn? := rfl
    by_cases hseen : l.unseen = true
    · exact ⟨.cut, by simp [hturn, ownTurn?, hphase, hseen], .inl rfl⟩
    · have hdue := hends.resolve_left hseen
      exact ⟨.rested, by simp [hturn, ownTurn?, hphase, hseen, hdue], .inr rfl⟩
  · rw [Option.mem_def.mp ht] at hsequel
    exact hsequel.goesOn hgoes
  · have hsnoc : ts (ms ++ [m]) = ts ms ++ [t] := by
      simp only [ts, turns_snoc]
      rw [Option.mem_def.mp ht, Option.toList_some]
    rw [hsnoc, streak_snoc]
    rcases hcalm with rfl | rfl <;> rfl
  · rw [hage] at hstep
    obtain ⟨since, hsince, hage⟩ := hstep.age
    obtain ⟨hlast, hle⟩ := hagrees.since since hsince
    exact ⟨since, hle, hlast, hage⟩

/-- A rest ends at a point of the clock, so it can be longer than the schedule says.  It can be
shorter as well: the clock sets no alarm for a time as long as the longest span. -/
theorem rests_off_schedule :
    let brief : Span := ⟨500000, by decide⟩
    let longest : Span := ⟨18446744073709551615999999999, le_rfl⟩
    let rest (s : Span) := ((fresh 0 (.of s s)).course [.tick, .failed]).phase
    rest brief = .pausing 1 ∧ scheduled brief brief 0 < 1 * 1000000 ∧
      rest longest = .pausing 946080000000 ∧
      946080000000 * 1000000 < scheduled longest longest 0 := by
  exact ⟨by decide, by decide, by decide, by decide⟩

end Link

end HostAgent.Backhaul
