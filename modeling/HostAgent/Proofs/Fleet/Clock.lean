import HostAgent.Proofs.Fleet.Motions
import HostAgent.Proofs.Fleet.Settling

/-!
# The clock

The clock of a fleet runs from alarm to alarm.

* `OnTime` — no waiting courier has overslept.  `Act.onTime` keeps it, and `onTime_strike` gives it
  back after the clock has run to the next alarm and the alarms that are due have rung.
* `Order`, `obey` — what is asked of a fleet from outside, in large steps: to let it go on, to let
  the clock run for a while, to shut it down.
* `obey_motions` — each of them is a run of motions in which couriers take turns and no alarm is
  passed over.  In particular the number of stops that the clock makes is always enough.
-/

namespace HostAgent.Fleet

open Outbound (Request)

variable {carrier : Carrier} {f g : Fleet} {i j : ℕ} {p : Phase} {r : Request} {t : Int}
  {others : List ℕ}

/-! ## What actions keep of the phases -/

/-- What a property of phases must have so that every action keeps it. -/
structure Kept (carrier : Carrier) (P : Int → Phase → Prop) : Prop where
  looking : ∀ now, P now .looking
  parked : ∀ now, P now .parked
  ended : ∀ now, P now .ended
  holding : ∀ now r, P now (.holding r)
  enlisting : ∀ now due, now < due → P now (.enlisting due)
  guarding : ∀ now due, P now (.enlisting due) → P now (.guarding due)
  calling : ∀ f r, f.now < (callFor carrier f r).endsAt → P f.now (.calling (callFor carrier f r))
  reporting : ∀ f r, (callFor carrier f r).endsAt ≤ f.now →
    P f.now (.reporting (callFor carrier f r))

variable {P : Int → Phase → Prop}

lemma forall_phase_change (h : ∀ j, P f.now (f.phase j))
    (hphase : ∀ j, g.phase j = if j = i then p else f.phase j) (hn : g.now = f.now)
    (hp : P f.now p) (j : ℕ) : P g.now (g.phase j) := by
  rw [hphase, hn]
  split_ifs
  · exact hp
  · exact h j

lemma forall_phase_afterInsert (hs : Sound f) (h : ∀ j, P f.now (f.phase j))
    (hlooking : P f.now .looking) (done : Bool × Outbox) (j : ℕ) :
    P (f.afterInsert done).now ((f.afterInsert done).phase j) := by
  rw [now_afterInsert]
  rcases hs.phase_afterInsert done j with hj | ⟨-, hj⟩ <;> rw [hj]
  · exact h j
  · exact hlooking

lemma forall_phase_stop (h : ∀ j, P f.now (f.phase j)) (hlooking : ∀ now, P now .looking) :
    ∀ j, P f.stop.now (f.stop.phase j) := by
  refine stop_induction (P := fun g => ∀ j, P g.now (g.phase j)) h fun g i hg hp => ?_
  have hi : i < g.couriers.size := lt_size_of_phase_ne fun hl => by simp [hl, Phase.inLine] at hp
  exact forall_phase_change hg (fun _ => phase_callUp hi) rfl (hlooking g.now)

lemma lt_of_isDue_false {now : Int} (h : r.isDue now = false) : now < r.due := by
  simpa [Request.isDue] using h

/-- **Actions keep such properties.** -/
theorem Act.forall_phase (hact : Act carrier f i g) (hP : Kept carrier P)
    (h : ∀ j, P f.now (f.phase j)) (hs : Sound f) (ha : f.awake = i :: others) (j : ℕ) :
    P g.now (g.phase j) := by
  have hi : i ∈ f.awake := ha ▸ List.mem_cons_self
  have hlt := hs.lt_of_mem_awake hi
  cases hact with
  | stop hp hstop => exact forall_phase_change h (fun _ => phase_rest hlt) rfl (hP.ended _) j
  | @take r b hp hstop ht =>
      exact forall_phase_change h (fun _ => phase_become (f := { f with outbox := b }) hlt) rfl
        (hP.holding _ r) j
  | relook => exact h j
  | park =>
      exact forall_phase_change h (fun _ => phase_rest (f := { f with gate := _ }) hlt) rfl
        (hP.parked _) j
  | lapse =>
      exact forall_phase_change h (fun _ => phase_tally_become hlt Tally.ignored) rfl
        (hP.looking _) j
  | putBack hp hx hd =>
      exact forall_phase_change h (fun _ => phase_become (f := { f with outbox := _ }) hlt) rfl
        (hP.enlisting _ _ (lt_of_isDue_false hd)) j
  | @call r hp hx hd he =>
      exact forall_phase_change h (fun _ => phase_rest (f := { f with attempts := _ }) hlt) rfl
        (hP.calling f r he) j
  | @callAtOnce r hp hx hd he =>
      exact forall_phase_change h (fun _ => phase_become (f := { f with attempts := _ }) hlt) rfl
        (hP.reporting f r he) j
  | glance =>
      exact forall_phase_change h (fun _ => phase_become (f := { f with gate := _ }) hlt) rfl
        (hP.looking _) j
  | guard hp hg =>
      have hdue := h i
      rw [hp] at hdue
      exact forall_phase_change h (fun _ => phase_rest (f := { f with gate := _ }) hlt) rfl
        (hP.guarding _ _ hdue) j
  | succeed late took =>
      exact forall_phase_change h (fun _ => phase_tally_become hlt fun t => t.success late took) rfl
        (hP.looking _) j
  | retry late took =>
      have hsound := (hs.tally i fun t => t.failure late took).become (p := .looking) hi rfl
      exact forall_phase_afterInsert hsound (forall_phase_change h
        (fun _ => phase_tally_become hlt fun t => t.failure late took) rfl (hP.looking _))
        (hP.looking _) _ j
  | giveUp late took =>
      exact forall_phase_change h
        (fun _ => phase_tally_become hlt fun t => (t.failure late took).ignored) rfl
        (hP.looking _) j

/-! ## Nobody oversleeps -/

/-- What a courier in this phase waits for lies ahead. -/
def Phase.isAhead (now : Int) : Phase → Prop
  | .enlisting due | .guarding due => now < due
  | .calling c => now < c.endsAt
  | _ => True

/-- No waiting courier has overslept. -/
def OnTime (f : Fleet) : Prop :=
  ∀ i, (f.phase i).isAhead f.now

/-- Whoever begins to wait waits for something ahead. -/
lemma kept_isAhead : Kept carrier fun now p => p.isAhead now where
  looking _ := trivial
  parked _ := trivial
  ended _ := trivial
  holding _ _ := trivial
  enlisting _ _ h := h
  guarding _ _ h := h
  calling _ _ h := h
  reporting _ _ _ := trivial

lemma OnTime.stop (h : OnTime f) : OnTime f.stop :=
  forall_phase_stop (P := fun now p => p.isAhead now) h fun _ => trivial

lemma OnTime.pop (h : OnTime f) : OnTime f.pop.2 := by
  unfold Fleet.pop
  split <;> exact h

/-- Sound, and nobody has overslept. -/
structure Steady (f : Fleet) : Prop where
  sound : Sound f
  onTime : OnTime f

lemma Steady.offer (h : Steady f) (r : Request) : Steady (f.offer r) :=
  ⟨h.sound.offer r, forall_phase_afterInsert (P := fun now p => p.isAhead now) h.sound h.onTime
    trivial _⟩

lemma Steady.step (h : Steady f) (ha : f.awake = i :: others) : Steady (step carrier f) :=
  ⟨h.sound.step ha,
    (step_act ha (h.sound.head_runs ha)).forall_phase kept_isAhead h.onTime h.sound ha⟩

lemma steady_start (b : Outbox) (workers : ℕ) (timeout : Span) :
    Steady (start b {} workers timeout) := by
  refine ⟨sound_start b workers timeout, fun i => ?_⟩
  rw [phase_start]
  trivial

/-! ## Alarms -/

lemma Phase.rung_rung (p : Phase) : p.rung.rung = p.rung := by
  cases p <;> rfl

lemma Phase.alarm?_rung (p : Phase) : p.rung.alarm? = none := by
  cases p <;> rfl

/-- Rings one courier after the other. -/
def ringEach (f : Fleet) (is : List ℕ) : Fleet :=
  is.foldl ring f

lemma phase_ringEach (f : Fleet) (is : List ℕ) (j : ℕ) :
    (f.ringEach is).phase j = if j ∈ is then (f.phase j).rung else f.phase j := by
  induction is generalizing f with
  | nil => rfl
  | cons i is ih =>
      rw [ringEach, List.foldl_cons, ← ringEach, ih, phase_ring]
      by_cases hj : j = i
      · subst hj
        simp [Phase.rung_rung]
      · simp [hj]

lemma mem_alarms {a : Int × ℕ × ℕ} :
    a ∈ f.alarms ↔ (f.phase a.2.2).alarm? = some a.1 ∧ a.2.1 = (f.courier a.2.2).waitNumber := by
  obtain ⟨t, w, i⟩ := a
  simp only [alarms, List.mem_filterMap, Prod.exists, List.mem_zipIdx_iff_getElem?,
    Option.map_eq_some_iff, Prod.mk.injEq, Array.getElem?_toList]
  constructor
  · rintro ⟨c, k, hk, s, hs, rfl, rfl, rfl⟩
    have hc : f.courier k = c := by simp [courier, hk]
    exact ⟨by rw [phase_eq, hc, hs], by rw [hc]⟩
  · rintro ⟨ht, rfl⟩
    have hi : i < f.couriers.size := lt_size_of_phase_ne fun hl => by simp [hl, Phase.alarm?] at ht
    exact ⟨f.courier i, i, by simp [courier, hi], t, ht, rfl, rfl, rfl⟩

/-- The earliest alarm is set, and no other is earlier. -/
lemma nextAlarm?_eq_some (h : f.nextAlarm? = some t) :
    (∃ i, (f.phase i).alarm? = some t) ∧ ∀ i a, (f.phase i).alarm? = some a → t ≤ a := by
  obtain ⟨hmem, hle⟩ := List.min?_eq_some_iff.mp h
  constructor
  · obtain ⟨a, ha, rfl⟩ := List.mem_map.mp hmem
    exact ⟨a.2.2, (mem_alarms.mp ha).1⟩
  · intro i a ha
    have hmem : (a, (f.courier i).waitNumber, i) ∈ f.alarms := mem_alarms.mpr ⟨ha, rfl⟩
    exact hle a (List.mem_map.mpr ⟨_, hmem, rfl⟩)

lemma nextAlarm?_eq_none (h : f.nextAlarm? = none) (i : ℕ) : (f.phase i).alarm? = none := by
  rw [nextAlarm?, List.min?_eq_none_iff, List.map_eq_nil_iff] at h
  cases ha : (f.phase i).alarm? with
  | none => rfl
  | some a =>
      have hmem : (a, (f.courier i).waitNumber, i) ∈ f.alarms := mem_alarms.mpr ⟨ha, rfl⟩
      simp [h] at hmem

/-- Those whose alarms are due, in the order in which they ring. -/
def overdue (f : Fleet) : List ℕ :=
  ((f.alarms.filter fun a => a.1 ≤ f.now).mergeSort
    fun a b => a.1 < b.1 || (a.1 == b.1 && a.2.1 ≤ b.2.1)).map (·.2.2)

lemma ringAll_eq (f : Fleet) : f.ringAll = f.ringEach f.overdue := by
  rw [ringAll, ringEach, overdue, List.foldl_map]

lemma mem_overdue : i ∈ f.overdue ↔ ∃ a, (f.phase i).alarm? = some a ∧ a ≤ f.now := by
  simp only [overdue, List.mem_map, List.mem_mergeSort, List.mem_filter, decide_eq_true_eq]
  constructor
  · rintro ⟨a, ⟨ha, hle⟩, rfl⟩
    exact ⟨a.1, (mem_alarms.mp ha).1, hle⟩
  · rintro ⟨a, ha, hle⟩
    exact ⟨(a, (f.courier i).waitNumber, i), ⟨mem_alarms.mpr ⟨ha, rfl⟩, hle⟩, rfl⟩

/-- The clock runs to a moment, and the alarms that are due then ring. -/
def strike (f : Fleet) (t : Int) : Fleet :=
  (f.later t).ringAll

lemma now_ringEach (f : Fleet) (is : List ℕ) : (f.ringEach is).now = f.now := by
  induction is generalizing f with
  | nil => rfl
  | cons i is ih =>
      rw [ringEach, List.foldl_cons, ← ringEach, ih, ring_eq]
      split <;> rfl

lemma now_strike (f : Fleet) (t : Int) : (f.strike t).now = max f.now t := by
  rw [strike, ringAll_eq, now_ringEach]
  rfl

lemma Sound.strike (h : Sound f) (t : Int) : Sound (f.strike t) := by
  rw [Fleet.strike, ringAll_eq]
  exact List.foldlRecOn _ Fleet.ring (h.later t) fun _ hf i _ => hf.ring i

/-- While nobody is awake nobody goes on by itself. -/
lemma Sound.not_runs (h : Sound f) (hawake : f.awake = []) (hi : i < f.couriers.size) :
    (f.phase i).runs = false :=
  Bool.eq_false_iff.mpr fun hr => by simpa [hawake] using (h.mem_awake i).mpr ⟨hi, hr⟩

/-- The same of every number: those who do not exist are about to look. -/
lemma Sound.idle (h : Sound f) (hawake : f.awake = []) (i : ℕ) :
    (f.phase i).runs = false ∨ f.phase i = .looking := by
  by_cases hi : i < f.couriers.size
  · exact Or.inl (h.not_runs hawake hi)
  · exact Or.inr (phase_of_size_le (not_lt.mp hi))

lemma Phase.isAhead_of_alarm {now : Int} (h : p.runs = false ∨ p = .looking)
    (ha : ∀ a, p.alarm? = some a → now < a) : p.isAhead now := by
  cases p <;> simp_all [Phase.isAhead, Phase.alarm?, Phase.runs]

lemma Phase.isAhead_rung {now : Int} (h : p.runs = false ∨ p = .looking) :
    p.rung.isAhead now := by
  cases p <;> simp_all [Phase.isAhead, Phase.rung, Phase.runs]

/-- Whoever would oversleep as the clock runs is called up by its alarm. -/
lemma onTime_strike (hs : Sound f) (hawake : f.awake = []) (t : Int) : OnTime (f.strike t) := by
  intro i
  have hidle : ((f.later t).phase i).runs = false ∨ (f.later t).phase i = .looking :=
    hs.idle hawake i
  rw [now_strike, strike, ringAll_eq, phase_ringEach]
  split_ifs with hd
  · exact Phase.isAhead_rung hidle
  · refine Phase.isAhead_of_alarm hidle fun a ha => ?_
    by_contra hle
    exact hd (mem_overdue.mpr ⟨a, ha, not_lt.mp hle⟩)

lemma Steady.strike (h : Steady f) (hawake : f.awake = []) (t : Int) : Steady (f.strike t) :=
  ⟨h.sound.strike t, onTime_strike h.sound hawake t⟩

/-- In a fleet in which nobody has overslept every alarm lies ahead. -/
lemma OnTime.lt_alarm {a : Int} (h : OnTime f) (ha : (f.phase i).alarm? = some a) : f.now < a := by
  have hi := h i
  cases hp : f.phase i <;> simp_all [Phase.alarm?, Phase.isAhead]

/-! ## Large steps -/

/-- What a fleet does by itself: its couriers act, the clock runs and alarms ring. -/
def Motion.isInner : Motion → Bool
  | .act _ | .pass _ | .ring _ => true
  | .offer _ | .pop | .stop => false

/-- A fleet comes from another by itself, while its couriers take turns and no alarm is passed
over. -/
def Goes (carrier : Carrier) (f g : Fleet) : Prop :=
  ∃ ms, (∀ m ∈ ms, m.isInner = true) ∧ Follows carrier Serial f ms ∧ run carrier f ms = g

lemma Goes.refl (f : Fleet) : Goes carrier f f :=
  ⟨[], by simp, trivial, rfl⟩

lemma Goes.trans {h : Fleet} (hfg : Goes carrier f g) (hgh : Goes carrier g h) :
    Goes carrier f h := by
  obtain ⟨ms, hin, hfol, rfl⟩ := hfg
  obtain ⟨ms', hin', hfol', rfl⟩ := hgh
  refine ⟨ms ++ ms', fun m hm => ?_, follows_append.mpr ⟨hfol, hfol'⟩, run_append ms ms'⟩
  exact (List.mem_append.mp hm).elim (hin m) (hin' m)

lemma Goes.of_motion {m : Motion} (hm : m.isInner = true) (hs : Serial f m) :
    Goes carrier f (move carrier f m) :=
  ⟨[m], by simpa using hm, ⟨hs, trivial⟩, rfl⟩

lemma goes_stepMany (n : ℕ) : Goes carrier f (stepMany carrier n f) := by
  induction n generalizing f with
  | zero => exact Goes.refl f
  | succ n ih =>
      rw [stepMany]
      cases ha : f.awake with
      | nil => exact Goes.refl f
      | cons i others =>
          have hhead : f.awake.head? = some i := by simp [ha]
          have hact : Goes carrier f (step carrier f) := by
            rw [← move_act_of_head hhead]
            exact Goes.of_motion rfl hhead
          exact hact.trans ih

lemma Steady.stepMany (h : Steady f) (n : ℕ) : Steady (stepMany carrier n f) := by
  induction n generalizing f with
  | zero => exact h
  | succ n ih =>
      rw [Fleet.stepMany]
      cases ha : f.awake with
      | nil => exact h
      | cons i others => exact ih (h.step ha)

/-- Ringing those whose alarms are due, one by one, rings nobody else. -/
lemma goes_ringEach (is : List ℕ)
    (h : ∀ i ∈ is, ∀ a, (f.phase i).alarm? = some a → a ≤ f.now) :
    Goes carrier f (f.ringEach is) := by
  induction is generalizing f with
  | nil => exact Goes.refl f
  | cons i is ih =>
      have hring : move carrier f (.ring i) = f.ring i := by
        cases ha : (f.phase i).alarm? with
        | none => simp [move, ha, ring_of_no_alarm ha]
        | some a => simp [move, ha, h i List.mem_cons_self a ha]
      have hgo : Goes carrier f (f.ring i) := hring ▸ Goes.of_motion rfl trivial
      refine hgo.trans (ih fun j hj a ha => ?_)
      have hnow : (f.ring i).now = f.now := now_ringEach f [i]
      rw [phase_ring] at ha
      rw [hnow]
      split_ifs at ha
      · simp [Phase.alarm?_rung] at ha
      · exact h j (List.mem_cons_of_mem i hj) a ha

/-- The clock runs to the next alarm. -/
lemma goes_strike (hawake : f.awake = []) (h : f.nextAlarm? = some t) :
    Goes carrier f (f.strike t) := by
  have hpass : Goes carrier f (f.later t) :=
    Goes.of_motion (m := .pass t) rfl ⟨hawake, (nextAlarm?_eq_some h).2⟩
  rw [strike, ringAll_eq]
  refine hpass.trans (goes_ringEach _ fun i hi a ha => ?_)
  obtain ⟨b, hb, hle⟩ := mem_overdue.mp hi
  rw [hb, Option.some.injEq] at ha
  exact ha ▸ hle

lemma now_stepMany (h : Sound f) (n : ℕ) : (stepMany carrier n f).now = f.now := by
  induction n generalizing f with
  | zero => rfl
  | succ n ih =>
      rw [Fleet.stepMany]
      cases ha : f.awake with
      | nil => rfl
      | cons i others => exact (ih (h.step ha)).trans (step_act ha (h.head_runs ha)).now_eq

/-- A fleet comes from another by itself and is at rest. -/
structure Settles (carrier : Carrier) (f g : Fleet) : Prop where
  goes : Goes carrier f g
  steady : Steady g
  awake : g.awake = []

lemma Settles.trans {h : Fleet} (hfg : Settles carrier f g) (hgh : Settles carrier g h) :
    Settles carrier f h :=
  ⟨hfg.goes.trans hgh.goes, hgh.steady, hgh.awake⟩

lemma settle_settles (carrier : Carrier) (h : Steady f) : Settles carrier f (settle carrier f) :=
  ⟨goes_stepMany _, h.stepMany _, settle_awake h.sound⟩

/-- The clock runs to the next alarm, and everybody goes on until they wait. -/
lemma strike_settles (carrier : Carrier) (h : Steady f) (hawake : f.awake = [])
    (hnext : f.nextAlarm? = some t) : Settles carrier f (settle carrier (f.strike t)) := by
  obtain ⟨hgoes, hsteady, hrest⟩ := settle_settles carrier (h.strike hawake t)
  exact ⟨(goes_strike hawake hnext).trans hgoes, hsteady, hrest⟩

/-- The clock runs to a moment before the next alarm. -/
lemma later_settles (h : Steady f) (hawake : f.awake = [])
    (hlt : ∀ i a, (f.phase i).alarm? = some a → t < a) : Settles carrier f (f.later t) where
  goes := Goes.of_motion (m := .pass t) rfl ⟨hawake, fun i a ha => (hlt i a ha).le⟩
  steady := by
    refine ⟨h.sound.later t, fun i => ?_⟩
    refine Phase.isAhead_of_alarm (h.sound.idle hawake i) fun a ha => ?_
    exact max_lt (h.onTime.lt_alarm ha) (hlt i a ha)
  awake := hawake

/-- The clock does not run past an alarm, however few stops it is given.  Every alarm lies a
millisecond ahead or more, so one stop for each millisecond is enough. -/
lemma runTo_settles (h : Steady f) (hawake : f.awake = []) {fuel : ℕ}
    (hfuel : (t - f.now).toNat < fuel) : Settles carrier f (runTo carrier t fuel f) := by
  induction fuel generalizing f with
  | zero => omega
  | succ fuel ih =>
      rw [runTo]
      cases hnext : f.nextAlarm? with
      | none =>
          refine later_settles h hawake fun i a ha => ?_
          rw [nextAlarm?_eq_none hnext i] at ha
          cases ha
      | some s =>
          obtain ⟨⟨i, hi⟩, hle⟩ := nextAlarm?_eq_some hnext
          have hs := h.onTime.lt_alarm hi
          change Settles carrier f (if s ≤ t then runTo carrier t fuel (settle carrier (f.strike s))
            else f.later t)
          split_ifs with hst
          · have hstop := strike_settles carrier h hawake hnext
            have hnow : (settle carrier (f.strike s)).now = s := by
              rw [settle, now_stepMany (h.sound.strike s), now_strike]
              omega
            exact hstop.trans (ih hstop.steady hstop.awake (by omega))
          · exact later_settles h hawake fun j a ha => lt_of_lt_of_le (not_le.mp hst) (hle j a ha)

/-- Letting the clock run for a while. -/
lemma advance_settles (h : Steady f) (ms : ℕ) : Settles carrier f (advance carrier f ms) := by
  have hs := settle_settles carrier h
  exact hs.trans (runTo_settles hs.steady hs.awake (by omega))

lemma finishCalls_settles (h : Steady f) (hawake : f.awake = []) (n : ℕ) :
    Settles carrier f (finishCalls carrier n f) := by
  induction n generalizing f with
  | zero => exact ⟨Goes.refl f, h, hawake⟩
  | succ n ih =>
      rw [finishCalls]
      cases hnext : f.nextAlarm? with
      | none => exact ⟨Goes.refl f, h, hawake⟩
      | some s =>
          have hstop := strike_settles carrier h hawake hnext
          exact hstop.trans (ih hstop.steady hstop.awake)

/-- Ending all calls after the order to stop. -/
lemma shutDown_settles (h : Steady f) : Settles carrier f.stop (shutDown carrier f) := by
  have hs := settle_settles carrier (Steady.mk h.sound.stop h.onTime.stop)
  exact hs.trans (finishCalls_settles hs.steady hs.awake _)

/-! ## Orders -/

/-- What may be asked of a fleet from outside. -/
inductive Order where
  | offer (r : Request)
  | settle
  | advance (ms : ℕ)
  | pop
  | shutDown

/-- Carries out an order. -/
def obey (carrier : Carrier) (f : Fleet) : Order → Fleet
  | .offer r => f.offer r
  | .settle => settle carrier f
  | .advance ms => advance carrier f ms
  | .pop => f.pop.2
  | .shutDown => shutDown carrier f

/-- The motions of an order that the fleet does not make by itself. -/
def Order.outer : Order → List Motion
  | .offer r => [.offer r]
  | .settle | .advance _ => []
  | .pop => [.pop]
  | .shutDown => [.stop]

lemma Steady.obey (h : Steady f) (o : Order) : Steady (obey carrier f o) := by
  cases o with
  | offer r => exact h.offer r
  | settle => exact (settle_settles _ h).steady
  | advance ms => exact (advance_settles h ms).steady
  | pop => exact ⟨h.sound.pop, h.onTime.pop⟩
  | shutDown => exact (shutDown_settles h).steady

/-- An order takes its motion from outside, and the rest is done by the fleet itself. -/
lemma obey_goes (carrier : Carrier) (h : Steady f) (o : Order) :
    Goes carrier (run carrier f o.outer) (obey carrier f o) := by
  cases o with
  | offer r => exact Goes.refl _
  | settle => exact (settle_settles _ h).goes
  | advance ms => exact (advance_settles h ms).goes
  | pop => exact Goes.refl _
  | shutDown => exact (shutDown_settles h).goes

lemma BetweenTurns.offer (h : BetweenTurns f) (hs : Sound f) (r : Request) :
    BetweenTurns (f.offer r) := by
  intro j
  rcases hs.phase_afterInsert (f.outbox.offer r) j with hj | ⟨-, hj⟩ <;> rw [Fleet.offer, hj]
  · exact h j
  · rfl

lemma Settles.betweenTurns (h : Settles carrier f g) : BetweenTurns g := by
  intro i
  rcases h.steady.sound.idle h.awake i with hi | hi
  · cases hp : g.phase i <;> simp_all [Phase.midTurn, Phase.runs]
  · rw [hi]
    rfl

lemma BetweenTurns.obey (h : BetweenTurns f) (hs : Steady f) (o : Order) :
    BetweenTurns (obey carrier f o) := by
  cases o with
  | offer r => exact h.offer hs.sound r
  | settle => exact (settle_settles _ hs).betweenTurns
  | advance ms => exact (advance_settles hs ms).betweenTurns
  | pop =>
      change BetweenTurns f.pop.2
      unfold Fleet.pop
      split <;> exact h
  | shutDown => exact (shutDown_settles hs).betweenTurns

lemma BetweenTurns.outer (h : BetweenTurns f) (o : Order) : Follows carrier Serial f o.outer := by
  cases o <;> first | exact ⟨h, trivial⟩ | trivial

lemma Order.outer_filter (o : Order) : o.outer.filter (!·.isInner) = o.outer := by
  cases o <;> rfl

/-- **Orders are runs.**  What a list of orders makes of a fleet, some list of motions makes of it
that keeps to the rule of a single thread and has the same motions from outside. -/
theorem obey_run (carrier : Carrier) (h : Steady f) (hb : BetweenTurns f) (os : List Order) :
    ∃ ms, Follows carrier Serial f ms ∧ run carrier f ms = os.foldl (obey carrier) f ∧
      ms.filter (!·.isInner) = os.flatMap Order.outer := by
  induction os generalizing f with
  | nil => exact ⟨[], trivial, rfl, rfl⟩
  | cons o os ih =>
      obtain ⟨ms, hin, hfol, hms⟩ := obey_goes carrier h o
      obtain ⟨ms', hfol', hms', hout⟩ := ih (h.obey o) (hb.obey h o)
      have hinner : ms.filter (!·.isInner) = [] := List.filter_eq_nil_iff.mpr (by simpa using hin)
      refine ⟨o.outer ++ (ms ++ ms'), ?_, ?_, ?_⟩
      · exact follows_append.mpr ⟨hb.outer o, follows_append.mpr ⟨hfol, hms ▸ hfol'⟩⟩
      · rw [run_append, run_append, hms]
        exact hms'
      · rw [List.filter_append, List.filter_append, o.outer_filter, hinner, hout]
        rfl

/-- **What orders make of a new fleet, a prompt run makes of it**, in which couriers take turns. -/
theorem orders_run (b : Outbox) (workers : ℕ) (timeout : Span) (os : List Order) :
    ∃ ms, Follows carrier Serial (start b {} workers timeout) ms ∧
      Follows carrier Prompt (start b {} workers timeout) ms ∧
      run carrier (start b {} workers timeout) ms =
        os.foldl (obey carrier) (start b {} workers timeout) ∧
      ms.filter (!·.isInner) = os.flatMap Order.outer := by
  have hbetween : BetweenTurns (start b {} workers timeout) := by
    intro i
    rw [phase_start]
    rfl
  obtain ⟨ms, hserial, hrun, houter⟩ :=
    obey_run carrier (steady_start b workers timeout) hbetween os
  exact ⟨ms, hserial, hserial.mono fun _ _ => Serial.prompt, hrun, houter⟩

end HostAgent.Fleet
