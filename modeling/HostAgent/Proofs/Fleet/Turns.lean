import HostAgent.Proofs.Fleet.Couriers
import HostAgent.Proofs.Outbox.Contents

/-!
# Turns

What a courier can do in one action, and who goes on and who waits after it.

* `Act` — one constructor for each branch of an action, with the conditions under which the branch
  is taken.  `step_act` says that an action is one of these.  All that is said about actions
  elsewhere is proved along its constructors.
* `Sound` — the lists of a fleet tell the truth about the phases: those in line are the ones that
  are parked or on guard, those awake are the ones that go on by themselves, and a permit lies at
  the gate only while nobody stands in line.
* `Act.sound`, `Sound.offer`, `Sound.ring`, `Sound.stop` — everything that can happen to a fleet
  keeps it sound.
-/

namespace HostAgent.Fleet

open Outbound (Request)

variable {carrier : Carrier} {f g : Fleet} {i j : ℕ} {p : Phase} {r : Request}

/-! ## The branches of an action -/

/-- **What the courier whose turn it is may do.** -/
inductive Act (carrier : Carrier) (f : Fleet) (i : ℕ) : Fleet → Prop where
  | stop (hp : f.phase i = .looking) (hs : f.stopping = true) :
      Act carrier f i (f.rest i .ended)
  | take {r : Request} {b : Outbox} (hp : f.phase i = .looking) (hs : f.stopping = false)
      (ht : f.outbox.take? = some (r, b)) :
      Act carrier f i ({ f with outbox := b }.become i (.holding r))
  | relook (hp : f.phase i = .looking) (hs : f.stopping = false)
      (he : f.outbox.entries = []) (hg : f.gate.permit = true) :
      Act carrier f i { f with gate := { f.gate with permit := false } }
  | park (hp : f.phase i = .looking) (hs : f.stopping = false)
      (he : f.outbox.entries = []) (hg : f.gate.permit = false) :
      Act carrier f i
        ({ f with gate := { f.gate with line := f.gate.line ++ [i] } }.rest i .parked)
  | lapse {r : Request} (hp : f.phase i = .holding r) (hx : r.isExpired f.now = true) :
      Act carrier f i
        ((f.modify i fun c => { c with tally := c.tally.ignored }).become i .looking)
  | putBack {r : Request} (hp : f.phase i = .holding r) (hx : r.isExpired f.now = false)
      (hd : r.isDue f.now = false) :
      Act carrier f i
        ({ f with outbox := (f.outbox.insert r).2 }.become i (.enlisting r.due))
  | call {r : Request} (hp : f.phase i = .holding r) (hx : r.isExpired f.now = false)
      (hd : r.isDue f.now = true) (he : f.now < (callFor carrier f r).endsAt) :
      Act carrier f i ({ f with attempts := attemptFor f r :: f.attempts }.rest i
        (.calling (callFor carrier f r)))
  | callAtOnce {r : Request} (hp : f.phase i = .holding r) (hx : r.isExpired f.now = false)
      (hd : r.isDue f.now = true) (he : (callFor carrier f r).endsAt ≤ f.now) :
      Act carrier f i ({ f with attempts := attemptFor f r :: f.attempts }.become i
        (.reporting (callFor carrier f r)))
  | glance {due : Int} (hp : f.phase i = .enlisting due) (hg : f.gate.permit = true) :
      Act carrier f i ({ f with gate := { f.gate with permit := false } }.become i .looking)
  | guard {due : Int} (hp : f.phase i = .enlisting due) (hg : f.gate.permit = false) :
      Act carrier f i
        ({ f with gate := { f.gate with line := f.gate.line ++ [i] } }.rest i (.guarding due))
  | succeed {c : Call} (late took : Span) (hp : f.phase i = .reporting c)
      (hc : c.succeeds = true) :
      Act carrier f i
        ((f.modify i fun w => { w with tally := w.tally.success late took }).become i .looking)
  | retry {c : Call} (late took : Span) (hp : f.phase i = .reporting c)
      (hc : c.succeeds = false) (hr : 0 < c.request.retriesLeft - 1) :
      Act carrier f i
        (((f.modify i fun w => { w with tally := w.tally.failure late took }).become i
          .looking).afterInsert (f.outbox.insert (f.retried c.request)))
  | giveUp {c : Call} (late took : Span) (hp : f.phase i = .reporting c)
      (hc : c.succeeds = false) (hr : c.request.retriesLeft - 1 = 0) :
      Act carrier f i
        ((f.modify i fun w => { w with
          tally := (w.tally.failure late took).ignored }).become i .looking)

lemma modify_modify (f : Fleet) (i : ℕ) (a b : Courier → Courier) :
    (f.modify i a).modify i b = f.modify i (b ∘ a) := by
  simp only [modify, Fleet.mk.injEq, true_and, and_true]
  exact Array.ext (by simp) fun j _ _ => by simp [Array.getElem_modify]; split_ifs <;> rfl

lemma arrive_of_permit (hg : f.gate.permit = true) :
    f.gate.arrive i = (true, { f.gate with permit := false }) := by
  simp [Gate.arrive, hg]

lemma arrive_of_no_permit (hg : f.gate.permit = false) :
    f.gate.arrive i = (false, { f.gate with line := f.gate.line ++ [i] }) := by
  simp [Gate.arrive, hg]

lemma look_act (hp : f.phase i = .looking) : Act carrier f i (f.look i) := by
  unfold look
  split_ifs with hs
  · exact .stop hp hs
  · rw [Bool.not_eq_true] at hs
    cases ht : f.outbox.take? with
    | some rb => exact .take hp hs ht
    | none =>
        have he := Outbox.take?_eq_none_iff.mp ht
        cases hg : f.gate.permit with
        | true =>
            rw [arrive_of_permit hg]
            exact .relook hp hs he hg
        | false =>
            rw [arrive_of_no_permit hg]
            exact .park hp hs he hg

lemma handle_act (hp : f.phase i = .holding r) : Act carrier f i (handle carrier f i r) := by
  unfold handle
  cases hx : r.isExpired f.now with
  | true => exact .lapse hp hx
  | false =>
      cases hd : r.isDue f.now with
      | false => exact .putBack hp hx hd
      | true =>
          simp only [Bool.not_true, Bool.false_eq_true, if_false]
          split_ifs with he
          · exact .callAtOnce hp hx hd he
          · exact .call hp hx hd (not_le.mp he)

lemma enlist_act {due : Int} (hp : f.phase i = .enlisting due) :
    Act carrier f i (f.enlist i due) := by
  unfold enlist
  cases hg : f.gate.permit with
  | true =>
      rw [arrive_of_permit hg]
      exact .glance hp hg
  | false =>
      rw [arrive_of_no_permit hg]
      exact .guard hp hg

lemma report_act {c : Call} (hp : f.phase i = .reporting c) :
    Act carrier f i (f.report i c) := by
  unfold report
  cases hc : c.succeeds with
  | true => exact .succeed _ _ hp hc
  | false =>
      simp only [Bool.false_eq_true, if_false]
      split_ifs with hr
      · exact .retry _ _ hp hc hr
      · rw [modify_modify]
        exact .giveUp _ _ hp hc (by omega)

/-- An action is one of the branches. -/
theorem step_act {others : List ℕ} (ha : f.awake = i :: others) (hr : (f.phase i).runs = true) :
    Act carrier f i (step carrier f) := by
  cases hp : f.phase i with
  | looking => simpa only [step, ha, hp] using look_act hp
  | holding r => simpa only [step, ha, hp] using handle_act hp
  | enlisting due => simpa only [step, ha, hp] using enlist_act hp
  | reporting c => simpa only [step, ha, hp] using report_act hp
  | parked => simp [hp, Phase.runs] at hr
  | guarding due => simp [hp, Phase.runs] at hr
  | calling c => simp [hp, Phase.runs] at hr
  | ended => simp [hp, Phase.runs] at hr

/-! ## Sound fleets -/

/-- Whether a courier in this phase stands in line. -/
def Phase.inLine : Phase → Bool
  | .parked | .guarding _ => true
  | _ => false

/-- Who is in line or awake is told by the phases alone. -/
structure Sound (f : Fleet) : Prop where
  line_nodup : f.gate.line.Nodup
  mem_line : ∀ i, i ∈ f.gate.line ↔ (f.phase i).inLine = true
  awake_nodup : f.awake.Nodup
  mem_awake : ∀ i, i ∈ f.awake ↔ i < f.couriers.size ∧ (f.phase i).runs = true
  line_of_permit : f.gate.permit = true → f.gate.line = []

lemma Sound.lt_of_mem_line (h : Sound f) (hi : i ∈ f.gate.line) : i < f.couriers.size := by
  have hp := (h.mem_line i).mp hi
  exact lt_size_of_phase_ne fun hl => by simp [hl, Phase.inLine] at hp

lemma Sound.lt_of_mem_awake (h : Sound f) (hi : i ∈ f.awake) : i < f.couriers.size :=
  ((h.mem_awake i).mp hi).1

lemma Phase.not_inLine_of_runs (h : p.runs = true) : p.inLine = false := by
  cases p <;> simp_all [Phase.runs, Phase.inLine]

/-- **One courier changes its phase.**  The fleet stays sound if the two lists change for this
courier as its new phase demands, and for nobody else. -/
lemma Sound.change (h : Sound f) (hi : i < f.couriers.size)
    (hsize : g.couriers.size = f.couriers.size)
    (hphase : ∀ j, g.phase j = if j = i then p else f.phase j)
    (hline : g.gate.line.Nodup ∧ (∀ j, j ∈ g.gate.line ↔ if j = i then p.inLine = true
      else j ∈ f.gate.line))
    (hawake : g.awake.Nodup ∧ (∀ j, j ∈ g.awake ↔ if j = i then p.runs = true
      else j ∈ f.awake))
    (hpermit : g.gate.permit = true → g.gate.line = []) : Sound g where
  line_nodup := hline.1
  mem_line j := by
    rw [hline.2, hphase]
    split_ifs
    · rfl
    · exact h.mem_line j
  awake_nodup := hawake.1
  mem_awake j := by
    rw [hawake.2, hphase, hsize]
    split_ifs with hj
    · simp [hj, hi]
    · exact h.mem_awake j
  line_of_permit := hpermit

/-- Soundness does not look at the outbox, the clock, the tallies or the attempts. -/
lemma Sound.congr (h : Sound f) (hgate : g.gate = f.gate) (hawake : g.awake = f.awake)
    (hsize : g.couriers.size = f.couriers.size) (hphase : ∀ j, g.phase j = f.phase j) :
    Sound g where
  line_nodup := hgate ▸ h.line_nodup
  mem_line j := by rw [hgate, hphase]; exact h.mem_line j
  awake_nodup := hawake ▸ h.awake_nodup
  mem_awake j := by rw [hawake, hsize, hphase]; exact h.mem_awake j
  line_of_permit := by rw [hgate]; exact h.line_of_permit

lemma Sound.tally (h : Sound f) (i : ℕ) (t : Tally → Tally) :
    Sound (f.modify i fun c => { c with tally := t c.tally }) :=
  h.congr rfl rfl (size_modify _ _ _) fun _ => phase_modify_tally i t

lemma Sound.not_mem_line_of_mem_awake (h : Sound f) (hi : i ∈ f.awake) : i ∉ f.gate.line := by
  rw [h.mem_line, Phase.not_inLine_of_runs ((h.mem_awake i).mp hi).2]
  exact Bool.false_ne_true

/-- A courier that goes on, goes on. -/
lemma Sound.become (h : Sound f) (hi : i ∈ f.awake) (hp : p.runs = true) :
    Sound (f.become i p) := by
  have hlt := h.lt_of_mem_awake hi
  have hnl := h.not_mem_line_of_mem_awake hi
  refine h.change hlt (size_modify _ _ _) (fun j => phase_become hlt) ⟨h.line_nodup, fun j => ?_⟩
    ⟨h.awake_nodup, fun j => ?_⟩ h.line_of_permit
  · split_ifs with hj
    · subst hj
      simp [Phase.not_inLine_of_runs hp, hnl, Fleet.become, Fleet.modify]
    · rfl
  · split_ifs with hj
    · subst hj
      simp [hp, hi, Fleet.become, Fleet.modify]
    · rfl

/-- A courier stops going on, outside the line. -/
lemma Sound.rest {others : List ℕ} (h : Sound f) (ha : f.awake = i :: others)
    (hr : p.runs = false) (hl : p.inLine = false) : Sound (f.rest i p) := by
  have hi : i ∈ f.awake := ha ▸ List.mem_cons_self
  have hlt := h.lt_of_mem_awake hi
  have hnl := h.not_mem_line_of_mem_awake hi
  have hnd := List.nodup_cons.mp (ha ▸ h.awake_nodup)
  refine h.change hlt (size_modify _ _ _) (fun j => phase_rest hlt) ⟨h.line_nodup, fun j => ?_⟩
    ⟨?_, fun j => ?_⟩ h.line_of_permit
  · split_ifs with hj
    · subst hj
      simp [hl, hnl, Fleet.rest, Fleet.modify]
    · rfl
  · simpa [Fleet.rest, ha] using hnd.2
  · split_ifs with hj
    · subst hj
      simp [hr, ha, hnd.1, Fleet.rest]
    · simp [Fleet.rest, ha, hj]

/-- A courier joins the line. -/
lemma Sound.joinLine {others : List ℕ} (h : Sound f) (ha : f.awake = i :: others)
    (hg : f.gate.permit = false) (hr : p.runs = false) (hl : p.inLine = true) :
    Sound ({ f with gate := { f.gate with line := f.gate.line ++ [i] } }.rest i p) := by
  have hi : i ∈ f.awake := ha ▸ List.mem_cons_self
  have hlt := h.lt_of_mem_awake hi
  have hnl := h.not_mem_line_of_mem_awake hi
  have hnd := List.nodup_cons.mp (ha ▸ h.awake_nodup)
  refine h.change hlt (size_modify _ _ _) (fun j => phase_rest (f := { f with gate := _ }) hlt)
    ⟨?_, fun j => ?_⟩ ⟨?_, fun j => ?_⟩ ?_
  · simpa [Fleet.rest, Fleet.modify, List.nodup_append, h.line_nodup] using
      fun a ha' => ne_of_mem_of_not_mem ha' hnl
  · split_ifs with hj
    · subst hj
      simp [hl, Fleet.rest, Fleet.modify]
    · simp [hj, Fleet.rest, Fleet.modify]
  · simpa [Fleet.rest, ha] using hnd.2
  · split_ifs with hj
    · subst hj
      simp [hr, ha, hnd.1, Fleet.rest]
    · simp [Fleet.rest, ha, hj]
  · simp [Fleet.rest, Fleet.modify, hg]

lemma Sound.takePermit (h : Sound f) :
    Sound { f with gate := { f.gate with permit := false } } where
  line_nodup := h.line_nodup
  mem_line := h.mem_line
  awake_nodup := h.awake_nodup
  mem_awake := h.mem_awake
  line_of_permit hg := absurd hg Bool.false_ne_true

/-- A courier that waits goes on, and is in line no longer. -/
lemma Sound.wake {l : List ℕ} (h : Sound f) (hi : i < f.couriers.size)
    (hw : (f.phase i).runs = false) (hp : p.runs = true) (hnd : l.Nodup)
    (hline : ∀ j, j ∈ l ↔ j ∈ f.gate.line ∧ j ≠ i) :
    Sound ({ f with gate := { f.gate with line := l } }.wake i p) := by
  have hna : i ∉ f.awake := fun ha => by simp [((h.mem_awake i).mp ha).2] at hw
  refine h.change hi (size_modify _ _ _) (fun j => phase_wake (f := { f with gate := _ }) hi)
    ⟨hnd, fun j => ?_⟩ ⟨?_, fun j => ?_⟩ fun hg => ?_
  · split_ifs with hj
    · subst hj
      simp [hline, Phase.not_inLine_of_runs hp, Fleet.wake, Fleet.become, Fleet.modify]
    · simp [hline, hj, Fleet.wake, Fleet.become, Fleet.modify]
  · simpa [Fleet.wake, List.nodup_append, h.awake_nodup] using
      fun a ha => ne_of_mem_of_not_mem ha hna
  · split_ifs with hj
    · subst hj
      simp [hp, Fleet.wake]
    · simp [hj, Fleet.wake]
  · refine List.eq_nil_iff_forall_not_mem.mpr fun j hj => ?_
    have := ((hline j).mp hj).1
    rw [h.line_of_permit hg] at this
    exact List.not_mem_nil this

/-- **What may follow an insertion.**  Without room nothing follows; with room a permit is left
behind or the first in line goes on. -/
lemma afterInsert_cases (f : Fleet) (done : Bool × Outbox) :
    (done.1 = false ∧ f.afterInsert done = { f with outbox := done.2 }) ∨
    (done.1 = true ∧ f.gate.line = [] ∧ f.afterInsert done
      = { f with outbox := done.2, gate := { f.gate with permit := true } }) ∨
    ∃ j line, done.1 = true ∧ f.gate.line = j :: line ∧ f.afterInsert done
      = { f with outbox := done.2, gate := { f.gate with line } }.wake j .looking := by
  unfold Fleet.afterInsert
  cases hd : done.1 with
  | false => exact Or.inl ⟨rfl, rfl⟩
  | true =>
      cases hl : f.gate.line with
      | nil => exact Or.inr (Or.inl ⟨rfl, rfl, by simp [Gate.signal, hl]⟩)
      | cons j line => exact Or.inr (Or.inr ⟨j, line, rfl, rfl, by simp [Gate.signal, hl]⟩)

lemma Phase.not_runs_of_inLine (h : p.inLine = true) : p.runs = false := by
  cases p <;> simp_all [Phase.runs, Phase.inLine]

/-- What follows an insertion keeps a fleet sound: the one who is woken was in line. -/
lemma Sound.afterInsert (h : Sound f) (done : Bool × Outbox) : Sound (f.afterInsert done) := by
  rcases f.afterInsert_cases done with ⟨-, heq⟩ | ⟨-, hl, heq⟩ | ⟨j, line, -, hl, heq⟩
  · rw [heq]
    exact h.congr rfl rfl rfl fun _ => rfl
  · rw [heq]
    exact { line_nodup := h.line_nodup, mem_line := h.mem_line, awake_nodup := h.awake_nodup,
            mem_awake := h.mem_awake, line_of_permit := fun _ => hl }
  · rw [heq]
    have hj : j ∈ f.gate.line := hl ▸ List.mem_cons_self
    have hnd := List.nodup_cons.mp (hl ▸ h.line_nodup)
    refine Sound.wake (f := { f with outbox := done.2 }) (h.congr rfl rfl rfl fun _ => rfl)
      (h.lt_of_mem_line hj) (Phase.not_runs_of_inLine ((h.mem_line j).mp hj)) rfl hnd.2 fun k => ?_
    simp only [hl, List.mem_cons]
    constructor
    · exact fun hk => ⟨Or.inr hk, ne_of_mem_of_not_mem hk hnd.1⟩
    · rintro ⟨rfl | hk, hne⟩
      · exact absurd rfl hne
      · exact hk

/-- An insertion changes the phase of the one who is woken. -/
lemma Sound.phase_afterInsert (h : Sound f) (done : Bool × Outbox) (j : ℕ) :
    (f.afterInsert done).phase j = f.phase j ∨
      (f.phase j).inLine = true ∧ (f.afterInsert done).phase j = .looking := by
  rcases f.afterInsert_cases done with ⟨-, heq⟩ | ⟨-, -, heq⟩ | ⟨k, line, -, hl, heq⟩
  · exact Or.inl (by rw [heq]; rfl)
  · exact Or.inl (by rw [heq]; rfl)
  · have hk : k ∈ f.gate.line := hl ▸ List.mem_cons_self
    have hphase := phase_wake (f := { f with outbox := done.2, gate := { f.gate with line } })
      (p := .looking) (j := j) (h.lt_of_mem_line hk)
    rw [heq, hphase]
    by_cases hj : j = k
    · subst hj
      exact Or.inr ⟨(h.mem_line j).mp hk, if_pos rfl⟩
    · exact Or.inl (if_neg hj)

lemma Sound.offer (h : Sound f) (r : Request) : Sound (f.offer r) :=
  h.afterInsert _

lemma Sound.pop (h : Sound f) : Sound f.pop.2 := by
  unfold Fleet.pop
  split
  · exact h.congr rfl rfl rfl fun _ => rfl
  · exact h

/-- Every branch of an action keeps a fleet sound. -/
theorem Act.sound {others : List ℕ} (hact : Act carrier f i g) (h : Sound f)
    (ha : f.awake = i :: others) : Sound g := by
  have hi : i ∈ f.awake := ha ▸ List.mem_cons_self
  cases hact with
  | stop => exact h.rest ha rfl rfl
  | @take r b =>
      have htaken : Sound { f with outbox := b } := h.congr rfl rfl rfl fun _ => rfl
      exact htaken.become hi rfl
  | relook => exact h.takePermit
  | park _ _ _ hg => exact h.joinLine ha hg rfl rfl
  | lapse => exact (h.tally i Tally.ignored).become hi rfl
  | putBack =>
      exact Sound.become (f := { f with outbox := _ }) (h.congr rfl rfl rfl fun _ => rfl) hi rfl
  | call =>
      exact Sound.rest (f := { f with attempts := _ }) (h.congr rfl rfl rfl fun _ => rfl) ha rfl rfl
  | callAtOnce =>
      exact Sound.become (f := { f with attempts := _ }) (h.congr rfl rfl rfl fun _ => rfl) hi rfl
  | glance => exact h.takePermit.become hi rfl
  | guard _ hg => exact h.joinLine ha hg rfl rfl
  | succeed late took => exact (h.tally i fun t => t.success late took).become hi rfl
  | retry late took =>
      exact ((h.tally i fun t => t.failure late took).become hi rfl).afterInsert _
  | giveUp late took => exact (h.tally i fun t => (t.failure late took).ignored).become hi rfl

/-! ## Alarms and the end -/

/-- A courier leaves the line and goes on. -/
def callUp (f : Fleet) (i : ℕ) : Fleet :=
  { f with gate := f.gate.leave (· == i) }.wake i .looking

lemma phase_callUp (hi : i < f.couriers.size) :
    (f.callUp i).phase j = if j = i then .looking else f.phase j :=
  phase_wake (f := { f with gate := _ }) hi

lemma Sound.callUp (h : Sound f) (hp : (f.phase i).inLine = true) : Sound (f.callUp i) := by
  have hi := (h.mem_line i).mpr hp
  refine h.wake (h.lt_of_mem_line hi) (Phase.not_runs_of_inLine hp) rfl
    (h.line_nodup.filter _) fun j => ?_
  simp [List.mem_filter]

/-- An alarm calls up a courier in line, ends a call, or has nobody to ring for. -/
lemma ring_eq (f : Fleet) (i : ℕ) :
    f.ring i = match f.phase i with
      | .guarding _ => f.callUp i
      | .calling c => f.wake i (.reporting c)
      | _ => f := rfl

/-- The phase of a courier after its alarm has rung. -/
def Phase.rung : Phase → Phase
  | .guarding _ => .looking
  | .calling c => .reporting c
  | p => p

lemma phase_ring (f : Fleet) (i j : ℕ) :
    (f.ring i).phase j = if j = i then (f.phase i).rung else f.phase j := by
  rw [ring_eq]
  have hlt (h : f.phase i ≠ .looking) := lt_size_of_phase_ne h
  cases hp : f.phase i with
  | guarding due => exact phase_callUp (hlt (by simp [hp]))
  | calling c => exact phase_wake (hlt (by simp [hp]))
  | _ => split_ifs with hj <;> simp [Phase.rung, hj, hp]

lemma ring_of_no_alarm (h : (f.phase i).alarm? = none) : f.ring i = f := by
  rw [ring_eq]
  cases hp : f.phase i <;> simp_all [Phase.alarm?]

lemma Sound.endCall {c : Call} (h : Sound f) (hp : f.phase i = .calling c) :
    Sound (f.wake i (.reporting c)) := by
  have hi : i < f.couriers.size := lt_size_of_phase_ne (by simp [hp])
  refine Sound.wake (l := f.gate.line) h hi (by simp [hp, Phase.runs]) rfl h.line_nodup
    fun j => ?_
  constructor
  · refine fun hj => ⟨hj, ?_⟩
    rintro rfl
    simp [h.mem_line, hp, Phase.inLine] at hj
  · exact And.left

lemma Sound.ring (h : Sound f) (i : ℕ) : Sound (f.ring i) := by
  rw [ring_eq]
  split
  · next hp => exact h.callUp (by simp [hp, Phase.inLine])
  · next hp => exact h.endCall hp
  · exact h

/-- What calling up those in line, one by one, keeps, the order to stop keeps. -/
theorem stop_induction {P : Fleet → Prop} (h : P { f with stopping := true })
    (hstep : ∀ f i, P f → (f.phase i).inLine = true → P (f.callUp i)) : P f.stop := by
  unfold Fleet.stop
  refine List.foldlRecOn (motive := P) _ _ h fun f hf i _ => ?_
  split
  · next hp => exact hstep f i hf (by simp [hp, Phase.inLine])
  · next hp => exact hstep f i hf (by simp [hp, Phase.inLine])
  · exact hf

lemma Sound.stop (h : Sound f) : Sound f.stop :=
  stop_induction (h.congr rfl rfl rfl fun _ => rfl) fun _ _ hf hp => hf.callUp hp

@[simp] lemma phase_start (b : Outbox) (gate : Gate ℕ) (workers : ℕ) (timeout : Span) (i : ℕ) :
    (start b gate workers timeout).phase i = .looking := by
  simp only [start, phase, Array.getElem?_replicate]
  split_ifs <;> rfl

/-- Couriers that begin are sound. -/
lemma sound_start (b : Outbox) (workers : ℕ) (timeout : Span) :
    Sound (start b {} workers timeout) := by
  exact { line_nodup := List.nodup_nil
          mem_line := fun i => by rw [phase_start]; simp [Phase.inLine, start]
          awake_nodup := List.nodup_range
          mem_awake := fun i => by rw [phase_start]; simp [Phase.runs, start]
          line_of_permit := fun _ => rfl }

end HostAgent.Fleet
