import HostAgent.Outbound.Pause
import HostAgent.Proofs.Fleet.Turns

/-!
# A fleet comes to rest

Couriers put requests back, signal each other and look again, and still every moment ends: an
action uses up work, and nothing but the clock or a producer brings new work.

* `work` — what is left to do at the present moment.  A request that is due is worth most, since
  it may be called at once, fail, return expired and wake another courier; one that is merely
  early is worth nothing, since nobody looks at it twice without a signal.
* `step_work_lt` — every action uses up work, because a request that failed rests for a second at
  least.
* `settle_awake` — hence the bound on the number of actions is never reached, and a fleet that was
  let go on is at rest.
-/

namespace HostAgent

open Outbound (Request)

/-! ## A rest is never empty -/

lemma Span.ceilMillis_seconds_pos {n : ℕ} (h : 0 < n) : 0 < (Span.seconds n).ceilMillis := by
  simp only [Span.ceilMillis, Span.seconds, Span.ofNanos, Span.limit]
  omega

lemma Outbound.pauseSeconds_pos (limit left : ℕ) : 0 < Outbound.pauseSeconds limit left := by
  unfold Outbound.pauseSeconds
  split_ifs
  · exact Nat.pow_pos Nat.zero_lt_two
  · decide

lemma Outbound.lt_pause_after (limit left : ℕ) (t : Int) :
    t < (Outbound.pause limit left).after t := by
  have h := Span.ceilMillis_seconds_pos (Outbound.pauseSeconds_pos limit left)
  simp only [Outbound.pause, Span.after]
  omega

/-- As long as its number of seconds fits the register, a rest is not cut. -/
lemma Outbound.pause_after {limit left : ℕ} (h : limit - left < 64) (t : Int) :
    (Outbound.pause limit left).after t = t + 1000 * 2 ^ (limit - left) := by
  have hpow : 2 ^ (limit - left) ≤ 2 ^ 63 := Nat.pow_le_pow_right Nat.zero_lt_two (by omega)
  have hmillis : (Span.seconds (2 ^ (limit - left))).ceilMillis = 1000 * 2 ^ (limit - left) := by
    simp only [Span.ceilMillis, Span.seconds, Span.ofNanos, Span.limit]
    omega
  have hseconds : Outbound.pauseSeconds limit left = 2 ^ (limit - left) := by
    rw [Outbound.pauseSeconds, if_pos h]
    rfl
  rw [Outbound.pause, hseconds, Span.after, hmillis]
  push_cast
  rfl

namespace Fleet

variable {carrier : Carrier} {f g : Fleet} {i : ℕ} {p : Phase} {r : Request} {others : List ℕ}

/-- A request that failed is not due at the moment of its failure. -/
lemma lt_retried_due (f : Fleet) (r : Request) : f.now < (f.retried r).due :=
  Outbound.lt_pause_after _ _ _

/-! ## The work that is left -/

/-- The work that a waiting request can make at a moment. -/
def entryWork (now : Int) (r : Request) : ℕ :=
  if r.isExpired now then 2 else if r.isDue now then 9 else 0

/-- The work that a courier can make at a moment, apart from the outbox. -/
def Phase.work (now : Int) : Phase → ℕ
  | .looking => 3
  | .holding r => entryWork now r + 2
  | .enlisting _ => 1
  | .reporting _ => 10
  | .parked | .guarding _ | .calling _ | .ended => 0

/-- The work that is left at the present moment, apart from that of the couriers. -/
def supply (f : Fleet) : ℕ :=
  (f.outbox.entries.map (entryWork f.now)).sum + 3 * f.gate.permit.toNat + f.awake.length

/-- The work that is left at the present moment. -/
def work (f : Fleet) : ℕ :=
  f.total (fun c => c.phase.work f.now) + f.supply

lemma entryWork_le (now : Int) (r : Request) : entryWork now r ≤ 9 := by
  unfold entryWork
  split_ifs <;> omega

lemma entryWork_of_early {now : Int} (h : r.isDue now = false) : entryWork now r ≤ 2 := by
  unfold entryWork
  simp only [h, Bool.false_eq_true, if_false]
  split_ifs <;> omega

lemma Phase.work_le (now : Int) (p : Phase) : p.work now ≤ 11 := by
  cases p with
  | holding r =>
      have := entryWork_le now r
      simp only [Phase.work]
      omega
  | _ => simp [Phase.work]

lemma sum_entryWork_place (now : Int) (r : Request) (es : List Request) :
    ((Outbox.place r es).map (entryWork now)).sum =
      entryWork now r + (es.map (entryWork now)).sum := by
  rw [((Outbox.place_perm r es).map _).sum_eq, List.map_cons, List.sum_cons]

lemma sum_entryWork_insert_le (b : Outbox) (now : Int) (r : Request) :
    (((b.insert r).2.entries).map (entryWork now)).sum
      ≤ entryWork now r + (b.entries.map (entryWork now)).sum := by
  rw [Outbox.insert_entries]
  split_ifs
  · exact (sum_entryWork_place now r b.entries).le
  · omega

lemma Phase.work_of_inLine (now : Int) (h : p.inLine = true) : p.work now = 0 := by
  cases p <;> simp_all [Phase.inLine, Phase.work]

/-- One courier goes over to another phase. -/
lemma work_of_change (hi : i < f.couriers.size) (hsize : g.couriers.size = f.couriers.size)
    (hphase : ∀ j, g.phase j = if j = i then p else f.phase j) (hn : g.now = f.now) :
    g.work + ((f.phase i).work f.now + f.supply) = f.work + (p.work f.now + g.supply) := by
  obtain ⟨rest, hf, hg⟩ := total_change hi hsize hphase (Phase.work f.now)
  rw [work, work, hn, hf, hg]
  omega

/-- An insertion makes the work of the request and that of the one who is woken. -/
lemma work_afterInsert_le (h : Sound f) (r : Request) :
    (f.afterInsert (f.outbox.insert r)).work ≤ f.work + entryWork f.now r + 4 := by
  have hins := sum_entryWork_insert_le f.outbox f.now r
  rcases f.afterInsert_cases (f.outbox.insert r) with ⟨-, heq⟩ | ⟨-, -, heq⟩ | ⟨j, line, -, hl, heq⟩
  · rw [heq]
    simp only [work, supply, total, courier]
    omega
  · rw [heq]
    simp only [work, supply, total, courier, Bool.toNat_true]
    omega
  · have hj : j ∈ f.gate.line := hl ▸ List.mem_cons_self
    have hlt := h.lt_of_mem_line hj
    rw [heq]
    have hw := work_of_change (g := { f with
      outbox := (f.outbox.insert r).2, gate := { f.gate with line } }.wake j .looking)
      hlt (size_modify _ _ _) (fun _ => phase_wake (f := { f with gate := _ }) hlt) rfl
    rw [Phase.work_of_inLine f.now ((h.mem_line j).mp hj)] at hw
    simp only [supply, wake, become, modify, Phase.work, List.length_append,
      List.length_singleton] at hw ⊢
    omega

/-! ## Every action uses up work -/

lemma now_afterInsert (f : Fleet) (done : Bool × Outbox) : (f.afterInsert done).now = f.now := by
  rcases f.afterInsert_cases done with ⟨-, heq⟩ | ⟨-, -, heq⟩ | ⟨j, line, -, -, heq⟩ <;> rw [heq]
  · rfl

lemma Act.now_eq (hact : Act carrier f i g) : g.now = f.now := by
  cases hact with
  | retry late took => exact now_afterInsert _ _
  | _ => rfl

lemma work_lt_of_change (hi : i < f.couriers.size) (hsize : g.couriers.size = f.couriers.size)
    (hphase : ∀ j, g.phase j = if j = i then p else f.phase j) (hn : g.now = f.now)
    (hlt : p.work f.now + g.supply < (f.phase i).work f.now + f.supply) : g.work < f.work := by
  have h := work_of_change hi hsize hphase hn
  omega

/-- **An action uses up work.** -/
theorem Act.work_lt (hact : Act carrier f i g) (h : Sound f) (ha : f.awake = i :: others) :
    g.work < f.work := by
  have hi : i ∈ f.awake := ha ▸ List.mem_cons_self
  have hlt := h.lt_of_mem_awake hi
  have hawake : f.awake.tail.length + 1 = f.awake.length := by simp [ha]
  cases hact with
  | stop hp hs =>
      refine work_lt_of_change hlt (size_modify _ _ _) (fun _ => phase_rest hlt) rfl ?_
      simp only [hp, Phase.work, supply, rest, modify]
      omega
  | @take r b hp hs ht =>
      refine work_lt_of_change hlt (size_modify _ _ _)
        (fun _ => phase_become (f := { f with outbox := b }) hlt) rfl ?_
      have he := Outbox.entries_of_take? ht
      simp only [hp, Phase.work, supply, become, modify, he, List.map_cons, List.sum_cons]
      omega
  | relook hp hs he hg =>
      simp only [work, supply, total, courier, hg, Bool.toNat_true, Bool.toNat_false]
      omega
  | park hp hs he hg =>
      refine work_lt_of_change hlt (size_modify _ _ _)
        (fun _ => phase_rest (f := { f with gate := _ }) hlt) rfl ?_
      simp only [hp, Phase.work, supply, rest, modify]
      omega
  | @lapse r hp hx =>
      refine work_lt_of_change hlt (by simp) (fun _ => phase_tally_become hlt Tally.ignored) rfl ?_
      simp only [hp, Phase.work, supply, become, modify, entryWork, hx, if_true]
      omega
  | @putBack r hp hx hd =>
      refine work_lt_of_change hlt (size_modify _ _ _)
        (fun _ => phase_become (f := { f with outbox := _ }) hlt) rfl ?_
      have hins := sum_entryWork_insert_le f.outbox f.now r
      have hr : entryWork f.now r = 0 := by simp [entryWork, hx, hd]
      simp only [hp, Phase.work, supply, become, modify]
      omega
  | @call r hp hx hd he =>
      refine work_lt_of_change hlt (size_modify _ _ _)
        (fun _ => phase_rest (f := { f with attempts := _ }) hlt) rfl ?_
      simp only [hp, Phase.work, supply, rest, modify]
      omega
  | @callAtOnce r hp hx hd he =>
      refine work_lt_of_change hlt (size_modify _ _ _)
        (fun _ => phase_become (f := { f with attempts := _ }) hlt) rfl ?_
      have hr : entryWork f.now r = 9 := by simp [entryWork, hx, hd]
      simp only [hp, Phase.work, supply, become, modify]
      omega
  | glance hp hg =>
      refine work_lt_of_change hlt (size_modify _ _ _)
        (fun _ => phase_become (f := { f with gate := _ }) hlt) rfl ?_
      simp only [hp, hg, Phase.work, supply, become, modify, Bool.toNat_true, Bool.toNat_false]
      omega
  | guard hp hg =>
      refine work_lt_of_change hlt (size_modify _ _ _)
        (fun _ => phase_rest (f := { f with gate := _ }) hlt) rfl ?_
      simp only [hp, Phase.work, supply, rest, modify]
      omega
  | succeed late took hp hc =>
      refine work_lt_of_change hlt (by simp)
        (fun _ => phase_tally_become hlt fun t => t.success late took) rfl ?_
      simp only [hp, Phase.work, supply, become, modify]
      omega
  | @retry c late took hp hc hr =>
      have hsound := (h.tally i fun t => t.failure late took).become (p := .looking) hi rfl
      have hearly : entryWork f.now (f.retried c.request) ≤ 2 :=
        entryWork_of_early (by simp [Request.isDue, lt_retried_due])
      -- the report alone brings its courier from ten to three
      have hturn := work_of_change
        (g := (f.modify i fun w => { w with tally := w.tally.failure late took }).become i .looking)
        hlt (by simp) (fun _ => phase_tally_become hlt fun t => t.failure late took) rfl
      have hsupply : ((f.modify i fun w => { w with tally := w.tally.failure late took }).become i
        .looking).supply = f.supply := rfl
      simp only [hp, Phase.work, hsupply] at hturn
      refine lt_of_le_of_lt (work_afterInsert_le hsound (f.retried c.request)) ?_
      change _ + entryWork f.now (f.retried c.request) + 4 < _
      omega
  | giveUp late took hp hc hr =>
      refine work_lt_of_change hlt (by simp)
        (fun _ => phase_tally_become hlt fun t => (t.failure late took).ignored) rfl ?_
      simp only [hp, Phase.work, supply, become, modify]
      omega

/-! ## Letting a fleet go on -/

lemma Sound.head_runs (h : Sound f) (ha : f.awake = i :: others) : (f.phase i).runs = true :=
  ((h.mem_awake i).mp (ha ▸ List.mem_cons_self)).2

lemma Sound.step (h : Sound f) (ha : f.awake = i :: others) : Sound (step carrier f) :=
  (step_act ha (h.head_runs ha)).sound h ha

lemma step_work_lt (h : Sound f) (ha : f.awake = i :: others) : (step carrier f).work < f.work :=
  (step_act ha (h.head_runs ha)).work_lt h ha

/-- As many actions as there is work bring a fleet to rest. -/
theorem stepMany_awake (h : Sound f) {n : ℕ} (hn : f.work ≤ n) :
    (stepMany carrier n f).awake = [] := by
  induction n generalizing f with
  | zero =>
      have hlen : f.awake.length ≤ f.work := by simp only [work, supply]; omega
      rw [stepMany]
      exact List.eq_nil_of_length_eq_zero (by omega)
  | succ n ih =>
      rw [stepMany]
      cases ha : f.awake with
      | nil => simp [ha]
      | cons i others =>
          have hlt : (step carrier f).work < f.work := step_work_lt h ha
          exact ih (h.step ha) (by omega)

/-- No couriers and no entries make more work than the bound on actions allows for. -/
lemma work_le_actionBound (h : Sound f) : f.work ≤ f.actionBound := by
  have htotal : f.total (fun c => c.phase.work f.now) ≤ f.couriers.size * 11 := by
    simpa [total] using Finset.sum_le_card_nsmul (Finset.range f.couriers.size) _ 11
      fun i _ => Phase.work_le f.now (f.courier i).phase
  have hentries : (f.outbox.entries.map (entryWork f.now)).sum ≤ f.outbox.entries.length * 9 := by
    have hle : ∀ w ∈ f.outbox.entries.map (entryWork f.now), w ≤ 9 := by
      simpa using fun r _ => entryWork_le f.now r
    simpa using List.sum_le_card_nsmul _ 9 hle
  have hawake : f.awake.length ≤ f.couriers.size := by
    have hsub : f.awake ⊆ List.range f.couriers.size := fun i hi =>
      List.mem_range.mpr (h.lt_of_mem_awake hi)
    simpa using (h.awake_nodup.subperm hsub).length_le
  have hpermit : f.gate.permit.toNat ≤ 1 := f.gate.permit.toNat_le
  simp only [work, supply, actionBound, Outbox.size]
  omega

/-- **A fleet that was let go on is at rest.** -/
theorem settle_awake (h : Sound f) : (settle carrier f).awake = [] :=
  stepMany_awake h (work_le_actionBound h)

end Fleet

end HostAgent
