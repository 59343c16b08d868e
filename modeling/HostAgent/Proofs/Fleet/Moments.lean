import HostAgent.Proofs.Fleet.Horizon

/-!
# Every moment ends

While the clock stands still couriers act and alarms ring, in any order at all.  Each of these
motions uses up some of the load of the moment, so there are only so many of them, and when none is
left everybody waits for a later time.  No request is attempted twice in a moment, since one that
failed rests before it is due again.

* `Stirs` — the motions that can take place without the clock.
* `Outlook`, `Act.outlook` — what a courier that has acted may wait for.
* `Phase.late`, `load` — the work that is left at a moment, with that of the alarms that are due.
* `load_move_lt`, `stirs_length_le` — each such motion uses up load, so there are no more of them
  than the load allows.
* `Phase.Settled`, `stuck_iff_settled`, `exists_stuck` — when no motion is left everybody is
  settled, and that point can always be reached.
* `parked_since` — a courier that is parked has found the outbox empty.
* `Spaced`, `Spaced.trade` — all attempts on a request that waits are older than its due time.
* `moments_end` — all of this, for every reachable fleet.
-/

namespace HostAgent.Fleet

open Outbound (Request)

variable {carrier : Carrier} {f g : Fleet} {i j : ℕ} {p : Phase} {r : Request} {m : Motion}
  {ms : List Motion} {others : List ℕ} {es : List Event} {out new rest : Multiset Item}
  {came future : Multiset ℕ}

/-! ## Motions without the clock -/

/-- The motions that can take place while the clock stands still and nobody interferes: a courier
that is awake acts, or an alarm that is due rings. -/
def Stirs (f : Fleet) : Motion → Prop
  | .act i => i ∈ f.awake
  | .ring i => ∃ a ∈ (f.phase i).alarm?, a ≤ f.now
  | .offer _ | .pass _ | .pop | .stop => False

instance (f : Fleet) : ∀ m, Decidable (f.Stirs m)
  | .act i => inferInstanceAs (Decidable (i ∈ f.awake))
  | .ring i => inferInstanceAs (Decidable (∃ a ∈ (f.phase i).alarm?, a ≤ f.now))
  | .offer _ | .pass _ | .pop | .stop => isFalse id

/-- The work that the alarm of a courier in this phase makes if it is due: the courier goes on, or
one that is about to wait for it does so soon. -/
def Phase.late (now : Int) : Phase → ℕ
  | .enlisting due | .guarding due => if due ≤ now then 5 else 0
  | .calling c => if c.endsAt ≤ now then 12 else 0
  | _ => 0

/-- The work that is left at a moment, if nobody waits for anything that is due. -/
def load (f : Fleet) : ℕ :=
  f.work + f.total fun c => c.phase.late f.now

/-! ## What a courier that has acted waits for -/

/-- **What a courier that has acted may wait for.** -/
inductive Outlook (f g : Fleet) (i : ℕ) : Prop where
  /-- It goes on or has stopped, or waits for something ahead. -/
  | free (hlate : (g.phase i).late f.now = 0) (hp : g.phase i ≠ .parked)
  /-- It has found the outbox empty. -/
  | parked (hp : g.phase i = .parked) (he : g.outbox.entries = [])
  /-- It waits for what it was about to wait for. -/
  | guards (due : Int) (hp : f.phase i = .enlisting due) (hg : g.phase i = .guarding due)

lemma Outlook.of_phase (hp : g.phase i = p) (hlate : p.late f.now = 0) (hne : p ≠ .parked) :
    Outlook f g i :=
  .free (hp ▸ hlate) (hp ▸ hne)

lemma Act.outlook (hact : Act carrier f i g) (hs : Sound f) (ha : f.awake = i :: others) :
    Outlook f g i := by
  have hi : i ∈ f.awake := ha ▸ List.mem_cons_self
  have hlt := hs.lt_of_mem_awake hi
  cases hact with
  | stop => exact .of_phase ((phase_rest hlt).trans (if_pos rfl)) rfl nofun
  | take =>
      exact .of_phase ((phase_become (f := { f with outbox := _ }) hlt).trans (if_pos rfl)) rfl
        nofun
  | relook hp => exact .of_phase hp rfl nofun
  | park hp hstop he =>
      exact .parked ((phase_rest (f := { f with gate := _ }) hlt).trans (if_pos rfl)) he
  | lapse =>
      exact .of_phase ((phase_tally_become hlt Tally.ignored).trans (if_pos rfl)) rfl nofun
  | putBack hp hx hd =>
      exact .of_phase ((phase_become (f := { f with outbox := _ }) hlt).trans (if_pos rfl))
        (if_neg (not_le.mpr (lt_of_isDue_false hd))) nofun
  | call hp hx hd he =>
      exact .of_phase ((phase_rest (f := { f with attempts := _ }) hlt).trans (if_pos rfl))
        (if_neg (not_le.mpr he)) nofun
  | callAtOnce =>
      exact .of_phase ((phase_become (f := { f with attempts := _ }) hlt).trans (if_pos rfl)) rfl
        nofun
  | glance =>
      exact .of_phase ((phase_become (f := { f with gate := _ }) hlt).trans (if_pos rfl)) rfl nofun
  | @guard due hp =>
      exact .guards due hp ((phase_rest (f := { f with gate := _ }) hlt).trans (if_pos rfl))
  | succeed late took =>
      exact .of_phase ((phase_tally_become hlt fun t => t.success late took).trans (if_pos rfl))
        rfl nofun
  | @retry c late took =>
      have hcounted := (phase_tally_become (p := .looking) (j := i) hlt
        fun t => t.failure late took).trans (if_pos rfl)
      have hbegun := (hs.tally i fun t => t.failure late took).become (p := .looking) hi rfl
      rcases hbegun.phase_afterInsert (f.outbox.insert (f.retried c.request)) i with h | ⟨-, h⟩
      · exact .of_phase (h.trans hcounted) rfl nofun
      · exact .of_phase h rfl nofun
  | giveUp late took =>
      exact .of_phase ((phase_tally_become hlt fun t => (t.failure late took).ignored).trans
        (if_pos rfl)) rfl nofun

/-! ## Load -/

/-- An action makes nobody late. -/
lemma Act.late_le (hact : Act carrier f i g) (hs : Sound f) (ha : f.awake = i :: others) (j : ℕ) :
    (g.phase j).late f.now ≤ (f.phase j).late f.now := by
  by_cases hj : j = i
  · subst hj
    cases hact.outlook hs ha with
    | free hlate hp => exact hlate.trans_le (Nat.zero_le _)
    | parked hp he =>
        rw [hp]
        exact Nat.zero_le _
    | guards due hp hg =>
        rw [hp, hg]
        exact le_refl _
  · rcases hact.phase_of_ne hs ha hj with h | ⟨-, h⟩ <;> rw [h]
    exact Nat.zero_le _

lemma size_afterInsert (f : Fleet) (done : Bool × Outbox) :
    (f.afterInsert done).couriers.size = f.couriers.size := by
  rcases f.afterInsert_cases done with ⟨-, heq⟩ | ⟨-, -, heq⟩ | ⟨j, line, -, -, heq⟩ <;> rw [heq]
  · exact size_become _ _ _

lemma Act.size_eq (hact : Act carrier f i g) : g.couriers.size = f.couriers.size := by
  cases hact with
  | retry late took => simp [size_afterInsert]
  | relook => rfl
  | stop => exact size_rest _ _ _
  | park | call | guard => exact size_rest { f with .. } _ _
  | take | putBack | callAtOnce | glance => exact size_become { f with .. } _ _
  | lapse | succeed | giveUp => simp

/-- An action uses up load: its work, and it makes nobody late. -/
lemma Act.load_lt (hact : Act carrier f i g) (hs : Sound f) (ha : f.awake = i :: others) :
    g.load < f.load := by
  have hlate : g.total (fun c => c.phase.late g.now) ≤ f.total fun c => c.phase.late f.now := by
    rw [total, total, hact.size_eq, hact.now_eq]
    exact Finset.sum_le_sum fun j _ => hact.late_le hs ha j
  exact add_lt_add_of_lt_of_le (hact.work_lt hs ha) hlate

lemma load_first (hi : i ∈ f.awake) : (f.first i).load = f.load := by
  have hlen : (f.first i).awake.length = f.awake.length := (List.perm_cons_erase hi).length_eq.symm
  simp only [load, work, supply, hlen]
  rfl

lemma size_ring (f : Fleet) (i : ℕ) : (f.ring i).couriers.size = f.couriers.size := by
  rw [ring_eq]
  split <;> simp [callUp, wake]

/-- An alarm that is due uses up load: that which it had, since it was late. -/
lemma load_ring_lt {a : Int} (ha : (f.phase i).alarm? = some a) (hdue : a ≤ f.now) :
    (f.ring i).load < f.load := by
  have hi : i < f.couriers.size := lt_size_of_phase_ne fun hp => by simp [hp, Phase.alarm?] at ha
  have hnow : (f.ring i).now = f.now := now_ringEach f [i]
  have hwork := work_of_change hi (size_ring f i) (phase_ring f i) hnow
  obtain ⟨rest, hbefore, hafter⟩ :=
    total_change hi (size_ring f i) (phase_ring f i) (Phase.late f.now)
  have hsupply : (f.ring i).supply = f.supply + 1 := by
    rw [ring_eq]
    cases hp : f.phase i with
    | guarding due => simp [supply, callUp, wake, become, modify, Gate.leave, add_assoc]
    | calling c => simp [supply, wake, become, modify, add_assoc]
    | _ => simp [hp, Phase.alarm?] at ha
  rw [load, load, hnow, hbefore, hafter]
  cases hp : f.phase i with
  | guarding due =>
      obtain rfl : due = a := by simpa [hp, Phase.alarm?] using ha
      simp only [hp, Phase.rung, Phase.late, Phase.work, if_pos hdue] at hwork ⊢
      omega
  | calling c =>
      obtain rfl : c.endsAt = a := by simpa [hp, Phase.alarm?] using ha
      simp only [hp, Phase.rung, Phase.late, Phase.work, if_pos hdue] at hwork ⊢
      omega
  | _ => simp [hp, Phase.alarm?] at ha

lemma move_ring {a : Int} (ha : (f.phase i).alarm? = some a) (hdue : a ≤ f.now) :
    move carrier f (.ring i) = f.ring i := by
  simp [move, ha, hdue]

/-- **Every motion without the clock uses up load.** -/
theorem load_move_lt (carrier : Carrier) (hs : Sound f) (hm : Stirs f m) :
    (move carrier f m).load < f.load := by
  cases m with
  | act i =>
      have hi : i ∈ f.awake := hm
      rw [move, if_pos hi, ← load_first hi]
      exact (hs.act hi).load_lt (hs.first hi) rfl
  | ring i =>
      obtain ⟨a, ha, hdue⟩ := hm
      rw [move_ring ha hdue]
      exact load_ring_lt ha hdue
  | _ => exact hm.elim

lemma now_stirs (carrier : Carrier) (hs : Sound f) (hm : Stirs f m) :
    (move carrier f m).now = f.now := by
  rcases now_move carrier hs m with h | ⟨t, rfl, -⟩
  · exact h
  · exact hm.elim

/-- There are no more motions without the clock than the load allows. -/
theorem stirs_length_le (hs : Sound f) (hms : Follows carrier Stirs f ms) :
    ms.length + (run carrier f ms).load ≤ f.load ∧ (run carrier f ms).now = f.now := by
  induction ms generalizing f with
  | nil => exact ⟨by simp, rfl⟩
  | cons m ms ih =>
      obtain ⟨hm, hms⟩ := hms
      obtain ⟨hlen, hnow⟩ := ih (hs.move m) hms
      have hlt := load_move_lt carrier hs hm
      rw [run_cons, List.length_cons]
      exact ⟨by omega, hnow.trans (now_stirs carrier hs hm)⟩

lemma Phase.late_le (now : Int) (p : Phase) : p.late now ≤ 12 := by
  cases p with
  | enlisting due | guarding due | calling c =>
      rw [Phase.late]
      split_ifs <;> omega
  | _ => exact Nat.zero_le _

/-- No couriers and no entries make more load than a multiple of their number. -/
lemma load_le (hs : Sound f) : f.load ≤ f.actionBound + 12 * f.couriers.size := by
  have hwork := work_le_actionBound hs
  have hlate : f.total (fun c => c.phase.late f.now) ≤ f.couriers.size * 12 := by
    simpa [total] using Finset.sum_le_card_nsmul (Finset.range f.couriers.size) _ 12
      fun i _ => Phase.late_le f.now (f.courier i).phase
  rw [load]
  omega

/-! ## When no motion is left -/

/-- Whether a courier in this phase waits for something that is still to come, or has stopped. -/
def Phase.Settled (now : Int) : Phase → Prop
  | .parked | .ended => True
  | .guarding due => now < due
  | .calling c => now < c.endsAt
  | _ => False

instance (now : Int) : ∀ p, Decidable (Phase.Settled now p)
  | .parked | .ended => isTrue trivial
  | .guarding due => inferInstanceAs (Decidable (now < due))
  | .calling c => inferInstanceAs (Decidable (now < c.endsAt))
  | .looking | .holding _ | .enlisting _ | .reporting _ => isFalse id

lemma Phase.settled_iff {now : Int} :
    p.Settled now ↔ p.runs = false ∧ ∀ a ∈ p.alarm?, now < a := by
  cases p <;> simp [Phase.Settled, Phase.runs, Phase.alarm?]

/-- **When no motion is left everybody is settled.** -/
theorem stuck_iff_settled (hs : Sound f) :
    (∀ m, ¬ f.Stirs m) ↔ ∀ i < f.couriers.size, (f.phase i).Settled f.now := by
  constructor
  · intro h i hi
    refine Phase.settled_iff.mpr ⟨Bool.eq_false_iff.mpr fun hr => ?_, fun a ha => ?_⟩
    · exact h (.act i) ((hs.mem_awake i).mpr ⟨hi, hr⟩)
    · by_contra hdue
      exact h (.ring i) ⟨a, ha, not_lt.mp hdue⟩
  · intro h m hm
    cases m with
    | act i =>
        obtain ⟨hi, hr⟩ := (hs.mem_awake i).mp hm
        exact Bool.false_ne_true ((Phase.settled_iff.mp (h i hi)).1.symm.trans hr)
    | ring i =>
        obtain ⟨a, ha, hdue⟩ := hm
        have hi : i < f.couriers.size := lt_size_of_phase_ne fun hp => by
          simp [hp, Phase.alarm?] at ha
        exact absurd ((Phase.settled_iff.mp (h i hi)).2 a ha) (not_lt.mpr hdue)
    | _ => exact hm.elim

/-- **A moment can always come to its end.** -/
theorem exists_stuck (carrier : Carrier) (hs : Sound f) :
    ∃ ms, Follows carrier Stirs f ms ∧ ∀ m, ¬ (run carrier f ms).Stirs m := by
  induction hload : f.load using Nat.strong_induction_on generalizing f with
  | _ n ih =>
      by_cases hstuck : ∀ m, ¬ f.Stirs m
      · exact ⟨[], trivial, hstuck⟩
      · obtain ⟨m, hm⟩ := not_forall_not.mp hstuck
        obtain ⟨ms, hms, hend⟩ := ih _ (hload ▸ load_move_lt carrier hs hm) (hs.move m) rfl
        exact ⟨m :: ms, ⟨hm, hms⟩, hend⟩

/-! ## Who is parked -/

/-- Whoever begins to be parked has found the outbox empty. -/
lemma entries_of_parked (carrier : Carrier) (hs : Sound f) (hp : f.phase i ≠ .parked)
    (hmoved : (move carrier f m).phase i = .parked) :
    (move carrier f m).outbox.entries = [] := by
  have hnever {q : Phase} (h : q = f.phase i ∨ q = .looking) (hq : q = .parked) : False := by
    rcases h with h | h
    · exact hp (h.symm.trans hq)
    · simp [h] at hq
  cases m with
  | offer r =>
      exact (hnever ((hs.phase_afterInsert (f.outbox.offer r) i).imp_right And.right) hmoved).elim
  | act j =>
      rw [move] at hmoved ⊢
      split_ifs at hmoved ⊢ with hj
      · by_cases hji : i = j
        · subst hji
          cases (hs.act hj).outlook (hs.first hj) rfl with
          | free hlate hne => exact absurd hmoved hne
          | parked hparked he => exact he
          | guards due hdue hg => simp [hg] at hmoved
        · exact (hnever (((hs.act hj).phase_of_ne (hs.first hj) rfl hji).imp_right And.right)
            hmoved).elim
      · exact absurd hmoved hp
  | pass t => exact absurd hmoved hp
  | ring j =>
      rw [move] at hmoved
      split_ifs at hmoved
      · rw [phase_ring] at hmoved
        split_ifs at hmoved with hij
        · subst hij
          cases hq : f.phase i <;> simp_all [Phase.rung]
        · exact absurd hmoved hp
      · exact absurd hmoved hp
  | pop =>
      rw [move, pop] at hmoved
      cases ht : f.outbox.take? <;> rw [ht] at hmoved <;> exact absurd hmoved hp
  | stop =>
      refine (hnever (stop_induction (P := fun g => g.phase i = f.phase i ∨ g.phase i = .looking)
        (.inl rfl) fun g k hg hk => ?_) hmoved).elim
      have hlt : k < g.couriers.size :=
        lt_size_of_phase_ne fun hl => by simp [hl, Phase.inLine] at hk
      rw [phase_callUp hlt]
      split_ifs
      · exact .inr rfl
      · exact hg

/-- **A courier that is parked has found the outbox empty** and has been parked ever since. -/
theorem parked_since (hs : Sound f) (hp : f.phase i ≠ .parked)
    (hparked : (run carrier f ms).phase i = .parked) :
    ∃ before after, ms = before ++ after ∧ (run carrier f before).outbox.entries = [] ∧
      ∀ during, during <+: after → (run carrier f (before ++ during)).phase i = .parked := by
  induction ms using List.reverseRecOn with
  | nil => exact absurd hparked hp
  | append_singleton ms m ih =>
      by_cases hbefore : (run carrier f ms).phase i = .parked
      · obtain ⟨before, after, rfl, he, hsince⟩ := ih hbefore
        refine ⟨before, after ++ [m], by rw [List.append_assoc], he, fun during hduring => ?_⟩
        rcases List.prefix_concat_iff.mp hduring with rfl | hduring
        · rw [← List.append_assoc]
          exact hparked
        · exact hsince during hduring
      · rw [run_snoc] at hparked
        refine ⟨ms ++ [m], [], (List.append_nil _).symm, ?_, fun during hduring => ?_⟩
        · rw [run_snoc]
          exact entries_of_parked carrier (hs.run ms) hbefore hparked
        · rw [List.prefix_nil.mp hduring, List.append_nil, run_snoc]
          exact hparked

/-! ## Attempts on one request -/

/-- The requests that a fleet holds and those that are still to be offered are different ones, and
all attempts on a request that waits are older than its due time. -/
structure Spaced (f : Fleet) (future : Multiset ℕ) : Prop where
  apart : (f.items.map Item.id + future).Nodup
  known : ∀ t ∈ f.attempts, t.request.id ∉ future
  begun : Begun f
  early : ∀ r, .waiting r ∈ f.items → ∀ t ∈ f.attempts, t.request.id = r.id → t.time < r.due
  once : f.attempts.Pairwise fun t u => t.request.id = u.request.id → u.time < t.time

/-- **A trade keeps the attempts apart.**  A request is attempted when it is due and so later than
before, and when it is due again lies ahead. -/
theorem Spaced.trade (h : Spaced f (came + future)) (htrade : Trade carrier f es out new)
    (hf : f.items = out + rest) (hg : g.items = new + rest)
    (hattempts : g.attempts = (es.filterMap Event.attempt?).reverse ++ f.attempts)
    (hnow : f.now ≤ g.now) (hcame : arrivals es ≤ came) : Spaced g future := by
  have hbalance := htrade.balance
  obtain ⟨hapart, hknown, hbegun, hearly, honce⟩ := h
  have hbegun' : ∀ t ∈ f.attempts, t.time ≤ g.now := fun t ht => (hbegun t ht).trans hnow
  have hknown' : ∀ t ∈ f.attempts, t.request.id ∉ future := fun t ht hfuture =>
    hknown t ht (Multiset.mem_add.mpr (.inr hfuture))
  have hapart' : (g.items.map Item.id + future).Nodup := by
    refine Multiset.nodup_of_le ?_ hapart
    calc g.items.map Item.id + future
        ≤ (new.map Item.id + departures es) + rest.map Item.id + future := by
          rw [hg, Multiset.map_add]
          gcongr
          exact le_self_add
      _ ≤ (came + out.map Item.id) + rest.map Item.id + future := by
          rw [← hbalance]
          gcongr
      _ = f.items.map Item.id + (came + future) := by
          rw [hf, Multiset.map_add]
          abel
  -- what is neither new nor attempted now is as before
  have hkept (hnone : es.filterMap Event.attempt? = [])
      (hnew : ∀ r, .waiting r ∈ new → ∀ t ∈ f.attempts, t.request.id = r.id → t.time < r.due) :
      Spaced g future := by
    rw [hnone, List.reverse_nil, List.nil_append] at hattempts
    refine ⟨hapart', hattempts ▸ hknown', fun t ht => hbegun' t (hattempts ▸ ht), ?_,
      hattempts ▸ honce⟩
    rw [hattempts]
    intro r hr
    rw [hg, Multiset.mem_add] at hr
    exact hr.elim (hnew r) fun hr => hearly r (hf ▸ Multiset.mem_add.mpr (.inr hr))
  cases htrade with
  | accept r hroom =>
      refine hkept rfl fun q hq t ht hid => absurd ?_ (hknown t ht)
      obtain rfl : q = f.outbox.stamp r := by simpa using hq
      have hmem : (f.outbox.stamp r).id ∈ came :=
        Multiset.mem_of_le hcame (by simp [arrivals, Event.arrival?])
      rw [hid]
      exact Multiset.mem_add.mpr (.inl hmem)
  | @requeue c k hp hc hr hroom =>
      refine hkept rfl fun q hq t ht hid => ?_
      obtain rfl : q = f.retried c.request := by simpa using hq
      exact (hbegun t ht).trans_lt (lt_retried_due f c.request)
  | @call r hx hd =>
      have hattempt : g.attempts = attemptFor f r :: f.attempts := by
        rw [hattempts]
        rfl
      have hdue : r.due ≤ f.now := by simpa [Request.isDue] using hd
      have hwaits : .waiting r ∈ f.items := by simp [hf]
      -- nobody else holds a request of that number, and none is to be offered
      rw [hf, Multiset.map_add, Multiset.map_singleton, add_assoc, Multiset.singleton_add,
        Multiset.nodup_cons] at hapart
      have hother := hapart.1
      rw [Multiset.mem_add, Multiset.mem_add, not_or, not_or] at hother
      refine ⟨hapart', ?_, ?_, ?_, ?_⟩ <;> simp only [Begun, hattempt]
      · exact List.forall_mem_cons.mpr ⟨hother.2.2, hknown'⟩
      · exact List.forall_mem_cons.mpr ⟨hnow, hbegun'⟩
      · intro q hq
        have hq' : .waiting q ∈ rest := by simpa [hg] using hq
        refine List.forall_mem_cons.mpr ⟨fun hid => absurd ?_ hother.1, ?_⟩
        · exact Multiset.mem_map.mpr ⟨.waiting q, hq', hid.symm⟩
        · exact hearly q (hf ▸ Multiset.mem_add.mpr (.inr hq'))
      · refine List.pairwise_cons.mpr ⟨fun u hu hid => ?_, honce⟩
        exact (hearly r hwaits u hu hid.symm).trans_le hdue
  | _ => exact hkept rfl (by simp)

lemma Spaced.move (carrier : Carrier) (h : Spaced f (offered [m] + future)) (hs : Sound f) :
    Spaced (move carrier f m) future := by
  obtain ⟨out, new, rest, htrade, hf, hg⟩ := move_trades carrier hs m
  refine h.trade htrade hf hg (attempts_move hs m) (now_le_move carrier hs m) ?_
  rw [← comings_news carrier f m]
  exact arrivals_le_comings _

/-- **Every run keeps the attempts on a request apart.** -/
theorem Spaced.run (carrier : Carrier) (h : Spaced f (offered ms + future)) (hs : Sound f) :
    Spaced (run carrier f ms) future := by
  induction ms generalizing f with
  | nil => simpa [offered] using h
  | cons m ms ih =>
      rw [← List.singleton_append, offered_append, add_assoc] at h
      exact ih (h.move carrier hs) (hs.move m)

/-! ## Every reachable fleet -/

/-- Couriers that begin are sound, also if a permit lies at the gate. -/
lemma sound_start_permit (b : Outbox) (permit : Bool) (workers : ℕ) (timeout : Span) :
    Sound (start b { permit := permit } workers timeout) :=
  have h := sound_start b workers timeout
  { line_nodup := h.line_nodup, mem_line := h.mem_line, awake_nodup := h.awake_nodup,
    mem_awake := h.mem_awake, line_of_permit := fun _ => rfl }

/-- At first a fleet holds what its outbox holds. -/
lemma items_of_start (b : Outbox) (gate : Gate ℕ) (workers : ℕ) (timeout : Span) :
    (start b gate workers timeout).items = stored b := by
  have htotal : (start b gate workers timeout).total (fun c => c.phase.items) = 0 :=
    Finset.sum_eq_zero fun i _ => congrArg Phase.items (phase_start b gate workers timeout i)
  rw [items, htotal, add_zero]
  rfl

/-- A fleet is measured at first if its outbox holds no requests with more than sixty-one attempts
used up. -/
lemma measured_start {b : Outbox} (gate : Gate ℕ) (workers : ℕ) (timeout : Span)
    (hb : ∀ e ∈ b.entries, b.retryLimit ≤ e.retriesLeft + 61) :
    Measured (start b gate workers timeout) where
  now := le_rfl
  items := by
    rw [items_of_start, stored]
    simpa using fun e he => .inl (hb e he)
  called := by
    rw [items_of_start, stored]
    simp

lemma spaced_start (b : Outbox) (gate : Gate ℕ) (workers : ℕ) (timeout : Span)
    (hapart : ((b.entries.map (·.id) : Multiset ℕ) + future).Nodup) :
    Spaced (start b gate workers timeout) future where
  apart := by
    have hids : (stored b).map Item.id = (b.entries.map (·.id) : Multiset ℕ) := by
      simp [stored, Function.comp_def, Item.id]
    rw [items_of_start, hids]
    exact hapart
  known := by simp [start]
  begun := by simp [Begun, start]
  early := by simp [start]
  once := List.Pairwise.nil

/-- Nothing comes in while nobody interferes. -/
lemma offered_of_stirs (hms : Follows carrier Stirs f ms) : offered ms = 0 := by
  induction ms generalizing f with
  | nil => rfl
  | cons m ms ih =>
      have hm : offered [m] = 0 := by
        cases m with
        | offer r => exact hms.1.elim
        | _ => rfl
      rw [← List.singleton_append, offered_append, hm, ih hms.2, add_zero]

/-- **Every moment ends, and in it no request is attempted twice.**  Take any state that couriers
can come to, with any requests and any permit to begin with, and let them act and due alarms ring
in any order while the clock stands still.  There are only so many motions of this kind.  As long as
one is left they go on, and when none is left, each courier is parked, or waits for a later time or
for the end of a call, or has stopped.  That point is reached sooner or later.  Whoever is parked
has found the outbox empty; what came in since then is for others to see to.  And if all requests
are different ones, the attempts on each are at different times.  In the first quarter of the time
of the clock nothing is due behind its end, unless a request had more than sixty-one of its attempts
used up to begin with. -/
theorem moments_end (carrier : Carrier) (b : Outbox) (permit : Bool) (workers : ℕ) (timeout : Span)
    (ms stirs : List Motion) :
    let f₀ := start b { permit := permit } workers timeout
    let f := run carrier f₀ ms
    let g := run carrier f stirs
    Follows carrier Stirs f stirs →
      stirs.length ≤ f.actionBound + 12 * f.couriers.size ∧ g.now = f.now ∧
      ((∀ m, ¬ g.Stirs m) ↔ ∀ i < g.couriers.size, (g.phase i).Settled g.now) ∧
      (∃ more, Follows carrier Stirs g more ∧ ∀ m, ¬ (run carrier g more).Stirs m) ∧
      (∀ i, g.phase i = .parked → ∃ before after, ms ++ stirs = before ++ after ∧
        (run carrier f₀ before).outbox.entries = [] ∧
        ∀ during, during <+: after → (run carrier f₀ (before ++ during)).phase i = .parked) ∧
      (((b.entries.map (·.id) : Multiset ℕ) + offered ms).Nodup →
        g.attempts.Pairwise fun t u => t.request.id = u.request.id → u.time < t.time) ∧
      ((∀ e ∈ b.entries, b.retryLimit ≤ e.retriesLeft + 61) → g.now < 1000 * 2 ^ 61 →
        OnClock g) := by
  intro f₀ f g hstirs
  have hs₀ : Sound f₀ := sound_start_permit b permit workers timeout
  have hs : Sound f := hs₀.run ms
  have hsg : Sound g := hs.run stirs
  have hrun : g = run carrier f₀ (ms ++ stirs) := (run_append ms stirs).symm
  obtain ⟨hlen, hnow⟩ := stirs_length_le hs hstirs
  have hload := load_le hs
  refine ⟨by omega, hnow, stuck_iff_settled hsg, exists_stuck carrier hsg, fun i hi => ?_,
    fun hapart => ?_, fun hb => ?_⟩
  · exact parked_since hs₀ (by simp [f₀]) (hrun ▸ hi)
  · have hoffered : offered (ms ++ stirs) + 0 = offered ms := by
      rw [offered_append, offered_of_stirs hstirs, add_zero, add_zero]
    have hspaced : Spaced f₀ (offered (ms ++ stirs) + 0) :=
      hoffered.symm ▸ spaced_start b _ workers timeout hapart
    rw [hrun]
    exact (hspaced.run carrier hs₀).once
  · rw [hrun]
    exact ((measured_start _ workers timeout hb).run carrier hs₀ _).onClock

/-- Two couriers act in turn: each calls, puts its request back when the call has failed, and looks
again; one of them finds the permit. -/
def hasty : List Motion :=
  [.act 1, .act 0, .act 1, .act 0, .act 1, .act 0, .act 1, .act 0, .act 1, .act 0, .act 1, .act 0,
    .act 1, .act 1, .act 1]

/-- Two requests that are due, no patience, and a carrier that fails at once: each request is
attempted once, and then both couriers wait for two seconds. -/
theorem moments_end_hasty :
    let carrier : Carrier := fun _ _ => { status := 500 }
    let offers : List Motion :=
      [.offer { id := 1, path := "/a", due := 0 }, .offer { id := 2, path := "/b", due := 0 }]
    let f := run carrier (start (.empty 10 5) { permit := true } 2 (.seconds 0)) offers
    let g := run carrier f hasty
    (∀ m, ¬ g.Stirs m) ∧ (∀ i < 2, (g.phase i).alarm? = some 2000) ∧
      g.attempts.map (·.time) = [0, 0] ∧
      g.attempts.Pairwise fun t u => t.request.id = u.request.id → u.time < t.time := by
  intro carrier offers f g
  have hstirs : Follows carrier Stirs f hasty := by decide +kernel
  have hids : ((([] : List Request).map (·.id) : Multiset ℕ) + offered offers).Nodup := by decide
  obtain ⟨-, -, hstuck, -, -, honce, -⟩ :=
    moments_end carrier (.empty 10 5) true 2 (.seconds 0) offers hasty hstirs
  exact ⟨hstuck.mpr (by decide +kernel), by decide +kernel, by decide +kernel, honce hids⟩

end HostAgent.Fleet
