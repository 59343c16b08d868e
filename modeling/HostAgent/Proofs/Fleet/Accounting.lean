import HostAgent.Proofs.Fleet.Attempts

/-!
# The books of a fleet balance

Whenever everybody waits, the requests that producers have offered are in the outbox or in calls, or
they went one of four ways, of which the fleet counts three.  No request is in two of these places.
The calls that have begun are those that succeeded, those that failed, and those under way.

* `Exit`, `exits` — the ways to go, and the requests that went each of them.
* `offered_eq` — at any moment the requests that were offered are those that are held and those
  that went.
* `card_exits` — the counters of the history count the exits.
* `Act.begun`, `begun_run` — every call that has begun is counted, or is still open.
* `Tally.combine_totals` — the totals of a fleet are those of its couriers together.
* `books_balance` — the balance of every run whenever everybody waits.
-/

namespace HostAgent.Fleet

open Outbound (Request)

variable {carrier : Carrier} {f g : Fleet} {i : ℕ} {p q : Phase} {m : Motion} {others : List ℕ}

/-! ## Where requests go -/

/-- The ways in which a request can go. -/
inductive Exit where
  /-- A call with it succeeded. -/
  | delivered
  /-- It was expired, or its last call failed. -/
  | ignored
  /-- It met a full outbox. -/
  | dropped
  /-- Somebody else took it. -/
  | popped
  deriving DecidableEq

/-- How a request went with an event, and its number. -/
def Event.exit? : Event → Option (Exit × ℕ)
  | .ended c _ => if c.succeeds then some (.delivered, c.request.id) else none
  | .lapsed r _ => some (.ignored, r.id)
  | .spent c => some (.ignored, c.request.id)
  | .refused r | .lost _ r => some (.dropped, r.id)
  | .taken r => some (.popped, r.id)
  | .accepted _ | .began _ _ => none

/-- The numbers of the requests that went one way. -/
def exits (log : List Event) (x : Exit) : Multiset ℕ :=
  ((log.filterMap Event.exit?).filter (·.1 = x)).map (·.2)

lemma exits_append (es es' : List Event) (x : Exit) :
    exits (es ++ es') x = exits es x + exits es' x := by
  simp [exits]

/-- A request with which a producer came but that did not come in has met a full outbox. -/
lemma comings_add_departures (log : List Event) : comings log + departures log =
    arrivals log + (exits log .delivered + exits log .ignored + exits log .dropped
      + exits log .popped) := by
  induction log with
  | nil => rfl
  | cons e log ih =>
      have hevent : comings [e] + departures [e] = arrivals [e] + (exits [e] .delivered
          + exits [e] .ignored + exits [e] .dropped + exits [e] .popped) := by
        cases e with
        | ended c t => cases hc : c.succeeds <;>
            simp [comings, departures, arrivals, exits, List.filterMap_cons, Event.coming?,
              Event.departure?, Event.arrival?, Event.exit?, hc]
        | _ => rfl
      rw [← List.singleton_append, comings_append, departures_append, arrivals_append,
        exits_append, exits_append, exits_append, exits_append]
      calc comings [e] + comings log + (departures [e] + departures log)
          = (comings [e] + departures [e]) + (comings log + departures log) := by abel
        _ = _ := by
            rw [hevent, ih]
            abel

/-- **The requests that were offered are those that are held and those that went.** -/
theorem offered_eq (hs : Sound f) (hempty : f.items = 0) (ms : List Motion) :
    let log := chronicle carrier f ms
    offered ms = exits log .delivered + exits log .ignored + exits log .dropped
      + exits log .popped + (run carrier f ms).items.map Item.id := by
  intro log
  have hcustody : arrivals log = _ := custody hs hempty ms
  have hlog := comings_add_departures log
  rw [comings_chronicle, hcustody] at hlog
  refine add_right_cancel (b := departures log) (hlog.trans ?_)
  abel

/-- The counters of the history count the exits. -/
lemma card_exits (log : List Event) :
    (Multiset.card (exits log .delivered), Multiset.card (exits log .ignored))
        = (log.map Event.score).sum ∧
      Multiset.card (exits log .dropped) = (log.map Event.refusals).sum := by
  induction log with
  | nil => exact ⟨rfl, rfl⟩
  | cons e log ih =>
      have hevent : (Multiset.card (exits [e] .delivered), Multiset.card (exits [e] .ignored))
            = e.score ∧ Multiset.card (exits [e] .dropped) = e.refusals := by
        cases e with
        | ended c t => cases hc : c.succeeds <;>
            simp [exits, Event.exit?, Event.score, Event.refusals, hc]
        | _ => exact ⟨rfl, rfl⟩
      rw [← List.singleton_append, exits_append, exits_append, exits_append, Multiset.card_add,
        Multiset.card_add, Multiset.card_add, ← Prod.mk_add_mk, hevent.1, hevent.2, ih.1, ih.2]
      simp

/-! ## The totals of a fleet -/

/-- A total adds up. -/
lemma Tally.foldl_add (w : Tally → ℕ) (hw : ∀ a b, w (a.add b) = w a + w b) (ts : List Tally)
    (t : Tally) : w (ts.foldl Tally.add t) = w t + (ts.map w).sum := by
  induction ts generalizing t with
  | nil => rfl
  | cons t' ts ih => rw [List.foldl_cons, ih, hw, List.map_cons, List.sum_cons, Nat.add_assoc]

/-- The totals of a fleet are those of its couriers together. -/
lemma Tally.combine_totals (ts : List Tally) :
    (Tally.combine ts).successTotal = (ts.map (·.successTotal)).sum ∧
      (Tally.combine ts).failureTotal = (ts.map (·.failureTotal)).sum ∧
      (Tally.combine ts).ignoredTotal = (ts.map (·.ignoredTotal)).sum := by
  cases ts with
  | nil => exact ⟨rfl, rfl, rfl⟩
  | cons t ts =>
      have hadd (w : Tally → ℕ) (hw : ∀ a b, w (a.add b) = w a + w b) (h0 : w {} = 0) :
          w ((t :: ts).foldl Tally.add {}) = ((t :: ts).map w).sum := by
        rw [Tally.foldl_add w hw, h0, Nat.zero_add]
      exact ⟨hadd (·.successTotal) (fun _ _ => rfl) rfl,
        hadd (·.failureTotal) (fun _ _ => rfl) rfl, hadd (·.ignoredTotal) (fun _ _ => rfl) rfl⟩

/-! ## Calls that have begun -/

/-- The calls that a courier in this phase has not yet reported. -/
def Phase.openCalls : Phase → ℕ
  | .calling _ | .reporting _ => 1
  | _ => 0

/-- The calls that a courier has begun: those that it has counted, and the open one. -/
def Courier.begun (c : Courier) : ℕ :=
  c.tally.successTotal + c.tally.failureTotal + c.phase.openCalls

lemma Phase.openCalls_of_inLine (h : p.inLine = true) : p.openCalls = 0 := by
  cases p <;> simp_all [Phase.inLine, Phase.openCalls]

/-- One courier goes on, and the others have begun what they had. -/
lemma begun_modify (hi : i < f.couriers.size) (a : Courier → Courier) {d : ℕ}
    (h : (a (f.courier i)).begun = (f.courier i).begun + d) :
    (f.modify i a).total Courier.begun = f.total Courier.begun + d := by
  obtain ⟨rest, hf, hg⟩ := total_modify hi a Courier.begun
  rw [hg, hf, h, Nat.add_right_comm]

lemma begun_become (hi : i < f.couriers.size) {d : ℕ} (hq : f.phase i = q)
    (h : p.openCalls = q.openCalls + d) :
    (f.become i p).total Courier.begun = f.total Courier.begun + d := by
  rw [← hq] at h
  exact begun_modify hi _ (by simp only [Courier.begun, h, phase_eq, Nat.add_assoc])

lemma begun_rest (hi : i < f.couriers.size) {d : ℕ} (hq : f.phase i = q)
    (h : p.openCalls = q.openCalls + d) :
    (f.rest i p).total Courier.begun = f.total Courier.begun + d := by
  rw [← hq] at h
  exact begun_modify hi _ (by simp only [Courier.begun, h, phase_eq, Nat.add_assoc])

/-- A courier counts, and has one open call less for each call that it counts. -/
lemma begun_tally_become (hi : i < f.couriers.size) (t : Tally → Tally) {k : ℕ}
    (ht : ∀ a, (t a).successTotal + (t a).failureTotal = a.successTotal + a.failureTotal + k)
    (hq : f.phase i = q) (h : k + p.openCalls = q.openCalls) :
    ((f.modify i fun c => { c with tally := t c.tally }).become i p).total Courier.begun
      = f.total Courier.begun := by
  rw [← hq] at h
  rw [become, modify_modify]
  refine begun_modify (d := 0) hi _ ?_
  simp only [Function.comp_apply, Courier.begun, ht, ← phase_eq, ← h]
  omega

lemma begun_afterInsert (hs : Sound f) (done : Bool × Outbox) :
    (f.afterInsert done).total Courier.begun = f.total Courier.begun := by
  rcases f.afterInsert_cases done with ⟨-, heq⟩ | ⟨-, -, heq⟩ | ⟨j, line, -, hl, heq⟩
  · rw [heq]
    rfl
  · rw [heq]
    rfl
  · have hj : j ∈ f.gate.line := hl ▸ List.mem_cons_self
    rw [heq]
    exact begun_become (f := { f with gate := _ }) (d := 0) (hs.lt_of_mem_line hj) rfl
      (Phase.openCalls_of_inLine ((hs.mem_line j).mp hj)).symm

/-- **An action begins so many calls and has so many more on record,** one or none. -/
lemma Act.begun (hact : Act carrier f i g) (hs : Sound f) (ha : f.awake = i :: others) :
    ∃ k, g.total Courier.begun = f.total Courier.begun + k ∧
      g.attempts.length = f.attempts.length + k := by
  have hi : i ∈ f.awake := ha ▸ List.mem_cons_self
  have hlt := hs.lt_of_mem_awake hi
  cases hact with
  | stop hp hstop => exact ⟨0, begun_rest hlt hp rfl, rfl⟩
  | take hp hstop ht => exact ⟨0, begun_become (f := { f with outbox := _ }) hlt hp rfl, rfl⟩
  | relook hp hstop he hg => exact ⟨0, rfl, rfl⟩
  | park hp hstop he hg => exact ⟨0, begun_rest (f := { f with gate := _ }) hlt hp rfl, rfl⟩
  | lapse hp hx => exact ⟨0, begun_tally_become hlt Tally.ignored (fun a => rfl) hp rfl, rfl⟩
  | putBack hp hx hd => exact ⟨0, begun_become (f := { f with outbox := _ }) hlt hp rfl, rfl⟩
  | call hp hx hd he => exact ⟨1, begun_rest (f := { f with attempts := _ }) hlt hp rfl, rfl⟩
  | callAtOnce hp hx hd he =>
      exact ⟨1, begun_become (f := { f with attempts := _ }) hlt hp rfl, rfl⟩
  | glance hp hg => exact ⟨0, begun_become (f := { f with gate := _ }) hlt hp rfl, rfl⟩
  | guard hp hg => exact ⟨0, begun_rest (f := { f with gate := _ }) hlt hp rfl, rfl⟩
  | succeed late took hp hc =>
      exact ⟨0, begun_tally_become hlt (fun t => t.success late took)
        (fun a => Nat.add_right_comm _ 1 _) hp rfl, rfl⟩
  | retry late took hp hc hr =>
      have hbegun := (hs.tally i fun t => t.failure late took).become (p := .looking) hi rfl
      refine ⟨0, (begun_afterInsert hbegun _).trans ?_, by rw [attempts_afterInsert]; rfl⟩
      exact begun_tally_become hlt (fun t => t.failure late took) (fun a => rfl) hp rfl
  | giveUp late took hp hc hr =>
      exact ⟨0, begun_tally_become hlt (fun t => (t.failure late took).ignored) (fun a => rfl) hp
        rfl, rfl⟩

lemma begun_start (b : Outbox) (workers : ℕ) (timeout : Span) :
    (start b {} workers timeout).total Courier.begun
      = (start b {} workers timeout).attempts.length := by
  refine Finset.sum_eq_zero fun i _ => ?_
  simp only [start, courier, Array.getElem?_replicate]
  split_ifs <;> rfl

lemma begun_ring (f : Fleet) (i : ℕ) :
    (f.ring i).total Courier.begun = f.total Courier.begun ∧ (f.ring i).attempts = f.attempts := by
  rw [ring_eq]
  cases hp : f.phase i with
  | guarding due =>
      have hi : i < f.couriers.size := lt_size_of_phase_ne (by simp [hp])
      exact ⟨begun_become (f := { f with gate := _ }) (d := 0) hi hp rfl, rfl⟩
  | calling c =>
      exact ⟨begun_become (d := 0) (lt_size_of_phase_ne (by simp [hp])) hp rfl, rfl⟩
  | _ => exact ⟨rfl, rfl⟩

lemma begun_stop (f : Fleet) :
    f.stop.total Courier.begun = f.total Courier.begun ∧ f.stop.attempts = f.attempts := by
  refine stop_induction (P := fun g => g.total Courier.begun = f.total Courier.begun ∧
    g.attempts = f.attempts) ⟨rfl, rfl⟩ fun g i hg hp => ⟨Eq.trans ?_ hg.1, hg.2⟩
  have hi : i < g.couriers.size := lt_size_of_phase_ne fun hl => by simp [hl, Phase.inLine] at hp
  exact begun_become (f := { g with gate := _ }) (d := 0) hi rfl (Phase.openCalls_of_inLine hp).symm

lemma begun_move (carrier : Carrier) (hs : Sound f) (m : Motion) :
    ∃ k, (move carrier f m).total Courier.begun = f.total Courier.begun + k ∧
      (move carrier f m).attempts.length = f.attempts.length + k := by
  cases m with
  | offer r => exact ⟨0, begun_afterInsert hs _, by rw [move, offer, attempts_afterInsert]; rfl⟩
  | act i =>
      rw [move]
      split_ifs with hi
      · exact (hs.act hi).begun (hs.first hi) rfl
      · exact ⟨0, rfl, rfl⟩
  | pass t => exact ⟨0, rfl, rfl⟩
  | ring i =>
      rw [move]
      split_ifs
      · exact ⟨0, (begun_ring f i).1, by rw [(begun_ring f i).2]; rfl⟩
      · exact ⟨0, rfl, rfl⟩
  | pop =>
      rw [move, pop]
      cases f.outbox.take? <;> exact ⟨0, rfl, rfl⟩
  | stop => exact ⟨0, (begun_stop f).1, by rw [move, (begun_stop f).2]; rfl⟩

/-- **The calls on record are those that are counted or open.** -/
lemma begun_run (carrier : Carrier) (hs : Sound f)
    (hbooks : f.total Courier.begun = f.attempts.length) (ms : List Motion) :
    (run carrier f ms).total Courier.begun = (run carrier f ms).attempts.length := by
  induction ms generalizing f with
  | nil => exact hbooks
  | cons m ms ih =>
      obtain ⟨k, hbegun, hattempts⟩ := begun_move carrier hs m
      exact ih (hs.move m) (by rw [hbegun, hattempts, hbooks])

/-! ## Everybody waits -/

/-- The number of the request with which a courier in this phase calls. -/
def Phase.underWay : Phase → Multiset ℕ
  | .calling c => {c.request.id}
  | _ => 0

/-- The numbers of the requests that are in calls. -/
def underWay (f : Fleet) : Multiset ℕ :=
  f.total fun c => c.phase.underWay

/-- The numbers of the requests in the outbox. -/
def queued (f : Fleet) : Multiset ℕ :=
  f.outbox.entries.map (·.id)

/-- One who waits holds nothing but the request with which it calls, and has no other open call. -/
lemma Phase.underWay_of_not_runs (hp : p.runs = false) :
    p.items.map Item.id = p.underWay ∧ p.openCalls = Multiset.card p.underWay := by
  cases p with
  | calling _ | parked | guarding _ | ended => exact ⟨rfl, rfl⟩
  | looking | holding _ | enlisting _ | reporting _ => cases hp

/-- While everybody waits, requests are held in the outbox and in calls only. -/
lemma items_of_awake_nil (hs : Sound f) (hawake : f.awake = []) :
    f.items.map Item.id = f.queued + f.underWay := by
  have hcalls : (f.total fun c => c.phase.items).map Item.id = f.underWay := by
    rw [total, ← Multiset.coe_mapAddMonoidHom, map_sum]
    exact Finset.sum_congr rfl fun i hi =>
      (Phase.underWay_of_not_runs (hs.not_runs hawake (Finset.mem_range.mp hi))).1
  rw [items, Multiset.map_add, hcalls, stored, queued, Multiset.map_coe, List.map_map]
  rfl

/-- While everybody waits, no call is over that has not been counted. -/
lemma begun_of_awake_nil (hs : Sound f) (hawake : f.awake = []) : f.total Courier.begun =
    (f.tallies.map (·.successTotal)).sum + (f.tallies.map (·.failureTotal)).sum
      + Multiset.card f.underWay := by
  have hcalls : (f.total fun c => c.phase.openCalls) = Multiset.card f.underWay := by
    rw [underWay, total, total, Multiset.card_sum]
    exact Finset.sum_congr rfl fun i hi =>
      (Phase.underWay_of_not_runs (hs.not_runs hawake (Finset.mem_range.mp hi))).2
  rw [tallies, List.map_map, List.map_map, sum_map_couriers, sum_map_couriers, ← hcalls, total,
    total, total, total, ← Finset.sum_add_distrib, ← Finset.sum_add_distrib]
  rfl

/-- **The books balance.**  However producers, couriers and others interleave: whenever everybody
waits, each request that was offered is in exactly one place.  It has been delivered, was ignored in
the end, met a full outbox, was taken by somebody else, is in the outbox or in a call; the totals of
the fleet and the outbox count the first three.  The attempts on record are the successes, the
failures and the calls under way. -/
theorem books_balance (carrier : Carrier) (capacity limit workers : ℕ) (timeout : Span)
    (ms : List Motion) :
    let s := start (.empty capacity limit) {} workers timeout
    let f := run carrier s (numbered ms)
    let log := chronicle carrier s (numbered ms)
    let totals := Tally.combine f.tallies
    f.awake = [] →
      (offered (numbered ms)).Nodup ∧
      offered (numbered ms) = exits log .delivered + exits log .ignored + exits log .dropped
        + exits log .popped + f.queued + f.underWay ∧
      Multiset.card (exits log .delivered) = totals.successTotal ∧
      Multiset.card (exits log .ignored) = totals.ignoredTotal ∧
      Multiset.card (exits log .dropped) = f.outbox.dropped ∧
      Multiset.card (offered (numbered ms)) = totals.successTotal + totals.ignoredTotal
        + f.outbox.dropped + f.outbox.size + Multiset.card f.underWay
        + Multiset.card (exits log .popped) ∧
      f.attempts.length = totals.successTotal + totals.failureTotal + Multiset.card f.underWay := by
  intro s f log totals hawake
  have hs : Sound s := sound_start _ workers timeout
  have hf : Sound f := hs.run _
  obtain ⟨hsuccess, hfailure, hgivenUp⟩ := Tally.combine_totals f.tallies
  obtain ⟨hscore, hrefusals⟩ := card_exits log
  obtain ⟨hcouriers, houtbox⟩ := books_run carrier hs (numbered ms)
  have hcounts : (Multiset.card (exits log .delivered), Multiset.card (exits log .ignored))
      = (totals.successTotal, totals.ignoredTotal) := by
    rw [hscore, hsuccess, hgivenUp, tallies_score, hcouriers, score_start, zero_add]
  obtain ⟨hdelivered, hignored⟩ := Prod.mk.inj hcounts
  have hdropped : Multiset.card (exits log .dropped) = f.outbox.dropped := by
    rw [hrefusals, houtbox]
    exact (Nat.zero_add _).symm
  have hplaces : offered (numbered ms) = exits log .delivered + exits log .ignored
      + exits log .dropped + exits log .popped + f.queued + f.underWay := by
    rw [offered_eq hs (items_start capacity limit workers timeout), items_of_awake_nil hf hawake,
      add_assoc _ f.queued]
  have hattempts : f.total Courier.begun = f.attempts.length :=
    begun_run carrier hs (begun_start _ workers timeout) (numbered ms)
  have hqueued : Multiset.card f.queued = f.outbox.size := by simp [queued, Outbox.size]
  refine ⟨(offered_numbered ms).1, hplaces, hdelivered, hignored, hdropped, ?_, ?_⟩
  · rw [hplaces]
    simp only [Multiset.card_add, hdelivered, hignored, hdropped, hqueued]
    omega
  · rw [hsuccess, hfailure, ← hattempts]
    exact begun_of_awake_nil hf hawake

/-- Two couriers that share an outbox with room for one request and with somebody else.  The first
request is in a call, the second comes in and is taken, the third comes in, and there is no room for
the fourth. -/
def crowded : List Motion :=
  [.offer { path := "/a", due := 0 }, .act 0, .act 0, .offer { path := "/b", due := 0 }, .pop,
    .offer { path := "/c", due := 60000 }, .offer { path := "/d", due := 0 }] ++
    List.replicate 6 (.act 1)

/-- There each of the four requests is in a place of its own. -/
theorem books_balance_crowded :
    let carrier : Carrier := fun _ _ => { latency := 1000 }
    let s := start (.empty 1 5) {} 2 (.seconds 5)
    let f := run carrier s (numbered crowded)
    let log := chronicle carrier s (numbered crowded)
    f.awake = [] ∧ offered (numbered crowded) = {0, 3, 5, 6} ∧ f.underWay = {0} ∧
      exits log .popped = {3} ∧ f.queued = {5} ∧ exits log .dropped = {6} ∧
      exits log .delivered = 0 ∧ exits log .ignored = 0 := by
  intro carrier s f log
  have hawake : f.awake = [] := by decide +kernel
  have hoffered : offered (numbered crowded) = {0, 3, 5, 6} := by decide +kernel
  have hplaces : f.underWay = {0} ∧ exits log .popped = {3} ∧ f.queued = {5} ∧
      exits log .dropped = {6} := by decide +kernel
  obtain ⟨hunderWay, hpopped, hqueued, hdropped⟩ := hplaces
  have hbalance : offered (numbered crowded) = exits log .delivered + exits log .ignored
      + exits log .dropped + exits log .popped + f.queued + f.underWay :=
    (books_balance carrier 1 5 2 (.seconds 5) crowded hawake).2.1
  have hcard := congrArg Multiset.card hbalance
  rw [hoffered, hunderWay, hpopped, hqueued, hdropped] at hcard
  simp only [Multiset.card_add, Multiset.card_singleton, Multiset.insert_eq_cons,
    Multiset.card_cons] at hcard
  exact ⟨hawake, hoffered, hunderWay, hpopped, hqueued, hdropped,
    Multiset.card_eq_zero.mp (by omega), Multiset.card_eq_zero.mp (by omega)⟩

end HostAgent.Fleet
