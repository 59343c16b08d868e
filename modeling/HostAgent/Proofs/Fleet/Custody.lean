import HostAgent.Proofs.Fleet.Clock
import HostAgent.Proofs.Fleet.History

/-!
# No request gets lost

A request that came in is somewhere: the fleet still holds it, or there is an event that tells how
it went, and a counter that counted it.  This holds of every run, that is of every interleaving of
producers and couriers.

* `Event.arrival?`, `Event.departure?` — the events with which a request comes and goes.
* `comings_chronicle` — the requests with which producers come are those that are offered.
* `custody` — the requests that came are those that are held and those that went.
* `Event.Just` — a request goes for a reason: it was delivered, it was expired, its last call
  failed, or it was to be put back while the outbox was full.
* `books_run` — the counters of the couriers and of the outbox count those events.
-/

namespace HostAgent.Fleet

open Outbound (Request)

variable {carrier : Carrier} {f g : Fleet} {i j : ℕ} {p : Phase} {r : Request} {m : Motion}
  {ms : List Motion} {es : List Event} {out new : Multiset Item} {others : List ℕ}

/-! ## Coming and going -/

/-- The request that came with an event. -/
def Event.arrival? : Event → Option Request
  | .accepted r => some r
  | _ => none

/-- The request that went with an event. -/
def Event.departure? : Event → Option Request
  | .taken r | .lapsed r _ | .lost _ r => some r
  | .ended c _ => if c.succeeds then some c.request else none
  | .spent c => some c.request
  | .accepted _ | .refused _ | .began _ _ => none

/-- The number of the request that an item is about. -/
def Item.id : Item → ℕ
  | .waiting r => r.id
  | .called c => c.request.id

/-- The numbers of the requests that came. -/
def arrivals (es : List Event) : Multiset ℕ :=
  (es.filterMap Event.arrival?).map (·.id)

/-- The numbers of the requests that went. -/
def departures (es : List Event) : Multiset ℕ :=
  (es.filterMap Event.departure?).map (·.id)

lemma arrivals_append (es es' : List Event) :
    arrivals (es ++ es') = arrivals es + arrivals es' := by
  simp [arrivals]

lemma departures_append (es es' : List Event) :
    departures (es ++ es') = departures es + departures es' := by
  simp [departures]

/-- A trade neither loses nor doubles a request. -/
lemma Trade.balance (h : Trade carrier f es out new) :
    arrivals es + out.map Item.id = new.map Item.id + departures es := by
  cases h with
  | deliver hp hc =>
      simp [arrivals, departures, List.filterMap_cons, Event.arrival?, Event.departure?, Item.id,
        hc]
  | requeue hp hc hr hroom =>
      simp [arrivals, departures, List.filterMap_cons, Event.arrival?, Event.departure?, Item.id,
        hc, retried]
  | turnAway hp hc hr hroom =>
      simp [arrivals, departures, List.filterMap_cons, Event.arrival?, Event.departure?, Item.id,
        hc, retried]
  | spend hp hc hr =>
      simp [arrivals, departures, List.filterMap_cons, Event.arrival?, Event.departure?, Item.id,
        hc]
  | call hx hd =>
      simp [arrivals, departures, List.filterMap_cons, Event.arrival?, Event.departure?, Item.id,
        callFor]
  | _ =>
      simp [arrivals, departures, List.filterMap_cons, Event.arrival?, Event.departure?, Item.id]

lemma items_start (capacity limit workers : ℕ) (timeout : Span) :
    (start (.empty capacity limit) {} workers timeout).items = 0 := by
  have htotal : (start (.empty capacity limit) {} workers timeout).total (fun c => c.phase.items)
      = 0 :=
    Finset.sum_eq_zero fun i _ =>
      congrArg Phase.items (phase_start (.empty capacity limit) {} workers timeout i)
  rw [items, htotal]
  rfl

/-- **The requests that came are those that are held and those that went.** -/
theorem custody (hs : Sound f) (hempty : f.items = 0) (ms : List Motion) :
    arrivals (chronicle carrier f ms)
      = (run carrier f ms).items.map Item.id + departures (chronicle carrier f ms) := by
  induction ms using List.reverseRecOn with
  | nil => simp [chronicle, arrivals, departures, hempty]
  | append_singleton ms m ih =>
      obtain ⟨out, new, rest, htrade, hf, hg⟩ := move_trades carrier (hs.run ms) m
      have hbal := htrade.balance
      rw [chronicle_snoc, run_snoc, arrivals_append, departures_append, ih, hf, hg,
        Multiset.map_add, Multiset.map_add]
      calc out.map Item.id + rest.map Item.id + departures (chronicle carrier f ms)
            + arrivals (news carrier (run carrier f ms) m)
          = (arrivals (news carrier (run carrier f ms) m) + out.map Item.id) + rest.map Item.id
            + departures (chronicle carrier f ms) := by abel
        _ = _ := by
            rw [hbal]
            abel

/-! ## What producers offer -/

/-- The number of a request with which a producer came, whether or not there was room. -/
def Event.coming? : Event → Option ℕ
  | .accepted r | .refused r => some r.id
  | _ => none

/-- The numbers of the requests with which producers came. -/
def comings (log : List Event) : Multiset ℕ :=
  log.filterMap Event.coming?

/-- The number of the request that a motion offers. -/
def Motion.offered? : Motion → Option ℕ
  | .offer r => some r.id
  | _ => none

/-- The numbers of the requests that are offered. -/
def offered (ms : List Motion) : Multiset ℕ :=
  ms.filterMap Motion.offered?

lemma comings_append (es es' : List Event) : comings (es ++ es') = comings es + comings es' := by
  simp [comings]

lemma offered_append (ms ms' : List Motion) : offered (ms ++ ms') = offered ms + offered ms' := by
  simp [offered]

lemma comings_report? (carrier : Carrier) (f : Fleet) (p : Phase) :
    comings (report? carrier f p) = 0 := by
  cases p with
  | holding r =>
      rw [report?]
      split_ifs <;> rfl
  | reporting c =>
      rw [report?]
      split_ifs <;> rfl
  | _ => rfl

/-- Nobody but the producers comes with requests. -/
lemma comings_news (carrier : Carrier) (f : Fleet) (m : Motion) :
    comings (news carrier f m) = offered [m] := by
  cases m with
  | offer r =>
      rw [news]
      split_ifs <;> rfl
  | act i =>
      rw [news]
      split_ifs
      · exact comings_report? carrier f _
      · rfl
  | pop =>
      rw [news]
      cases f.outbox.take? <;> rfl
  | _ => rfl

lemma comings_chronicle (carrier : Carrier) (f : Fleet) (ms : List Motion) :
    comings (chronicle carrier f ms) = offered ms := by
  induction ms generalizing f with
  | nil => rfl
  | cons m ms ih =>
      rw [chronicle, comings_append, comings_news, ih, ← offered_append, List.singleton_append]

lemma arrivals_le_comings (log : List Event) : arrivals log ≤ comings log := by
  induction log with
  | nil => exact le_refl _
  | cons e log ih =>
      have hevent : arrivals [e] ≤ comings [e] := by
        cases e <;> first | exact le_refl _ | exact Multiset.zero_le _
      rw [← List.singleton_append, arrivals_append, comings_append]
      exact add_le_add hevent ih

/-! ## Counting -/

/-- What the couriers count at an event: successes, and requests given up. -/
def Event.score : Event → ℕ × ℕ
  | .ended c _ => if c.succeeds then (1, 0) else (0, 0)
  | .lapsed _ _ | .spent _ => (0, 1)
  | _ => (0, 0)

/-- What the outbox counts at an event. -/
def Event.refusals : Event → ℕ
  | .refused _ | .lost _ _ => 1
  | _ => 0

/-- What the couriers count in a courier's tally. -/
def Tally.score (t : Tally) : ℕ × ℕ :=
  (t.successTotal, t.ignoredTotal)

/-- What all couriers have counted. -/
def score (f : Fleet) : ℕ × ℕ :=
  f.total fun c => c.tally.score

/-- One courier counts. -/
lemma score_modify (hi : i < f.couriers.size) (a : Courier → Courier) {d : ℕ × ℕ}
    (h : (a (f.courier i)).tally.score = (f.courier i).tally.score + d) :
    (f.modify i a).score = f.score + d := by
  obtain ⟨rest, hf, hg⟩ := total_modify hi a fun c => c.tally.score
  rw [score, score, hg, hf, h]
  abel

lemma score_become (hi : i < f.couriers.size) : (f.become i p).score = f.score := by
  have h := score_modify hi (fun c => { c with phase := p }) (d := 0) (add_zero _).symm
  rwa [add_zero] at h

lemma score_rest (hi : i < f.couriers.size) : (f.rest i p).score = f.score := by
  have h := score_modify hi (fun c => { c with phase := p, waitNumber := f.waits }) (d := 0)
    (add_zero _).symm
  rwa [add_zero] at h

lemma score_tally_become (hi : i < f.couriers.size) (t : Tally → Tally) {d : ℕ × ℕ}
    (h : ∀ a, (t a).score = a.score + d) :
    ((f.modify i fun c => { c with tally := t c.tally }).become i p).score = f.score + d := by
  rw [score_become (by simpa using hi), score_modify hi _ (h _)]

lemma score_afterInsert (hs : Sound f) (done : Bool × Outbox) :
    (f.afterInsert done).score = f.score := by
  rcases f.afterInsert_cases done with ⟨-, heq⟩ | ⟨-, -, heq⟩ | ⟨j, line, -, hl, heq⟩
  · rw [heq]
    rfl
  · rw [heq]
    rfl
  · have hlt := hs.lt_of_mem_line (hl ▸ List.mem_cons_self : j ∈ f.gate.line)
    rw [heq]
    exact score_become hlt

lemma outbox_afterInsert (f : Fleet) (done : Bool × Outbox) :
    (f.afterInsert done).outbox = done.2 := by
  rcases f.afterInsert_cases done with ⟨-, heq⟩ | ⟨-, -, heq⟩ | ⟨j, line, -, hl, heq⟩ <;> rw [heq]
  · rfl

lemma timeout_afterInsert (f : Fleet) (done : Bool × Outbox) :
    (f.afterInsert done).timeout = f.timeout := by
  rcases f.afterInsert_cases done with ⟨-, heq⟩ | ⟨-, -, heq⟩ | ⟨j, line, -, hl, heq⟩ <;> rw [heq]
  · rfl

/-- An action counts what it tells. -/
lemma Act.score (hact : Act carrier f i g) (hs : Sound f) (ha : f.awake = i :: others) :
    g.score = f.score + ((report? carrier f (f.phase i)).map Event.score).sum := by
  have hi : i ∈ f.awake := ha ▸ List.mem_cons_self
  have hlt := hs.lt_of_mem_awake hi
  cases hact with
  | stop hp hstop =>
      rw [score_rest hlt, hp]
      rfl
  | take hp hstop ht =>
      refine (score_become (f := { f with outbox := _ }) hlt).trans ?_
      rw [hp]
      rfl
  | relook hp hstop he hg =>
      rw [hp]
      rfl
  | park hp hstop he hg =>
      refine (score_rest (f := { f with gate := _ }) hlt).trans ?_
      rw [hp]
      rfl
  | lapse hp hx =>
      rw [score_tally_become hlt Tally.ignored (d := (0, 1)) fun a => rfl]
      simp [hp, report?, hx, Event.score]
  | putBack hp hx hd =>
      refine (score_become (f := { f with outbox := _ }) hlt).trans ?_
      cases hroom : f.outbox.hasRoom <;> simp [hp, report?, hx, hd, hroom, Event.score]
  | call hp hx hd he =>
      refine (score_rest (f := { f with attempts := _ }) hlt).trans ?_
      simp [hp, report?, hx, hd, Event.score]
  | callAtOnce hp hx hd he =>
      refine (score_become (f := { f with attempts := _ }) hlt).trans ?_
      simp [hp, report?, hx, hd, Event.score]
  | glance hp hg =>
      refine (score_become (f := { f with gate := _ }) hlt).trans ?_
      rw [hp]
      rfl
  | guard hp hg =>
      refine (score_rest (f := { f with gate := _ }) hlt).trans ?_
      rw [hp]
      rfl
  | succeed late took hp hc =>
      rw [score_tally_become hlt (fun t => t.success late took) (d := (1, 0)) fun a => rfl]
      simp [hp, report?, hc, Event.score]
  | retry late took hp hc hr =>
      have hbegun := (hs.tally i fun t => t.failure late took).become (p := .looking) hi rfl
      rw [score_afterInsert hbegun,
        score_tally_become hlt (fun t => t.failure late took) (d := (0, 0)) fun a => rfl]
      cases hroom : f.outbox.hasRoom <;> simp [hp, report?, hc, hr, hroom, Event.score]
  | giveUp late took hp hc hr =>
      rw [score_tally_become hlt (fun t => (t.failure late took).ignored) (d := (0, 1))
        fun a => rfl]
      simp [hp, report?, hc, hr, Event.score]

/-- An action that meets a full outbox has it counted. -/
lemma Act.dropped (hact : Act carrier f i g) : g.outbox.dropped
    = f.outbox.dropped + ((report? carrier f (f.phase i)).map Event.refusals).sum := by
  cases hact with
  | take hp hstop ht =>
      rw [hp]
      exact (Outbox.limits_of_take? ht).2.2
  | @putBack r hp hx hd =>
      refine (Outbox.insert_dropped f.outbox r).trans ?_
      cases hroom : f.outbox.hasRoom <;> simp [hp, report?, hx, hd, hroom, Event.refusals]
  | @retry c late took hp hc hr =>
      rw [outbox_afterInsert, Outbox.insert_dropped]
      cases hroom : f.outbox.hasRoom <;> simp [hp, report?, hc, hr, hroom, Event.refusals]
  | lapse hp hx => simp [hp, report?, hx, Event.refusals, become, modify]
  | call hp hx hd he => simp [hp, report?, hx, hd, Event.refusals, rest, modify]
  | callAtOnce hp hx hd he => simp [hp, report?, hx, hd, Event.refusals, become, modify]
  | succeed late took hp hc => simp [hp, report?, hc, Event.refusals, become, modify]
  | giveUp late took hp hc hr => simp [hp, report?, hc, hr, Event.refusals, become, modify]
  | stop hp | relook hp | park hp | glance hp | guard hp =>
      rw [hp]
      rfl

lemma score_ring (f : Fleet) (i : ℕ) : (f.ring i).score = f.score := by
  rw [ring_eq]
  cases hp : f.phase i with
  | guarding due =>
      have hi : i < f.couriers.size := lt_size_of_phase_ne (by simp [hp])
      exact score_become (f := { f with gate := _ }) hi
  | calling c => exact score_become (lt_size_of_phase_ne (by simp [hp]))
  | _ => rfl

lemma outbox_ring (f : Fleet) (i : ℕ) : (f.ring i).outbox = f.outbox := by
  rw [ring_eq]
  split <;> rfl

lemma score_stop (f : Fleet) : f.stop.score = f.score ∧ f.stop.outbox = f.outbox := by
  refine stop_induction (P := fun g => g.score = f.score ∧ g.outbox = f.outbox) ⟨rfl, rfl⟩
    fun g i hg hp => ⟨Eq.trans ?_ hg.1, hg.2⟩
  have hi : i < g.couriers.size := lt_size_of_phase_ne fun hl => by simp [hl, Phase.inLine] at hp
  exact score_become (f := { g with gate := _ }) hi

/-- **Every motion counts what it tells.** -/
lemma score_move (hs : Sound f) (m : Motion) : (move carrier f m).score
    = f.score + ((news carrier f m).map Event.score).sum := by
  cases m with
  | offer r =>
      rw [move, offer, score_afterInsert hs, news]
      split_ifs <;> rfl
  | act i =>
      rw [move, news]
      split_ifs with hi
      · exact (hs.act hi).score (hs.first hi) rfl
      · rfl
  | pass t => rfl
  | ring i =>
      rw [move, news]
      split_ifs
      · exact score_ring f i
      · rfl
  | pop =>
      rw [move, news, pop]
      cases f.outbox.take? <;> rfl
  | stop => exact (score_stop f).1

lemma dropped_move (hs : Sound f) (m : Motion) : (move carrier f m).outbox.dropped
    = f.outbox.dropped + ((news carrier f m).map Event.refusals).sum := by
  cases m with
  | offer r =>
      rw [move, offer, outbox_afterInsert, Outbox.offer, Outbox.insert_dropped, news]
      cases f.outbox.hasRoom <;> rfl
  | act i =>
      rw [move, news]
      split_ifs with hi
      · exact (hs.act hi).dropped
      · rfl
  | pass t => rfl
  | ring i =>
      rw [move, news]
      split_ifs
      · rw [outbox_ring]
        rfl
      · rfl
  | pop =>
      rw [move, news, pop]
      cases ht : f.outbox.take? with
      | none => rfl
      | some rb => exact (Outbox.limits_of_take? ht).2.2
  | stop => rw [move, (score_stop f).2]; rfl

/-- The couriers and the outbox count all that happens. -/
lemma books_run (carrier : Carrier) (hs : Sound f) (ms : List Motion) :
    (run carrier f ms).score = f.score + ((chronicle carrier f ms).map Event.score).sum ∧
      (run carrier f ms).outbox.dropped
        = f.outbox.dropped + ((chronicle carrier f ms).map Event.refusals).sum := by
  induction ms using List.reverseRecOn with
  | nil => simp [chronicle]
  | append_singleton ms m ih =>
      rw [chronicle_snoc, run_snoc, score_move (hs.run ms), dropped_move (hs.run ms), ih.1, ih.2]
      simp [add_assoc]

/-! ## Every departure has its reason -/

/-- A request is dropped as expired only when it is, given up only after its last call has failed,
and turned away only by a full outbox. -/
def Event.Just : Event → Prop
  | .lapsed r t => r.isExpired t = true
  | .spent c => c.succeeds = false ∧ c.request.retriesLeft ≤ 1
  | .lost b _ => b.entries.length = b.capacity
  | _ => True

lemma length_of_not_hasRoom {b : Outbox} (h : b.hasRoom = false) :
    b.entries.length = b.capacity := by
  have hfits := b.fits
  simp only [Outbox.hasRoom, decide_eq_false_iff_not] at h
  omega

lemma Trade.just (h : Trade carrier f es out new) : ∀ e ∈ es, e.Just := by
  cases h with
  | lapse hx => simpa [Event.Just] using hx
  | lose hx hroom => simpa [Event.Just] using length_of_not_hasRoom hroom
  | turnAway hp hc hr hroom => simpa [Event.Just] using length_of_not_hasRoom hroom
  | spend hp hc hr => simpa [Event.Just, hc] using Nat.sub_eq_zero_iff_le.mp hr
  | _ => simp [Event.Just]

lemma just_chronicle (hs : Sound f) (ms : List Motion) : ∀ e ∈ chronicle carrier f ms, e.Just := by
  induction ms using List.reverseRecOn with
  | nil => simp [chronicle]
  | append_singleton ms m ih =>
      obtain ⟨out, new, rest, htrade, -, -⟩ := move_trades carrier (hs.run ms) m
      rw [chronicle_snoc]
      intro e he
      exact (List.mem_append.mp he).elim (ih e) (htrade.just e)

/-- What all couriers have counted, in their tallies. -/
lemma tallies_score (f : Fleet) :
    ((f.tallies.map (·.successTotal)).sum, (f.tallies.map (·.ignoredTotal)).sum) = f.score := by
  have hfst : f.score.1 = f.total fun c => c.tally.successTotal := Prod.fst_sum
  have hsnd : f.score.2 = f.total fun c => c.tally.ignoredTotal := Prod.snd_sum
  rw [tallies, List.map_map, List.map_map, sum_map_couriers, sum_map_couriers]
  exact Prod.ext hfst.symm hsnd.symm

lemma score_start (b : Outbox) (workers : ℕ) (timeout : Span) :
    (start b {} workers timeout).score = 0 := by
  rw [score, total]
  refine Finset.sum_eq_zero fun i _ => ?_
  simp only [start, courier, Array.getElem?_replicate]
  split_ifs <;> rfl

/-- **A request that came in is held, or went for a reason and was counted.**  However producers
and couriers interleave, the requests that came in are exactly those that wait in the outbox or are
in a courier's hand or call, and those that went: delivered, expired, given up after the last call,
turned away by a full outbox when a courier put them back, or taken by somebody else.  The couriers'
totals count the successes and the ones given up, and the outbox counts those it turned away. -/
theorem accepted_held_or_counted (carrier : Carrier) (capacity limit workers : ℕ) (timeout : Span)
    (ms : List Motion) :
    let s := start (.empty capacity limit) {} workers timeout
    let f := run carrier s ms
    let log := chronicle carrier s ms
    arrivals log = f.items.map Item.id + departures log ∧ (∀ e ∈ log, e.Just) ∧
      ((f.tallies.map (·.successTotal)).sum, (f.tallies.map (·.ignoredTotal)).sum)
        = (log.map Event.score).sum ∧
      f.outbox.dropped = (log.map Event.refusals).sum := by
  intro s f log
  have hs : Sound s := sound_start _ workers timeout
  have hbooks := books_run carrier hs ms
  refine ⟨custody hs (items_start capacity limit workers timeout) ms, just_chronicle hs ms, ?_, ?_⟩
  · rw [tallies_score, hbooks.1, score_start, zero_add]
  · rw [hbooks.2]
    exact Nat.zero_add _

/-- **A full outbox does make a request disappear** that is not expired and has attempts left.  A
courier calls for `/a`, another for `/b`, and `/c` fills the outbox again; all three have come in.
The first call fails after a second, and there is no room to put `/a` back.  In the end two
requests have been delivered, none was given up, and nothing is held. -/
theorem full_outbox_loses :
    let carrier : Carrier := fun path n =>
      if path = "/a" then if n = 0 then { latency := 1000, status := 500 } else {}
      else { latency := 5000 }
    let orders : List Order := [.offer { path := "/a", due := 0 }, .settle,
      .offer { path := "/b", due := 0 }, .settle, .offer { path := "/c", due := 0 }]
    let f := orders.foldl (obey carrier) (start (.empty 1 5) {} 2 (.seconds 60))
    let g := advance carrier f 100000
    f.outbox.dropped = 0 ∧ g.outbox.dropped = 1 ∧ Multiset.card g.items = 0 ∧
      (g.tallies.map (·.successTotal)).sum = 2 ∧ (g.tallies.map (·.ignoredTotal)).sum = 0 := by
  decide +kernel

end HostAgent.Fleet
