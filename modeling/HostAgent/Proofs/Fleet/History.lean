import HostAgent.Proofs.Fleet.Motions

/-!
# The history of a fleet

What a run has to tell, and what the fleet holds after it.

* `Event`, `news`, `chronicle` — what a motion has to tell, and all that a run has.
* `items` — what the fleet holds: requests that wait, in the outbox or in a courier's hand, and
  calls.  They form a bag, since it does not matter who holds what.
* `Trade` — which items a motion takes out of the bag and which it puts in, together with its
  news.  `move_trade` says that every motion is one of these; all that is said about runs elsewhere
  is proved along its constructors.
* `attempts_run` — the fleet's own record of attempts agrees with its history.
-/

namespace HostAgent.Fleet

open Outbound (Request)

variable {carrier : Carrier} {f g : Fleet} {i j : ℕ} {p : Phase} {r : Request} {m : Motion}
  {ms : List Motion} {others : List ℕ}

/-! ## What a run has to tell -/

/-- What a motion has to tell. -/
inductive Event where
  /-- A producer's request came in. -/
  | accepted (r : Request)
  /-- A producer's request met a full outbox. -/
  | refused (r : Request)
  /-- Somebody else took a request. -/
  | taken (r : Request)
  /-- A call began, for which so much time was allowed. -/
  | began (c : Call) (patience : Span)
  /-- A call was over. -/
  | ended (c : Call) (time : Int)
  /-- A request was dropped because it was expired. -/
  | lapsed (r : Request) (time : Int)
  /-- A request was dropped because its last call had failed. -/
  | spent (c : Call)
  /-- A courier wanted to put a request back and met a full outbox. -/
  | lost (b : Outbox) (r : Request)

/-- What an action has to tell of a courier in this phase. -/
def report? (carrier : Carrier) (f : Fleet) : Phase → List Event
  | .holding r =>
    if r.isExpired f.now then [.lapsed r f.now]
    else if !r.isDue f.now then if f.outbox.hasRoom then [] else [.lost f.outbox r]
    else [.began (callFor carrier f r) (r.timeout.getD f.timeout)]
  | .reporting c =>
    .ended c f.now ::
      if c.succeeds then []
      else if 0 < c.request.retriesLeft - 1 then
        if f.outbox.hasRoom then [] else [.lost f.outbox (f.retried c.request)]
      else [.spent c]
  | _ => []

/-- What a motion has to tell. -/
def news (carrier : Carrier) (f : Fleet) : Motion → List Event
  | .offer r =>
    if f.outbox.hasRoom then [.accepted (f.outbox.stamp r)] else [.refused (f.outbox.stamp r)]
  | .act i => if i ∈ f.awake then report? carrier f (f.phase i) else []
  | .pop => match f.outbox.take? with
    | some (r, _) => [.taken r]
    | none => []
  | .pass _ | .ring _ | .stop => []

/-- All that a run has to tell, in order. -/
def chronicle (carrier : Carrier) : Fleet → List Motion → List Event
  | _, [] => []
  | f, m :: ms => news carrier f m ++ chronicle carrier (move carrier f m) ms

lemma chronicle_snoc : chronicle carrier f (ms ++ [m])
    = chronicle carrier f ms ++ news carrier (run carrier f ms) m := by
  induction ms generalizing f with
  | nil => simp [chronicle]
  | cons m' ms ih => simp [chronicle, ih]

/-! ## What a fleet holds -/

/-- Something that a fleet holds. -/
inductive Item where
  /-- A request in the outbox or in a courier's hand. -/
  | waiting (r : Request)
  /-- A call that is under way or about to be reported. -/
  | called (c : Call)

/-- The request that an item is about. -/
def Item.request : Item → Request
  | .waiting r => r
  | .called c => c.request

/-- What a courier in this phase holds. -/
def Phase.items : Phase → Multiset Item
  | .holding r => {.waiting r}
  | .calling c | .reporting c => {.called c}
  | _ => 0

@[simp] lemma Phase.items_looking : Phase.looking.items = 0 := rfl

@[simp] lemma Phase.items_enlisting (due : Int) : (Phase.enlisting due).items = 0 := rfl

@[simp] lemma Phase.items_holding (r : Request) : (Phase.holding r).items = {.waiting r} := rfl

@[simp] lemma Phase.items_reporting (c : Call) : (Phase.reporting c).items = {.called c} := rfl

/-- What an outbox holds. -/
def stored (b : Outbox) : Multiset Item :=
  b.entries.map Item.waiting

/-- What a fleet holds. -/
def items (f : Fleet) : Multiset Item :=
  stored f.outbox + f.total fun c => c.phase.items

/-- What a courier holds the fleet holds. -/
lemma mem_items_of_phase {x : Item} (hi : i < f.couriers.size) (hx : x ∈ (f.phase i).items) :
    x ∈ f.items :=
  Multiset.mem_add.mpr (.inr (Multiset.mem_sum.mpr ⟨i, Finset.mem_range.mpr hi, hx⟩))

lemma stored_insert (b : Outbox) (r : Request) : stored (b.insert r).2
    = if b.hasRoom then {.waiting r} + stored b else stored b := by
  rw [stored, Outbox.insert_entries]
  split_ifs
  · exact Multiset.coe_eq_coe.mpr ((Outbox.place_perm r b.entries).map _)
  · rfl

lemma stored_of_take? {b b' : Outbox} (h : b.take? = some (r, b')) :
    stored b = {.waiting r} + stored b' := by
  rw [stored, Outbox.entries_of_take? h]
  rfl

/-- The outbox and one courier change. -/
lemma items_change (hi : i < f.couriers.size) (hsize : g.couriers.size = f.couriers.size)
    (hphase : ∀ j, g.phase j = if j = i then p else f.phase j) :
    ∃ rest, f.items = stored f.outbox + (f.phase i).items + rest ∧
      g.items = stored g.outbox + p.items + rest := by
  obtain ⟨rest, hf, hg⟩ := total_change hi hsize hphase Phase.items
  exact ⟨rest, by rw [items, hf, add_assoc], by rw [items, hg, add_assoc]⟩

/-- Who stands in line holds nothing. -/
lemma Phase.items_of_inLine (h : p.inLine = true) : p.items = 0 := by
  cases p <;> simp_all [Phase.inLine, Phase.items]

/-- After an insertion nothing else changes hands: the one who is woken held nothing. -/
lemma items_afterInsert (h : Sound f) (done : Bool × Outbox) :
    (f.afterInsert done).items = stored done.2 + f.total fun c => c.phase.items := by
  rcases f.afterInsert_cases done with ⟨-, heq⟩ | ⟨-, -, heq⟩ | ⟨j, line, -, hl, heq⟩
  · rw [heq]
    rfl
  · rw [heq]
    rfl
  · have hj : j ∈ f.gate.line := hl ▸ List.mem_cons_self
    have hlt := h.lt_of_mem_line hj
    obtain ⟨rest, hf, hg⟩ := total_change (g := f.become j .looking) hlt (size_modify _ _ _)
      (fun _ => phase_become hlt) Phase.items
    rw [Phase.items_of_inLine ((h.mem_line j).mp hj)] at hf
    rw [heq, hf]
    exact congrArg (stored done.2 + ·) hg

/-! ## Trades -/

/-- **What a motion can do with the items**: its news, what it takes out and what it puts in. -/
inductive Trade (carrier : Carrier) (f : Fleet) : List Event → Multiset Item → Multiset Item → Prop
  | keep : Trade carrier f [] 0 0
  | accept (r : Request) (hroom : f.outbox.hasRoom = true) :
      Trade carrier f [.accepted (f.outbox.stamp r)] 0 {.waiting (f.outbox.stamp r)}
  | refuse (r : Request) (hroom : f.outbox.hasRoom = false) :
      Trade carrier f [.refused (f.outbox.stamp r)] 0 0
  | take (r : Request) : Trade carrier f [.taken r] {.waiting r} 0
  | lapse {r : Request} (hx : r.isExpired f.now = true) :
      Trade carrier f [.lapsed r f.now] {.waiting r} 0
  | lose {r : Request} (hx : r.isExpired f.now = false) (hroom : f.outbox.hasRoom = false) :
      Trade carrier f [.lost f.outbox r] {.waiting r} 0
  | call {r : Request} (hx : r.isExpired f.now = false) (hd : r.isDue f.now = true) :
      Trade carrier f [.began (callFor carrier f r) (r.timeout.getD f.timeout)] {.waiting r}
        {.called (callFor carrier f r)}
  | deliver {c : Call} {i : ℕ} (hp : f.phase i = .reporting c) (hc : c.succeeds = true) :
      Trade carrier f [.ended c f.now] {.called c} 0
  | requeue {c : Call} {i : ℕ} (hp : f.phase i = .reporting c) (hc : c.succeeds = false)
      (hr : 0 < c.request.retriesLeft - 1) (hroom : f.outbox.hasRoom = true) :
      Trade carrier f [.ended c f.now] {.called c} {.waiting (f.retried c.request)}
  | turnAway {c : Call} {i : ℕ} (hp : f.phase i = .reporting c) (hc : c.succeeds = false)
      (hr : 0 < c.request.retriesLeft - 1) (hroom : f.outbox.hasRoom = false) :
      Trade carrier f [.ended c f.now, .lost f.outbox (f.retried c.request)] {.called c} 0
  | spend {c : Call} {i : ℕ} (hp : f.phase i = .reporting c) (hc : c.succeeds = false)
      (hr : c.request.retriesLeft - 1 = 0) :
      Trade carrier f [.ended c f.now, .spent c] {.called c} 0

/-- A motion with these news is a trade. -/
def Trades (carrier : Carrier) (f : Fleet) (es : List Event) (g : Fleet) : Prop :=
  ∃ out new rest, Trade carrier f es out new ∧ f.items = out + rest ∧ g.items = new + rest

lemma Trades.keep (h : g.items = f.items) : Trades carrier f [] g :=
  ⟨0, 0, f.items, .keep, (zero_add _).symm, by rw [h, zero_add]⟩

/-- One courier trades what it holds. -/
lemma Trades.turn (hi : i < f.couriers.size) (hsize : g.couriers.size = f.couriers.size)
    (hphase : ∀ j, g.phase j = if j = i then p else f.phase j) (hout : g.outbox = f.outbox)
    {es : List Event} (htrade : Trade carrier f es (f.phase i).items p.items) :
    Trades carrier f es g := by
  obtain ⟨rest, hf, hg⟩ := items_change hi hsize hphase
  refine ⟨_, _, stored f.outbox + rest, htrade, ?_, ?_⟩
  · rw [hf]
    abel
  · rw [hg, hout]
    abel

/-- A courier puts back the request in its hand. -/
lemma Trades.putBack (hi : i < f.couriers.size) (hp : f.phase i = .holding r)
    (hx : r.isExpired f.now = false) (hsize : g.couriers.size = f.couriers.size)
    (hphase : ∀ j, g.phase j = if j = i then .enlisting r.due else f.phase j)
    (hout : g.outbox = (f.outbox.insert r).2) :
    Trades carrier f (if f.outbox.hasRoom then [] else [.lost f.outbox r]) g := by
  obtain ⟨rest, hf, hg⟩ := items_change hi hsize hphase
  rw [hp, Phase.items_holding] at hf
  rw [hout, stored_insert, Phase.items_enlisting] at hg
  cases hroom : f.outbox.hasRoom with
  | true =>
      rw [hroom, if_pos rfl] at hg
      refine Trades.keep ?_
      rw [hf, hg]
      abel
  | false =>
      rw [hroom, if_neg Bool.false_ne_true] at hg
      refine ⟨_, 0, stored f.outbox + rest, .lose hx hroom, ?_, ?_⟩
      · rw [hf]
        abel
      · rw [hg]
        abel

/-- A courier whose call has failed puts the request back. -/
lemma Trades.retry (hi : i < f.couriers.size) {c : Call} (hp : f.phase i = .reporting c)
    (hs : Sound g) (hsize : g.couriers.size = f.couriers.size)
    (hphase : ∀ j, g.phase j = if j = i then .looking else f.phase j)
    (hc : c.succeeds = false) (hr : 0 < c.request.retriesLeft - 1) :
    Trades carrier f (.ended c f.now ::
      if f.outbox.hasRoom then [] else [.lost f.outbox (f.retried c.request)])
        (g.afterInsert (f.outbox.insert (f.retried c.request))) := by
  obtain ⟨rest, hf, hg⟩ := total_change hi hsize hphase Phase.items
  have hitems := items_afterInsert hs (f.outbox.insert (f.retried c.request))
  have hcalls : f.items = {.called c} + (stored f.outbox + rest) := by
    rw [items, hf, hp, Phase.items_reporting]
    abel
  rw [hg, stored_insert, Phase.items_looking] at hitems
  cases hroom : f.outbox.hasRoom with
  | true =>
      rw [hroom, if_pos rfl] at hitems
      refine ⟨_, {.waiting (f.retried c.request)}, _, .requeue hp hc hr hroom, hcalls, ?_⟩
      rw [hitems]
      abel
  | false =>
      rw [hroom, if_neg Bool.false_ne_true] at hitems
      refine ⟨_, 0, _, .turnAway hp hc hr hroom, hcalls, ?_⟩
      rw [hitems]
      abel

/-- **The news of an action are those of a trade.** -/
theorem Act.trades (hact : Act carrier f i g) (hs : Sound f) (ha : f.awake = i :: others) :
    Trades carrier f (report? carrier f (f.phase i)) g := by
  have hi : i ∈ f.awake := ha ▸ List.mem_cons_self
  have hlt := hs.lt_of_mem_awake hi
  cases hact with
  | stop hp hstop =>
      refine Trades.turn hlt (size_rest _ _ _) (fun _ => phase_rest hlt) rfl ?_
      rw [hp]
      exact .keep
  | @take r b hp hstop ht =>
      obtain ⟨rest, hf, hg⟩ := items_change (g := { f with outbox := b }.become i (.holding r)) hlt
        (size_become _ _ _) fun _ => phase_become (f := { f with outbox := b }) hlt
      rw [hp, stored_of_take? ht, Phase.items_looking] at hf
      rw [Phase.items_holding] at hg
      rw [hp]
      refine Trades.keep (hg.trans (Eq.trans ?_ hf.symm))
      change stored b + {.waiting r} + rest = _
      abel
  | relook hp hstop he hg =>
      rw [hp]
      exact Trades.keep rfl
  | park hp hstop he hg =>
      refine Trades.turn hlt (size_rest _ _ _) (fun _ => phase_rest (f := { f with gate := _ }) hlt)
        rfl ?_
      rw [hp]
      exact .keep
  | @lapse r hp hx =>
      refine Trades.turn hlt (by simp) (fun _ => phase_tally_become hlt Tally.ignored) rfl ?_
      rw [hp, report?, if_pos hx]
      exact .lapse hx
  | @putBack r hp hx hd =>
      have hnews : report? carrier f (f.phase i)
          = if f.outbox.hasRoom then [] else [.lost f.outbox r] := by simp [hp, report?, hx, hd]
      rw [hnews]
      exact Trades.putBack hlt hp hx (by simp)
        (fun _ => phase_become (f := { f with outbox := _ }) hlt) rfl
  | @call r hp hx hd he =>
      have hnews : report? carrier f (f.phase i)
          = [.began (callFor carrier f r) (r.timeout.getD f.timeout)] := by
        simp [hp, report?, hx, hd]
      refine Trades.turn hlt (size_rest _ _ _)
        (fun _ => phase_rest (f := { f with attempts := _ }) hlt) rfl ?_
      rw [hnews, hp]
      exact .call hx hd
  | @callAtOnce r hp hx hd he =>
      have hnews : report? carrier f (f.phase i)
          = [.began (callFor carrier f r) (r.timeout.getD f.timeout)] := by
        simp [hp, report?, hx, hd]
      refine Trades.turn hlt (size_become _ _ _)
        (fun _ => phase_become (f := { f with attempts := _ }) hlt) rfl ?_
      rw [hnews, hp]
      exact .call hx hd
  | glance hp hg =>
      refine Trades.turn hlt (size_become _ _ _)
        (fun _ => phase_become (f := { f with gate := _ }) hlt) rfl ?_
      rw [hp]
      exact .keep
  | guard hp hg =>
      refine Trades.turn hlt (size_rest _ _ _) (fun _ => phase_rest (f := { f with gate := _ }) hlt)
        rfl ?_
      rw [hp]
      exact .keep
  | @succeed c late took hp hc =>
      have hnews : report? carrier f (f.phase i) = [.ended c f.now] := by simp [hp, report?, hc]
      refine Trades.turn hlt (by simp)
        (fun _ => phase_tally_become hlt fun t => t.success late took) rfl ?_
      rw [hnews, hp]
      exact .deliver hp hc
  | @retry c late took hp hc hr =>
      have hnews : report? carrier f (f.phase i) = .ended c f.now ::
          if f.outbox.hasRoom then [] else [.lost f.outbox (f.retried c.request)] := by
        simp [hp, report?, hc, hr]
      rw [hnews]
      exact Trades.retry hlt hp
        ((hs.tally i fun t => t.failure late took).become (p := .looking) hi rfl) (by simp)
        (fun _ => phase_tally_become hlt fun t => t.failure late took) hc hr
  | @giveUp c late took hp hc hr =>
      have hnews : report? carrier f (f.phase i) = [.ended c f.now, .spent c] := by
        simp [hp, report?, hc, hr]
      refine Trades.turn hlt (by simp)
        (fun _ => phase_tally_become hlt fun t => (t.failure late took).ignored) rfl ?_
      rw [hnews, hp]
      exact .spend hp hc hr

/-- It does not matter to a trade who else is awake. -/
lemma Trade.of_first {es : List Event} {out new : Multiset Item}
    (h : Trade carrier (f.first i) es out new) : Trade carrier f es out new := by
  cases h with
  | keep => exact .keep
  | accept r hroom => exact .accept r hroom
  | refuse r hroom => exact .refuse r hroom
  | take r => exact .take r
  | lapse hx => exact .lapse hx
  | lose hx hroom => exact .lose hx hroom
  | call hx hd => exact .call hx hd
  | deliver hp hc => exact .deliver hp hc
  | requeue hp hc hr hroom => exact .requeue hp hc hr hroom
  | turnAway hp hc hr hroom => exact .turnAway hp hc hr hroom
  | spend hp hc hr => exact .spend hp hc hr

lemma Trades.offer (hs : Sound f) (r : Request) :
    Trades carrier f (news carrier f (.offer r)) (f.offer r) := by
  have hitems : (f.offer r).items = _ := items_afterInsert hs (f.outbox.offer r)
  rw [Outbox.offer, stored_insert] at hitems
  rw [news]
  cases hroom : f.outbox.hasRoom with
  | true =>
      rw [hroom, if_pos rfl] at hitems
      rw [if_pos rfl]
      refine ⟨0, _, f.items, .accept r hroom, (zero_add _).symm, ?_⟩
      rw [hitems, items]
      abel
  | false =>
      rw [hroom, if_neg Bool.false_ne_true] at hitems
      rw [if_neg Bool.false_ne_true]
      exact ⟨0, 0, f.items, .refuse r hroom, (zero_add _).symm, hitems.trans (zero_add _).symm⟩

lemma Trades.pop : Trades carrier f (news carrier f .pop) f.pop.2 := by
  rw [news, Fleet.pop]
  cases ht : f.outbox.take? with
  | none => exact Trades.keep rfl
  | some rb =>
      obtain ⟨r, b⟩ := rb
      refine ⟨{.waiting r}, 0, _, .take r, ?_, (zero_add _).symm⟩
      rw [items, stored_of_take? ht, add_assoc]
      rfl

/-- An alarm and the order to stop change nothing about who holds what. -/
lemma items_ring (f : Fleet) (i : ℕ) : (f.ring i).items = f.items := by
  by_cases hi : i < f.couriers.size
  · have hsize : (f.ring i).couriers.size = f.couriers.size := by
      rw [ring_eq]
      split <;> simp [callUp, wake]
    have hout : (f.ring i).outbox = f.outbox := by
      rw [ring_eq]
      split <;> rfl
    obtain ⟨rest, hf, hg⟩ := items_change hi hsize (phase_ring f i)
    have hrung : ((f.phase i).rung).items = (f.phase i).items := by
      cases f.phase i <;> rfl
    rw [hf, hg, hout, hrung]
  · rw [ring_of_no_alarm (by rw [phase_of_size_le (not_lt.mp hi)]; rfl)]

lemma items_stop (f : Fleet) : f.stop.items = f.items := by
  refine stop_induction (P := fun g => g.items = f.items) rfl fun g i hg hp => ?_
  have hi : i < g.couriers.size := lt_size_of_phase_ne fun hl => by simp [hl, Phase.inLine] at hp
  obtain ⟨rest, hf', hg'⟩ := items_change (g := g.callUp i) hi (by simp [callUp, wake])
    fun _ => phase_callUp hi
  rw [hg', ← hg, hf', Phase.items_of_inLine hp]
  rfl

/-- **Every motion is a trade.** -/
theorem move_trades (carrier : Carrier) (hs : Sound f) (m : Motion) :
    Trades carrier f (news carrier f m) (move carrier f m) := by
  cases m with
  | offer r => exact Trades.offer hs r
  | act i =>
      rw [news, move]
      split_ifs with hi
      · obtain ⟨out, new, rest, htrade, hf, hg⟩ := (hs.act hi).trades (hs.first hi) rfl
        exact ⟨out, new, rest, htrade.of_first, hf, hg⟩
      · exact Trades.keep rfl
  | pass t => exact Trades.keep rfl
  | ring i =>
      rw [news, move]
      split_ifs
      · exact Trades.keep (items_ring f i)
      · exact Trades.keep rfl
  | pop => exact Trades.pop
  | stop => exact Trades.keep (items_stop f)

/-! ## The record of attempts -/

/-- The attempt that an event tells of. -/
def Event.attempt? : Event → Option Attempt
  | .began c patience => some { time := c.started, request := c.request, timeout := patience }
  | _ => none

lemma attempts_afterInsert (f : Fleet) (done : Bool × Outbox) :
    (f.afterInsert done).attempts = f.attempts := by
  rcases f.afterInsert_cases done with ⟨-, heq⟩ | ⟨-, -, heq⟩ | ⟨j, line, -, hl, heq⟩ <;> rw [heq]
  · rfl

lemma Act.attempts (hact : Act carrier f i g) : g.attempts
    = ((report? carrier f (f.phase i)).filterMap Event.attempt?).reverse ++ f.attempts := by
  cases hact with
  | lapse hp hx => simp [hp, report?, hx, List.filterMap_cons, Event.attempt?, become, modify]
  | putBack hp hx hd =>
      cases hroom : f.outbox.hasRoom <;>
        simp [hp, report?, hx, hd, hroom, List.filterMap_cons, Event.attempt?, become, modify]
  | call hp hx hd he =>
      simp [hp, report?, hx, hd, Event.attempt?, rest, modify, callFor, attemptFor]
  | callAtOnce hp hx hd he =>
      simp [hp, report?, hx, hd, Event.attempt?, become, modify, callFor, attemptFor]
  | succeed late took hp hc =>
      simp [hp, report?, hc, List.filterMap_cons, Event.attempt?, become, modify]
  | retry late took hp hc hr =>
      rw [attempts_afterInsert]
      cases hroom : f.outbox.hasRoom <;>
        simp [hp, report?, hc, hr, hroom, List.filterMap_cons, Event.attempt?, become, modify]
  | giveUp late took hp hc hr =>
      simp [hp, report?, hc, hr, List.filterMap_cons, Event.attempt?, become, modify]
  | stop hp | take hp | relook hp | park hp | glance hp | guard hp =>
      rw [hp]
      rfl

lemma attempts_move (hs : Sound f) (m : Motion) : (move carrier f m).attempts
    = ((news carrier f m).filterMap Event.attempt?).reverse ++ f.attempts := by
  cases m with
  | offer r =>
      rw [move, offer, attempts_afterInsert, news]
      split_ifs <;> rfl
  | act i =>
      rw [move, news]
      split_ifs with hi
      · exact (hs.act hi).attempts
      · rfl
  | pass t => rfl
  | ring i =>
      rw [move, news]
      split_ifs
      · rw [ring_eq]
        split <;> rfl
      · rfl
  | pop =>
      rw [move, news, pop]
      cases f.outbox.take? <;> rfl
  | stop =>
      exact stop_induction (P := fun g => g.attempts = f.attempts) rfl fun g i hg _ => hg

/-- **The attempts that a fleet has on record are those of its history.** -/
theorem attempts_run (hs : Sound f) (ms : List Motion) : (run carrier f ms).attempts
    = ((chronicle carrier f ms).filterMap Event.attempt?).reverse ++ f.attempts := by
  induction ms using List.reverseRecOn with
  | nil => rfl
  | append_singleton ms m ih =>
      rw [chronicle_snoc, run_snoc, attempts_move (hs.run ms), ih]
      simp

end HostAgent.Fleet
