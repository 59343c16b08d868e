import HostAgent.Agent
import HostAgent.Proofs.Backhaul.Address
import HostAgent.Proofs.Fleet.Attempts

/-!
# The budget of attempts

A request comes in with as many attempts as the limit allows, and each failed call uses one up.
The number of attempts left alone decides how long the request rests, so what is said about the
rests follows from one balance: the attempts left and the failures so far add up to the limit.

* `failures` — how many calls on a request have failed, as the history of the fleet tells it.
* `Budgeted` — the balance, for every request that the fleet holds; `Budgeted.trade` — whatever a
  motion does with the items, it keeps the balance.
* `Uncut` — a request goes back after a failure, and no number that is computed for it stops at
  the bound of its register.
* `pauses_uncut` — so it is in every run of the fleet of checked settings.
-/

namespace HostAgent.Fleet

open Backhaul (Target)
open Outbound (Request Session)

variable {carrier : Carrier} {f g : Fleet} {n limit : ℕ} {q r : Request} {c : Call}
  {ms : List Motion} {es log : List Event} {out new : Multiset Item} {x : Item}

/-! ## Failures -/

/-- Whether an event is the failure of a call on the request of a number. -/
def Event.isFailure (n : ℕ) : Event → Bool
  | .ended c _ => c.request.id == n && !c.succeeds
  | _ => false

/-- How many calls on the request of a number have failed. -/
def failures (n : ℕ) (log : List Event) : ℕ := log.countP (Event.isFailure n)

lemma failures_append (n : ℕ) (log es : List Event) :
    failures n (log ++ es) = failures n log + failures n es :=
  List.countP_append

lemma Item.id_eq (x : Item) : x.id = x.request.id := by
  cases x <;> rfl

/-- Only a call that is held can fail. -/
lemma Trade.failures_eq_zero (h : Trade carrier f es out new) (hn : n ∉ out.map Item.id) :
    failures n es = 0 := by
  have hother : ∀ c : Call, out = {.called c} → c.request.id ≠ n := by
    rintro c rfl rfl
    simp [Item.id] at hn
  cases h with
  | deliver | requeue | turnAway | spend => simp [failures, Event.isFailure, hother _ rfl]
  | _ => rfl

/-- What a motion puts in has come in just now, or it was held before and has as many attempts
fewer as calls on it have failed. -/
lemma Trade.attempts_left (h : Trade carrier f es out new) (hx : x ∈ new) :
    (es = [.accepted x.request] ∧ x.request.retriesLeft = f.outbox.retryLimit) ∨
    ∃ y ∈ out, y.id = x.id ∧ (0 < y.request.retriesLeft → 0 < x.request.retriesLeft) ∧
      y.request.retriesLeft = x.request.retriesLeft + failures x.id es := by
  cases h with
  | accept r hroom =>
      obtain rfl := Multiset.mem_singleton.mp hx
      exact .inl ⟨rfl, rfl⟩
  | call hx' hd =>
      obtain rfl := Multiset.mem_singleton.mp hx
      exact .inr ⟨_, Multiset.mem_singleton_self _, rfl, id, rfl⟩
  | @requeue c i hp hc hr hroom =>
      obtain rfl := Multiset.mem_singleton.mp hx
      refine .inr ⟨_, Multiset.mem_singleton_self _, rfl, fun _ => hr, ?_⟩
      have hfailed : failures c.request.id [.ended c f.now] = 1 := by
        simp [failures, Event.isFailure, hc]
      change c.request.retriesLeft = c.request.retriesLeft - 1 + failures c.request.id _
      rw [hfailed]
      omega
  | _ => simp at hx

/-! ## The balance -/

/-- **The balance of every request that is held**: the attempts left and the failures so far add up
to the limit, and something is left.  Nothing has failed of requests that did not come. -/
structure Budgeted (limit : ℕ) (log : List Event) (f : Fleet) : Prop where
  stranger : ∀ n ∉ arrivals log, failures n log = 0
  left_pos : ∀ x ∈ f.items, 0 < x.request.retriesLeft
  balance : ∀ x ∈ f.items, x.request.retriesLeft + failures x.id log = limit

/-- **Whatever a motion does with the items, it keeps the balance.** -/
lemma Budgeted.trade (h : Budgeted limit log f) (htrades : Trades carrier f es g)
    (hcustody : arrivals log = f.items.map Item.id + departures log)
    (hnodup : (arrivals (log ++ es)).Nodup) (hlimit : f.outbox.retryLimit = limit)
    (hpos : 0 < limit) : Budgeted limit (log ++ es) g := by
  obtain ⟨out, new, rest, htrade, hf, hg⟩ := htrades
  rw [arrivals_append, Multiset.nodup_add] at hnodup
  obtain ⟨hlog, -, hdisjoint⟩ := hnodup
  rw [hcustody, Multiset.nodup_add, hf, Multiset.map_add, Multiset.nodup_add] at hlog
  have harrived : ∀ x ∈ f.items, x.id ∈ arrivals log := fun x hx => by
    rw [hcustody]
    exact Multiset.mem_add.mpr (.inl (Multiset.mem_map_of_mem Item.id hx))
  have hout : ∀ y ∈ out, y ∈ f.items := fun y hy => hf ▸ Multiset.mem_add.mpr (.inl hy)
  -- a call that fails takes part in the trade, so nothing has failed of what does not
  have hrest : ∀ y ∈ rest, y ∈ f.items ∧ failures y.id es = 0 := fun y hy =>
    ⟨hf ▸ Multiset.mem_add.mpr (.inr hy), htrade.failures_eq_zero fun hmem =>
      Multiset.disjoint_left.mp hlog.1.2.2 hmem (Multiset.mem_map_of_mem Item.id hy)⟩
  have hnew : ∀ x ∈ new, 0 < x.request.retriesLeft ∧
      x.request.retriesLeft + failures x.id (log ++ es) = limit := by
    intro x hx
    rw [failures_append]
    rcases htrade.attempts_left hx with ⟨rfl, hleft⟩ | ⟨y, hy, hid, hpos', hleft⟩
    · -- no number comes twice, so nothing has failed of what comes in now
      have hcame : x.id ∉ arrivals log := fun hmem => by
        refine Multiset.disjoint_left.mp hdisjoint hmem ?_
        simp [arrivals, Event.arrival?, x.id_eq]
      have hnone : failures x.id [.accepted x.request] = 0 := rfl
      rw [h.stranger _ hcame, hnone, hleft, hlimit]
      exact ⟨hpos, rfl⟩
    · have hbalance := h.balance y (hout y hy)
      rw [hid, hleft] at hbalance
      exact ⟨hpos' (h.left_pos y (hout y hy)), by omega⟩
  refine ⟨fun n hn => ?_, fun x hx => ?_, fun x hx => ?_⟩
  · rw [arrivals_append, Multiset.mem_add, not_or] at hn
    rw [failures_append, h.stranger n hn.1, htrade.failures_eq_zero fun hmem => hn.1 ?_]
    obtain ⟨y, hy, rfl⟩ := Multiset.mem_map.mp hmem
    exact harrived y (hout y hy)
  · rcases Multiset.mem_add.mp (hg ▸ hx) with hx | hx
    · exact (hnew x hx).1
    · exact h.left_pos x (hrest x hx).1
  · rcases Multiset.mem_add.mp (hg ▸ hx) with hx | hx
    · exact (hnew x hx).2
    · rw [failures_append, (hrest x hx).2, add_zero]
      exact h.balance x (hrest x hx).1

/-- **Every run keeps the balance**, whether or not its clock is prompt. -/
theorem budgeted_run (hs : Sound f) (hempty : f.items = 0) (hlimit : f.outbox.retryLimit = limit)
    (hpos : 0 < limit) (hnodup : (arrivals (chronicle carrier f ms)).Nodup) :
    Budgeted limit (chronicle carrier f ms) (run carrier f ms) := by
  induction ms using List.reverseRecOn with
  | nil => exact ⟨fun _ _ => rfl, by simp [hempty], by simp [hempty]⟩
  | append_singleton ms m ih =>
      rw [chronicle_snoc] at hnodup ⊢
      rw [run_snoc]
      have hbefore : (arrivals (chronicle carrier f ms)).Nodup := by
        rw [arrivals_append, Multiset.nodup_add] at hnodup
        exact hnodup.1
      exact (ih hbefore).trade (move_trades carrier (hs.run ms) m) (custody hs hempty ms) hnodup
        ((limits_run carrier hs ms).1.trans hlimit) hpos

/-! ## Rests -/

/-- **A request goes back after its `k`-th failure, and nothing is cut**: lowering the attempts left
does not stop at zero, nor does taking them from the limit; two to the power of `k` fits its
register, and so many seconds fit a span; and the clock has the due time if it has a point that is
two to the power of twenty-nine seconds ahead. -/
structure Uncut (limit : ℕ) (now : Int) (r q : Request) (k : ℕ) : Prop where
  lowered : r.retriesLeft = q.retriesLeft + 1
  used : q.retriesLeft + k = limit
  few : 1 ≤ k ∧ k ≤ limit - 1 ∧ limit - 1 ≤ 29
  seconds : Outbound.pauseSeconds limit q.retriesLeft = 2 ^ k
  nanos : (Outbound.pause limit q.retriesLeft).nanos = 2 ^ k * 1000000000
  due : q.due = now + 1000 * 2 ^ k
  ahead : q.due ≤ now + 1000 * 2 ^ 29
  onClock : now < 1000 * (Word.half64 - 2 ^ 29) → q.due < 1000 * Word.half64

/-- The rest after the `k`-th failure of a request with so many attempts left. -/
lemma uncut_retried {k : ℕ} (hlimit : f.outbox.retryLimit = limit) (hle : limit ≤ 30)
    (hleft : 0 < r.retriesLeft - 1) (hk : r.retriesLeft - 1 + k = limit) (hpos : 1 ≤ k) :
    Uncut limit f.now r (f.retried r) k := by
  have hexponent : limit - (r.retriesLeft - 1) = k := by omega
  have hpow : 2 ^ k ≤ 2 ^ 29 := Nat.pow_le_pow_right Nat.zero_lt_two (by omega)
  have hseconds : Outbound.pauseSeconds limit (r.retriesLeft - 1) = 2 ^ k := by
    rw [Outbound.pauseSeconds, hexponent, if_pos (by omega)]
    rfl
  have hdue : (f.retried r).due = f.now + 1000 * 2 ^ k := by
    have hpause := pause_after hle (k := k - 1) (by omega) f.now
    rw [Nat.sub_add_cancel hpos] at hpause
    change (Outbound.pause f.outbox.retryLimit (r.retriesLeft - 1)).after f.now = _
    rw [hlimit, ← hpause]
    congr 2
    omega
  have hahead : (f.retried r).due ≤ f.now + 1000 * 2 ^ 29 := by
    have hcast : (2 : Int) ^ k ≤ 2 ^ 29 := by exact_mod_cast hpow
    omega
  refine ⟨?_, hk, by omega, hseconds, ?_, hdue, hahead, fun hnow => by omega⟩
  · change r.retriesLeft = r.retriesLeft - 1 + 1
    omega
  · change (Outbound.pause limit (r.retriesLeft - 1)).nanos = _
    rw [Outbound.pause, hseconds, Span.seconds, Span.ofNanos]
    exact min_eq_left (by unfold Span.limit; omega)

/-- The failure of a call is told when it is reported. -/
lemma failures_report {i : ℕ} (hs : Sound f) (hp : f.phase i = .reporting c)
    (hc : c.succeeds = false) : failures c.request.id (news carrier f (.act i)) = 1 := by
  have hi : i ∈ f.awake := (hs.mem_awake i).mpr
    ⟨lt_size_of_phase_ne (by simp [hp]), by simp [hp, Phase.runs]⟩
  rw [news, if_pos hi, hp, report?, if_neg (by simp [hc])]
  split_ifs <;> simp [failures, Event.isFailure, hc]

/-- **No number is cut in any run of the fleet of checked settings.**  Whatever happens and in
whatever order, a request that the fleet holds has at least one attempt left and at most as many as
the limit; and when a failed call is reported and the request is to go back, it rests for exactly
two to the power of `k` seconds, where `k` is the number of its failures, this one included, and
nothing on the way to its new due time is cut. -/
theorem pauses_uncut {s : Settings} (hcheck : s.check = .ok ()) (session : Session)
    (target : Target) (carrier : Carrier) (ms : List Motion) :
    let limit := s.delivery.retryLimit
    let start := (Agent.fresh s session target).fleet
    let f := run carrier start (numbered ms)
    let log := chronicle carrier start (numbered ms)
    (∀ x ∈ f.items, 1 ≤ x.request.retriesLeft ∧ x.request.retriesLeft ≤ limit) ∧
    ∀ i c, f.phase i = .reporting c → c.succeeds = false → 0 < c.request.retriesLeft - 1 →
      Uncut limit f.now c.request (f.retried c.request)
        (failures c.request.id (log ++ news carrier f (.act i))) := by
  intro limit start f log
  obtain ⟨hpos, hle⟩ := Settings.retryLimit_of_check hcheck
  have hs : Sound start := sound_start _ _ _
  have hlimit : f.outbox.retryLimit = limit := (limits_run carrier hs (numbered ms)).1
  have hbudget : Budgeted limit log f :=
    budgeted_run hs (items_start _ _ _ _) rfl hpos (arrivals_numbered carrier start ms)
  refine ⟨fun x hx => ⟨hbudget.left_pos x hx, ?_⟩, fun i c hp hc hleft => ?_⟩
  · have := hbudget.balance x hx
    omega
  · have hbalance := hbudget.balance _ (mem_items_of_phase (i := i) (x := .called c)
      (lt_size_of_phase_ne (by simp [hp])) (by simp [hp]))
    have hfailed : failures c.request.id (news carrier f (.act i)) = 1 :=
      failures_report (hs.run (numbered ms)) hp hc
    refine uncut_retried hlimit hle hleft ?_ ?_
    · rw [failures_append, hfailed]
      change c.request.retriesLeft + failures c.request.id log = limit at hbalance
      omega
    · rw [failures_append, hfailed]
      omega

/-- A request whose first call fails rests for two seconds, with four attempts left of five. -/
theorem pauses_uncut_failedOnce :
    let s := Backhaul.plainSettings "http://[::1]" "b"
    let session : Session := { base := "http://[::1]", authorization := "" }
    let target : Target :=
      { url := Backhaul.atLoopback "ws" ["ws"], authorization := "", origin := "http://[::1]" }
    let carrier : Carrier := fun _ n => if n = 0 then { latency := 10, status := 500 } else {}
    let f := run carrier (Agent.fresh s session target).fleet (numbered (failedOnce.take 5))
    ∃ c, f.phase 0 = .reporting c ∧ (f.retried c.request).due = 2010 ∧
      Uncut 5 f.now c.request (f.retried c.request) 1 := by
  intro s session target carrier f
  have hcheck : s.check = .ok () := by decide +kernel
  have hnow : f.now = 10 := by decide +kernel
  have hreports : (match f.phase 0 with
      | .reporting c => !c.succeeds && decide (0 < c.request.retriesLeft - 1) &&
          failures c.request.id (chronicle carrier (Agent.fresh s session target).fleet
            (numbered (failedOnce.take 5)) ++ news carrier f (.act 0)) == 1
      | _ => false) = true := by decide +kernel
  cases hphase : f.phase 0 with
  | reporting c =>
      simp only [hphase, Bool.and_eq_true, Bool.not_eq_true', decide_eq_true_eq, beq_iff_eq]
        at hreports
      obtain ⟨⟨hfails, hleft⟩, hk⟩ := hreports
      have huncut := (pauses_uncut hcheck session target carrier (failedOnce.take 5)).2 0 c hphase
        hfails hleft
      rw [hk] at huncut
      exact ⟨c, rfl, by rw [huncut.due, hnow]; rfl, huncut⟩
  | _ => simp [hphase] at hreports

end HostAgent.Fleet
