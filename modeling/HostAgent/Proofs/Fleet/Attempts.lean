import HostAgent.Proofs.Fleet.Clock
import HostAgent.Proofs.Fleet.Custody

/-!
# The attempts on a request

A request threads through the outbox, the hands of several couriers and calls.  What is said about
all attempts on it follows from an invariant of one request, which ties the attempts so far to the
one place where the request is.

* `Trial`, `trials` — the attempts on a request, as the history of the fleet tells them.
* `Punctual` — a call ends when its answer comes or its time is up, and not later.
* `Tracked` — the invariant.  The attempts so far are lawful; and if the request waits, the last
  of them has failed, and its due time and attempts left are those that the next one must have.
* `Tracked.trade` — whatever a motion does with the items, it keeps the invariant.
* `attempts_keep_schedule` — the law of all attempts, for every request of every run.
-/

namespace HostAgent.Fleet

open Outbound (Request)

variable {carrier : Carrier} {f g : Fleet} {i j n limit : ℕ} {p : Phase} {q r : Request} {c : Call}
  {m : Motion} {ms : List Motion} {es log : List Event} {out new rest : Multiset Item}
  {timeout : Span}

/-! ## Calls end when they should -/

/-- A call does not end before it starts. -/
lemma started_le_endsAt (carrier : Carrier) (f : Fleet) (r : Request) :
    f.now ≤ (callFor carrier f r).endsAt := by
  have hgive : f.now ≤ giveUpAt f.now (r.timeout.getD f.timeout) := by
    unfold giveUpAt Span.alarm Span.after
    split_ifs <;> omega
  simp only [Call.endsAt, Call.answerAt?, callFor]
  by_cases hhangs : (carrier r.path (f.attemptsOn r.path)).hangs = true
  · simpa [hhangs] using hgive
  · simpa [hhangs] using hgive

/-- A call is given up no later than its patience allows, rounded up to milliseconds. -/
lemma giveUpAt_le (now : Int) (patience : Span) : giveUpAt now patience ≤ patience.after now := by
  unfold giveUpAt Span.alarm
  split_ifs with h
  · exact le_refl _
  · have hcut : (Span.seconds (86400 * 365 * 30)).ceilMillis ≤ Span.alarmLimit := by decide
    simp only [Span.after]
    omega

lemma endsAt_le_giveUp (c : Call) : c.endsAt ≤ c.giveUp := by
  unfold Call.endsAt
  split
  · exact min_le_right _ _
  · exact le_refl _

/-- A call in this phase is not over yet, or is over just now. -/
def Phase.onBeat (now : Int) : Phase → Prop
  | .calling c => now ≤ c.endsAt
  | .reporting c => now = c.endsAt
  | _ => True

lemma kept_onBeat : Kept carrier fun now p => p.onBeat now where
  looking _ := trivial
  parked _ := trivial
  ended _ := trivial
  holding _ _ := trivial
  enlisting _ _ _ := trivial
  guarding _ _ _ := trivial
  calling _ _ h := h.le
  reporting f r h := le_antisymm (started_le_endsAt carrier f r) h

/-- Every call that is over is over just now. -/
def Punctual (f : Fleet) : Prop :=
  ∀ i, (f.phase i).onBeat f.now

/-- Since time passes only while everybody waits, and not past an alarm, calls stay punctual. -/
lemma Punctual.move (h : Punctual f) (hs : Sound f) (hm : Prompt f m) :
    Punctual (move carrier f m) := by
  cases m with
  | offer r =>
      exact forall_phase_afterInsert (P := fun now p => p.onBeat now) hs h trivial _
  | act i =>
      rw [Fleet.move]
      split_ifs with hi
      · exact (hs.act hi).forall_phase kept_onBeat h (hs.first hi) rfl
      · exact h
  | pass t =>
      intro i
      have hi := h i
      change (f.phase i).onBeat (max f.now t)
      cases hp : f.phase i with
      | calling c =>
          rw [hp] at hi
          exact max_le hi (hm.2 i c.endsAt (by simp [hp, Phase.alarm?]))
      | reporting c =>
          rcases hs.idle hm.1 i with hr | hr <;> simp [hp, Phase.runs] at hr
      | _ => trivial
  | ring i =>
      rw [Fleet.move]
      split_ifs with hdue
      · intro j
        have hj := h j
        have hnow : (f.ring i).now = f.now := now_ringEach f [i]
        rw [phase_ring, hnow]
        split_ifs with hji
        · rw [hji] at hj
          cases hp : f.phase i with
          | calling c =>
              rw [hp] at hj hdue
              exact le_antisymm hj (by simpa [Phase.alarm?] using hdue)
          | reporting c => rw [hp] at hj; exact hj
          | _ => trivial
        · exact hj
      · exact h
  | pop =>
      change Punctual f.pop.2
      unfold Fleet.pop
      split <;> exact h
  | stop => exact forall_phase_stop (P := fun now p => p.onBeat now) h fun _ => trivial

lemma punctual_start (b : Outbox) (workers : ℕ) (timeout : Span) :
    Punctual (start b {} workers timeout) := by
  intro i
  rw [phase_start]
  trivial

/-! ## The attempts on one request -/

/-- An attempt: when it began, how many were left then, how long it might take, and when it ended
and whether with success. -/
structure Trial where
  started : Int
  left : ℕ
  patience : Span
  ended : Option (Int × Bool) := none
  deriving DecidableEq

/-- The attempts on a request after one more event, the last one first. -/
def record (n : ℕ) (ts : List Trial) : Event → List Trial
  | .began c patience =>
    if c.request.id = n then
      { started := c.started, left := c.request.retriesLeft, patience } :: ts
    else ts
  | .ended c time =>
    if c.request.id = n then ts.modifyHead fun t => { t with ended := some (time, c.succeeds) }
    else ts
  | _ => ts

/-- The attempts on the request of a number, the last one first. -/
def trials (n : ℕ) (log : List Event) : List Trial :=
  log.foldl (record n) []

lemma trials_append (n : ℕ) (log es : List Event) :
    trials n (log ++ es) = es.foldl (record n) (trials n log) :=
  List.foldl_append

/-- The next attempt may begin: the first one when the request is due, any other after a rest since
the failure of the last, which doubles each time. -/
def Rested (r : Request) (now : Int) : List Trial → Prop
  | [] => r.due ≤ now
  | t :: ts => ∃ e, t.ended = some (e, false) ∧ e + 1000 * 2 ^ (ts.length + 1) ≤ now

/-- What an attempt on a request must be after so many others. -/
structure Trial.Fits (limit : ℕ) (timeout : Span) (r : Request) (k : ℕ) (t : Trial) : Prop where
  left : t.left = limit - k
  few : k < max limit 1
  patience : t.patience = r.timeout.getD timeout
  fresh : ∀ e ∈ r.expiry, t.started < e
  inTime : ∀ e ok, t.ended = some (e, ok) → t.started ≤ e ∧ e ≤ t.patience.after t.started

/-- What the attempts on a request must be, the last one first. -/
def Lawful (limit : ℕ) (timeout : Span) (r : Request) : List Trial → Prop
  | [] => True
  | t :: ts => t.Fits limit timeout r ts.length ∧ Rested r t.started ts ∧ Lawful limit timeout r ts

/-- What a request that waits must be after some attempts. -/
structure Waits (limit : ℕ) (r : Request) (ts : List Trial) (q : Request) : Prop where
  left : q.retriesLeft = limit - ts.length
  few : ts.length < max limit 1
  expiry : q.expiry = r.expiry
  timeout : q.timeout = r.timeout
  rested : Rested r q.due ts

/-- What a call must be during an attempt. -/
structure Runs (r : Request) (t : Trial) (c : Call) : Prop where
  running : t.ended = none
  started : t.started = c.started
  left : t.left = c.request.retriesLeft
  expiry : c.request.expiry = r.expiry
  timeout : c.request.timeout = r.timeout
  begun : c.started ≤ c.endsAt
  patience : c.giveUp ≤ t.patience.after t.started

/-- What an item must be after some attempts on its request. -/
def Item.Suits (limit : ℕ) (r : Request) (ts : List Trial) : Item → Prop
  | .waiting q => Waits limit r ts q
  | .called c => ∃ t us, ts = t :: us ∧ Runs r t c

/-- **The attempts on a request, and the place where it is.** -/
structure Tracked (limit : ℕ) (timeout : Span) (r : Request) (ts : List Trial)
    (held : Multiset Item) : Prop where
  lawful : Lawful limit timeout r ts
  suits : ∀ x ∈ held, x.id = r.id → x.Suits limit r ts
  closed : (∀ x ∈ held, x.id ≠ r.id) → ∀ t ∈ ts.head?, t.ended.isSome

lemma Rested.mono {ts : List Trial} {now now' : Int} (h : Rested r now ts) (hle : now ≤ now') :
    Rested r now' ts := by
  cases ts with
  | nil => exact le_trans h hle
  | cons t ts =>
      obtain ⟨e, he, hrest⟩ := h
      exact ⟨e, he, le_trans hrest hle⟩

/-- The rest after a failure, for so many failures so far. -/
lemma pause_after (hl : limit ≤ 30) {k : ℕ} (hk : k + 1 < limit) (now : Int) :
    (Outbound.pause limit (limit - k - 1)).after now = now + 1000 * 2 ^ (k + 1) := by
  have hused : limit - (limit - k - 1) = k + 1 := by omega
  rw [Outbound.pause_after (by omega), hused]

variable {ts : List Trial} {held held' : Multiset Item} {x : Item}

/-! ## Every trade keeps track -/

/-- What other requests do does not matter. -/
lemma Tracked.congr (h : Tracked limit timeout r ts held)
    (hheld : ∀ x : Item, x.id = r.id → (x ∈ held' ↔ x ∈ held)) :
    Tracked limit timeout r ts held' where
  lawful := h.lawful
  suits x hx hid := h.suits x ((hheld x hid).mp hx) hid
  closed hne := h.closed fun x hx hid => hne x ((hheld x hid).mpr hx) hid

/-- One item comes and one goes that are about other requests. -/
lemma Tracked.elsewhere (h : Tracked limit timeout r ts (out + rest))
    (hout : ∀ x ∈ out, x.id ≠ r.id) (hnew : ∀ x ∈ new, x.id ≠ r.id) :
    Tracked limit timeout r ts (new + rest) := by
  refine h.congr fun x hid => ?_
  rw [Multiset.mem_add, Multiset.mem_add]
  have hx : x ∉ out := fun hx => hout x hx hid
  have hx' : x ∉ new := fun hx => hnew x hx hid
  tauto

/-- A request that waits is gone: its last attempt has ended. -/
lemma Tracked.remove (h : Tracked limit timeout r ts ({.waiting q} + rest)) :
    Tracked limit timeout r ts rest where
  lawful := h.lawful
  suits x hx := h.suits x (Multiset.mem_add.mpr (Or.inr hx))
  closed hne t ht := by
    by_cases hq : q.id = r.id
    · have hwaits : Waits limit r ts q := h.suits (.waiting q) (by simp) hq
      obtain ⟨us, rfl⟩ := List.head?_eq_some_iff.mp ht
      obtain ⟨e, he, -⟩ := hwaits.rested
      simp [he]
    · refine h.closed (fun x hx => ?_) t ht
      rcases Multiset.mem_add.mp hx with hx | hx
      · rw [Multiset.mem_singleton.mp hx]
        exact hq
      · exact hne x hx

/-- Items have different numbers, so that the rest is about other requests. -/
lemma ne_id_of_nodup (hnodup : (({x} + rest).map Item.id).Nodup) (hx : x.id = r.id) :
    ∀ y ∈ rest, y.id ≠ r.id := by
  intro y hy hid
  rw [Multiset.singleton_add, Multiset.map_cons, Multiset.nodup_cons] at hnodup
  exact hnodup.1 (Multiset.mem_map.mpr ⟨y, hy, hid.trans hx.symm⟩)

/-- A request that waits is called. -/
lemma Tracked.call (h : Tracked limit timeout r ts ({.waiting q} + rest)) (hq : q.id = r.id)
    (hrest : ∀ y ∈ rest, y.id ≠ r.id) (hx : q.isExpired f.now = false)
    (hd : q.isDue f.now = true) (ht : f.timeout = timeout) :
    Tracked limit timeout r
      ({ started := f.now, left := q.retriesLeft, patience := q.timeout.getD f.timeout } :: ts)
      ({.called (callFor carrier f q)} + rest) := by
  have hwaits : Waits limit r ts q := h.suits (.waiting q) (by simp) hq
  have hdue : q.due ≤ f.now := by simpa [Request.isDue] using hd
  have hpatience : q.timeout.getD f.timeout = r.timeout.getD timeout := by
    rw [hwaits.timeout, ht]
  have hfresh : ∀ e ∈ r.expiry, f.now < e := by
    intro e he
    have hqe : q.expiry = some e := hwaits.expiry.trans he
    simpa [Request.isExpired, hqe] using hx
  refine ⟨⟨⟨hwaits.left, hwaits.few, hpatience, hfresh, by simp⟩,
    hwaits.rested.mono hdue, h.lawful⟩, fun x hx hid => ?_, fun hne => ?_⟩
  · rcases Multiset.mem_add.mp hx with hx | hx
    · rw [Multiset.mem_singleton.mp hx]
      exact ⟨_, ts, rfl, rfl, rfl, rfl, hwaits.expiry, hwaits.timeout,
        started_le_endsAt carrier f q, giveUpAt_le _ _⟩
    · exact absurd hid (hrest x hx)
  · exact absurd hq (hne (.called (callFor carrier f q)) (by simp))

/-- A call is over. -/
lemma Tracked.finish (h : Tracked limit timeout r ts ({.called c} + rest))
    (hc : c.request.id = r.id) (hrest : ∀ y ∈ rest, y.id ≠ r.id) {now : Int} (hnow : now = c.endsAt)
    (hnew : ∀ t us, ts = t :: us → Runs r t c → t.Fits limit timeout r us.length →
      ∀ x ∈ new, x.Suits limit r ({ t with ended := some (now, c.succeeds) } :: us)) :
    Tracked limit timeout r (ts.modifyHead fun t => { t with ended := some (now, c.succeeds) })
      (new + rest) := by
  obtain ⟨t, us, rfl, hruns⟩ : (Item.called c).Suits limit r ts := h.suits (.called c) (by simp) hc
  obtain ⟨hfits, hrested, hlawful⟩ := h.lawful
  have htime : t.started ≤ now ∧ now ≤ t.patience.after t.started := by
    have hend := endsAt_le_giveUp c
    have hbegun := hruns.begun
    have hgive := hruns.patience
    have hstarted := hruns.started
    omega
  refine ⟨⟨⟨hfits.left, hfits.few, hfits.patience, hfits.fresh, fun e ok he => ?_⟩, hrested,
    hlawful⟩, fun x hx hid => ?_, fun _ t' ht' => ?_⟩
  · obtain ⟨rfl, rfl⟩ : now = e ∧ c.succeeds = ok := by simpa using he
    exact htime
  · rcases Multiset.mem_add.mp hx with hx | hx
    · exact hnew t us rfl hruns hfits x hx
    · exact absurd hid (hrest x hx)
  · obtain rfl : _ = t' := by simpa using ht'
    rfl

/-- The end of a call, of this request or of another. -/
lemma Tracked.ended (h : Tracked limit timeout r ts ({.called c} + rest))
    (hnodup : (({.called c} + rest).map Item.id).Nodup) {now : Int} (hnow : now = c.endsAt)
    (hid : ∀ x ∈ new, x.id = c.request.id)
    (hnew : ∀ t us, ts = t :: us → Runs r t c → t.Fits limit timeout r us.length →
      ∀ x ∈ new, x.Suits limit r ({ t with ended := some (now, c.succeeds) } :: us)) :
    Tracked limit timeout r (record r.id ts (.ended c now)) (new + rest) := by
  rw [record]
  split_ifs with hc
  · exact h.finish hc (ne_id_of_nodup hnodup hc) hnow hnew
  · exact h.elsewhere (by simpa [Item.id] using hc) fun x hx => by rw [hid x hx]; exact hc

/-- **Whatever a motion does with the items, the request is tracked.** -/
theorem Tracked.trade (h : Tracked limit timeout r ts (out + rest))
    (htrade : Trade carrier f es out new) (hnodup : ((out + rest).map Item.id).Nodup)
    (hnew : r.id ∉ arrivals es) (hp : Punctual f) (hl : limit ≤ 30)
    (hlimit : f.outbox.retryLimit = limit) (htimeout : f.timeout = timeout) :
    Tracked limit timeout r (es.foldl (record r.id) ts) (new + rest) := by
  cases htrade with
  | keep => exact h
  | accept q hroom =>
      have hq : q.id ≠ r.id := fun hq => hnew (by simp [arrivals, Event.arrival?, Outbox.stamp, hq])
      exact h.elsewhere (by simp) (by simpa [Item.id, Outbox.stamp] using hq)
  | refuse q hroom => exact h
  | take q => exact (h.remove.congr fun x _ => by simp)
  | lapse hx => exact (h.remove.congr fun x _ => by simp)
  | lose hx hroom => exact (h.remove.congr fun x _ => by simp)
  | @call q hx hd =>
      by_cases hq : q.id = r.id
      · have hts : record r.id ts (.began (callFor carrier f q) (q.timeout.getD f.timeout)) = _ :=
          if_pos hq
        rw [List.foldl_cons, hts]
        exact h.call hq (ne_id_of_nodup hnodup hq) hx hd htimeout
      · have hts : record r.id ts (.began (callFor carrier f q) (q.timeout.getD f.timeout)) = ts :=
          if_neg hq
        rw [List.foldl_cons, hts]
        exact h.elsewhere (by simpa [Item.id] using hq) (by simpa [Item.id, callFor] using hq)
  | @deliver c i hc hok =>
      have hnow : f.now = c.endsAt := by simpa [hc, Phase.onBeat] using hp i
      exact h.ended hnodup hnow (by simp) (by simp)
  | @requeue c i hc hok hr hroom =>
      have hnow : f.now = c.endsAt := by simpa [hc, Phase.onBeat] using hp i
      refine h.ended hnodup hnow (by simp [Item.id, retried]) fun t us hts hruns hfits x hx => ?_
      rw [Multiset.mem_singleton.mp hx]
      have hleft : c.request.retriesLeft = limit - us.length := hruns.left.symm.trans hfits.left
      have hlt : us.length + 1 < limit := by omega
      refine ⟨?_, ?_, hruns.expiry, hruns.timeout, f.now, by rw [hok], ?_⟩
      · change c.request.retriesLeft - 1 = limit - (us.length + 1)
        omega
      · exact lt_of_lt_of_le hlt (le_max_left _ _)
      · change _ ≤ (Outbound.pause f.outbox.retryLimit (c.request.retriesLeft - 1)).after f.now
        rw [hlimit, hleft, pause_after hl hlt]
  | @turnAway c i hc hok hr hroom =>
      have hnow : f.now = c.endsAt := by simpa [hc, Phase.onBeat] using hp i
      exact h.ended hnodup hnow (by simp) (by simp)
  | @spend c i hc hok hr =>
      have hnow : f.now = c.endsAt := by simpa [hc, Phase.onBeat] using hp i
      exact h.ended hnodup hnow (by simp) (by simp)

/-! ## Every run keeps track -/

/-- The limits do not change. -/
lemma Act.limits (hact : Act carrier f i g) :
    g.outbox.retryLimit = f.outbox.retryLimit ∧ g.timeout = f.timeout := by
  cases hact with
  | take hp hstop ht => exact ⟨(Outbox.limits_of_take? ht).2.1, rfl⟩
  | putBack hp hx hd => exact ⟨Outbox.insert_retryLimit _ _, rfl⟩
  | retry late took hp hc hr =>
      rw [outbox_afterInsert, timeout_afterInsert]
      exact ⟨Outbox.insert_retryLimit _ _, rfl⟩
  | _ => exact ⟨rfl, rfl⟩

lemma limits_move (carrier : Carrier) (hs : Sound f) (m : Motion) :
    (move carrier f m).outbox.retryLimit = f.outbox.retryLimit ∧
      (move carrier f m).timeout = f.timeout := by
  cases m with
  | offer r =>
      rw [move, offer, outbox_afterInsert, timeout_afterInsert]
      exact ⟨Outbox.insert_retryLimit _ _, rfl⟩
  | act i =>
      rw [move]
      split_ifs with hi
      · exact (hs.act hi).limits
      · exact ⟨rfl, rfl⟩
  | pass t => exact ⟨rfl, rfl⟩
  | ring i =>
      rw [move]
      split_ifs
      · rw [outbox_ring]
        refine ⟨rfl, ?_⟩
        rw [ring_eq]
        split <;> rfl
      · exact ⟨rfl, rfl⟩
  | pop =>
      rw [move, pop]
      cases ht : f.outbox.take? with
      | none => exact ⟨rfl, rfl⟩
      | some rb => exact ⟨(Outbox.limits_of_take? ht).2.1, rfl⟩
  | stop =>
      exact stop_induction (P := fun g => g.outbox.retryLimit = f.outbox.retryLimit ∧
        g.timeout = f.timeout) ⟨rfl, rfl⟩ fun g i hg _ => hg

lemma limits_run (carrier : Carrier) (hs : Sound f) (ms : List Motion) :
    (run carrier f ms).outbox.retryLimit = f.outbox.retryLimit ∧
      (run carrier f ms).timeout = f.timeout := by
  induction ms using List.reverseRecOn with
  | nil => exact ⟨rfl, rfl⟩
  | append_singleton ms m ih =>
      have hm := limits_move carrier (hs.run ms : Sound (run carrier f ms)) m
      rw [run_snoc, hm.1, hm.2]
      exact ih

lemma Punctual.run (h : Punctual f) (hs : Sound f) (hms : Follows carrier Prompt f ms) :
    Punctual (run carrier f ms) :=
  (hms.induction (P := fun f => Punctual f ∧ Sound f) ⟨h, hs⟩ fun _ m hf hm =>
    ⟨hf.1.move hf.2 hm, hf.2.move m⟩).1

/-- What the history says of all requests. -/
structure Recorded (limit : ℕ) (timeout : Span) (log : List Event) (f : Fleet) : Prop where
  stranger : ∀ n ∉ arrivals log, trials n log = []
  tracked : ∀ r, .accepted r ∈ log → Tracked limit timeout r (trials r.id log) f.items

/-- Nothing is recorded of those who are not concerned. -/
lemma Trade.stranger (h : Trade carrier f es out new) (hn : n ∉ out.map Item.id) :
    es.foldl (record n) [] = [] := by
  cases h with
  | call hx hd =>
      refine if_neg fun hq => hn ?_
      simpa [Item.id, callFor] using hq.symm
  | deliver hp hc => exact ite_self _
  | requeue hp hc hr hroom => exact ite_self _
  | turnAway hp hc hr hroom => exact ite_self _
  | spend hp hc hr => exact ite_self _
  | _ => rfl

lemma Trade.accepted (h : Trade carrier f es out new) (hr : .accepted r ∈ es) :
    es = [.accepted r] ∧ out = 0 ∧ new = {.waiting r} ∧ r.retriesLeft = f.outbox.retryLimit := by
  cases h with
  | accept q hroom =>
      obtain rfl : r = f.outbox.stamp q := by simpa using hr
      exact ⟨rfl, rfl, rfl, rfl⟩
  | _ => simp at hr

/-- A request that has just come in. -/
lemma tracked_accepted (hr : r.retriesLeft = limit) (hrest : ∀ y ∈ rest, y.id ≠ r.id) :
    Tracked limit timeout r [] ({.waiting r} + rest) where
  lawful := trivial
  suits x hx hid := by
    rcases Multiset.mem_add.mp hx with hx | hx
    · rw [Multiset.mem_singleton.mp hx]
      exact ⟨hr, by simp, rfl, rfl, le_refl _⟩
    · exact absurd hid (hrest x hx)
  closed _ t ht := nomatch ht

/-- **Every motion keeps track of all requests.** -/
lemma Recorded.trade (h : Recorded limit timeout log f) (htrades : Trades carrier f es g)
    (hcustody : arrivals log = f.items.map Item.id + departures log)
    (hnodup : (arrivals (log ++ es)).Nodup) (hp : Punctual f) (hl : limit ≤ 30)
    (hlimit : f.outbox.retryLimit = limit) (htimeout : f.timeout = timeout) :
    Recorded limit timeout (log ++ es) g := by
  obtain ⟨out, new, rest, htrade, hf, hg⟩ := htrades
  rw [arrivals_append, Multiset.nodup_add] at hnodup
  obtain ⟨hlog, -, hdisjoint⟩ := hnodup
  have hmem : ∀ x ∈ f.items, x.id ∈ arrivals log := by
    intro x hx
    rw [hcustody]
    exact Multiset.mem_add.mpr (Or.inl (Multiset.mem_map_of_mem Item.id hx))
  have hitems : (f.items.map Item.id).Nodup := by
    rw [hcustody, Multiset.nodup_add] at hlog
    exact hlog.1
  refine ⟨fun n hn => ?_, fun r hr => ?_⟩
  · rw [arrivals_append, Multiset.mem_add, not_or] at hn
    rw [trials_append, h.stranger n hn.1]
    refine htrade.stranger fun hout => hn.1 ?_
    obtain ⟨x, hx, rfl⟩ := Multiset.mem_map.mp hout
    exact hmem x (hf ▸ Multiset.mem_add.mpr (Or.inl hx))
  · rw [trials_append, hg]
    rcases List.mem_append.mp hr with hr | hr
    · have hcame : r.id ∈ arrivals log :=
        List.mem_map_of_mem (List.mem_filterMap.mpr ⟨_, hr, rfl⟩)
      have htracked := h.tracked r hr
      rw [hf] at htracked hitems
      exact htracked.trade htrade hitems (Multiset.disjoint_left.mp hdisjoint hcame) hp hl hlimit
        htimeout
    · obtain ⟨rfl, rfl, rfl, hleft⟩ := htrade.accepted hr
      have hnew : r.id ∉ arrivals log := fun hcame =>
        Multiset.disjoint_left.mp hdisjoint hcame (by simp [arrivals, Event.arrival?])
      rw [h.stranger r.id hnew]
      refine tracked_accepted (hleft.trans hlimit) fun y hy hid => hnew (hid ▸ hmem y ?_)
      rw [hf, zero_add]
      exact hy

/-- **Every run keeps track of all requests.** -/
theorem recorded_run (hs : Sound f) (hempty : f.items = 0) (hp : Punctual f) (hl : limit ≤ 30)
    (hlimit : f.outbox.retryLimit = limit) (htimeout : f.timeout = timeout)
    (hms : Follows carrier Prompt f ms) (hnodup : (arrivals (chronicle carrier f ms)).Nodup) :
    Recorded limit timeout (chronicle carrier f ms) (run carrier f ms) := by
  induction ms using List.reverseRecOn with
  | nil => exact ⟨fun n _ => rfl, fun r hr => nomatch hr⟩
  | append_singleton ms m ih =>
      obtain ⟨hms, -⟩ := follows_snoc.mp hms
      rw [chronicle_snoc] at hnodup ⊢
      rw [run_snoc]
      have hlimits := limits_run carrier hs ms
      have hbefore : (arrivals (chronicle carrier f ms)).Nodup := by
        rw [arrivals_append, Multiset.nodup_add] at hnodup
        exact hnodup.1
      exact (ih hms hbefore).trade (move_trades carrier (hs.run ms) m) (custody hs hempty ms) hnodup
        (hp.run hs hms) hl (hlimits.1.trans hlimit) (hlimits.2.trans htimeout)

/-! ## Numbered requests -/

/-- The motion with a number for the request that it offers. -/
def Motion.numbered (k : ℕ) : Motion → Motion
  | .offer r => .offer { r with id := k }
  | m => m

/-- The motions in which each request that is offered has a number of its own. -/
def numbered (ms : List Motion) : List Motion :=
  ms.mapIdx fun k m => m.numbered k

lemma numbered_snoc : numbered (ms ++ [m]) = numbered ms ++ [m.numbered ms.length] :=
  List.mapIdx_concat

lemma offered_numbered (ms : List Motion) :
    (offered (numbered ms)).Nodup ∧ ∀ n ∈ offered (numbered ms), n < ms.length := by
  induction ms using List.reverseRecOn with
  | nil => simp [numbered, offered]
  | append_singleton ms m ih =>
      have hmotion : offered [m.numbered ms.length] = 0 ∨
          offered [m.numbered ms.length] = {ms.length} := by
        cases m with
        | offer r => exact Or.inr rfl
        | _ => exact Or.inl rfl
      rw [numbered_snoc, offered_append, List.length_append, List.length_singleton]
      rcases hmotion with h | h
      · rw [h, add_zero]
        exact ⟨ih.1, fun n hn => Nat.lt_succ_of_lt (ih.2 n hn)⟩
      · rw [h]
        refine ⟨Multiset.nodup_add.mpr ⟨ih.1, Multiset.nodup_singleton _, ?_⟩, fun n hn => ?_⟩
        · exact Multiset.disjoint_singleton.mpr fun hn => lt_irrefl _ (ih.2 _ hn)
        · rcases Multiset.mem_add.mp hn with hn | hn
          · exact Nat.lt_succ_of_lt (ih.2 n hn)
          · rw [Multiset.mem_singleton.mp hn]
            exact Nat.lt_succ_self _

lemma arrivals_numbered (carrier : Carrier) (f : Fleet) (ms : List Motion) :
    (arrivals (chronicle carrier f (numbered ms))).Nodup := by
  have hle := arrivals_le_comings (chronicle carrier f (numbered ms))
  rw [comings_chronicle] at hle
  exact Multiset.nodup_of_le hle (offered_numbered ms).1

/-! ## The law of all attempts -/

/-- **The law of the attempts on a request**, the first one first. -/
structure Schedule (limit : ℕ) (timeout : Span) (r : Request) (ts : List Trial) : Prop where
  few : ts.length ≤ max limit 1
  left : ∀ k t, ts[k]? = some t → t.left = limit - k
  patience : ∀ t ∈ ts, t.patience = r.timeout.getD timeout
  due : ∀ t ∈ ts.head?, r.due ≤ t.started
  rested : ∀ k t u, ts[k]? = some t → ts[k + 1]? = some u →
    ∃ e, t.ended = some (e, false) ∧ e + 1000 * 2 ^ (k + 1) ≤ u.started
  fresh : ∀ t ∈ ts, ∀ e ∈ r.expiry, t.started < e
  inTime : ∀ t ∈ ts, ∀ e ok, t.ended = some (e, ok) → t.started ≤ e ∧ e ≤ t.patience.after t.started

lemma getElem?_snoc {α : Type} {l : List α} {a b : α} {k : ℕ} (h : (l ++ [a])[k]? = some b) :
    l[k]? = some b ∨ k = l.length ∧ b = a := by
  rcases lt_trichotomy k l.length with hk | rfl | hk
  · rw [List.getElem?_append_left hk] at h
    exact Or.inl h
  · simp at h
    exact Or.inr ⟨rfl, h.symm⟩
  · rw [List.getElem?_eq_none (by simp; omega)] at h
    cases h

/-- One more attempt. -/
lemma Schedule.snoc {t : Trial} (h : Schedule limit timeout r ts)
    (ht : t.Fits limit timeout r ts.length) (hrested : Rested r t.started ts.reverse) :
    Schedule limit timeout r (ts ++ [t]) where
  few := by
    rw [List.length_append, List.length_singleton]
    exact ht.few
  left k u hu := by
    rcases getElem?_snoc hu with hu | ⟨rfl, rfl⟩
    · exact h.left k u hu
    · exact ht.left
  patience u hu := by
    rcases List.mem_append.mp hu with hu | hu
    · exact h.patience u hu
    · rw [List.mem_singleton.mp hu]
      exact ht.patience
  due u hu := by
    cases ts with
    | nil =>
        obtain rfl : t = u := by simpa using hu
        exact hrested
    | cons v vs => exact h.due u hu
  rested k u v hu hv := by
    rcases getElem?_snoc hv with hv' | ⟨hk, rfl⟩
    · rcases getElem?_snoc hu with hu' | ⟨rfl, rfl⟩
      · exact h.rested k u v hu' hv'
      · rw [List.getElem?_eq_none (Nat.le_succ _)] at hv'
        cases hv'
    · rcases getElem?_snoc hu with hu' | ⟨rfl, -⟩
      · obtain ⟨front, rfl⟩ : ∃ front, ts = front ++ [u] := by
          have hlast : ts.getLast? = some u := by
            rw [List.getLast?_eq_getElem?, ← hu']
            congr 1
            omega
          exact List.getLast?_eq_some_iff.mp hlast
        rw [List.reverse_append] at hrested
        obtain ⟨e, he, hrest⟩ := hrested
        refine ⟨e, he, ?_⟩
        rw [List.length_append, List.length_singleton] at hk
        rw [hk]
        simpa using hrest
      · omega
  fresh u hu := by
    rcases List.mem_append.mp hu with hu | hu
    · exact h.fresh u hu
    · rw [List.mem_singleton.mp hu]
      exact ht.fresh
  inTime u hu := by
    rcases List.mem_append.mp hu with hu | hu
    · exact h.inTime u hu
    · rw [List.mem_singleton.mp hu]
      exact ht.inTime

lemma Lawful.schedule (h : Lawful limit timeout r ts) : Schedule limit timeout r ts.reverse := by
  induction ts with
  | nil => constructor <;> simp
  | cons t ts ih =>
      obtain ⟨hfits, hrested, hlawful⟩ := h
      rw [List.reverse_cons]
      refine (ih hlawful).snoc ?_ ?_
      · rwa [List.length_reverse]
      · rwa [List.reverse_reverse]

/-- All attempts but the last have failed. -/
lemma Lawful.failed {t u : Trial} (h : Lawful limit timeout r (t :: ts)) (hu : u ∈ ts) :
    ∃ e, u.ended = some (e, false) := by
  induction ts generalizing t with
  | nil => nomatch hu
  | cons v vs ih =>
      obtain ⟨-, ⟨e, he, -⟩, hlawful⟩ := h
      rcases List.mem_cons.mp hu with rfl | hu
      · exact ⟨e, he⟩
      · exact ih hlawful hu

/-- A call that is held is under way or just over. -/
lemma Punctual.le_endsAt (h : Punctual f) (hc : .called c ∈ f.items) : f.now ≤ c.endsAt := by
  rcases Multiset.mem_add.mp hc with hc | hc
  · simp [stored] at hc
  · obtain ⟨i, -, hi⟩ := Multiset.mem_sum.mp hc
    have hbeat := h i
    change Item.called c ∈ (f.phase i).items at hi
    cases hp : f.phase i with
    | calling c' =>
        rw [hp] at hi hbeat
        obtain rfl : c = c' := by simpa [Phase.items] using hi
        exact hbeat
    | reporting c' =>
        rw [hp] at hi hbeat
        obtain rfl : c = c' := by simpa [Phase.items] using hi
        exact hbeat.le
    | _ => simp [hp, Phase.items] at hi

/-- An attempt that has not ended is not late. -/
lemma Tracked.running (h : Tracked limit timeout r ts f.items) (hp : Punctual f) {t : Trial}
    (ht : t ∈ ts) (hrunning : t.ended = none) : f.now ≤ t.patience.after t.started := by
  cases ts with
  | nil => nomatch ht
  | cons u us =>
      rcases List.mem_cons.mp ht with rfl | hmem
      · obtain ⟨x, hx, hid⟩ : ∃ x ∈ f.items, x.id = r.id := by
          by_contra hnone
          push Not at hnone
          have hsome := h.closed hnone t (by simp)
          simp [hrunning] at hsome
        have hsuits := h.suits x hx hid
        cases x with
        | waiting q =>
            obtain ⟨e, he, -⟩ := Waits.rested hsuits
            simp [hrunning] at he
        | called c =>
            obtain ⟨t', us', hts, hruns⟩ := hsuits
            obtain ⟨rfl, rfl⟩ := List.cons.inj hts
            exact le_trans (hp.le_endsAt hx) (le_trans (endsAt_le_giveUp c) hruns.patience)
      · obtain ⟨e, he⟩ := h.lawful.failed hmem
        simp [hrunning] at he

/-- After a success, and after the last attempt, the request is gone. -/
lemma Tracked.gone (h : Tracked limit timeout r ts held)
    (hdone : (∃ t ∈ ts, ∃ e, t.ended = some (e, true)) ∨
      ts.length = max limit 1 ∧ ∀ t ∈ ts, t.ended.isSome) : ∀ x ∈ held, x.id ≠ r.id := by
  intro x hx hid
  have hsuits := h.suits x hx hid
  cases x with
  | waiting q =>
      rcases hdone with ⟨t, ht, e, he⟩ | ⟨hlen, -⟩
      · cases ts with
        | nil => nomatch ht
        | cons u us =>
            have hfailed : ∃ e, t.ended = some (e, false) := by
              rcases List.mem_cons.mp ht with rfl | hmem
              · obtain ⟨e, he, -⟩ := Waits.rested hsuits
                exact ⟨e, he⟩
              · exact h.lawful.failed hmem
            obtain ⟨e', he'⟩ := hfailed
            simp [he] at he'
      · exact absurd hlen (Waits.few hsuits).ne
  | called c =>
      obtain ⟨u, us, rfl, hruns⟩ := hsuits
      rcases hdone with ⟨t, ht, e, he⟩ | ⟨-, hended⟩
      · rcases List.mem_cons.mp ht with rfl | hmem
        · simp [hruns.running] at he
        · obtain ⟨e', he'⟩ := h.lawful.failed hmem
          simp [he] at he'
      · simpa [hruns.running] using hended u List.mem_cons_self

/-- **The attempts on every request keep the schedule.**  For any number of couriers, any carrier
and any order of motions whose clock stands still while somebody is awake and stops at every alarm:
a request is attempted at most as often as the limit allows, one attempt after the other, each
after its rest and before the expiry of the request, and each ends within the time it is allowed,
rounded up to milliseconds.  After a success or the last failure the request is held nowhere.  The
attempts are those that the fleet has on record. -/
theorem attempts_keep_schedule (carrier : Carrier) (capacity limit workers : ℕ) (timeout : Span)
    (ms : List Motion) (hl : limit ≤ 30)
    (hms : Follows carrier Prompt (start (.empty capacity limit) {} workers timeout)
      (numbered ms)) :
    let s := start (.empty capacity limit) {} workers timeout
    let f := run carrier s (numbered ms)
    let log := chronicle carrier s (numbered ms)
    f.attempts = (log.filterMap Event.attempt?).reverse ∧ ∀ r, .accepted r ∈ log →
      let ts := (trials r.id log).reverse
      Schedule limit timeout r ts ∧
        (∀ t ∈ ts, t.ended = none → f.now ≤ t.patience.after t.started) ∧
        ((∃ t ∈ ts, ∃ e, t.ended = some (e, true)) ∨
            (ts.length = max limit 1 ∧ ∀ t ∈ ts, t.ended.isSome) →
          ∀ x ∈ f.items, x.id ≠ r.id) := by
  intro s f log
  have hs : Sound s := sound_start _ workers timeout
  refine ⟨(attempts_run hs _).trans (List.append_nil _), ?_⟩
  intro r hr ts
  have hp : Punctual s := punctual_start _ workers timeout
  have htracked : Tracked limit timeout r (trials r.id log) f.items :=
    (recorded_run hs (items_start capacity limit workers timeout) hp hl rfl rfl hms
      (arrivals_numbered carrier s ms)).tracked r hr
  refine ⟨htracked.lawful.schedule, fun t ht hrunning => ?_, fun hdone => htracked.gone ?_⟩
  · exact htracked.running (hp.run hs hms) (List.mem_reverse.mp ht) hrunning
  · simpa [ts] using hdone

/-- One courier and one request, which fails, rests for two seconds and is delivered then. -/
def failedOnce : List Motion :=
  [.offer { path := "/a", due := 0 }, .act 0, .act 0, .pass 10, .ring 0, .act 0, .act 0, .act 0,
    .act 0, .act 0, .act 0, .act 0, .pass 2010, .ring 0, .act 0, .act 0, .act 0, .act 0]

/-- The schedule of that request: it has been attempted twice, and is gone. -/
theorem attempts_keep_schedule_failedOnce :
    let carrier : Carrier := fun _ n => if n = 0 then { latency := 10, status := 500 } else {}
    let s := start (.empty 10 5) {} 1 (.seconds 5)
    let r : Request := { path := "/a", due := 0, retriesLeft := 5 }
    let ts := (trials 0 (chronicle carrier s (numbered failedOnce))).reverse
    ts.length = 2 ∧ Schedule 5 (.seconds 5) r ts ∧
      ∀ x ∈ (run carrier s (numbered failedOnce)).items, x.id ≠ 0 := by
  intro carrier s r ts
  have hms : Follows carrier Prompt s (numbered failedOnce) := by decide +kernel
  have hr : .accepted r ∈ chronicle carrier s (numbered failedOnce) := List.mem_cons_self
  have hlen : ts.length = 2 := by decide +kernel
  have hsuccess : ∃ t ∈ ts, t.ended = some (2010, true) := by decide +kernel
  obtain ⟨-, h⟩ := attempts_keep_schedule carrier 10 5 1 (.seconds 5) failedOnce (by decide) hms
  obtain ⟨hschedule, -, hgone⟩ := h r hr
  obtain ⟨t, ht, hended⟩ := hsuccess
  exact ⟨hlen, hschedule, hgone (Or.inl ⟨t, ht, 2010, hended⟩)⟩

/-- **A call may outlast the time it is allowed**, by less than a millisecond: the clock counts
whole milliseconds.  Here a call that is never answered is allowed half a millisecond, and ends
after a whole one. -/
theorem call_outlasts_patience :
    let carrier : Carrier := fun path _ => if path = "/a" then { hangs := true } else {}
    let s := start (.empty 10 1) {} 1 ⟨500000, by decide⟩
    let ms : List Motion := numbered [.offer { path := "/a", due := 0 },
      .offer { path := "/b", due := 0 }, .act 0, .act 0, .pass 1, .ring 0, .act 0, .act 0, .act 0]
    Follows carrier Prompt s ms ∧
      (∃ a ∈ (run carrier s ms).attempts, a.request.path = "/b" ∧ a.time = 1) ∧
      ∃ t ∈ trials 0 (chronicle carrier s ms), t.started = 0 ∧ t.ended = some (1, false) ∧
        t.patience.nanos < 1000000 := by
  decide +kernel

end HostAgent.Fleet
