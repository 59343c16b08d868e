import HostAgent.Proofs.Fleet.HeadGuard

/-!
# Who came first is called first

A request that is due when it comes in, and does not expire, is never put back before its first
attempt: the courier that takes it calls at once.  So a request that comes in later and is not
more urgent stays behind it until then.

* `Handover`, `Act.handover` — what one action does with requests: the courier takes the first one,
  stores the one that it holds, calls with it, or lets it go.
* `Leads`, `Leads.move` — a request waits in front of all of a number.  One motion leaves it there,
  or puts it into the hand of a courier, or gives it to somebody else.
* `Timely`, `Timely.move` — in whatever order the couriers act, no request of that number is
  attempted at an earlier moment.
* `GivesWay`, `Ranked`, `Ranked.move` — if no other courier acts while one has the request in hand,
  none is attempted before it on the record either.
* `kept_or_taken` — from one motion to a run; `timely_run`, `ranked_run`.
-/

namespace HostAgent.Fleet

open Outbound (Request)

variable {carrier : Carrier} {f g : Fleet} {i j n : ℕ} {a r : Request} {m : Motion}
  {es : List Request} {others : List ℕ} {gone : Prop}

/-! ## What an action does with requests -/

/-- The number of the request that a courier in this phase holds. -/
def Phase.number? : Phase → Option ℕ
  | .holding r => some r.id
  | .calling c | .reporting c => some c.request.id
  | _ => none

lemma Phase.number?_of_inLine {p : Phase} (h : p.inLine = true) : p.number? = none := by
  cases p <;> simp_all [Phase.inLine, Phase.number?]

lemma number?_become {p : Phase} (hi : i < f.couriers.size) :
    ((f.become i p).phase i).number? = p.number? := by
  rw [phase_become hi, if_pos rfl]

lemma number?_rest {p : Phase} (hi : i < f.couriers.size) :
    ((f.rest i p).phase i).number? = p.number? := by
  rw [phase_rest hi, if_pos rfl]

lemma number?_tally_become {p : Phase} (hi : i < f.couriers.size) (t : Tally → Tally) :
    (((f.modify i fun c => { c with tally := t c.tally }).become i p).phase i).number?
      = p.number? := by
  rw [phase_tally_become hi, if_pos rfl]

/-- **What an action does with requests.** -/
inductive Handover (f g : Fleet) (i : ℕ) : Prop where
  /-- The courier takes the most urgent one. -/
  | take (r : Request) (hn : (f.phase i).number? = none)
      (he : f.outbox.entries = r :: g.outbox.entries) (hp : g.phase i = .holding r)
      (ha : g.attempts = f.attempts)
  /-- It stores the one that it holds. -/
  | store (r : Request) (hn : (f.phase i).number? = some r.id)
      (he : g.outbox.entries = (f.outbox.insert r).2.entries) (hg : (g.phase i).number? = none)
      (ha : g.attempts = f.attempts) (hd : ∀ q, f.phase i = .holding q → q.isDue f.now = false)
  /-- It calls with the one in its hand. -/
  | call (r : Request) (hp : f.phase i = .holding r) (he : g.outbox.entries = f.outbox.entries)
      (hg : (g.phase i).number? = some r.id) (ha : g.attempts = attemptFor f r :: f.attempts)
  /-- It holds nothing any more. -/
  | rest (he : g.outbox.entries = f.outbox.entries) (hg : (g.phase i).number? = none)
      (ha : g.attempts = f.attempts) (hx : ∀ q, f.phase i = .holding q → q.isExpired f.now = true)

/-- **Every action is a handover.** -/
theorem Act.handover (hact : Act carrier f i g) (hs : Sound f) (ha : f.awake = i :: others) :
    Handover f g i := by
  have hi : i ∈ f.awake := ha ▸ List.mem_cons_self
  have hlt := hs.lt_of_mem_awake hi
  cases hact with
  | @take r b hp hstop ht =>
      exact .take r (congrArg Phase.number? hp) (Outbox.entries_of_take? ht)
        ((phase_become (f := { f with outbox := b }) hlt).trans (if_pos rfl)) rfl
  | @putBack r hp hx hd =>
      refine .store r (by rw [hp]; rfl) rfl (number?_become (f := { f with outbox := _ }) hlt) rfl
        fun q hq => ?_
      obtain rfl : r = q := by simpa [hp] using hq
      exact hd
  | @retry c late took hp hc hr =>
      have hbegun := (hs.tally i fun t => t.failure late took).become (p := .looking) hi rfl
      have hlook := number?_tally_become (p := .looking) hlt fun t => t.failure late took
      refine .store (f.retried c.request) (by rw [hp]; rfl) (by rw [outbox_afterInsert]) ?_
        (attempts_afterInsert _ _) fun q hq => by simp [hp] at hq
      rcases hbegun.phase_afterInsert (f.outbox.insert (f.retried c.request)) i with h | ⟨-, h⟩
      · rw [h, hlook]
        rfl
      · rw [h]
        rfl
  | @call r hp hx hd he =>
      exact .call r hp rfl (number?_rest (f := { f with attempts := _ }) hlt) rfl
  | @callAtOnce r hp hx hd he =>
      exact .call r hp rfl (number?_become (f := { f with attempts := _ }) hlt) rfl
  | stop hp hstop => exact .rest rfl (number?_rest hlt) rfl fun q hq => by simp [hp] at hq
  | relook hp hstop he hg =>
      exact .rest rfl (congrArg Phase.number? hp) rfl fun q hq => by simp [hp] at hq
  | park hp hstop he hg =>
      exact .rest rfl (number?_rest (f := { f with gate := _ }) hlt) rfl
        fun q hq => by simp [hp] at hq
  | @lapse r hp hx =>
      refine .rest rfl (number?_tally_become hlt Tally.ignored) rfl fun q hq => ?_
      obtain rfl : r = q := by simpa [hp] using hq
      exact hx
  | glance hp hg =>
      exact .rest rfl (number?_become (f := { f with gate := _ }) hlt) rfl
        fun q hq => by simp [hp] at hq
  | guard hp hg =>
      exact .rest rfl (number?_rest (f := { f with gate := _ }) hlt) rfl
        fun q hq => by simp [hp] at hq
  | succeed late took hp hc =>
      exact .rest rfl (number?_tally_become hlt fun t => t.success late took) rfl
        fun q hq => by simp [hp] at hq
  | giveUp late took hp hc hr =>
      exact .rest rfl (number?_tally_become hlt fun t => (t.failure late took).ignored) rfl
        fun q hq => by simp [hp] at hq

/-- An action changes the phase of the one who acts, and of one in line that it wakes. -/
lemma Act.phase_of_ne (hact : Act carrier f i g) (hs : Sound f) (ha : f.awake = i :: others)
    (hj : j ≠ i) : g.phase j = f.phase j ∨ (f.phase j).inLine = true ∧ g.phase j = .looking := by
  have hi : i ∈ f.awake := ha ▸ List.mem_cons_self
  have hlt := hs.lt_of_mem_awake hi
  cases hact with
  | stop => exact .inl ((phase_rest hlt).trans (if_neg hj))
  | take => exact .inl ((phase_become (f := { f with outbox := _ }) hlt).trans (if_neg hj))
  | relook => exact .inl rfl
  | park => exact .inl ((phase_rest (f := { f with gate := _ }) hlt).trans (if_neg hj))
  | lapse => exact .inl ((phase_tally_become hlt Tally.ignored).trans (if_neg hj))
  | putBack => exact .inl ((phase_become (f := { f with outbox := _ }) hlt).trans (if_neg hj))
  | call => exact .inl ((phase_rest (f := { f with attempts := _ }) hlt).trans (if_neg hj))
  | callAtOnce => exact .inl ((phase_become (f := { f with attempts := _ }) hlt).trans (if_neg hj))
  | glance => exact .inl ((phase_become (f := { f with gate := _ }) hlt).trans (if_neg hj))
  | guard => exact .inl ((phase_rest (f := { f with gate := _ }) hlt).trans (if_neg hj))
  | succeed late took =>
      exact .inl ((phase_tally_become hlt fun t => t.success late took).trans (if_neg hj))
  | @retry c late took =>
      have hcounted := phase_tally_become (p := .looking) (j := j) hlt fun t => t.failure late took
      rw [if_neg hj] at hcounted
      have hbegun := (hs.tally i fun t => t.failure late took).become (p := .looking) hi rfl
      rw [← hcounted]
      exact hbegun.phase_afterInsert _ j
  | giveUp late took =>
      exact .inl ((phase_tally_become hlt fun t => (t.failure late took).ignored).trans
        (if_neg hj))

/-! ## Standing in front -/

/-- A request stands in front of all of a number. -/
def InFront (a : Request) (n : ℕ) (es : List Request) : Prop :=
  ∃ front behind, es = front ++ a :: behind ∧ ∀ r ∈ front, r.id ≠ n

/-- It stays there when one is placed, unless that is more urgent and of the number. -/
lemma InFront.place (h : InFront a n es) (ho : es.Pairwise fun b c => c.precedes b = false)
    (hr : r.id = n → r.precedes a = false) : InFront a n (Outbox.place r es) := by
  obtain ⟨front, behind, rfl, hfront⟩ := h
  induction front with
  | nil =>
      rw [List.nil_append, Outbox.place]
      split_ifs with hra
      · refine ⟨[r], behind, rfl, fun q hq hid => ?_⟩
        obtain rfl := List.mem_singleton.mp hq
        exact Bool.false_ne_true ((hr hid).symm.trans hra)
      · exact ⟨[], Outbox.place r behind, rfl, by simp⟩
  | cons e front ih =>
      obtain ⟨he, ho⟩ := List.pairwise_cons.mp ho
      rw [List.cons_append, Outbox.place]
      split_ifs with hre
      · refine ⟨r :: e :: front, behind, rfl, List.forall_mem_cons.mpr ⟨fun hid => ?_, hfront⟩⟩
        have hra := Request.precedes_of_precedes_of_not hre (he a (by simp))
        exact Bool.false_ne_true ((hr hid).symm.trans hra)
      · obtain ⟨hid, hfront⟩ := List.forall_mem_cons.mp hfront
        obtain ⟨front', behind', heq, hfront'⟩ := ih hfront ho
        exact ⟨e :: front', behind', by rw [heq]; rfl, List.forall_mem_cons.mpr ⟨hid, hfront'⟩⟩

/-- It is the first one, or it stays there when the first one leaves. -/
lemma InFront.uncover (h : InFront a n (r :: es)) : r = a ∨ r.id ≠ n ∧ InFront a n es := by
  obtain ⟨front, behind, heq, hfront⟩ := h
  cases front with
  | nil => exact .inl (List.cons.inj heq).1
  | cons e front =>
      obtain ⟨rfl, rfl⟩ := List.cons.inj heq
      obtain ⟨hid, hfront⟩ := List.forall_mem_cons.mp hfront
      exact .inr ⟨hid, front, behind, rfl, hfront⟩

/-! ## One motion -/

/-- Whoever does not act keeps its phase, or waited and holds what it held. -/
lemma phase_move (carrier : Carrier) (hs : Sound f) (hm : m ≠ .act j) :
    (move carrier f m).phase j = f.phase j ∨
      (f.phase j).runs = false ∧ ((move carrier f m).phase j).number? = (f.phase j).number? := by
  have hcalled {p : Phase} (h : (f.phase j).inLine = true ∧ p = .looking) :
      (f.phase j).runs = false ∧ p.number? = (f.phase j).number? :=
    ⟨Phase.not_runs_of_inLine h.1, by rw [h.2, Phase.number?_of_inLine h.1]; rfl⟩
  cases m with
  | offer r => exact (hs.phase_afterInsert (f.outbox.offer r) j).imp_right hcalled
  | act i =>
      have hj : j ≠ i := fun hj => hm (hj ▸ rfl)
      rw [move]
      split_ifs with hi
      · exact ((hs.act hi).phase_of_ne (hs.first hi) rfl hj).imp_right hcalled
      · exact .inl rfl
  | pass t => exact .inl rfl
  | ring i =>
      rw [move]
      split_ifs
      · rw [phase_ring]
        split_ifs with hj
        · subst hj
          cases hp : f.phase j <;> simp [Phase.rung, Phase.runs, Phase.number?]
        · exact .inl rfl
      · exact .inl rfl
  | pop =>
      refine .inl ?_
      rw [move, pop]
      cases f.outbox.take? <;> rfl
  | stop =>
      refine (stop_induction (P := fun g => g.phase j = f.phase j ∨
        (f.phase j).inLine = true ∧ g.phase j = .looking) (.inl rfl)
        fun g i hg hp => ?_).imp_right hcalled
      have hi : i < g.couriers.size :=
        lt_size_of_phase_ne fun hl => by simp [hl, Phase.inLine] at hp
      rw [phase_callUp hi]
      split_ifs with hj
      · subst hj
        rcases hg with hg | ⟨hline, -⟩
        · exact .inr ⟨hg ▸ hp, rfl⟩
        · exact .inr ⟨hline, rfl⟩
      · exact hg

/-- What the action of an awake courier does with requests. -/
lemma Sound.handover (carrier : Carrier) (hs : Sound f) (hi : i ∈ f.awake) :
    Handover (f.first i) (Fleet.step carrier (f.first i)) i :=
  (hs.act hi).handover (hs.first hi) rfl

/-- A courier keeps the request in its hand until it acts. -/
lemma holding_move (hs : Sound f) (hp : f.phase i = .holding r) (hm : m ≠ .act i) :
    (move carrier f m).phase i = .holding r := by
  rcases phase_move carrier hs hm with h | ⟨hruns, -⟩
  · rw [h, hp]
  · simp [hp, Phase.runs] at hruns

/-- Only a courier with a request in hand makes an attempt. -/
lemma attempts_cases (carrier : Carrier) (hs : Sound f) (m : Motion) :
    (move carrier f m).attempts = f.attempts ∨ ∃ i r, m = .act i ∧ f.phase i = .holding r ∧
      (move carrier f m).attempts = attemptFor f r :: f.attempts := by
  cases m with
  | act i =>
      rw [move]
      split_ifs with hi
      · cases hs.handover carrier hi with
        | call r hp he hg ha => exact .inr ⟨i, r, rfl, hp, ha⟩
        | take r hn he hp ha => exact .inl ha
        | store r hn he hg ha hd => exact .inl ha
        | rest he hg ha hx => exact .inl ha
      · exact .inl rfl
  | offer r => exact .inl (attempts_afterInsert f _)
  | ring i =>
      refine .inl ?_
      rw [move]
      split_ifs
      · rw [ring_eq]
        split <;> rfl
      · rfl
  | pop =>
      refine .inl ?_
      rw [move, pop]
      cases f.outbox.take? <;> rfl
  | pass t => exact .inl rfl
  | stop =>
      exact .inl (stop_induction (P := fun g => g.attempts = f.attempts) rfl fun g i hg _ => hg)

/-- Nothing but the clock itself moves the clock. -/
lemma now_move (carrier : Carrier) (hs : Sound f) (m : Motion) :
    (move carrier f m).now = f.now ∨ ∃ t, m = .pass t ∧ (move carrier f m).now = max f.now t := by
  cases m with
  | act i =>
      rw [move]
      split_ifs with hi
      · exact .inl (show Act carrier (f.first i) i _ from hs.act hi).now_eq
      · exact .inl rfl
  | offer r => exact .inl (now_afterInsert f _)
  | ring i =>
      refine .inl ?_
      rw [move]
      split_ifs
      · exact now_ringEach f [i]
      · rfl
  | pop =>
      refine .inl ?_
      rw [move, pop]
      cases f.outbox.take? <;> rfl
  | pass t => exact .inr ⟨t, rfl, rfl⟩
  | stop => exact .inl (stop_induction (P := fun g => g.now = f.now) rfl fun g i hg _ => hg)

lemma now_le_move (carrier : Carrier) (hs : Sound f) (m : Motion) :
    f.now ≤ (move carrier f m).now := by
  rcases now_move carrier hs m with h | ⟨t, -, h⟩ <;> rw [h]
  exact le_max_left _ _

/-- All attempts on record have begun. -/
def Begun (f : Fleet) : Prop :=
  ∀ t ∈ f.attempts, t.time ≤ f.now

lemma Begun.move (h : Begun f) (hs : Sound f) (m : Motion) : Begun (move carrier f m) := by
  have hnow := now_le_move carrier hs m
  intro t ht
  rcases attempts_cases carrier hs m with ha | ⟨i, r, -, -, ha⟩ <;> rw [ha] at ht
  · exact (h t ht).trans hnow
  · rcases List.mem_cons.mp ht with rfl | ht
    · exact hnow
    · exact (h t ht).trans hnow

lemma Begun.run (h : Begun f) (hs : Sound f) (ms : List Motion) : Begun (run carrier f ms) := by
  induction ms generalizing f with
  | nil => exact h
  | cons m ms ih => exact ih (h.move hs m) (hs.move m)

/-- A courier that has a request in hand calls with it at once, if it is due and does not
expire. -/
lemma call_of_holding (carrier : Carrier) (hs : Sound f) (hp : f.phase i = .holding a)
    (hx : a.expiry = none) (hd : a.due ≤ f.now) :
    (move carrier f (.act i)).attempts = attemptFor f a :: f.attempts := by
  have hi : i ∈ f.awake :=
    (hs.mem_awake i).mpr ⟨lt_size_of_phase_ne (by simp [hp]), by rw [hp]; rfl⟩
  have hp' : (f.first i).phase i = .holding a := hp
  rw [move, if_pos hi]
  cases hs.handover carrier hi with
  | take r hn he hg ha => simp [hp', Phase.number?] at hn
  | store r hn he hg ha hdue =>
      have hlate := lt_of_isDue_false (hdue a hp')
      exact absurd hd (not_le.mpr hlate)
  | call r hr he hg ha =>
      obtain rfl : a = r := by simpa [hp'] using hr
      exact ha
  | rest he hg ha hexp => simpa [Request.isExpired, hx] using hexp a hp'

/-! ## Leading -/

/-- No courier holds a request of a number. -/
def Free (n : ℕ) (f : Fleet) : Prop :=
  ∀ j, (f.phase j).number? ≠ some n

/-- A request waits in front of all of a number, and no courier holds one of that number. -/
structure Leads (a : Request) (n : ℕ) (f : Fleet) : Prop where
  inFront : InFront a n f.outbox.entries
  free : Free n f

/-- Whoever takes no request of a number leaves its couriers free of it. -/
lemma Free.move (carrier : Carrier) (h : Free n f) (hs : Sound f)
    (hm : ∀ i, m = .act i → ((Fleet.move carrier f m).phase i).number? ≠ some n) :
    Free n (Fleet.move carrier f m) := by
  intro j
  by_cases hj : m = .act j
  · exact hm j hj
  · rcases phase_move carrier hs hj with hp | ⟨-, hp⟩ <;> rw [hp] <;> exact h j

/-- As long as nobody holds a request of a number, none is attempted. -/
lemma Free.attempts (carrier : Carrier) (h : Free n f) (hs : Sound f) (m : Motion)
    (hnone : ∀ t ∈ f.attempts, t.request.id ≠ n) :
    ∀ t ∈ (Fleet.move carrier f m).attempts, t.request.id ≠ n := by
  rcases attempts_cases carrier hs m with ha | ⟨i, r, -, hp, ha⟩ <;> rw [ha]
  · exact hnone
  · refine List.forall_mem_cons.mpr ⟨fun hid => h i ?_, hnone⟩
    rw [hp, ← hid]
    rfl

lemma InFront.insert {b : Outbox} (h : InFront a n b.entries)
    (hr : r.id = n → r.precedes a = false) : InFront a n (b.insert r).2.entries := by
  rw [Outbox.insert_entries]
  split_ifs
  · exact h.place b.ordered hr
  · exact h

/-- **One motion leaves a request in front**, or gives it to somebody else, or into the hand of a
courier. -/
lemma Leads.move (carrier : Carrier) (h : Leads a n f) (hs : Sound f)
    (hm : ∀ r, m = .offer r → r.id = n → r.precedes a = false) :
    Leads a n (Fleet.move carrier f m) ∨ Event.taken a ∈ news carrier f m ∨
      ∃ i, (Fleet.move carrier f m).phase i = .holding a := by
  cases m with
  | offer r =>
      refine .inl ⟨?_, h.free.move carrier hs (by simp)⟩
      rw [Fleet.move, offer, outbox_afterInsert]
      exact h.inFront.insert (hm r rfl)
  | act i =>
      by_cases hi : i ∈ f.awake
      · have hmove : Fleet.move carrier f (.act i) = step carrier (f.first i) := if_pos hi
        have hfree : (f.phase i).number? ≠ some n := h.free i
        -- it acts, and nobody else takes a request of the number either
        have hleads (he : InFront a n (step carrier (f.first i)).outbox.entries)
            (hg : ((step carrier (f.first i)).phase i).number? ≠ some n) :
            Leads a n (Fleet.move carrier f (.act i)) := by
          refine ⟨by rwa [hmove], h.free.move carrier hs fun j hj => ?_⟩
          obtain rfl : i = j := by simpa using hj
          rwa [hmove]
        cases hs.handover carrier hi with
        | take r hn he hp ha =>
            have hfront : InFront a n (r :: (step carrier (f.first i)).outbox.entries) :=
              he ▸ h.inFront
            rcases hfront.uncover with rfl | ⟨hid, hrest⟩
            · exact .inr (.inr ⟨i, by rw [hmove, hp]⟩)
            · exact .inl (hleads hrest (by rw [hp]; simpa [Phase.number?] using hid))
        | store r hn he hg ha hd =>
            have hid : r.id ≠ n := fun hid => hfree (hid ▸ hn)
            refine .inl (hleads ?_ (by rw [hg]; simp))
            rw [he]
            exact h.inFront.insert fun hr => absurd hr hid
        | call r hp he hg ha =>
            have hid : r.id ≠ n := fun hid => hfree (by
              rw [← hid, show f.phase i = .holding r from hp]
              rfl)
            exact .inl (hleads (he ▸ h.inFront) (by rw [hg]; simpa using hid))
        | rest he hg ha hx => exact .inl (hleads (he ▸ h.inFront) (by rw [hg]; simp))
      · rw [Fleet.move, if_neg hi]
        exact .inl h
  | pass t => exact .inl ⟨h.inFront, h.free.move carrier hs (by simp)⟩
  | ring i =>
      refine .inl ⟨?_, h.free.move carrier hs (by simp)⟩
      rw [Fleet.move]
      split_ifs
      · rw [outbox_ring]
        exact h.inFront
      · exact h.inFront
  | pop =>
      have hfree : Free n (Fleet.move carrier f .pop) := h.free.move carrier hs (by simp)
      rw [Fleet.move, pop] at hfree ⊢
      rw [news]
      cases ht : f.outbox.take? with
      | none => exact .inl h
      | some rb =>
          obtain ⟨r, b⟩ := rb
          rw [ht] at hfree
          have hfront := h.inFront
          rw [Outbox.entries_of_take? ht] at hfront
          rcases hfront.uncover with rfl | ⟨-, hrest⟩
          · exact .inr (.inl (List.mem_singleton_self _))
          · exact .inl ⟨hrest, hfree⟩
  | stop =>
      refine .inl ⟨?_, h.free.move carrier hs (by simp)⟩
      rw [Fleet.move, (score_stop f).2]
      exact h.inFront

/-- What every motion that keeps to a rule preserves, if it does not give a request to somebody
else, a run preserves. -/
lemma kept_or_taken {P : Fleet → Prop} {rule : Fleet → Motion → Prop} {ms : List Motion}
    (hmove : ∀ {f m}, P f → Sound f → Begun f → a.due ≤ f.now → rule f m →
      (∀ r, m = .offer r → r.id = n → r.precedes a = false) →
      P (move carrier f m) ∨ Event.taken a ∈ news carrier f m)
    (h : P f) (hs : Sound f) (hbegun : Begun f) (hd : a.due ≤ f.now)
    (hms : Follows carrier rule f ms)
    (hm : ∀ r, .offer r ∈ ms → r.id = n → r.precedes a = false) :
    P (run carrier f ms) ∨ Event.taken a ∈ chronicle carrier f ms := by
  induction ms generalizing f with
  | nil => exact .inl h
  | cons m ms ih =>
      obtain ⟨hrule, hms⟩ := hms
      rw [run_cons, chronicle]
      rcases hmove h hs hbegun hd hrule fun r hr => hm r (by simp [hr]) with hnext | htaken
      · refine (ih hnext (hs.move m) (hbegun.move hs m) (hd.trans (now_le_move carrier hs m)) hms
          fun r hr => hm r (List.mem_cons_of_mem _ hr)).imp_right fun ht => ?_
        exact List.mem_append_right _ ht
      · exact .inr (List.mem_append_left _ htaken)

/-! ## By the clock -/

/-- How far a request has come, if none of a number is attempted at an earlier moment. -/
inductive Timely (a : Request) (n : ℕ) (f : Fleet) : Prop where
  /-- It waits, and none of that number has been attempted. -/
  | leads (h : Leads a n f) (hnone : ∀ t ∈ f.attempts, t.request.id ≠ n)
  /-- A courier has it in hand; those of that number have been attempted at this very moment. -/
  | inHand (i : ℕ) (hp : f.phase i = .holding a)
      (hnow : ∀ t ∈ f.attempts, t.request.id = n → t.time = f.now)
  /-- It has been attempted. -/
  | begun (u : Attempt) (hu : u ∈ f.attempts) (hid : u.request.id = a.id)
      (hle : ∀ t ∈ f.attempts, t.request.id = n → u.time ≤ t.time)

/-- **One motion keeps a request timely**, or gives it to somebody else. -/
lemma Timely.move (h : Timely a n f) (hs : Sound f) (hbegun : Begun f) (hx : a.expiry = none)
    (hd : a.due ≤ f.now) (hprompt : Prompt f m)
    (hm : ∀ r, m = .offer r → r.id = n → r.precedes a = false) :
    Timely a n (Fleet.move carrier f m) ∨ Event.taken a ∈ news carrier f m := by
  cases h with
  | leads h hnone =>
      have hnone' := h.free.attempts carrier hs m hnone
      rcases h.move carrier hs hm with hleads | htaken | ⟨i, hp⟩
      · exact .inl (.leads hleads hnone')
      · exact .inr htaken
      · exact .inl (.inHand i hp fun t ht hid => absurd hid (hnone' t ht))
  | inHand i hp hnow =>
      refine .inl ?_
      by_cases hact : m = .act i
      · subst hact
        have ha := call_of_holding carrier hs hp hx hd
        refine .begun (attemptFor f a) (by simp [ha]) rfl fun t ht hid => ?_
        rw [ha] at ht
        rcases List.mem_cons.mp ht with rfl | ht
        · exact le_refl _
        · exact (hnow t ht hid).ge
      · -- the clock stands still, since the courier goes on
        have hclock : (Fleet.move carrier f m).now = f.now := by
          rcases now_move carrier hs m with h | ⟨t, rfl, -⟩
          · exact h
          · rcases hs.idle hprompt.1 i with hr | hr <;> simp [hp, Phase.runs] at hr
        refine .inHand i (holding_move hs hp hact) fun t ht hid => ?_
        rw [hclock]
        rcases attempts_cases carrier hs m with ha | ⟨j, r, -, -, ha⟩ <;> rw [ha] at ht
        · exact hnow t ht hid
        · rcases List.mem_cons.mp ht with rfl | ht
          · rfl
          · exact hnow t ht hid
  | begun u hu hid hle =>
      refine .inl ?_
      rcases attempts_cases carrier hs m with ha | ⟨j, r, -, -, ha⟩
      · exact .begun u (ha ▸ hu) hid (ha ▸ hle)
      · refine .begun u (by simp [ha, hu]) hid ?_
        rw [ha]
        exact List.forall_mem_cons.mpr ⟨fun _ => hbegun u hu, hle⟩

/-- Whenever one of that number is attempted, the request has been attempted no later, or is about
to be at this very moment. -/
lemma Timely.attempted {t : Attempt} (h : Timely a n f) (ht : t ∈ f.attempts)
    (hid : t.request.id = n) :
    (∃ u ∈ f.attempts, u.request.id = a.id ∧ u.time ≤ t.time) ∨
      t.time = f.now ∧ ∃ i, f.phase i = .holding a := by
  cases h with
  | leads h hnone => exact absurd hid (hnone t ht)
  | inHand i hp hnow => exact .inr ⟨hnow t ht hid, i, hp⟩
  | begun u hu huid hle => exact .inl ⟨u, hu, huid, hle t ht hid⟩

/-- **A run keeps a request timely**, or gives it to somebody else. -/
theorem timely_run {ms : List Motion} (h : Timely a n f) (hs : Sound f) (hbegun : Begun f)
    (hx : a.expiry = none) (hd : a.due ≤ f.now) (hms : Follows carrier Prompt f ms)
    (hm : ∀ r, .offer r ∈ ms → r.id = n → r.precedes a = false) :
    Timely a n (run carrier f ms) ∨ Event.taken a ∈ chronicle carrier f ms :=
  kept_or_taken (fun h hs hbegun hd hprompt hm => h.move hs hbegun hx hd hprompt hm) h hs hbegun hd
    hms hm

/-! ## On the record -/

/-- Whether a courier in this phase has the request of a number in hand. -/
def Phase.holds (n : ℕ) : Phase → Bool
  | .holding r => r.id == n
  | _ => false

/-- The rule that no other courier acts while one has the request of a number in hand.  Anything
else may happen meanwhile. -/
def GivesWay (n : ℕ) (f : Fleet) : Motion → Prop
  | .act i => ∀ j, (f.phase j).holds n = true → i = j
  | _ => True

instance (n : ℕ) (f : Fleet) : ∀ m, Decidable (f.GivesWay n m)
  | .act i =>
    decidable_of_iff (∀ j < f.couriers.size, (f.phase j).holds n = true → i = j)
      ⟨fun h j hj => h j (lt_size_of_phase_ne fun hp => by simp [hp, Phase.holds] at hj) hj,
        fun h j _ => h j⟩
  | .offer _ | .pass _ | .ring _ | .pop | .stop => isTrue trivial

/-- On a record, the last one first, each attempt on a number comes after one on a request. -/
def After (a : Request) (n : ℕ) (ts : List Attempt) : Prop :=
  ∀ t earlier, t :: earlier <:+ ts → t.request.id = n →
    ∃ u ∈ earlier, u.request.id = a.id ∧ u.time ≤ t.time

lemma After.of_forall_ne {ts : List Attempt} (h : ∀ t ∈ ts, t.request.id ≠ n) : After a n ts :=
  fun t _ hsuffix hid => absurd hid (h t (hsuffix.subset List.mem_cons_self))

lemma After.cons {ts : List Attempt} {t : Attempt} (h : After a n ts)
    (ht : t.request.id = n → ∃ u ∈ ts, u.request.id = a.id ∧ u.time ≤ t.time) :
    After a n (t :: ts) := by
  intro t' earlier hsuffix hid
  rcases List.suffix_cons_iff.mp hsuffix with heq | hsuffix
  · obtain ⟨rfl, rfl⟩ := List.cons.inj heq
    exact ht hid
  · exact h t' earlier hsuffix hid

/-- How far a request has come, if none of a number is attempted before it. -/
inductive Ranked (a : Request) (n : ℕ) (f : Fleet) : Prop where
  /-- It waits, and none of that number has been attempted. -/
  | leads (h : Leads a n f) (hnone : ∀ t ∈ f.attempts, t.request.id ≠ n)
  /-- A courier has it in hand, and none of that number has been attempted. -/
  | inHand (i : ℕ) (hp : f.phase i = .holding a) (hnone : ∀ t ∈ f.attempts, t.request.id ≠ n)
  /-- It has been attempted. -/
  | begun (u : Attempt) (hu : u ∈ f.attempts) (hid : u.request.id = a.id)
      (hafter : After a n f.attempts)

lemma Ranked.after (h : Ranked a n f) : After a n f.attempts := by
  cases h with
  | leads h hnone | inHand i hp hnone => exact .of_forall_ne hnone
  | begun u hu hid hafter => exact hafter

/-- **One motion keeps the rank of a request**, or gives it to somebody else. -/
lemma Ranked.move (h : Ranked a n f) (hs : Sound f) (hbegun : Begun f) (hx : a.expiry = none)
    (hd : a.due ≤ f.now) (hne : a.id ≠ n) (hway : GivesWay a.id f m)
    (hm : ∀ r, m = .offer r → r.id = n → r.precedes a = false) :
    Ranked a n (Fleet.move carrier f m) ∨ Event.taken a ∈ news carrier f m := by
  cases h with
  | leads h hnone =>
      have hnone' := h.free.attempts carrier hs m hnone
      rcases h.move carrier hs hm with hleads | htaken | ⟨i, hp⟩
      · exact .inl (.leads hleads hnone')
      · exact .inr htaken
      · exact .inl (.inHand i hp hnone')
  | inHand i hp hnone =>
      refine .inl ?_
      by_cases hact : m = .act i
      · subst hact
        have ha := call_of_holding carrier hs hp hx hd
        refine .begun (attemptFor f a) (by simp [ha]) rfl ?_
        rw [ha]
        exact (After.of_forall_ne hnone).cons fun hid => absurd hid hne
      · -- nobody else acts, so nothing is attempted
        have ha : (Fleet.move carrier f m).attempts = f.attempts := by
          rcases attempts_cases carrier hs m with ha | ⟨j, r, rfl, -, -⟩
          · exact ha
          · exact absurd (congrArg Motion.act (hway i (by simp [hp, Phase.holds]))) hact
        exact .inHand i (holding_move hs hp hact) (ha ▸ hnone)
  | begun u hu hid hafter =>
      refine .inl ?_
      rcases attempts_cases carrier hs m with ha | ⟨j, r, -, -, ha⟩
      · exact .begun u (ha ▸ hu) hid (ha ▸ hafter)
      · refine .begun u (by simp [ha, hu]) hid ?_
        rw [ha]
        exact hafter.cons fun _ => ⟨u, hu, hid, hbegun u hu⟩

/-- **A run keeps the rank of a request**, or gives it to somebody else. -/
theorem ranked_run {ms : List Motion} (h : Ranked a n f) (hs : Sound f) (hbegun : Begun f)
    (hx : a.expiry = none) (hd : a.due ≤ f.now) (hne : a.id ≠ n)
    (hms : Follows carrier (GivesWay a.id) f ms)
    (hm : ∀ r, .offer r ∈ ms → r.id = n → r.precedes a = false) :
    Ranked a n (run carrier f ms) ∨ Event.taken a ∈ chronicle carrier f ms :=
  kept_or_taken (fun h hs hbegun hd hway hm => h.move hs hbegun hx hd hne hway hm) h hs hbegun hd
    hms hm

/-! ## A request comes in -/

lemma chronicle_append (ms ms' : List Motion) : chronicle carrier f (ms ++ ms')
    = chronicle carrier f ms ++ chronicle carrier (run carrier f ms) ms' := by
  induction ms generalizing f with
  | nil => rfl
  | cons m ms ih => rw [List.cons_append, chronicle, ih, chronicle, List.append_assoc, run_cons]

/-- A new fleet knows only the numbers that have been offered to it. -/
lemma known_run (carrier : Carrier) (ms : List Motion) (hs : Sound f) (hempty : f.items = 0)
    (hattempts : f.attempts = []) :
    (∀ x ∈ (run carrier f ms).items, x.id ∈ offered ms) ∧
      ∀ t ∈ (run carrier f ms).attempts, t.request.id ∈ offered ms := by
  have hitems (ms : List Motion) : ∀ x ∈ (run carrier f ms).items, x.id ∈ offered ms := by
    intro x hx
    rw [← comings_chronicle carrier f ms]
    refine Multiset.mem_of_le (arrivals_le_comings _) ?_
    rw [custody hs hempty ms]
    exact Multiset.mem_add.mpr (.inl (Multiset.mem_map_of_mem _ hx))
  refine ⟨hitems ms, ?_⟩
  induction ms using List.reverseRecOn with
  | nil => simp [hattempts]
  | append_singleton ms m ih =>
      rw [run_snoc, offered_append]
      rcases attempts_cases carrier (hs.run ms) m with ha | ⟨i, r, -, hp, ha⟩ <;>
        rw [ha]
      · exact fun t ht => Multiset.mem_add.mpr (.inl (ih t ht))
      · refine List.forall_mem_cons.mpr
          ⟨Multiset.mem_add.mpr (.inl ?_), fun t ht => Multiset.mem_add.mpr (.inl (ih t ht))⟩
        refine hitems ms (.waiting r) (mem_items_of_phase (i := i) ?_ (by simp [hp]))
        exact lt_size_of_phase_ne (by simp [hp])

/-- A request that comes in leads those of a number that is not known yet. -/
lemma leads_offer (hs : Sound f) (hroom : f.outbox.hasRoom = true) (hne : a.id ≠ n)
    (hnew : ∀ x ∈ f.items, x.id ≠ n) : Leads (f.outbox.stamp a) n (f.offer a) := by
  have hphase (j : ℕ) (hj : (f.phase j).number? = some n) : False := by
    have hlt : j < f.couriers.size := lt_size_of_phase_ne fun hp => by
      simp [hp, Phase.number?] at hj
    have hitems : ∀ x ∈ (f.phase j).items, x.id ≠ n := fun x hx =>
      hnew x (mem_items_of_phase hlt hx)
    cases hp : f.phase j with
    | holding r =>
        rw [hp] at hj hitems
        exact hitems (.waiting r) (by simp) (Option.some.inj hj)
    | calling c | reporting c =>
        rw [hp] at hj hitems
        exact hitems (.called c) (Multiset.mem_singleton_self _) (Option.some.inj hj)
    | _ => simp [hp, Phase.number?] at hj
  refine ⟨?_, ?_⟩
  · rw [offer, outbox_afterInsert, Outbox.offer, Outbox.insert_entries, if_pos hroom]
    have hperm := Outbox.place_perm (f.outbox.stamp a) f.outbox.entries
    obtain ⟨front, behind, heq⟩ := List.append_of_mem (hperm.mem_iff.mpr List.mem_cons_self)
    refine ⟨front, behind, heq, fun r hr => ?_⟩
    have hr' : r ∈ f.outbox.stamp a :: f.outbox.entries :=
      hperm.mem_iff.mp (heq ▸ List.mem_append_left _ hr)
    rcases List.mem_cons.mp hr' with rfl | hr'
    · exact hne
    · exact hnew (.waiting r) (Multiset.mem_add.mpr (.inl (by simpa [stored] using hr')))
  · exact @Free.move f n (.offer a) (fun _ _ => {}) hphase hs (by simp)

/-- **Who came first is called first.**  A request comes in that is due and does not expire; at that
time none of a number has come.  If those of that number that come later are not more urgent, none
is ever attempted at an earlier moment as long as the clock runs only while everybody waits, and
none is attempted before it if no other courier acts while one has it in hand.  Only somebody else
who takes it away can change that. -/
theorem first_come_first_called {before after : List Motion} (hs : Sound f) (hempty : f.items = 0)
    (hattempts : f.attempts = []) (hroom : (run carrier f before).outbox.hasRoom = true)
    (hx : a.expiry = none) (hd : a.due ≤ (run carrier f before).now) (hne : a.id ≠ n)
    (hnew : n ∉ offered before)
    (hlater : ∀ r, .offer r ∈ after → r.id = n → r.precedes a = false) :
    let q := (run carrier f before).outbox.stamp a
    let ms := before ++ .offer a :: after
    Event.taken q ∈ chronicle carrier f ms ∨
      (Follows carrier Prompt f ms → Timely q n (run carrier f ms)) ∧
        (Follows carrier (GivesWay a.id) f ms → Ranked q n (run carrier f ms)) := by
  intro q ms
  set g := run carrier f before with hg
  have hsg : Sound g := hs.run before
  have hsound : Sound (g.offer a) := hsg.offer a
  obtain ⟨hitems, hrecord⟩ := known_run carrier before hs hempty hattempts
  have hleads : Leads q n (g.offer a) :=
    leads_offer hsg hroom hne fun x hx hid => hnew (hid ▸ hitems x hx)
  have hnone : ∀ t ∈ (g.offer a).attempts, t.request.id ≠ n := by
    rw [offer, attempts_afterInsert]
    exact fun t ht hid => hnew (hid ▸ hrecord t ht)
  have hbegun : Begun (g.offer a) := fun t ht => by
    rw [offer, attempts_afterInsert] at ht
    rw [offer, now_afterInsert]
    exact Begun.run (f := f) (by simp [Begun, hattempts]) hs before t ht
  have hdue : q.due ≤ (g.offer a).now := by
    rw [offer, now_afterInsert]
    exact hd
  have hrun : run carrier f ms = run carrier (g.offer a) after := run_append before _
  have hrule {rule : Fleet → Motion → Prop} (hms : Follows carrier rule f ms) :
      Follows carrier rule (g.offer a) after := (follows_append.mp hms).2.2
  by_cases htaken : Event.taken q ∈ chronicle carrier (g.offer a) after
  · refine .inl ?_
    rw [chronicle_append]
    exact List.mem_append_right _ (List.mem_append_right _ htaken)
  · refine .inr ⟨fun hms => ?_, fun hms => ?_⟩ <;> rw [hrun]
    · exact (timely_run (.leads hleads hnone) hsound hbegun hx hdue (hrule hms)
        hlater).resolve_right htaken
    · exact (ranked_run (.leads hleads hnone) hsound hbegun hx hdue hne (hrule hms)
        hlater).resolve_right htaken

end HostAgent.Fleet
