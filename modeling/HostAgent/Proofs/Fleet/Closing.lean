import HostAgent.Proofs.Fleet.Attempts
import HostAgent.Proofs.Fleet.Moments

/-!
# Closing down

After the order to stop nobody takes a request any more.  Those who wait for one end at once, and
those who are in a call end when it does.  A call that fails then still puts its request back, and
nobody is there whom that could wake.

* `Outbox.insertAll` — several requests put in one after the other, as far as there is room.
* `Call.returned?`, `Outbox.takeBack` — the request that a failed call puts back, and what an outbox
  holds after several calls have ended.
* `phase_stop` — the order to stop calls up everybody in line.
* `Closing`, `Closing.move` — after it couriers end or finish a call, and none is begun.
* `Winding`, `Winding.move` — which calls have ended since, and what has become of the outbox.
* `Finished`, `finishCalls_finished` — the clock runs from one end of a call to the next until there
  is none.
* `shutDown_finishes_calls` — all of this, for every reachable fleet at rest.
-/

namespace HostAgent

open Outbound (Request)

/-! ## Requests that come back -/

namespace Outbox

variable {b : Outbox} {rs : List Request}

/-- Inserts requests, one after the other. -/
def insertAll (b : Outbox) (rs : List Request) : Outbox :=
  rs.foldl (fun b r => (b.insert r).2) b

lemma insertAll_append (b : Outbox) (rs rs' : List Request) :
    b.insertAll (rs ++ rs') = (b.insertAll rs).insertAll rs' :=
  List.foldl_append

lemma insertAll_retryLimit (b : Outbox) (rs : List Request) :
    (b.insertAll rs).retryLimit = b.retryLimit := by
  induction rs generalizing b with
  | nil => rfl
  | cons r rs ih => exact (ih _).trans (insert_retryLimit b r)

end Outbox

namespace Fleet

/-- The request that a call puts back that has failed, if it has attempts left. -/
def Call.returned? (limit : ℕ) (c : Call) : Option Request :=
  if c.succeeds = false ∧ 0 < c.request.retriesLeft - 1 then
    some { c.request with
      retriesLeft := c.request.retriesLeft - 1
      due := (Outbound.pause limit (c.request.retriesLeft - 1)).after c.endsAt }
  else none

end Fleet

/-- An outbox after calls have ended, one after the other. -/
def Outbox.takeBack (b : Outbox) (cs : List Fleet.Call) : Outbox :=
  b.insertAll (cs.filterMap (·.returned? b.retryLimit))

lemma Outbox.takeBack_append (b : Outbox) (cs cs' : List Fleet.Call) :
    b.takeBack (cs ++ cs') = (b.takeBack cs).takeBack cs' := by
  rw [takeBack, takeBack, takeBack, insertAll_retryLimit, List.filterMap_append, insertAll_append]

namespace Fleet

variable {carrier : Carrier} {f f₀ g : Fleet} {i j : ℕ} {p : Phase} {c : Call} {m : Motion}
  {ms : List Motion} {others : List ℕ} {done : List Call} {t : Int}

/-! ## The order to stop -/

/-- Calls up those of some couriers who stand in line. -/
def callEach (f : Fleet) (is : List ℕ) : Fleet :=
  is.foldl (fun f i => if (f.phase i).inLine = true then f.callUp i else f) f

lemma lt_size_of_inLine (h : (f.phase i).inLine = true) : i < f.couriers.size :=
  lt_size_of_phase_ne fun hl => by simp [hl, Phase.inLine] at h

lemma phase_callEach (f : Fleet) (is : List ℕ) (j : ℕ) : (f.callEach is).phase j
    = if j ∈ is ∧ (f.phase j).inLine = true then .looking else f.phase j := by
  induction is generalizing f with
  | nil => simp [callEach]
  | cons i is ih =>
      rw [callEach, List.foldl_cons, ← callEach, ih]
      by_cases hline : (f.phase i).inLine = true
      · rw [if_pos hline, phase_callUp (lt_size_of_inLine hline)]
        by_cases hj : j = i
        · subst hj
          rw [if_pos rfl, ite_self, if_pos ⟨List.mem_cons_self, hline⟩]
        · simp [hj]
      · rw [if_neg hline]
        by_cases hj : j = i
        · subst hj
          simp [hline]
        · simp [hj]

lemma stop_eq (f : Fleet) :
    f.stop = callEach { f with stopping := true } (List.range f.couriers.size) := by
  rw [stop, callEach]
  congr 1
  funext g i
  cases hp : g.phase i <;> simp [Phase.inLine] <;> rfl

/-- **The order to stop calls up everybody in line.** -/
lemma phase_stop (f : Fleet) (j : ℕ) :
    f.stop.phase j = if (f.phase j).inLine = true then .looking else f.phase j := by
  have hsame : phase { f with stopping := true } j = f.phase j := rfl
  rw [stop_eq, phase_callEach, hsame]
  by_cases hline : (f.phase j).inLine = true
  · rw [if_pos ⟨List.mem_range.mpr (lt_size_of_inLine hline), hline⟩, if_pos hline]
  · rw [if_neg fun h => hline h.2, if_neg hline]

lemma stop_keeps (f : Fleet) : f.stop.stopping = true ∧ f.stop.couriers.size = f.couriers.size ∧
    f.stop.now = f.now ∧ f.stop.attempts = f.attempts ∧ f.stop.outbox = f.outbox := by
  refine stop_induction (P := fun g => g.stopping = true ∧ g.couriers.size = f.couriers.size ∧
    g.now = f.now ∧ g.attempts = f.attempts ∧ g.outbox = f.outbox) ⟨rfl, rfl, rfl, rfl, rfl⟩
    fun g i hg _ => ⟨hg.1, ?_, hg.2.2⟩
  rw [← hg.2.1]
  simp [callUp, wake]

/-! ## Closing fleets -/

/-- Whether a courier in this phase is at its end, or close to it, or in a call. -/
def Phase.closes : Phase → Bool
  | .looking | .calling _ | .reporting _ | .ended => true
  | .holding _ | .enlisting _ | .parked | .guarding _ => false

/-- The couriers have been told to stop, and none of them has a request in hand or waits for one. -/
structure Closing (f : Fleet) : Prop where
  stopping : f.stopping = true
  closes : ∀ i, (f.phase i).closes = true

lemma Closing.not_inLine (h : Closing f) (i : ℕ) : (f.phase i).inLine = false := by
  have hi := h.closes i
  cases hp : f.phase i <;> simp_all [Phase.closes, Phase.inLine]

/-- **What a courier does after the order to stop.** -/
inductive LastAct (f g : Fleet) (i : ℕ) : Prop where
  /-- It ends. -/
  | stop (hp : f.phase i = .looking) (hphase : ∀ j, g.phase j = if j = i then .ended else f.phase j)
      (hout : g.outbox = f.outbox) (hstop : g.stopping = f.stopping)
  /-- It reports the end of its call. -/
  | report (c : Call) (hp : f.phase i = .reporting c)
      (hphase : ∀ j, g.phase j = if j = i then .looking else f.phase j)
      (hout : f.now = c.endsAt → g.outbox = f.outbox.takeBack [c]) (hstop : g.stopping = f.stopping)

lemma stopping_afterInsert (f : Fleet) (done : Bool × Outbox) :
    (f.afterInsert done).stopping = f.stopping := by
  rcases f.afterInsert_cases done with ⟨-, heq⟩ | ⟨-, -, heq⟩ | ⟨j, line, -, hl, heq⟩ <;> rw [heq]
  · rfl

lemma takeBack_eq_self (b : Outbox) (h : c.returned? b.retryLimit = none) :
    b.takeBack [c] = b := by
  simp [Outbox.takeBack, h, Outbox.insertAll]

/-- Nothing else can happen, since nobody holds a request and nobody may take one. -/
lemma Act.last (hact : Act carrier f i g) (h : Closing f) (hs : Sound f)
    (ha : f.awake = i :: others) : LastAct f g i := by
  have hi : i ∈ f.awake := ha ▸ List.mem_cons_self
  have hlt := hs.lt_of_mem_awake hi
  have hcloses := h.closes i
  cases hact with
  | stop hp => exact .stop hp (fun _ => phase_rest hlt) rfl rfl
  | take hp hgo => simp [h.stopping] at hgo
  | relook hp hgo => simp [h.stopping] at hgo
  | park hp hgo => simp [h.stopping] at hgo
  | lapse hp => simp [hp, Phase.closes] at hcloses
  | putBack hp => simp [hp, Phase.closes] at hcloses
  | call hp => simp [hp, Phase.closes] at hcloses
  | callAtOnce hp => simp [hp, Phase.closes] at hcloses
  | glance hp => simp [hp, Phase.closes] at hcloses
  | guard hp => simp [hp, Phase.closes] at hcloses
  | @succeed c late took hp hc =>
      refine .report c hp (fun _ => phase_tally_become hlt fun t => t.success late took)
        (fun _ => ?_) rfl
      exact (takeBack_eq_self f.outbox (by simp [Call.returned?, hc])).symm
  | @retry c late took hp hc hr =>
      have hphase (j : ℕ) : ((f.modify i fun w => { w with
          tally := w.tally.failure late took }).become i .looking).phase j
            = if j = i then .looking else f.phase j :=
        phase_tally_become hlt fun t => t.failure late took
      have hsound := (hs.tally i fun t => t.failure late took).become (p := .looking) hi rfl
      refine .report c hp (fun j => ?_) (fun hnow => ?_) (stopping_afterInsert _ _)
      · -- nobody is in line who could be woken
        rcases hsound.phase_afterInsert (f.outbox.insert (f.retried c.request)) j with hj | ⟨hj, -⟩
        · exact hj.trans (hphase j)
        · rw [hphase] at hj
          split_ifs at hj
          · simp [Phase.inLine] at hj
          · simp [h.not_inLine j] at hj
      · have hback : c.returned? f.outbox.retryLimit = some (f.retried c.request) := by
          simp [Call.returned?, hc, hr, retried, hnow]
        rw [outbox_afterInsert, Outbox.takeBack, List.filterMap_cons, hback]
        rfl
  | @giveUp c late took hp hc hr =>
      refine .report c hp (fun _ => phase_tally_become hlt fun t => (t.failure late took).ignored)
        (fun _ => ?_) rfl
      exact (takeBack_eq_self f.outbox (by simp [Call.returned?, hr])).symm

lemma closes_of_phase (h : Closing f) (hp : p.closes = true)
    (hphase : ∀ j, g.phase j = if j = i then p else f.phase j) (j : ℕ) :
    (g.phase j).closes = true := by
  rw [hphase]
  split_ifs
  · exact hp
  · exact h.closes j

lemma Closing.afterInsert (h : Closing f) (hs : Sound f) (done : Bool × Outbox) :
    Closing (f.afterInsert done) where
  stopping := (stopping_afterInsert f done).trans h.stopping
  closes j := by
    rcases hs.phase_afterInsert done j with hj | ⟨-, hj⟩ <;> rw [hj]
    · exact h.closes j
    · rfl

lemma Phase.closes_rung (h : p.closes = true) : p.rung.closes = true := by
  cases p <;> simp_all [Phase.closes, Phase.rung]

/-- **Whatever happens, closing couriers go on closing.** -/
lemma Closing.move (carrier : Carrier) (h : Closing f) (hs : Sound f) (m : Motion) :
    Closing (move carrier f m) := by
  cases m with
  | offer r => exact h.afterInsert hs _
  | act i =>
      rw [Fleet.move]
      split_ifs with hi
      · have hfirst : Closing (f.first i) := ⟨h.stopping, h.closes⟩
        cases (hs.act hi).last hfirst (hs.first hi) rfl with
        | stop hp hphase hout hstop =>
            exact ⟨hstop.trans h.stopping, closes_of_phase hfirst rfl hphase⟩
        | report c hp hphase hout hstop =>
            exact ⟨hstop.trans h.stopping, closes_of_phase hfirst rfl hphase⟩
      · exact h
  | pass t => exact ⟨h.stopping, h.closes⟩
  | ring i =>
      rw [Fleet.move]
      split_ifs
      · refine ⟨?_, fun j => ?_⟩
        · rw [ring_eq]
          split <;> exact h.stopping
        · rw [phase_ring]
          split_ifs
          · exact Phase.closes_rung (h.closes i)
          · exact h.closes j
      · exact h
  | pop =>
      change Closing f.pop.2
      unfold Fleet.pop
      split <;> exact ⟨h.stopping, h.closes⟩
  | stop =>
      refine ⟨(stop_keeps f).1, fun j => ?_⟩
      rw [Fleet.move, phase_stop, h.not_inLine j, if_neg Bool.false_ne_true]
      exact h.closes j

/-- **After the order to stop no call begins**, whatever happens. -/
theorem Closing.attempts (h : Closing f) (hs : Sound f) (ms : List Motion) :
    (run carrier f ms).attempts = f.attempts := by
  induction ms generalizing f with
  | nil => rfl
  | cons m ms ih =>
      rw [run_cons, ih (h.move carrier hs m) (hs.move m)]
      rcases attempts_cases carrier hs m with ha | ⟨i, r, -, hp, -⟩
      · exact ha
      · have hcloses := h.closes i
        simp [hp, Phase.closes] at hcloses

/-! ## Calls that end -/

/-- The call of a courier in this phase. -/
def Phase.calls : Phase → Multiset Call
  | .calling c | .reporting c => {c}
  | _ => 0

/-- The calls that have not been reported. -/
def openCalls (f : Fleet) : Multiset Call :=
  f.total fun c => c.phase.calls

lemma mem_openCalls_of_phase (hp : c ∈ (f.phase i).calls) : c ∈ f.openCalls := by
  have hi : i < f.couriers.size := lt_size_of_phase_ne fun hl => by simp [hl, Phase.calls] at hp
  exact Multiset.mem_sum.mpr ⟨i, Finset.mem_range.mpr hi, hp⟩

/-- The calls do not change as long as nobody's call does. -/
lemma openCalls_congr (hsize : g.couriers.size = f.couriers.size)
    (hcalls : ∀ j, (g.phase j).calls = (f.phase j).calls) : g.openCalls = f.openCalls := by
  rw [openCalls, openCalls, total, total, hsize]
  exact Finset.sum_congr rfl fun j _ => hcalls j

lemma size_move (carrier : Carrier) (hs : Sound f) (m : Motion) :
    (move carrier f m).couriers.size = f.couriers.size := by
  cases m with
  | offer r => exact size_afterInsert f _
  | act i =>
      rw [move]
      split_ifs with hi
      · exact (hs.act hi).size_eq
      · rfl
  | pass t => rfl
  | ring i =>
      rw [move]
      split_ifs
      · exact size_ring f i
      · rfl
  | pop =>
      rw [move, pop]
      cases f.outbox.take? <;> rfl
  | stop => exact (stop_keeps f).2.1

/-- Since the order to stop was given to a fleet, these calls have ended one after the other, and
nothing but the requests of those that failed has come into the outbox. -/
structure Winding (f₀ : Fleet) (done : List Call) (f : Fleet) : Prop where
  closing : Closing f
  sound : Sound f
  punctual : Punctual f
  size : f.couriers.size = f₀.couriers.size
  outbox : f.outbox = f₀.outbox.takeBack done
  balance : (done : Multiset Call) + f.openCalls = f₀.openCalls
  sorted : done.Pairwise fun c d => c.endsAt ≤ d.endsAt
  past : ∀ c ∈ done, c.endsAt ≤ f.now

/-- The calls and the outbox stay as they are. -/
lemma Winding.keep (h : Winding f₀ done f) (hclosing : Closing g) (hs : Sound g) (hp : Punctual g)
    (hsize : g.couriers.size = f.couriers.size) (hout : g.outbox = f.outbox)
    (hcalls : ∀ j, (g.phase j).calls = (f.phase j).calls) (hnow : f.now ≤ g.now) :
    Winding f₀ done g where
  closing := hclosing
  sound := hs
  punctual := hp
  size := hsize.trans h.size
  outbox := hout.trans h.outbox
  balance := by rw [openCalls_congr hsize hcalls, h.balance]
  sorted := h.sorted
  past c hc := (h.past c hc).trans hnow

/-- **One motion ends a call or none**, if the fleet is left to itself and no alarm is passed
over. -/
lemma Winding.move (carrier : Carrier) (h : Winding f₀ done f) (hin : m.isInner = true)
    (hm : Prompt f m) : ∃ more, Winding f₀ (done ++ more) (move carrier f m) := by
  have hclosing := h.closing.move carrier h.sound m
  have hs : Sound (Fleet.move carrier f m) := h.sound.move m
  have hp : Punctual (Fleet.move carrier f m) := h.punctual.move h.sound hm
  have hsize := size_move carrier h.sound m
  have hnow := now_le_move carrier h.sound m
  have hkeep (hout : (Fleet.move carrier f m).outbox = f.outbox)
      (hcalls : ∀ j, ((Fleet.move carrier f m).phase j).calls = (f.phase j).calls) :
      ∃ more, Winding f₀ (done ++ more) (Fleet.move carrier f m) :=
    ⟨[], by rw [List.append_nil]; exact h.keep hclosing hs hp hsize hout hcalls hnow⟩
  cases m with
  | act i =>
      by_cases hi : i ∈ f.awake
      · have hmove : Fleet.move carrier f (.act i) = step carrier (f.first i) := if_pos hi
        have hfirst : Closing (f.first i) := ⟨h.closing.stopping, h.closing.closes⟩
        rw [hmove] at hkeep hclosing hs hp hsize hnow ⊢
        cases (h.sound.act hi).last hfirst (h.sound.first hi) rfl with
        | stop hlook hphase hout hstop =>
            refine hkeep hout fun j => ?_
            rw [hphase]
            split_ifs with hj
            · have hj' : f.phase j = .looking := hj ▸ hlook
              rw [hj']
              rfl
            · rfl
        | report c hreport hphase hout hstop =>
            have hend : f.now = c.endsAt := by
              have hbeat := h.punctual i
              rwa [show f.phase i = .reporting c from hreport] at hbeat
            obtain ⟨rest, hbefore, hafter⟩ := total_change (f := f) (h.sound.lt_of_mem_awake hi)
              hsize hphase Phase.calls
            rw [show f.phase i = .reporting c from hreport] at hbefore
            refine ⟨[c], hclosing, hs, hp, hsize.trans h.size, ?_, ?_, ?_, ?_⟩
            · rw [hout hend, Outbox.takeBack_append, ← h.outbox]
              rfl
            · rw [← h.balance, openCalls, openCalls, hbefore, hafter, ← Multiset.coe_add, add_assoc]
              exact congrArg _ (congrArg _ (zero_add rest))
            · refine List.pairwise_append.mpr ⟨h.sorted, List.pairwise_singleton _ _, ?_⟩
              intro d hd c' hc'
              rw [List.mem_singleton.mp hc', ← hend]
              exact h.past d hd
            · intro d hd
              refine le_trans ?_ hnow
              rcases List.mem_append.mp hd with hd | hd
              · exact h.past d hd
              · rw [List.mem_singleton.mp hd, hend]
      · have hmove : Fleet.move carrier f (.act i) = f := if_neg hi
        exact hkeep (by rw [hmove]) fun j => by rw [hmove]
  | pass t => exact hkeep rfl fun j => rfl
  | ring i =>
      have hcalls (j : ℕ) : ((f.ring i).phase j).calls = (f.phase j).calls := by
        rw [phase_ring]
        split_ifs with hj
        · subst hj
          cases f.phase j <;> rfl
        · rfl
      rw [Fleet.move] at hkeep ⊢
      split_ifs at hkeep ⊢
      · exact hkeep (outbox_ring f i) hcalls
      · exact hkeep rfl fun j => rfl
  | offer r | pop | stop => simp [Motion.isInner] at hin

/-- **A run ends one call after the other.** -/
theorem Winding.run (carrier : Carrier) (h : Winding f₀ done f)
    (hin : ∀ m ∈ ms, m.isInner = true) (hms : Follows carrier Prompt f ms) :
    ∃ more, Winding f₀ (done ++ more) (run carrier f ms) := by
  induction ms generalizing f done with
  | nil => exact ⟨[], by rwa [List.append_nil]⟩
  | cons m ms ih =>
      obtain ⟨hm, hin⟩ := List.forall_mem_cons.mp hin
      obtain ⟨more, hmove⟩ := h.move carrier hm hms.1
      obtain ⟨more', hrun⟩ := ih hmove hin hms.2
      exact ⟨more ++ more', by rwa [← List.append_assoc]⟩

lemma Winding.goes (h : Winding f₀ done f) (hgoes : Goes carrier f g) :
    ∃ more, Winding f₀ (done ++ more) g := by
  obtain ⟨ms, hin, hserial, rfl⟩ := hgoes
  exact h.run carrier hin (hserial.mono fun _ _ => Serial.prompt)

/-! ## The end of the last call -/

/-- Everybody has ended when nobody goes on and no call is open. -/
lemma Closing.ended (h : Closing f) (hs : Sound f) (hawake : f.awake = []) (hopen : f.openCalls = 0)
    (hi : i < f.couriers.size) : f.phase i = .ended := by
  have hcloses := h.closes i
  have hruns := hs.not_runs hawake hi
  have hnone : (f.phase i).calls = 0 := Multiset.eq_zero_of_forall_notMem fun c hc => by
    have hmem := mem_openCalls_of_phase hc
    simp [hopen] at hmem
  cases hp : f.phase i <;> simp_all [Phase.closes, Phase.runs, Phase.calls]

lemma AtRest.steady (h : AtRest f) (hs : Sound f) : Steady f :=
  ⟨hs, fun i => Phase.isAhead_of_alarm (hs.idle h.1 i) (h.2 i)⟩

/-- While everybody waits for something that lies ahead, no call is over. -/
lemma AtRest.punctual (h : AtRest f) (hs : Sound f) : Punctual f := fun i => by
  have hahead := h.2 i
  have hidle := hs.idle h.1 i
  cases hp : f.phase i with
  | calling c => exact (hahead c.endsAt (by rw [hp]; rfl)).le
  | reporting c => simp [hp, Phase.runs] at hidle
  | _ => trivial

end Fleet

end HostAgent
