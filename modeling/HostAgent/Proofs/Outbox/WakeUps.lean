import HostAgent.Outbox.Desk
import Mathlib.Tactic

/-!
# Wake-ups

Each insertion that wakes serves one caller, the one who has waited longest, or leaves one permit
behind if nobody waits.  No wake-up gets lost and none counts twice.

* `Order`, `obey` — what may be asked of a desk.  A caller goes by the number of the order with
  which it came.
* `Entry`, `journal` — a run of a desk: its orders, and the answers that each brought about.
* `waiting` — who waits after a run, as the journal alone tells it: those who came and have neither
  been answered nor gone away.
* `Order.Fair` — what an order may do to those who wait.
* `Tidy` — the invariant: the line at the gate is what the journal says, a permit lies there only
  while nobody waits, and no deadline has passed.
* `one_wake_up_each` — every order of every run is fair, and nobody is answered twice or after it
  has gone away.
-/

namespace HostAgent.Desk

open Outbound (Request)

variable {d d' : Desk} {w cs : List Caller} {b c : Caller} {n k : ℕ} {r : Request}
  {as : List Answer} {o : Order} {os : List Order} {t target : Int}

/-! ## Orders and their journal -/

/-- What may be asked of a desk. -/
inductive Order where
  /-- Inserts a fresh request, for a producer who asks whether there was room or for one who does
  not. -/
  | offer (r : Request)
  /-- Inserts a request again that could not be delivered. -/
  | retry (r : Request)
  /-- Inserts a request again that was taken too early. -/
  | putBack (r : Request)
  /-- Takes the most urgent request without waiting. -/
  | take
  /-- Lets the clock run. -/
  | advance (ms : ℕ)
  /-- A new caller comes, and looks at the clock before it looks for a permit or after that. -/
  | call (wish : Wish) (clockFirst : Bool)
  /-- A caller goes away. -/
  | cancel (caller : ℕ)

/-- Carries out the order of a number. -/
def obey (d : Desk) (n : ℕ) : Order → List Answer × Desk
  | .offer r => (d.offer r).2
  | .retry r => (d.retry r).2
  | .putBack r => (d.putBack r).2
  | .take => ([], d.tray.take?.elim d fun taken => { d with tray := taken.2 })
  | .advance ms => d.advance ms
  | .call wish clockFirst => d.call ⟨n, wish⟩ clockFirst
  | .cancel caller => ([], d.cancel caller)

/-- An order, its number and the answers that it brought about. -/
structure Entry where
  number : ℕ
  order : Order
  answers : List Answer

/-- A run of a desk. -/
def journal (d : Desk) (n : ℕ) : List Order → List Entry
  | [] => []
  | o :: os => ⟨n, o, (d.obey n o).1⟩ :: journal (d.obey n o).2 (n + 1) os

/-- A desk after some orders. -/
def after (d : Desk) (n : ℕ) : List Order → Desk
  | [] => d
  | o :: os => after (d.obey n o).2 (n + 1) os

/-- Those who are answered. -/
def answered (es : List Entry) : List ℕ :=
  es.flatMap fun e => e.answers.map (·.caller)

/-- Who is present after the order of a number, if nobody is answered. -/
def Order.present (w : List Caller) (n : ℕ) : Order → List Caller
  | .call wish _ => w ++ [⟨n, wish⟩]
  | .cancel caller => w.filter fun c => !(c.id == caller)
  | _ => w

/-- Those who are not among the answered. -/
def unanswered (as : List Answer) (w : List Caller) : List Caller :=
  w.filter fun c => c.id ∉ as.map (·.caller)

/-- Who waits after one more entry. -/
def Entry.update (w : List Caller) (e : Entry) : List Caller :=
  unanswered e.answers (e.order.present w e.number)

/-- Who waits after a run, those who came first in front. -/
def waiting (es : List Entry) : List Caller :=
  es.foldl Entry.update []

/-! ## What an order may do -/

/-- The answer that a caller has got by a moment because of its deadline. -/
def timeUp? (target : Int) (c : Caller) : Option Answer :=
  match c.wish with
  | .news deadline => if deadline ≤ target then some ⟨deadline, c.id, none⟩ else none
  | .request => none

/-- **An insertion that wakes.**  If there is no room nobody is answered and no permit is left.
Otherwise the one who has waited longest is answered, with the most urgent request if it wants one,
and nobody else; if nobody waits a permit is left. -/
def Wakes (w : List Caller) (d : Desk) (r : Request) (as : List Answer) (d' : Desk) : Prop :=
  if d.tray.hasRoom then
    match w with
    | [] => as = [] ∧ d'.gate.permit = true ∧ d'.tray = (d.tray.insert r).2
    | ⟨k, .news _⟩ :: _ =>
      as = [⟨d.now, k, none⟩] ∧ d'.gate.permit = false ∧ d'.tray = (d.tray.insert r).2
    | ⟨k, .request⟩ :: _ => ∃ q, as = [⟨d.now, k, some q⟩] ∧ d'.gate.permit = false ∧
        (d.tray.insert r).2.take? = some (q, d'.tray)
  else as = [] ∧ d'.gate.permit = d.gate.permit ∧ d'.tray = (d.tray.insert r).2

/-- **What an order may do to those who wait.** -/
def Order.Fair (w : List Caller) (d : Desk) (n : ℕ) (as : List Answer) (d' : Desk) :
    Order → Prop
  | .offer r => Wakes w d (d.tray.stamp r) as d'
  | .retry r => Wakes w d r as d'
  | .putBack r =>
    as = [] ∧ d'.gate.permit = d.gate.permit ∧ d'.tray = (d.tray.insert r).2
  | .take =>
    as = [] ∧ d'.gate.permit = d.gate.permit ∧ d'.tray = d.tray.take?.elim d.tray (·.2)
  | .cancel _ => as = [] ∧ d'.gate.permit = d.gate.permit ∧ d'.tray = d.tray
  | .advance ms =>
    as.Perm (w.filterMap (timeUp? (d.now + ms))) ∧ as.Pairwise (·.time ≤ ·.time) ∧
      d'.gate.permit = d.gate.permit ∧ d'.tray = d.tray ∧ d'.now = d.now + ms
  | .call .request _ =>
    match d.tray.take? with
    | some (q, b) => as = [⟨d.now, n, some q⟩] ∧ d'.gate.permit = d.gate.permit ∧ d'.tray = b
    | none => as = [] ∧ d'.gate.permit = false ∧ d'.tray = d.tray
  | .call (.news deadline) clockFirst =>
    as = (if d.gate.permit ∨ deadline ≤ d.now then [⟨d.now, n, none⟩] else []) ∧
      d'.gate.permit = (d.gate.permit && clockFirst && decide (deadline ≤ d.now)) ∧
      d'.tray = d.tray

/-! ## The line at the gate -/

/-- The line at the gate is who waits: in the order in which they came, and only while there is no
permit and no deadline has passed. -/
structure Tidy (d : Desk) (w : List Caller) (n : ℕ) : Prop where
  line : d.gate.line = w
  ordered : w.Pairwise (·.id < ·.id)
  known : ∀ c ∈ w, c.id < n
  permit : d.gate.permit = true → w = []
  ahead : ∀ c ∈ w, ∀ t, c.wish = .news t → d.now < t

@[simp] lemma unanswered_nil (w : List Caller) : unanswered [] w = w := by
  simp [unanswered]

/-- Those who came later have other numbers. -/
lemma unanswered_head {q : Option Request} (h : (c :: cs).Pairwise (·.id < ·.id)) :
    unanswered [⟨t, c.id, q⟩] (c :: cs) = cs := by
  have hlater := (List.pairwise_cons.mp h).1
  simp only [unanswered, List.map_cons, List.map_nil, List.mem_singleton, List.filter_cons,
    not_true_eq_false, decide_false, Bool.false_eq_true, if_false, List.filter_eq_self,
    decide_eq_true_eq]
  exact fun b hb => (hlater b hb).ne'

lemma mem_unanswered : c ∈ unanswered as w ↔ c ∈ w ∧ c.id ∉ as.map (·.caller) := by
  simp [unanswered]

/-- The line stays tidy when some give up waiting. -/
lemma Tidy.sublist (h : Tidy d w n) (hline : d'.gate.line = cs) (hcs : cs.Sublist w)
    (hpermit : d'.gate.permit = true → cs = [])
    (hahead : ∀ c ∈ cs, ∀ t, c.wish = .news t → d'.now < t) : Tidy d' cs (n + 1) where
  line := hline
  ordered := h.ordered.sublist hcs
  known c hc := Nat.lt_succ_of_lt (h.known c (hcs.subset hc))
  permit := hpermit
  ahead := hahead

/-- Orders that change neither the gate nor the clock. -/
lemma Tidy.same (h : Tidy d w n) (hgate : d'.gate = d.gate) (hnow : d'.now = d.now) :
    Tidy d' w (n + 1) :=
  h.sublist (hgate ▸ h.line) (List.Sublist.refl w) (hgate ▸ h.permit) (hnow ▸ h.ahead)

/-! ## Insertions -/

/-- Where there was room there is something to take. -/
lemma exists_take?_insert {t : Tray} (h : t.hasRoom = true) (r : Request) :
    ∃ q t', (t.insert r).2.take? = some (q, t') := by
  obtain ⟨⟨q, t'⟩, htake⟩ := Option.ne_none_iff_exists'.mp (fun hnone => by
    have hsize := Tray.take?_eq_none_iff.mp hnone
    simp [Tray.isEmpty, Tray.size_insert, h] at hsize : (t.insert r).2.take? ≠ none)
  exact ⟨q, t', htake⟩

/-- **An insertion wakes the one who has waited longest.** -/
lemma Tidy.wakes (h : Tidy d w n) (r : Request) :
    Wakes w d r (d.afterInsert (d.tray.insert r)).2.1 (d.afterInsert (d.tray.insert r)).2.2 ∧
      Tidy (d.afterInsert (d.tray.insert r)).2.2
        (unanswered (d.afterInsert (d.tray.insert r)).2.1 w) (n + 1) := by
  have hline := h.line
  cases hroom : d.tray.hasRoom with
  | false =>
      have heq : d.afterInsert (d.tray.insert r)
          = (false, [], { d with tray := (d.tray.insert r).2 }) := by
        simp [afterInsert, hroom]
      rw [heq, unanswered_nil]
      exact ⟨by simp [Wakes, hroom], h.same rfl rfl⟩
  | true =>
      cases w with
      | nil =>
          have heq : d.afterInsert (d.tray.insert r) = (true, [], { d with
              tray := (d.tray.insert r).2, gate := { d.gate with permit := true } }) := by
            simp [afterInsert, hroom, Gate.signal, hline]
          rw [heq, unanswered_nil]
          exact ⟨by simp [Wakes, hroom],
            h.sublist hline (List.Sublist.refl _) (fun _ => rfl) h.ahead⟩
      | cons c cs =>
          have hpermit : d.gate.permit = false :=
            Bool.eq_false_iff.mpr fun hp => List.cons_ne_nil c cs (h.permit hp)
          have htidy {d' : Desk} (hgate : d'.gate = { d.gate with line := cs })
              (hnow : d'.now = d.now) : Tidy d' cs (n + 1) :=
            h.sublist (by rw [hgate]) (List.sublist_cons_self c cs)
              (fun hp => by simp [hgate, hpermit] at hp)
              fun b hb => hnow ▸ h.ahead b (List.mem_cons_of_mem c hb)
          obtain ⟨k, wish⟩ := c
          cases wish with
          | news deadline =>
              have heq : d.afterInsert (d.tray.insert r) = (true, [⟨d.now, k, none⟩], { d with
                  tray := (d.tray.insert r).2, gate := { d.gate with line := cs } }) := by
                simp [afterInsert, hroom, Gate.signal, hline, serve]
              rw [heq, unanswered_head h.ordered]
              exact ⟨by simp [Wakes, hroom, hpermit], htidy rfl rfl⟩
          | request =>
              obtain ⟨q, b, htake⟩ := exists_take?_insert hroom r
              have heq : d.afterInsert (d.tray.insert r) = (true, [⟨d.now, k, some q⟩],
                  { d with tray := b, gate := { d.gate with line := cs } }) := by
                simp [afterInsert, hroom, Gate.signal, hline, serve, htake]
              rw [heq, unanswered_head h.ordered]
              exact ⟨by simp [Wakes, hroom, hpermit, htake], htidy rfl rfl⟩

/-! ## The clock -/

lemma timeUp?_eq_some {a : Answer} (h : timeUp? target c = some a) :
    c.wish = .news a.time ∧ a.time ≤ target ∧ a = ⟨a.time, c.id, none⟩ := by
  obtain ⟨k, wish⟩ := c
  cases wish with
  | request => cases h
  | news deadline =>
      by_cases hdue : deadline ≤ target
      · simp only [timeUp?, hdue, if_true, Option.some.injEq] at h
        subst h
        exact ⟨rfl, hdue, rfl⟩
      · simp [timeUp?, hdue] at h

lemma id_eq_iff (h : w.Pairwise (·.id < ·.id)) (hb : b ∈ w) (hc : c ∈ w) :
    b.id = c.id ↔ b = c :=
  ⟨List.inj_on_of_nodup_map (List.pairwise_map.mpr (h.imp fun hlt => hlt.ne)) hb hc,
    congrArg Caller.id⟩

/-- One caller goes, all the others stay. -/
lemma perm_cons_others (h : w.Pairwise (·.id < ·.id)) (hc : c ∈ w) :
    w.Perm (c :: w.filter fun b => !(b.id == c.id)) := by
  have hnodup : w.Nodup := h.imp fun hlt heq => hlt.ne (congrArg Caller.id heq)
  have hothers : (w.filter fun b => !(b.id == c.id)) = w.erase c := by
    rw [hnodup.erase_eq_filter]
    refine List.filter_congr fun b hb => ?_
    simp [bne, beq_eq_decide, id_eq_iff h hb hc]
  rw [hothers]
  exact List.perm_cons_erase hc

lemma nextDeadline?_cons (target : Int) (c : Caller) (cs : List Caller) :
    nextDeadline? target (c :: cs) =
      match timeUp? target c with
      | none => nextDeadline? target cs
      | some a =>
        match nextDeadline? target cs with
        | some (t, k) => if t < a.time then some (t, k) else some (a.time, c.id)
        | none => some (a.time, c.id) := by
  obtain ⟨k, wish⟩ := c
  cases wish with
  | request => rfl
  | news deadline =>
      by_cases hdue : deadline ≤ target
      · cases hnext : nextDeadline? target cs <;>
          simp only [nextDeadline?, deadline?, timeUp?, hdue, if_true, hnext]
      · simp only [nextDeadline?, deadline?, timeUp?, hdue, if_false]

lemma nextDeadline?_eq_none (h : nextDeadline? target cs = none) :
    ∀ c ∈ cs, timeUp? target c = none := by
  induction cs with
  | nil => simp
  | cons c cs ih =>
      rw [nextDeadline?_cons] at h
      cases hc : timeUp? target c with
      | none =>
          simp only [hc] at h
          exact List.forall_mem_cons.mpr ⟨hc, ih h⟩
      | some a =>
          simp only [hc] at h
          split at h
          · split at h <;> cases h
          · cases h

/-- The next deadline is the earliest of those that come. -/
lemma nextDeadline?_eq_some (h : nextDeadline? target cs = some (t, k)) :
    (∃ c ∈ cs, c.id = k ∧ timeUp? target c = some ⟨t, k, none⟩) ∧
      ∀ a ∈ cs.filterMap (timeUp? target), t ≤ a.time := by
  induction cs generalizing t k with
  | nil => cases h
  | cons c cs ih =>
      rw [nextDeadline?_cons] at h
      cases hc : timeUp? target c with
      | none =>
          simp only [hc] at h
          obtain ⟨⟨b, hb, hup⟩, hfirst⟩ := ih h
          exact ⟨⟨b, List.mem_cons_of_mem c hb, hup⟩, by rwa [List.filterMap_cons_none hc]⟩
      | some a =>
          obtain ⟨-, -, ha⟩ := timeUp?_eq_some hc
          simp only [hc] at h
          rw [List.filterMap_cons_some hc]
          cases hnext : nextDeadline? target cs with
          | none =>
              simp only [hnext, Option.some.injEq, Prod.mk.injEq] at h
              obtain ⟨rfl, rfl⟩ := h
              have hnil : cs.filterMap (timeUp? target) = [] :=
                List.filterMap_eq_nil_iff.mpr (nextDeadline?_eq_none hnext)
              exact ⟨⟨c, List.mem_cons_self, rfl, ha ▸ hc⟩, by simp [hnil]⟩
          | some next =>
              obtain ⟨⟨b, hb, hid, hup⟩, hfirst⟩ := ih hnext
              simp only [hnext] at h
              by_cases hlt : next.1 < a.time
              · simp only [hlt, if_true, Option.some.injEq, Prod.mk.injEq] at h
                obtain ⟨rfl, rfl⟩ := h
                exact ⟨⟨b, List.mem_cons_of_mem c hb, hid, hup⟩,
                  List.forall_mem_cons.mpr ⟨hlt.le, hfirst⟩⟩
              · simp only [hlt, if_false, Option.some.injEq, Prod.mk.injEq] at h
                obtain ⟨rfl, rfl⟩ := h
                exact ⟨⟨c, List.mem_cons_self, rfl, ha ▸ hc⟩,
                  List.forall_mem_cons.mpr ⟨le_rfl, fun a' ha' =>
                    (not_lt.mp hlt).trans (hfirst a' ha')⟩⟩

/-- **The clock runs**, and answers whose time comes, in the order of their deadlines. -/
lemma runTo_spec {fuel : ℕ} (hline : d.gate.line.Pairwise (·.id < ·.id))
    (hfuel : d.gate.line.length ≤ fuel)
    (hahead : ∀ a ∈ d.gate.line.filterMap (timeUp? target), d.now ≤ a.time) :
    (runTo target fuel d).1.Perm (d.gate.line.filterMap (timeUp? target)) ∧
      (runTo target fuel d).1.Pairwise (·.time ≤ ·.time) ∧
      (runTo target fuel d).2 = { d with
        now := target
        gate := { d.gate with
          line := d.gate.line.filter fun c => (timeUp? target c).isNone } } := by
  have hnone {d : Desk} (h : ∀ c ∈ d.gate.line, timeUp? target c = none) :
      d.gate.line.filterMap (timeUp? target) = [] ∧
        (d.gate.line.filter fun c => (timeUp? target c).isNone) = d.gate.line :=
    ⟨List.filterMap_eq_nil_iff.mpr h, List.filter_eq_self.mpr fun c hc => by rw [h c hc]; rfl⟩
  induction fuel generalizing d with
  | zero =>
      have hnil := List.eq_nil_of_length_eq_zero (Nat.le_zero.mp hfuel)
      obtain ⟨hanswers, hstay⟩ := hnone (d := d) (by simp [hnil])
      simp [runTo, hanswers, hstay]
  | succ fuel ih =>
      cases hnext : nextDeadline? target d.gate.line with
      | none =>
          obtain ⟨hanswers, hstay⟩ := hnone (nextDeadline?_eq_none hnext)
          simp [runTo, hnext, hanswers, hstay]
      | some next =>
          obtain ⟨t, k⟩ := next
          obtain ⟨⟨c, hc, rfl, hup⟩, hfirst⟩ := nextDeadline?_eq_some hnext
          have hnow : max d.now t = t :=
            max_eq_right (hahead _ (List.mem_filterMap.mpr ⟨c, hc, hup⟩))
          -- the others are answered as if this caller had never been in line
          have hperm := perm_cons_others hline hc
          have hanswers : (d.gate.line.filterMap (timeUp? target)).Perm (⟨t, c.id, none⟩ ::
              (d.gate.line.filter fun b => !(b.id == c.id)).filterMap (timeUp? target)) := by
            simpa only [List.filterMap_cons_some hup] using hperm.filterMap (timeUp? target)
          have hlater : ∀ a ∈ (d.gate.line.filter fun b => !(b.id == c.id)).filterMap
              (timeUp? target), t ≤ a.time := fun a ha =>
            hfirst a (hanswers.mem_iff.mpr (List.mem_cons_of_mem _ ha))
          obtain ⟨hrest, htimes, hdesk⟩ := ih (d := { d with now := t }.cancel c.id)
            (hline.filter _) (by simpa [cancel, Gate.leave, hperm.length_eq] using hfuel) hlater
          have hstay : ((d.gate.line.filter fun b => !(b.id == c.id)).filter
              fun b => (timeUp? target b).isNone)
                = d.gate.line.filter fun b => (timeUp? target b).isNone := by
            rw [List.filter_filter]
            refine List.filter_congr fun b hb => ?_
            rcases eq_or_ne b c with rfl | hne
            · simp [hup]
            · simp [(id_eq_iff hline hb hc).not.mpr hne]
          simp only [runTo, hnext, hnow]
          refine ⟨(hrest.cons _).trans hanswers.symm, List.pairwise_cons.mpr
            ⟨fun a ha => hlater a (hrest.mem_iff.mp ha), htimes⟩, ?_⟩
          rw [hdesk]
          simp only [cancel, Gate.leave, hstay]

/-! ## One order -/

/-- Who came last has a number of its own. -/
lemma unanswered_last {q : Option Request} {wish : Wish} (h : ∀ c ∈ w, c.id < n) :
    unanswered [⟨t, n, q⟩] (w ++ [⟨n, wish⟩]) = w := by
  have hothers : unanswered [⟨t, n, q⟩] w = w :=
    List.filter_eq_self.mpr fun c hc => by simp [(h c hc).ne]
  rw [unanswered, List.filter_append, ← unanswered, hothers]
  simp

/-- Who is not served joins the line, and no permit is left. -/
lemma Tidy.join {wish : Wish} (h : Tidy d w n) (hline : d'.gate.line = w ++ [⟨n, wish⟩])
    (hpermit : d'.gate.permit = false) (hnow : d'.now = d.now)
    (hwish : ∀ t, wish = .news t → d.now < t) : Tidy d' (w ++ [⟨n, wish⟩]) (n + 1) where
  line := hline
  ordered := List.pairwise_append.mpr ⟨h.ordered, List.pairwise_singleton _ _, fun c hc b hb => by
    rw [List.mem_singleton.mp hb]
    exact h.known c hc⟩
  known := List.forall_mem_append.mpr ⟨fun c hc => Nat.lt_succ_of_lt (h.known c hc), by simp⟩
  permit hp := by simp [hpermit] at hp
  ahead := List.forall_mem_append.mpr ⟨hnow ▸ h.ahead, by simpa [hnow] using hwish⟩

/-- Those stay whose time has not come. -/
lemma unanswered_timeUp (h : w.Pairwise (·.id < ·.id))
    (has : as.Perm (w.filterMap (timeUp? target))) :
    unanswered as w = w.filter fun c => (timeUp? target c).isNone := by
  refine List.filter_congr fun c hc => ?_
  have hmem : c.id ∈ as.map (·.caller) ↔ timeUp? target c ≠ none := by
    rw [(has.map _).mem_iff, List.mem_map]
    constructor
    · rintro ⟨a, ha, hid⟩
      obtain ⟨b, hb, hup⟩ := List.mem_filterMap.mp ha
      have hcaller : a.caller = b.id := congrArg Answer.caller (timeUp?_eq_some hup).2.2
      rw [← (id_eq_iff h hb hc).mp (hcaller.symm.trans hid), hup]
      simp
    · intro hne
      obtain ⟨a, hup⟩ := Option.ne_none_iff_exists'.mp hne
      exact ⟨a, List.mem_filterMap.mpr ⟨c, hc, hup⟩,
        congrArg Answer.caller (timeUp?_eq_some hup).2.2⟩
  rw [Bool.eq_iff_iff]
  simp [hmem]

lemma Tidy.advance (h : Tidy d w n) (ms : ℕ) :
    (Order.advance ms).Fair w d n (d.advance ms).1 (d.advance ms).2 ∧
      Tidy (d.advance ms).2 (unanswered (d.advance ms).1 w) (n + 1) := by
  obtain rfl := h.line
  have hahead : ∀ a ∈ d.gate.line.filterMap (timeUp? (d.now + ms)), d.now ≤ a.time := by
    intro a ha
    obtain ⟨c, hc, hup⟩ := List.mem_filterMap.mp ha
    exact (h.ahead c hc _ (timeUp?_eq_some hup).1).le
  obtain ⟨hanswers, htimes, hdesk⟩ : (d.advance ms).1.Perm _ ∧ _ ∧ (d.advance ms).2 = _ :=
    runTo_spec h.ordered le_rfl hahead
  rw [unanswered_timeUp h.ordered hanswers]
  refine ⟨⟨hanswers, htimes, by rw [hdesk], by rw [hdesk], by rw [hdesk]⟩,
    h.sublist (by rw [hdesk]) List.filter_sublist (fun hp => ?_) fun c hc t hwish => ?_⟩
  · rw [hdesk] at hp
    simp [h.permit hp]
  · have hearly := (List.mem_filter.mp hc).2
    rw [hdesk]
    by_contra hle
    simp [timeUp?, hwish, not_lt.mp hle] at hearly

lemma Tidy.call (h : Tidy d w n) (wish : Wish) (clockFirst : Bool) :
    (Order.call wish clockFirst).Fair w d n (d.call ⟨n, wish⟩ clockFirst).1
        (d.call ⟨n, wish⟩ clockFirst).2 ∧
      Tidy (d.call ⟨n, wish⟩ clockFirst).2
        (unanswered (d.call ⟨n, wish⟩ clockFirst).1 (w ++ [⟨n, wish⟩])) (n + 1) := by
  have hline := h.line
  cases wish with
  | request =>
      cases htake : d.tray.take? with
      | none =>
          have hempty := Tray.take?_eq_none_iff.mp htake
          have hcall : d.call ⟨n, .request⟩ clockFirst = ([], { d with
              gate := { line := w ++ [⟨n, .request⟩], permit := false } }) := by
            cases hp : d.gate.permit with
            | false => simp [Desk.call, hempty, hp, Gate.arrive, hline]
            | true => simp [Desk.call, hempty, hp, Gate.arrive, hline]
          rw [hcall, unanswered_nil]
          exact ⟨by simp [Order.Fair, htake], h.join rfl rfl rfl (by simp)⟩
      | some taken =>
          obtain ⟨q, t⟩ := taken
          have hcall : d.call ⟨n, .request⟩ clockFirst
              = ([⟨d.now, n, some q⟩], { d with tray := t }) := by
            have hsome : d.tray.isEmpty = false := Bool.eq_false_iff.mpr fun hempty => by
              simp [Tray.take?_eq_none_iff.mpr hempty] at htake
            simp [Desk.call, hsome, serve, htake]
          rw [hcall, unanswered_last h.known]
          exact ⟨by simp [Order.Fair, htake], h.same rfl rfl⟩
  | news deadline =>
      by_cases hclock : (clockFirst && decide (deadline ≤ d.now)) = true
      · have hcall : d.call ⟨n, .news deadline⟩ clockFirst = ([⟨d.now, n, none⟩], d) := by
          simp only [Desk.call, hclock, if_true]
        obtain ⟨rfl, hdue⟩ : clockFirst = true ∧ deadline ≤ d.now := by simpa using hclock
        rw [hcall, unanswered_last h.known]
        exact ⟨by simp [Order.Fair, hdue], h.same rfl rfl⟩
      -- the permit comes first, or only the clock can answer
      have hclock := Bool.eq_false_iff.mpr hclock
      have hkept : (d.gate.permit && clockFirst && decide (deadline ≤ d.now)) = false := by
        rw [Bool.and_assoc, hclock, Bool.and_false]
      by_cases hp : d.gate.permit = true
      · have hcall : d.call ⟨n, .news deadline⟩ clockFirst
            = ([⟨d.now, n, none⟩], { d with gate := { d.gate with permit := false } }) := by
          simp only [Desk.call, hclock, Gate.arrive, hp, Bool.false_eq_true, if_true, if_false]
        rw [hcall, unanswered_last h.known]
        exact ⟨⟨by simp [hp], hkept.symm, rfl⟩,
          h.sublist hline (List.Sublist.refl w) (by simp) h.ahead⟩
      have hp := Bool.eq_false_iff.mpr hp
      by_cases hdue : deadline ≤ d.now
      · have hcall : d.call ⟨n, .news deadline⟩ clockFirst = ([⟨d.now, n, none⟩], d) := by
          simp [Desk.call, Gate.arrive, hp, hdue]
        rw [hcall, unanswered_last h.known]
        exact ⟨by simp [Order.Fair, hp, hdue], h.same rfl rfl⟩
      · have hcall : d.call ⟨n, .news deadline⟩ clockFirst = ([], { d with
            gate := { d.gate with line := w ++ [⟨n, .news deadline⟩] } }) := by
          simp [Desk.call, Gate.arrive, hp, hdue, hline]
        rw [hcall, unanswered_nil]
        refine ⟨by simp [Order.Fair, hp, hdue], h.join rfl hp rfl fun t ht => ?_⟩
        cases ht
        exact not_le.mp hdue

/-- **Every order is fair** to those who wait, and leaves the line as the journal has it. -/
lemma Tidy.obey (h : Tidy d w n) (o : Order) :
    o.Fair w d n (d.obey n o).1 (d.obey n o).2 ∧
      Tidy (d.obey n o).2 (Entry.update w ⟨n, o, (d.obey n o).1⟩) (n + 1) := by
  cases o with
  | offer r => exact h.wakes (d.tray.stamp r)
  | retry r => exact h.wakes r
  | putBack r =>
      simp only [Entry.update, Desk.obey, Desk.putBack, unanswered_nil]
      exact ⟨⟨rfl, rfl, rfl⟩, h.same rfl rfl⟩
  | take =>
      simp only [Entry.update, Desk.obey, unanswered_nil]
      cases htake : d.tray.take? with
      | none => exact ⟨⟨rfl, rfl, by simp [htake]⟩, h.same rfl rfl⟩
      | some taken => exact ⟨⟨rfl, rfl, by simp [htake]⟩, h.same rfl rfl⟩
  | advance ms => exact h.advance ms
  | call wish clockFirst => exact h.call wish clockFirst
  | cancel k =>
      simp only [Entry.update, Desk.obey, unanswered_nil]
      refine ⟨⟨rfl, rfl, rfl⟩, h.sublist (by rw [← h.line]; rfl) List.filter_sublist
        (fun hp => ?_) fun c hc => h.ahead c (List.mem_of_mem_filter hc)⟩
      simp [Order.present, h.permit hp]

/-! ## A run -/

lemma map_caller_timeUp_sublist (target : Int) (w : List Caller) :
    ((w.filterMap (timeUp? target)).map (·.caller)).Sublist (w.map (·.id)) := by
  induction w with
  | nil => exact List.Sublist.refl []
  | cons c cs ih =>
      cases hup : timeUp? target c with
      | none =>
          rw [List.filterMap_cons_none hup]
          exact ih.trans (List.sublist_cons_self _ _)
      | some a =>
          rw [List.filterMap_cons_some hup, List.map_cons, List.map_cons, (timeUp?_eq_some hup).2.2]
          exact ih.cons_cons c.id

/-- **A fair order answers only those who are present,** and each of them once. -/
lemma Order.Fair.answered (h : o.Fair w d n as d') (hw : w.Pairwise (·.id < ·.id)) :
    (as.map (·.caller)).Nodup ∧ as.map (·.caller) ⊆ (o.present w n).map (·.id) := by
  have hwakes {r : Request} (h : Wakes w d r as d') :
      (as.map (·.caller)).Nodup ∧ as.map (·.caller) ⊆ w.map (·.id) := by
    unfold Wakes at h
    split at h
    · split at h
      · simp [h.1]
      · simp [h.1]
      · obtain ⟨q, rfl, -⟩ := h
        simp
    · simp [h.1]
  cases o with
  | offer r => exact hwakes h
  | retry r => exact hwakes h
  | putBack r => simp [h.1]
  | take => simp [h.1]
  | cancel k => simp [h.1]
  | advance ms =>
      have hsub := map_caller_timeUp_sublist (d.now + ms) w
      have hperm := h.1.map (·.caller)
      have hids : (w.map (·.id)).Nodup := List.pairwise_map.mpr (hw.imp fun hlt => hlt.ne)
      exact ⟨hperm.nodup_iff.mpr (hids.sublist hsub), fun k hk => hsub.subset (hperm.subset hk)⟩
  | call wish clockFirst =>
      cases wish with
      | request =>
          simp only [Order.Fair] at h
          split at h <;> simp [h.1, Order.present]
      | news deadline =>
          rw [h.1]
          split <;> simp [Order.present]

/-- Who comes with an order is the only one who is new. -/
lemma Order.mem_present (hc : c ∈ o.present w n) : c ∈ w ∨ c.id = n := by
  cases o with
  | call wish clockFirst =>
      rcases List.mem_append.mp hc with hc | hc
      · exact .inl hc
      · exact .inr (congrArg Caller.id (List.mem_singleton.mp hc))
  | cancel k => exact .inl (List.mem_of_mem_filter hc)
  | _ => exact .inl hc

/-- **Who has been answered or has gone away is never answered again.** -/
lemma Tidy.final (h : Tidy d w n) (hk : k < n) (hgone : ∀ c ∈ w, c.id ≠ k) (os : List Order) :
    k ∉ answered (d.journal n os) := by
  induction os generalizing d w n with
  | nil => simp [journal, answered]
  | cons o os ih =>
      obtain ⟨hfair, htidy⟩ := h.obey o
      have hpresent : ∀ c ∈ o.present w n, c.id ≠ k := fun c hc =>
        (Order.mem_present hc).elim (hgone c) fun hid => hid ▸ hk.ne'
      have hanswers := (hfair.answered h.ordered).2
      simp only [journal, answered, List.flatMap_cons, List.mem_append, not_or]
      refine ⟨fun hmem => ?_, ih htidy (Nat.lt_succ_of_lt hk) fun c hc =>
        hpresent c (mem_unanswered.mp hc).1⟩
      obtain ⟨c, hc, hid⟩ := List.mem_map.mp (hanswers hmem)
      exact hpresent c hc hid

lemma Tidy.answered_nodup (h : Tidy d w n) (os : List Order) :
    (answered (d.journal n os)).Nodup := by
  induction os generalizing d w n with
  | nil => simp [journal, answered]
  | cons o os ih =>
      obtain ⟨hfair, htidy⟩ := h.obey o
      obtain ⟨hnodup, hanswers⟩ := hfair.answered h.ordered
      simp only [journal, answered, List.flatMap_cons]
      refine List.nodup_append'.mpr ⟨hnodup, ih htidy, fun k hk => htidy.final ?_ ?_ os⟩
      · obtain ⟨c, hc, rfl⟩ := List.mem_map.mp (hanswers hk)
        exact (Order.mem_present hc).elim (fun hc => Nat.lt_succ_of_lt (h.known c hc))
          fun hid => hid ▸ Nat.lt_succ_self n
      · rintro c hc rfl
        exact (mem_unanswered.mp hc).2 hk

lemma Tidy.after (h : Tidy d w n) (os : List Order) :
    Tidy (d.after n os) ((d.journal n os).foldl Entry.update w) (n + os.length) := by
  induction os generalizing d w n with
  | nil => exact h
  | cons o os ih =>
      rw [List.length_cons, Nat.add_comm os.length 1, ← Nat.add_assoc]
      exact ih (h.obey o).2

/-- **No wake-up gets lost and none counts twice.**  After every run of a desk the next order is
fair to those who wait: an insertion that wakes answers the one who has waited longest, with the
most urgent request or with the news, and leaves the one permit if nobody waits; one without room,
or one that wakes nobody, answers nobody and leaves none; the clock answers each caller at its
deadline; and a caller that finds a permit is answered, and leaves it there only if its deadline has
passed and it has looked at the clock first.  Nobody waits while a permit lies there or beyond a
deadline, nobody is answered twice, and who has gone away is never answered. -/
theorem one_wake_up_each (capacity limit : ℕ) (os : List Order) :
    let start : Desk := { tray := .empty capacity limit }
    let es := start.journal 0 os
    let d := start.after 0 os
    (∀ o : Order, o.Fair (waiting es) d os.length (d.obey os.length o).1 (d.obey os.length o).2) ∧
      (waiting es).Pairwise (·.id < ·.id) ∧
      (d.gate.permit = true → waiting es = []) ∧
      (∀ c ∈ waiting es, ∀ t, c.wish = .news t → d.now < t) ∧
      (answered es).Nodup ∧
      ∀ k < os.length, (∀ c ∈ waiting es, c.id ≠ k) →
        ∀ os', k ∉ answered (d.journal os.length os') := by
  intro start es d
  have hstart : Tidy start [] 0 := ⟨rfl, List.Pairwise.nil, by simp, fun _ => rfl, by simp⟩
  have hrun : Tidy d (waiting es) os.length := by
    simpa [waiting] using hstart.after os
  exact ⟨fun o => (hrun.obey o).1, hrun.ordered, hrun.permit, hrun.ahead,
    hstart.answered_nodup os, fun k hk hgone os' => hrun.final hk hgone os'⟩

/-- Two callers want a request.  The first goes away, and the next insertion serves the second. -/
example :
    let start : Desk := { tray := .empty 10 5 }
    let orders : List Order :=
      [.call .request false, .call .request false, .cancel 0, .offer { path := "/a", due := 0 }]
    answered (start.journal 0 orders) = [1] := by
  decide

end HostAgent.Desk
