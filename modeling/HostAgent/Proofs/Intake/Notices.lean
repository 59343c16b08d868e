import HostAgent.Proofs.Fleet.Precedence
import HostAgent.Proofs.Intake.Lifecycle

/-!
# A command is acknowledged before it is reported

The intake offers the acknowledgement of a command before it starts it, and the report at its end
is never more urgent.  So the acknowledgement leaves the outbox first, and no courier calls with the
report before one has called with the acknowledgement, unless another courier goes on while that one
has it in hand.

* `Station`, `Occurrence`, `turn` — the intake with a fleet of couriers: queries are read, commands
  started and reported one small step at a time, while all else may happen to the fleet.
* `motions`, `notices` — what such a run does with the fleet, and the notices it offers.
* `Orderly`, `Orderly.turn` — of two notices for one query the second one is no acknowledgement,
  and not due earlier.
* `acknowledged_before_reported` — the order of the calls.
* `reported_before_acknowledged` — runs in which another courier goes on, or somebody else takes the
  acknowledgement.
-/

namespace HostAgent.Intake

open Fleet (Attempt Carrier Follows GivesWay Motion Prompt Sound)
open Outbound (Request)
open Wire (Command Completion Query)

/-! ## The station -/

/-- The intake with the fleet that delivers its notices. -/
structure Station where
  fleet : Fleet
  /-- The number that the next request gets. -/
  count : ℕ := 0
  /-- The number of the last query. -/
  query : ℕ := 0
  /-- What is to be done for that query. -/
  todo : List Task := []
  /-- The commands that have been started and not yet reported, with the queries they came in. -/
  atWork : List (ℕ × Command) := []

/-- What can happen. -/
inductive Occurrence where
  /-- A query is read, if the last one has been dealt with. -/
  | query (q : Query)
  /-- The intake does what is next. -/
  | task
  /-- A command at work has ended, and its executor reports it. -/
  | report (i : ℕ) (result : Completion)
  /-- Anything else that may happen to the fleet. -/
  | elsewhere (m : Motion)

/-- A notice that is offered to the fleet: the query it is about, and whether it came in. -/
structure Notice where
  query : ℕ
  request : Request
  entered : Bool

/-- Of two notices for one query the second one is no acknowledgement, and not due earlier. -/
def Notice.Before (a r : Notice) : Prop :=
  a.query = r.query →
    (∀ id, r.request.path ≠ Wire.acknowledgePath id) ∧ a.request.due ≤ r.request.due

/-- A notice has the priority of notices, is due, and does not expire. -/
structure Notice.Plain (now : Int) (n : Notice) : Prop where
  priority : n.request.priority = Wire.noticePriority
  expiry : n.request.expiry = none
  due : n.request.due ≤ now

/-- The paths of acknowledgements and reports differ. -/
lemma completionPath_ne_acknowledgePath (id id' : String) :
    Wire.completionPath id ≠ Wire.acknowledgePath id' := by
  intro h
  have hfin : "/fin/".toList = ['/', 'f', 'i', 'n', '/'] := String.toList_ofList
  have hack : "/ack/".toList = ['/', 'a', 'c', 'k', '/'] := String.toList_ofList
  have hlist : ("/api/events/commands/" ++ id).toList ++ "/fin/".toList =
      ("/api/events/commands/" ++ id').toList ++ "/ack/".toList := by
    rw [← String.toList_append, ← String.toList_append]
    exact congrArg String.toList h
  rw [hfin, hack] at hlist
  have hends := List.append_inj_right' hlist rfl
  simp at hends

namespace Station

/-- The notice that is offered with an occurrence. -/
def notice? (s : Station) : Occurrence → Option Notice
  | .task => match s.todo with
    | .post r :: _ => some ⟨s.query, { r with id := s.count }, s.fleet.outbox.hasRoom⟩
    | _ => none
  | .report i result => match s.atWork[i]? with
    | some (k, c) =>
      some ⟨k, { Intake.report c.id result s.fleet.now with id := s.count },
        s.fleet.outbox.hasRoom⟩
    | none => none
  | .query _ | .elsewhere _ => none

/-- What an occurrence does with the fleet. -/
def motion? (s : Station) : Occurrence → Option Motion
  | .elsewhere (.offer r) => some (.offer { r with id := s.count })
  | .elsewhere m => some m
  | o => (s.notice? o).map fun n => .offer n.request

/-- The station after an occurrence. -/
def turn (carrier : Carrier) (s : Station) (o : Occurrence) : Station :=
  let next := { s with fleet := s.fleet.run carrier (s.motion? o).toList, count := s.count + 1 }
  match o with
  | .query q =>
    if s.todo.isEmpty then
      { next with query := s.query + 1, todo := (handle s.fleet.now q).tasks }
    else next
  | .task => match s.todo with
    | .start c :: rest => { next with todo := rest, atWork := s.atWork ++ [(s.query, c)] }
    | todo => { next with todo := todo.tail }
  | .report i _ => { next with atWork := s.atWork.eraseIdx i }
  | .elsewhere _ => next

/-- The station after one occurrence after another. -/
def after (carrier : Carrier) (s : Station) (os : List Occurrence) : Station :=
  os.foldl (turn carrier) s

/-- What one occurrence after another does with the fleet. -/
def motions (carrier : Carrier) : Station → List Occurrence → List Motion
  | _, [] => []
  | s, o :: os => (s.motion? o).toList ++ motions carrier (s.turn carrier o) os

/-- The notices that are offered with one occurrence after another. -/
def notices (carrier : Carrier) : Station → List Occurrence → List Notice
  | _, [] => []
  | s, o :: os => (s.notice? o).toList ++ notices carrier (s.turn carrier o) os

variable {carrier : Carrier} {s : Station} {o : Occurrence} {os os' : List Occurrence}
  {n a r : Notice} {log : List Notice} {q q' : Request}

lemma motions_append : s.motions carrier (os ++ os')
    = s.motions carrier os ++ (s.after carrier os).motions carrier os' := by
  induction os generalizing s with
  | nil => rfl
  | cons o os ih => rw [List.cons_append, motions, ih, motions, List.append_assoc]; rfl

lemma notices_append : s.notices carrier (os ++ os')
    = s.notices carrier os ++ (s.after carrier os).notices carrier os' := by
  induction os generalizing s with
  | nil => rfl
  | cons o os ih => rw [List.cons_append, notices, ih, notices, List.append_assoc]; rfl

lemma fleet_turn : (s.turn carrier o).fleet = s.fleet.run carrier (s.motion? o).toList := by
  unfold turn
  cases o <;> dsimp only <;> split <;> rfl

lemma count_turn : (s.turn carrier o).count = s.count + 1 := by
  unfold turn
  cases o <;> dsimp only <;> split <;> rfl

/-- What a run does with the fleet are its motions. -/
lemma fleet_after : (s.after carrier os).fleet = s.fleet.run carrier (s.motions carrier os) := by
  induction os generalizing s with
  | nil => rfl
  | cons o os ih =>
      rw [motions, Fleet.run_append, ← fleet_turn]
      exact ih

lemma motion?_of_notice? (h : s.notice? o = some n) : s.motion? o = some (.offer n.request) := by
  cases o with
  | task | report i result => simp [motion?, h]
  | query q | elsewhere m => cases h

/-- A notice is offered in the midst of a run. -/
lemma exists_of_mem_notices (h : n ∈ s.notices carrier os) : ∃ before o after,
    os = before ++ o :: after ∧ (s.after carrier before).notice? o = some n := by
  induction os generalizing s with
  | nil => cases h
  | cons o os ih =>
      rcases List.mem_append.mp h with h | h
      · exact ⟨[], o, os, rfl, Option.mem_toList.mp h⟩
      · obtain ⟨before, o', after, rfl, hn⟩ := ih h
        exact ⟨o :: before, o', after, rfl, hn⟩

lemma offer_mem_motions (h : n ∈ s.notices carrier os) :
    .offer n.request ∈ s.motions carrier os := by
  induction os generalizing s with
  | nil => cases h
  | cons o os ih =>
      rcases List.mem_append.mp h with h | h
      · have hmotion := motion?_of_notice? (Option.mem_toList.mp h)
        exact List.mem_append_left _ (by rw [hmotion]; exact List.mem_singleton_self _)
      · exact List.mem_append_right _ (ih h)

/-! ## Numbers -/

lemma id_of_motion? (h : s.motion? o = some (.offer q)) : q.id = s.count := by
  cases o with
  | query p => cases h
  | task =>
      simp only [motion?, notice?] at h
      split at h <;> simp at h
      rw [← h]
  | report i result =>
      simp only [motion?, notice?] at h
      split at h <;> simp at h
      rw [← h]
  | elsewhere m => cases m <;> simp [motion?] at h; rw [← h]

/-- The request that an occurrence offers has the number of the station. -/
lemma id_of_mem_motion? (h : .offer q ∈ (s.motion? o).toList) : q.id = s.count :=
  id_of_motion? (Option.mem_toList.mp h)

lemma count_le_id (h : .offer q ∈ s.motions carrier os) : s.count ≤ q.id := by
  induction os generalizing s with
  | nil => cases h
  | cons o os ih =>
      rcases List.mem_append.mp h with h | h
      · exact (id_of_mem_motion? h).ge
      · have hid := ih h
        rw [count_turn] at hid
        omega

/-- Requests are numbered in the order in which they are offered. -/
lemma numbered (carrier : Carrier) (s : Station) (os : List Occurrence) :
    (s.motions carrier os).Pairwise fun m m' =>
      ∀ q q', m = .offer q → m' = .offer q' → q.id < q'.id := by
  induction os generalizing s with
  | nil => exact .nil
  | cons o os ih =>
      refine List.pairwise_append.mpr ⟨?_, ih _, fun m hm m' hm' q q' hq hq' => ?_⟩
      · cases s.motion? o with
        | none => exact .nil
        | some m => exact List.pairwise_singleton _ m
      · have hid := id_of_mem_motion? (hq ▸ hm)
        have hle := count_le_id (hq' ▸ hm')
        rw [count_turn] at hle
        omega

/-- Of two that stand in a list one comes first. -/
lemma eq_or_of_pairwise {α : Type*} {R : α → α → Prop} {l : List α} (h : l.Pairwise R) {x y : α}
    (hx : x ∈ l) (hy : y ∈ l) : x = y ∨ R x y ∨ R y x := by
  obtain ⟨i, hi, rfl⟩ := List.mem_iff_getElem.mp hx
  obtain ⟨j, hj, rfl⟩ := List.mem_iff_getElem.mp hy
  rw [List.pairwise_iff_getElem] at h
  rcases lt_trichotomy i j with hij | rfl | hij
  · exact .inr (.inl (h i j hi hj hij))
  · exact .inl rfl
  · exact .inr (.inr (h j i hj hi hij))

/-- Different requests have different numbers. -/
lemma eq_of_id_eq (h : .offer q ∈ s.motions carrier os) (h' : .offer q' ∈ s.motions carrier os)
    (hid : q.id = q'.id) : q = q' := by
  rcases eq_or_of_pairwise (numbered carrier s os) h h' with heq | hlt | hlt
  · simpa using heq
  · exact absurd hid (hlt q q' rfl rfl).ne
  · exact absurd hid (hlt q' q rfl rfl).ne'

/-! ## The order of notices -/

/-- What the intake may have on its agenda: to acknowledge a command and start it, or to acknowledge
a restart and report it. -/
inductive Agenda (s : Station) (log : List Notice) : List Task → Prop
  | done : Agenda s log []
  | start (c : Command) : Agenda s log [.start c]
  | acknowledge (id : String) (t : Int) (rest : List Task)
      (hnew : ∀ n ∈ log, n.query ≠ s.query) (hidle : ∀ w ∈ s.atWork, w.1 ≠ s.query)
      (ht : t ≤ s.fleet.now)
      (hrest : (∃ c, rest = [.start c]) ∨ ∃ id c, rest = [.post (Intake.report id c t)]) :
      Agenda s log (.post (acknowledgement id t) :: rest)
  | report (id : String) (c : Completion) (t : Int)
      (hlast : ∀ n ∈ log, n.query = s.query → n.request.due ≤ t)
      (hidle : ∀ w ∈ s.atWork, w.1 ≠ s.query) (ht : t ≤ s.fleet.now) :
      Agenda s log [.post (Intake.report id c t)]

/-- **The notices so far are in order**, and what the station has to do will keep them so. -/
structure Orderly (s : Station) (log : List Notice) : Prop where
  before : log.Pairwise Notice.Before
  plain : ∀ n ∈ log, n.Plain s.fleet.now
  known : ∀ n ∈ log, n.query ≤ s.query
  atWork : ∀ w ∈ s.atWork, w.1 ≤ s.query
  agenda : Agenda s log s.todo

/-- What a query puts on the agenda. -/
lemma agenda_handle (p : Query) (hnew : ∀ n ∈ log, n.query ≠ s.query)
    (hidle : ∀ w ∈ s.atWork, w.1 ≠ s.query) {t : Int} (ht : t ≤ s.fleet.now) :
    Agenda s log (handle t p).tasks := by
  cases p with
  | command c =>
      rw [handle]
      split_ifs
      · exact .acknowledge c.id t _ hnew hidle ht (.inr ⟨c.id, restarting, rfl⟩)
      · exact .acknowledge c.id t _ hnew hidle ht (.inl ⟨c, rfl⟩)
  | _ => exact .done

/-- What holds of all notices so far and of the next one. -/
lemma forall_mem_snoc {P : Notice → Prop} (h : ∀ m ∈ log, P m) (hn : P n) :
    ∀ m ∈ log ++ [n], P m := by
  simpa [or_imp, forall_and] using ⟨h, hn⟩

/-- One notice more, that comes after all so far. -/
lemma before_snoc (h : log.Pairwise Notice.Before) (hn : ∀ m ∈ log, m.Before n) :
    (log ++ [n]).Pairwise Notice.Before :=
  List.pairwise_append.mpr ⟨h, List.pairwise_singleton _ n, fun m hm _ hn' => by
    rw [List.mem_singleton.mp hn']
    exact hn m hm⟩

lemma now_le_turn (carrier : Carrier) (o : Occurrence) (hs : Sound s.fleet) :
    s.fleet.now ≤ (s.turn carrier o).fleet.now := by
  rw [fleet_turn]
  cases s.motion? o with
  | none => exact le_refl _
  | some m => exact Fleet.now_le_move carrier hs m

/-- The agenda stays as it is when nothing new is known and time passes. -/
lemma Agenda.later {s' : Station} {ts : List Task} (h : Agenda s log ts)
    (hquery : s'.query = s.query)
    (hwork : s'.atWork ⊆ s.atWork) (hnow : s.fleet.now ≤ s'.fleet.now) : Agenda s' log ts := by
  cases h with
  | done => exact .done
  | start c => exact .start c
  | acknowledge id t rest hnew hidle ht hrest =>
      exact .acknowledge id t rest (hquery ▸ hnew) (fun w hw => hquery ▸ hidle w (hwork hw))
        (ht.trans hnow) hrest
  | report id c t hlast hidle ht =>
      exact .report id c t (hquery ▸ hlast) (fun w hw => hquery ▸ hidle w (hwork hw))
        (ht.trans hnow)

/-- The agenda stays as it is when a command at work is reported, which came in another query if
there are still notices to be offered for the last one. -/
lemma Agenda.reported {s' : Station} {ts : List Task} (h : Agenda s log ts)
    (hquery : s'.query = s.query) (hwork : s'.atWork ⊆ s.atWork)
    (hnow : s.fleet.now ≤ s'.fleet.now) (hn : ∃ w ∈ s.atWork, w.1 = n.query) :
    Agenda s' (log ++ [n]) ts := by
  obtain ⟨w, hw, hwn⟩ := hn
  cases h with
  | done => exact .done
  | start c => exact .start c
  | acknowledge id t rest hnew hidle ht hrest =>
      refine .acknowledge id t rest ?_ (fun v hv => hquery ▸ hidle v (hwork hv)) (ht.trans hnow)
        hrest
      rw [hquery]
      exact forall_mem_snoc hnew (hwn ▸ hidle w hw)
  | report id c t hlast hidle ht =>
      refine .report id c t ?_ (fun v hv => hquery ▸ hidle v (hwork hv)) (ht.trans hnow)
      rw [hquery]
      exact forall_mem_snoc hlast fun hid => absurd (hwn.trans hid) (hidle w hw)

/-- The notice that the intake offers next. -/
def posted (s : Station) (r : Request) : Notice :=
  ⟨s.query, { r with id := s.count }, s.fleet.outbox.hasRoom⟩

lemma turn_post (carrier : Carrier) {q : Request} {rest : List Task}
    (h : s.todo = .post q :: rest) :
    s.notice? .task = some (s.posted q) ∧ s.turn carrier .task = { s with
      fleet := s.fleet.offer { q with id := s.count }, count := s.count + 1, todo := rest } := by
  have hnotice : s.notice? .task = some (s.posted q) := by simp [notice?, posted, h]
  refine ⟨hnotice, ?_⟩
  simp only [Station.turn, motion?_of_notice? hnotice, h]
  rfl

/-- **One occurrence keeps the notices in order.** -/
lemma Orderly.turn (carrier : Carrier) (o : Occurrence) (h : Orderly s log) (hs : Sound s.fleet) :
    Orderly (s.turn carrier o) (log ++ (s.notice? o).toList) := by
  have hnow := now_le_turn carrier o hs
  have hplain : ∀ n ∈ log, n.Plain (s.turn carrier o).fleet.now := fun n hn =>
    ⟨(h.plain n hn).priority, (h.plain n hn).expiry, (h.plain n hn).due.trans hnow⟩
  cases o with
  | elsewhere m =>
      rw [notice?, Option.toList_none, List.append_nil]
      exact ⟨h.before, hplain, h.known, h.atWork, h.agenda.later rfl (List.Subset.refl _) hnow⟩
  | query p =>
      rw [notice?, Option.toList_none, List.append_nil]
      by_cases htodo : s.todo.isEmpty
      · let next : Station := { s with
          count := s.count + 1, query := s.query + 1, todo := (handle s.fleet.now p).tasks }
        have hturn : s.turn carrier (.query p) = next := if_pos htodo
        have hknown : ∀ n ∈ log, n.query < s.query + 1 := fun n hn =>
          Nat.lt_succ_of_le (h.known n hn)
        have hwork : ∀ w ∈ s.atWork, w.1 < s.query + 1 := fun w hw =>
          Nat.lt_succ_of_le (h.atWork w hw)
        rw [hturn]
        exact ⟨h.before, h.plain, fun n hn => (hknown n hn).le, fun w hw => (hwork w hw).le,
          agenda_handle (s := next) p (fun n hn => (hknown n hn).ne)
            (fun w hw => (hwork w hw).ne) le_rfl⟩
      · have hturn : s.turn carrier (.query p) = { s with count := s.count + 1 } := if_neg htodo
        rw [hturn]
        exact ⟨h.before, h.plain, h.known, h.atWork, h.agenda.later rfl (List.Subset.refl _) le_rfl⟩
  | task =>
      have hagenda := h.agenda
      generalize htodo : s.todo = todo at hagenda
      cases hagenda with
      | done =>
          have hnotice : s.notice? .task = none := by simp [notice?, htodo]
          have hturn : s.turn carrier .task = { s with count := s.count + 1 } := by
            simp [Station.turn, motion?, hnotice, htodo]
          rw [hnotice, hturn, Option.toList_none, List.append_nil]
          exact ⟨h.before, h.plain, h.known, h.atWork,
            h.agenda.later rfl (List.Subset.refl _) le_rfl⟩
      | start c =>
          have hnotice : s.notice? .task = none := by simp [notice?, htodo]
          have hturn : s.turn carrier .task = { s with
              count := s.count + 1, todo := [], atWork := s.atWork ++ [(s.query, c)] } := by
            simp [Station.turn, motion?, hnotice, htodo]
          rw [hnotice, hturn, Option.toList_none, List.append_nil]
          refine ⟨h.before, h.plain, h.known, fun w hw => ?_, .done⟩
          rcases List.mem_append.mp hw with hw | hw
          · exact h.atWork w hw
          · rw [List.mem_singleton.mp hw]
      | acknowledge id t rest hnew hidle ht hrest =>
          obtain ⟨hnotice, hturn⟩ := turn_post carrier htodo
          rw [hturn] at hplain hnow
          rw [hnotice, hturn, Option.toList_some]
          refine ⟨before_snoc h.before fun m hm hid => absurd hid (hnew m hm),
            forall_mem_snoc hplain ⟨rfl, rfl, ht.trans hnow⟩, forall_mem_snoc h.known le_rfl,
            h.atWork, ?_⟩
          rcases hrest with ⟨c, rfl⟩ | ⟨id, c, rfl⟩
          · exact .start c
          · refine .report id c t (forall_mem_snoc (fun m hm hid => ?_) fun _ => le_rfl) hidle
              (ht.trans hnow)
            exact absurd hid (hnew m hm)
      | report id c t hlast hidle ht =>
          obtain ⟨hnotice, hturn⟩ := turn_post carrier htodo
          rw [hturn] at hplain hnow
          rw [hnotice, hturn, Option.toList_some]
          refine ⟨before_snoc h.before fun m hm hid => ⟨fun id' => ?_, hlast m hm hid⟩,
            forall_mem_snoc hplain ⟨rfl, rfl, ht.trans hnow⟩, forall_mem_snoc h.known le_rfl,
            h.atWork, .done⟩
          exact completionPath_ne_acknowledgePath id id'
  | report i result =>
      cases hw : s.atWork[i]? with
      | none =>
          have hturn : (s.turn carrier (.report i result)).atWork = s.atWork :=
            List.eraseIdx_of_length_le (by simpa using hw)
          have hnotice : s.notice? (.report i result) = none := by simp [notice?, hw]
          rw [hnotice, Option.toList_none, List.append_nil]
          refine ⟨h.before, hplain, h.known, fun w hw => h.atWork w (hturn ▸ hw), ?_⟩
          exact h.agenda.later rfl (fun w hw => hturn ▸ hw) hnow
      | some w =>
          obtain ⟨k, c⟩ := w
          have hmem : (k, c) ∈ s.atWork := List.mem_of_getElem? hw
          have hnotice : s.notice? (.report i result) = some
              ⟨k, { Intake.report c.id result s.fleet.now with id := s.count },
                s.fleet.outbox.hasRoom⟩ := by simp [notice?, hw]
          rw [hnotice, Option.toList_some]
          refine ⟨before_snoc h.before fun m hm _ => ?_, forall_mem_snoc hplain ⟨rfl, rfl, hnow⟩,
            forall_mem_snoc h.known (h.atWork _ hmem),
            fun w hw => h.atWork w (List.mem_of_mem_eraseIdx hw), ?_⟩
          · exact ⟨fun id => completionPath_ne_acknowledgePath c.id id, (h.plain m hm).due⟩
          · exact h.agenda.reported rfl (List.eraseIdx_subset) hnow ⟨_, hmem, rfl⟩

/-- **The notices of a run are in order.** -/
theorem Orderly.after (carrier : Carrier) (os : List Occurrence) (h : Orderly s log)
    (hs : Sound s.fleet) :
    Orderly (s.after carrier os) (log ++ s.notices carrier os) := by
  induction os generalizing s log with
  | nil => rwa [notices, List.append_nil]
  | cons o os ih =>
      rw [notices, ← List.append_assoc]
      refine ih (h.turn carrier o hs) ?_
      rw [fleet_turn]
      exact hs.run _

lemma orderly_start (f : Fleet) : Orderly { fleet := f } [] :=
  ⟨.nil, nofun, nofun, nofun, .done⟩

/-- A notice says truly whether it came in, and is due when it is offered. -/
lemma Orderly.offered (h : Orderly s log) (hs : Sound s.fleet) (hn : s.notice? o = some n) :
    n.entered = s.fleet.outbox.hasRoom ∧ n.Plain s.fleet.now := by
  constructor
  · cases o with
    | task | report i result =>
        simp only [notice?] at hn
        split at hn <;> simp at hn
        rw [← hn]
    | query p | elsewhere m => cases hn
  · have hplain := (h.turn (fun _ _ => {}) o hs).plain n (by simp [hn])
    rwa [fleet_turn, motion?_of_notice? hn, Option.toList_some, Fleet.run_cons, Fleet.run_nil,
      Fleet.move, Fleet.offer, Fleet.now_afterInsert] at hplain

/-- Where a notice stands in a run: after those that are numbered before it come those that are not
more urgent for the same query. -/
lemma exists_motions_of_mem (hs : Sound s.fleet) (hlog : Orderly s [])
    (ha : a ∈ s.notices carrier os)
    (hr : r ∈ s.notices carrier os) (hquery : a.query = r.query) {id id' : String}
    (hack : a.request.path = Wire.acknowledgePath id)
    (hfin : r.request.path = Wire.completionPath id') : ∃ before after,
      s.motions carrier os = before ++ .offer a.request :: after ∧
      a.entered = (s.fleet.run carrier before).outbox.hasRoom ∧
      a.Plain (s.fleet.run carrier before).now ∧ a.request.id ≠ r.request.id ∧
      r.request.id ∉ Fleet.offered before ∧
      ∀ q, .offer q ∈ after → q.id = r.request.id → q.precedes a.request = false := by
  have hpath : r.request.path ≠ Wire.acknowledgePath id :=
    hfin ▸ completionPath_ne_acknowledgePath id' id
  obtain ⟨bs, o, cs, rfl, hn⟩ := exists_of_mem_notices ha
  have horder : Orderly (s.after carrier bs) (s.notices carrier bs) := hlog.after carrier bs hs
  have hsound : Sound (s.after carrier bs).fleet := by
    rw [fleet_after]
    exact hs.run _
  obtain ⟨hentered, hplain⟩ := horder.offered hsound hn
  have hall := hlog.after carrier (bs ++ o :: cs) hs
  have hnumbered := numbered carrier s (bs ++ o :: cs)
  rw [fleet_after] at hentered hplain
  rw [List.nil_append, notices_append, notices, hn, Option.toList_some,
    List.singleton_append] at hall
  rw [notices_append, notices, hn, Option.toList_some, List.singleton_append] at hr
  rw [motions_append, motions, motion?_of_notice? hn, Option.toList_some, List.singleton_append]
    at hnumbered ⊢
  set after := ((s.after carrier bs).turn carrier o).motions carrier cs
  obtain ⟨-, hrest, hbefore⟩ := List.pairwise_append.mp hall.before
  -- the report is none of those that were offered before
  have hr : r ∈ ((s.after carrier bs).turn carrier o).notices carrier cs := by
    rcases List.mem_append.mp hr with hr | hr
    · exact absurd hack ((hbefore r hr a List.mem_cons_self hquery.symm).1 id)
    · rcases List.mem_cons.mp hr with rfl | hr
      · exact absurd hack hpath
      · exact hr
  have hmem := offer_mem_motions hr
  have hdue := ((List.pairwise_cons.mp hrest).1 r hr hquery).2
  obtain ⟨-, hlast, hfirst⟩ := List.pairwise_append.mp hnumbered
  refine ⟨_, _, rfl, hentered, hplain,
    ((List.pairwise_cons.mp hlast).1 _ hmem _ _ rfl rfl).ne, fun hoffered => ?_, fun q hq hid => ?_⟩
  · obtain ⟨m, hm, hid⟩ := List.mem_filterMap.mp (Multiset.mem_coe.mp hoffered)
    cases m with
    | offer q =>
        have hlt := hfirst _ hm _ (List.mem_cons_of_mem _ hmem) _ _ rfl rfl
        exact absurd (Option.some.inj hid) hlt.ne
    | _ => cases hid
  · obtain rfl := eq_of_id_eq hq hmem hid
    have hprio := (hall.plain r (by simp [hr])).priority
    rw [Bool.eq_false_iff, ne_eq, Request.precedes_iff, hprio, hplain.priority]
    omega

/-! ## The order of the calls -/

/-- **A command is acknowledged before it is reported.**  Take any run in which queries are read,
commands started and reported, and whatever else may happen to the fleet happens in between, with
any number of couriers and any carrier; and two notices about one query, an acknowledgement that
came in and a report.  Unless somebody else takes the acknowledgement out of the outbox:

* if no other courier acts while one has the acknowledgement in hand, then each attempt on the
  report comes after one on the acknowledgement, on the record and by the clock;
* in whatever order the couriers act, no attempt on the report starts at an earlier moment than the
  first one on the acknowledgement, as long as the clock runs only while everybody waits.  The
  report may be called with first only at the moment at which another courier is about to call with
  the acknowledgement in its hand. -/
theorem acknowledged_before_reported (carrier : Carrier) (capacity limit workers : ℕ)
    (timeout : Span) (os : List Occurrence) {a r : Notice} {id id' : String} :
    let s : Station := { fleet := .start (.empty capacity limit) {} workers timeout }
    let ms := s.motions carrier os
    let f := (s.after carrier os).fleet
    a ∈ s.notices carrier os → r ∈ s.notices carrier os → a.query = r.query →
    a.request.path = Wire.acknowledgePath id → r.request.path = Wire.completionPath id' →
    a.entered = true →
    (∀ q, Fleet.Event.taken q ∈ Fleet.chronicle carrier s.fleet ms → q.id ≠ a.request.id) →
    (Follows carrier (GivesWay a.request.id) s.fleet ms → ∀ t earlier,
      t :: earlier <:+ f.attempts → t.request.id = r.request.id →
        ∃ u ∈ earlier, u.request.id = a.request.id ∧ u.time ≤ t.time) ∧
    (Follows carrier Prompt s.fleet ms → ∀ t ∈ f.attempts, t.request.id = r.request.id →
      (∃ u ∈ f.attempts, u.request.id = a.request.id ∧ u.time ≤ t.time) ∨
        t.time = f.now ∧ ∃ i q, f.phase i = .holding q ∧ q.id = a.request.id) := by
  intro s ms f ha hr hquery hack hfin hentered halone
  have hs : Sound s.fleet := Fleet.sound_start _ workers timeout
  obtain ⟨before, after, hms, hroom, hplain, hne, hnew, hlater⟩ :=
    exists_motions_of_mem hs (orderly_start _) ha hr hquery hack hfin
  have hf : f = Fleet.run carrier s.fleet ms := fleet_after
  have hcalled := Fleet.first_come_first_called hs
    (Fleet.items_start capacity limit workers timeout)
    rfl (hroom.symm.trans hentered) hplain.expiry hplain.due hne hnew hlater
  rw [← hms] at hcalled
  dsimp only at hcalled
  rw [← hf] at hcalled
  rcases hcalled with htaken | ⟨htimely, hranked⟩
  · exact (halone _ htaken rfl).elim
  · refine ⟨fun hway => (hranked hway).after, fun hprompt t ht hid => ?_⟩
    refine ((htimely hprompt).attempted ht hid).imp_right fun ⟨hnow, i, hp⟩ => ⟨hnow, i, _, hp, rfl⟩

/-- Whether somebody else took the request of a number. -/
def tookAway (n : ℕ) : Fleet.Event → Bool
  | .taken q => q.id == n
  | _ => false

/-- A command that comes to nothing. -/
def errand : Command := { id := "7", shell := "bash", line := "true" }

/-- Its end. -/
def errandEnd : Completion := { success := true, result := "", elapsed := 0.5 }

/-- Two couriers, and a command that is reported as soon as its acknowledgement has been sent: the
second courier calls with the acknowledgement, and the first one with the report. -/
def errands : List Occurrence :=
  [.query (.command errand), .task, .elsewhere (.act 1), .elsewhere (.act 1), .task,
    .report 0 errandEnd, .elsewhere (.act 0), .elsewhere (.act 0)]

/-- There the report is attempted, and the acknowledgement before it. -/
theorem acknowledged_before_reported_errand :
    let carrier : Carrier := fun _ _ => {}
    let s : Station := { fleet := .start (.empty 10 5) {} 2 (.seconds 5) }
    let f := (s.after carrier errands).fleet
    ∃ a ∈ s.notices carrier errands, ∃ r ∈ s.notices carrier errands,
      a.request.path = Wire.acknowledgePath "7" ∧ r.request.path = Wire.completionPath "7" ∧
      (∃ t ∈ f.attempts, t.request.id = r.request.id ∧
        ∃ u ∈ f.attempts, u.request.id = a.request.id ∧ u.time ≤ t.time) ∧
      ∀ t earlier, t :: earlier <:+ f.attempts → t.request.id = r.request.id →
        ∃ u ∈ earlier, u.request.id = a.request.id ∧ u.time ≤ t.time := by
  intro carrier s f
  obtain ⟨a, ha, r, hr, hquery, hack, hfin, hentered, ⟨t, ht, hid⟩, htaken, hway⟩ :
      ∃ a ∈ s.notices carrier errands, ∃ r ∈ s.notices carrier errands, a.query = r.query ∧
        a.request.path = Wire.acknowledgePath "7" ∧ r.request.path = Wire.completionPath "7" ∧
        a.entered = true ∧ (∃ t ∈ f.attempts, t.request.id = r.request.id) ∧
        (∀ e ∈ Fleet.chronicle carrier s.fleet (s.motions carrier errands),
          tookAway a.request.id e = false) ∧
        Follows carrier (GivesWay a.request.id) s.fleet (s.motions carrier errands) := by
    decide +kernel
  have hprompt : Follows carrier Prompt s.fleet (s.motions carrier errands) := by decide +kernel
  have hhands : ∀ i < f.couriers.size, (f.phase i).midTurn = false := by decide +kernel
  obtain ⟨horder, htimes⟩ := acknowledged_before_reported carrier 10 5 2 (.seconds 5) errands
    ha hr hquery hack hfin hentered fun q hq => by simpa [tookAway] using htaken _ hq
  refine ⟨a, ha, r, hr, hack, hfin, ⟨t, ht, hid, ?_⟩, horder hway⟩
  refine (htimes hprompt t ht hid).resolve_right ?_
  rintro ⟨-, i, q, hp, -⟩
  change f.phase i = .holding q at hp
  have hmid := hhands i (Fleet.lt_size_of_phase_ne (by simp [hp]))
  simp [hp, Fleet.Phase.midTurn] at hmid

/-- Two couriers, of which the second is interrupted with the acknowledgement in its hand: the first
one calls with the report at once, and the second goes on a second later. -/
def interruption : List Occurrence :=
  [.query (.command errand), .task, .elsewhere (.act 1), .task, .report 0 errandEnd,
    .elsewhere (.act 0), .elsewhere (.act 0), .elsewhere (.pass 1000), .elsewhere (.act 1)]

/-- Somebody else takes the acknowledgement, and a courier calls with the report. -/
def removal : List Occurrence :=
  [.query (.command errand), .task, .elsewhere .pop, .task, .report 0 errandEnd,
    .elsewhere (.act 0), .elsewhere (.act 0)]

/-- **The report may come first**, though the acknowledgement came in: if the courier that has it in
hand is interrupted, and if somebody else takes it. -/
theorem reported_before_acknowledged :
    let carrier : Carrier := fun _ _ => {}
    let s : Station := { fleet := .start (.empty 10 5) {} 2 (.seconds 5) }
    (∃ a ∈ s.notices carrier interruption, ∃ r ∈ s.notices carrier interruption,
      a.query = r.query ∧ a.request.path = Wire.acknowledgePath "7" ∧
      r.request.path = Wire.completionPath "7" ∧ a.entered = true ∧
      (∀ e ∈ Fleet.chronicle carrier s.fleet (s.motions carrier interruption),
        tookAway a.request.id e = false) ∧
      (s.after carrier interruption).fleet.attempts.map (fun t => (t.request.id, t.time))
        = [(a.request.id, 1000), (r.request.id, 0)]) ∧
    ∃ a ∈ s.notices carrier removal, ∃ r ∈ s.notices carrier removal,
      a.query = r.query ∧ a.request.path = Wire.acknowledgePath "7" ∧
      r.request.path = Wire.completionPath "7" ∧ a.entered = true ∧
      (s.after carrier removal).fleet.attempts.map (·.request.id) = [r.request.id] := by
  constructor <;> decide +kernel

end Station

end HostAgent.Intake
