import HostAgent.Agent
import HostAgent.Proofs.Fleet.Custody
import HostAgent.Proofs.Outbox.Arrivals

/-!
# The life of a command

What comes of every frame that is read, while others use the outbox as they like: an
acknowledgement, then the start of the command, and a completion notice when it has ended.

* `Task`, `Handling.tasks` — what the intake does one after another.
* `Workshop` — the intake with its outbox, and the commands that it has started.
* `Event`, `turn` — what can happen, in any order, and what is recorded of it.
* `due` — what is due for a frame, spelled out.
* `turn_tasks`, `turn_commands`, `turn_outbox` — what one event adds to the record.
* `after_frame`, `outbox_carryOut` — undisturbed, it is what the agent does with a frame.
* `command_lifecycle` — the record of every run.
-/

namespace HostAgent.Intake

open Outbound (Request)
open Outbox (Op)
open Shell (Process)
open Wire (Command Query)

/-! ## The workshop -/

/-- What the intake does. -/
inductive Task where
  | post (r : Request)
  | start (c : Command)

/-- What the intake does for a query, in order. -/
def Handling.tasks (h : Handling) : List Task :=
  h.notices.map .post ++ h.command.toList.map .start

/-- The intake with its outbox, and the commands that it has started. -/
structure Workshop where
  now : Int
  outbox : Outbox
  /-- How long a command may take. -/
  limit : Span
  todo : List Task := []
  atWork : List Command := []

/-- Who inserts a request. -/
inductive Source where
  | intake
  | executor (c : Command)
  | elsewhere

/-- What is recorded. -/
inductive Entry where
  /-- A request is inserted as it is stored, and enters or not. -/
  | inserted (source : Source) (r : Request) (entered : Bool)
  | started (c : Command)
  | taken (r : Request)

/-- What can happen. -/
inductive Event where
  /-- A frame is read, if the last one has been dealt with. -/
  | frame (text : String)
  /-- The intake does what is next. -/
  | task
  /-- A command at work has ended: this has come of the start of its process. -/
  | ended (i : ℕ) (child : Except Refusal Process)
  /-- Somebody else uses the outbox. -/
  | other (o : Op)
  | elapse (ms : ℕ)

namespace Workshop

/-- Somebody offers a request. -/
def offer (w : Workshop) (source : Source) (r : Request) : List Entry × Workshop :=
  let (entered, outbox) := w.outbox.offer r
  ([.inserted source (w.outbox.stamp r) entered], { w with outbox })

/-- What is recorded of an operation of somebody else. -/
def recorded (b : Outbox) : Op → List Entry
  | .offer r | .tryOffer r => [.inserted .elsewhere (b.stamp r) (b.offer r).1]
  | .retry r | .putBack r => [.inserted .elsewhere r (b.insert r).1]
  | .take => (b.obey .take).1.request?.toList.map .taken

/-- The notice that a command has ended. -/
def notice (w : Workshop) (c : Command) (child : Except Refusal Process) : Request :=
  report c.id (Execution.completionOf w.limit c child) w.now

/-- What is recorded of an event, and the workshop after it.  The clock stands still while the
intake has something to do. -/
def turn (w : Workshop) : Event → List Entry × Workshop
  | .frame text =>
    if w.todo.isEmpty then ([], { w with todo := (handleText w.now text).tasks }) else ([], w)
  | .task =>
    match w.todo with
    | [] => ([], w)
    | .post r :: rest => { w with todo := rest }.offer .intake r
    | .start c :: rest => ([.started c], { w with todo := rest, atWork := w.atWork ++ [c] })
  | .ended i child =>
    match w.atWork[i]? with
    | none => ([], w)
    | some c =>
      { w with atWork := w.atWork.eraseIdx i }.offer (.executor c) (w.notice c child)
  | .other o => (recorded w.outbox o, { w with outbox := (w.outbox.obey o).2 })
  | .elapse ms => if w.todo.isEmpty then ([], { w with now := w.now + ms }) else ([], w)

/-- The workshop after one event after another. -/
def after (w : Workshop) (es : List Event) : Workshop :=
  es.foldl (fun w e => (w.turn e).2) w

/-- What is recorded of one event after another. -/
def record : Workshop → List Event → List Entry
  | _, [] => []
  | w, e :: es => (w.turn e).1 ++ record (w.turn e).2 es

/-- The frame that is read with an event, and when. -/
def reads (w : Workshop) : Event → List (Int × String)
  | .frame text => if w.todo.isEmpty then [(w.now, text)] else []
  | _ => []

/-- The frames that are read with one event after another. -/
def frames : Workshop → List Event → List (Int × String)
  | _, [] => []
  | w, e :: es => w.reads e ++ frames (w.turn e).2 es

end Workshop

/-! ## What is due -/

/-- The acknowledgement of a command, as an outbox stores it that allows so many attempts. -/
def acknowledging (limit : ℕ) (time : Int) (c : Command) : Request :=
  { method := .post, path := Wire.acknowledgePath c.id, priority := 10, body := none, due := time,
    retriesLeft := limit }

/-- A completion notice of a command, as an outbox stores it that allows so many attempts. -/
def completing (limit : ℕ) (time : Int) (c : Command) (result : Wire.Completion) : Request :=
  { method := .post, path := Wire.completionPath c.id, priority := 10,
    body := some (.json result.datum), due := time, retriesLeft := limit }

/-- What is due for a frame: a command is acknowledged and then started.  An internal restart is
acknowledged and reported.  For all else there is nothing to do. -/
def due (limit : ℕ) (frame : Int × String) : List Task :=
  match Query.decode frame.2 with
  | .ok (.command c) =>
    if c.isInternal "restart" then
      [.post (acknowledging limit frame.1 c), .post (completing limit frame.1 c restarting)]
    else [.post (acknowledging limit frame.1 c), .start c]
  | _ => []

/-- A task with its request as an outbox stores it that allows so many attempts. -/
def Task.stored (limit : ℕ) : Task → Task
  | .post r => .post { r with retriesLeft := limit }
  | .start c => .start c

namespace Entry

/-- The task that the intake has done. -/
def task? : Entry → Option Task
  | .inserted .intake r _ => some (.post r)
  | .started c => some (.start c)
  | _ => none

/-- The command that was started. -/
def started? : Entry → Option Command
  | .started c => some c
  | _ => none

/-- The command whose end was reported, and the report. -/
def reported? : Entry → Option (Command × Request)
  | .inserted (.executor c) r _ => some (c, r)
  | _ => none

/-- The request that entered the outbox. -/
def entered? : Entry → Option Request
  | .inserted _ r true => some r
  | _ => none

/-- The request that left the outbox. -/
def taken? : Entry → Option Request
  | .taken r => some r
  | _ => none

/-- Whether a request was inserted and did not enter. -/
def isRefused : Entry → Bool
  | .inserted _ _ entered => !entered
  | _ => false

end Entry

variable {w : Workshop}

/-- What the intake does for a text is what is due for it. -/
lemma tasks_handleText (limit : ℕ) (now : Int) (text : String) :
    (handleText now text).tasks.map (Task.stored limit) = due limit (now, text) := by
  unfold handleText due
  cases hdecode : Query.decode text with
  | error fault => rfl
  | ok q =>
      cases q with
      | command c => by_cases hc : c.isInternal "restart" <;> simp [handle, hc] <;> rfl
      | quit reason | reconnect reason | unknown name => rfl

/-! ## What one event adds -/

namespace Workshop

/-- Others do none of the tasks, and start and report no command. -/
lemma recorded_elsewhere (b : Outbox) (o : Op) :
    (recorded b o).filterMap Entry.task? = [] ∧ (recorded b o).filterMap Entry.started? = [] ∧
      (recorded b o).filterMap Entry.reported? = [] := by
  cases o with
  | offer r | tryOffer r | retry r | putBack r => exact ⟨rfl, rfl, rfl⟩
  | take => simp [recorded, List.filterMap_eq_nil_iff, Entry.task?, Entry.started?, Entry.reported?]

/-- **The intake does what is due, one after another.** -/
theorem turn_tasks (w : Workshop) (e : Event) :
    w.todo.map (Task.stored w.outbox.retryLimit)
        ++ (w.reads e).flatMap (due w.outbox.retryLimit)
      = (w.turn e).1.filterMap Entry.task?
        ++ (w.turn e).2.todo.map (Task.stored w.outbox.retryLimit) := by
  cases e with
  | frame text =>
      by_cases htodo : w.todo = []
      · simp [turn, reads, htodo, tasks_handleText]
      · simp [turn, reads, htodo]
  | task =>
      cases htodo : w.todo with
      | nil => simp [turn, reads, htodo]
      | cons t rest =>
          cases t with
          | post r => simp [turn, reads, htodo, offer, Entry.task?, Task.stored, Outbox.stamp]
          | start c => simp [turn, reads, htodo, Entry.task?, Task.stored]
  | ended i child =>
      cases hc : w.atWork[i]? with
      | none => simp [turn, reads, hc]
      | some c => simp [turn, reads, hc, offer, Entry.task?]
  | other o => simp [turn, reads, (recorded_elsewhere w.outbox o).1]
  | elapse ms => by_cases htodo : w.todo = [] <;> simp [turn, reads, htodo]

/-- **A command that is started is at work until its end is reported.** -/
theorem turn_commands (w : Workshop) (e : Event) :
    (w.atWork : Multiset Command) + ((w.turn e).1.filterMap Entry.started?)
      = ((w.turn e).1.filterMap Entry.reported?).map (·.1) + (w.turn e).2.atWork := by
  cases e with
  | frame text | elapse ms => by_cases htodo : w.todo = [] <;> simp [turn, htodo]
  | task =>
      cases htodo : w.todo with
      | nil => simp [turn, htodo]
      | cons t rest =>
          cases t with
          | post r =>
              simp [turn, htodo, offer, List.filterMap_cons, Entry.started?, Entry.reported?]
          | start c =>
              simp only [turn, htodo, List.filterMap_cons, Entry.started?, Entry.reported?,
                List.filterMap_nil, List.map_nil]
              exact (zero_add _).symm
  | ended i child =>
      cases hc : w.atWork[i]? with
      | none => simp [turn, hc]
      | some c =>
          obtain ⟨hi, rfl⟩ := List.getElem?_eq_some_iff.mp hc
          have hperm := Multiset.coe_eq_coe.mpr (List.getElem_cons_eraseIdx_perm hi)
          simpa [turn, hc, offer, List.filterMap_cons, Entry.started?, Entry.reported?]
            using hperm.symm
  | other o =>
      obtain ⟨-, hstarted, hreported⟩ := recorded_elsewhere w.outbox o
      simp [turn, hstarted, hreported]

end Workshop

/-- What an outbox becomes by what is recorded: each insertion enters it or is counted, and what is
there stays until it is taken. -/
structure Accounts (b : Outbox) (log : List Entry) (b' : Outbox) : Prop where
  entries : (b.entries : Multiset Request) + log.filterMap Entry.entered?
    = log.filterMap Entry.taken? + b'.entries
  dropped : b'.dropped = b.dropped + log.countP Entry.isRefused
  retryLimit : b'.retryLimit = b.retryLimit

namespace Accounts

variable {a b b' : Outbox} {log log' : List Entry}

lemma nothing (b : Outbox) : Accounts b [] b :=
  ⟨(add_zero _).trans (zero_add _).symm, rfl, rfl⟩

lemma started (b : Outbox) (c : Command) : Accounts b [.started c] b :=
  ⟨(add_zero _).trans (zero_add _).symm, rfl, rfl⟩

lemma inserted (b : Outbox) (source : Source) (r : Request) :
    Accounts b [.inserted source r (b.insert r).1] (b.insert r).2 := by
  refine ⟨?_, ?_, Outbox.insert_retryLimit b r⟩
  · rw [Outbox.insert_fst, Outbox.insert_entries]
    by_cases hroom : b.hasRoom = true
    · have hentered : [Entry.inserted source r true].filterMap Entry.entered? = [r] := rfl
      have hplace : (Outbox.place r b.entries : Multiset Request) = r ::ₘ b.entries :=
        Multiset.coe_eq_coe.mpr (Outbox.place_perm r b.entries)
      rw [hroom, if_pos rfl, hplace, hentered, Multiset.coe_singleton, add_comm]
      exact (zero_add _).symm
    · rw [if_neg hroom, Bool.eq_false_iff.mpr hroom]
      exact (add_zero _).trans (zero_add _).symm
  · rw [Outbox.insert_fst, Outbox.insert_dropped]
    by_cases hroom : b.hasRoom = true <;> simp [hroom, Entry.isRefused]

lemma elsewhere (b : Outbox) (o : Op) : Accounts b (Workshop.recorded b o) (b.obey o).2 := by
  cases o with
  | offer r | tryOffer r | retry r | putBack r => exact inserted b .elsewhere _
  | take =>
      cases htake : b.take? with
      | none => simpa [Workshop.recorded, Outbox.obey, Outbox.Reply.request?, htake] using nothing b
      | some next =>
          obtain ⟨r, rest⟩ := next
          have hentries := Outbox.entries_of_take? htake
          obtain ⟨-, hlimit, hdropped⟩ := Outbox.limits_of_take? htake
          have hrecorded : Workshop.recorded b .take = [.taken r] := by
            simp [Workshop.recorded, Outbox.obey, Outbox.Reply.request?, htake]
          have hrest : (b.obey .take).2 = rest := by simp [Outbox.obey, htake]
          rw [hrecorded, hrest]
          exact ⟨by rw [hentries]; exact add_zero _, hdropped, hlimit⟩

/-- What is recorded can be put together. -/
lemma append (h : Accounts a log b) (h' : Accounts b log' b') : Accounts a (log ++ log') b' where
  entries := by
    have hfirst := h.entries
    have hnext := h'.entries
    rw [List.filterMap_append, List.filterMap_append, ← Multiset.coe_add, ← Multiset.coe_add]
    calc (a.entries : Multiset Request)
          + (log.filterMap Entry.entered? + log'.filterMap Entry.entered?)
        = log.filterMap Entry.taken? + (b.entries + log'.filterMap Entry.entered?) := by
          rw [← add_assoc, hfirst, add_assoc]
      _ = _ := by rw [hnext, add_assoc]
  dropped := by rw [h'.dropped, h.dropped, List.countP_append, add_assoc]
  retryLimit := h'.retryLimit.trans h.retryLimit

end Accounts

namespace Workshop

/-- **The outbox accounts for what is recorded of an event.** -/
theorem turn_outbox (w : Workshop) (e : Event) :
    Accounts w.outbox (w.turn e).1 (w.turn e).2.outbox := by
  cases e with
  | frame text | elapse ms =>
      simp only [turn]
      split_ifs <;> exact .nothing _
  | task =>
      simp only [turn]
      split
      · exact .nothing _
      · exact .inserted _ _ _
      · exact .started _ _
  | ended i child =>
      simp only [turn]
      split
      · exact .nothing _
      · exact .inserted _ _ _
  | other o => exact .elsewhere _ o

/-! ## What a run adds -/

@[simp] lemma after_cons (w : Workshop) (e : Event) (es : List Event) :
    w.after (e :: es) = (w.turn e).2.after es := rfl

@[simp] lemma record_cons (w : Workshop) (e : Event) (es : List Event) :
    w.record (e :: es) = (w.turn e).1 ++ (w.turn e).2.record es := rfl

lemma record_outbox (w : Workshop) (es : List Event) :
    Accounts w.outbox (w.record es) (w.after es).outbox := by
  induction es generalizing w with
  | nil => exact .nothing _
  | cons e es ih => exact (w.turn_outbox e).append (ih _)

lemma record_tasks (w : Workshop) (es : List Event) :
    w.todo.map (Task.stored w.outbox.retryLimit)
        ++ (w.frames es).flatMap (due w.outbox.retryLimit)
      = (w.record es).filterMap Entry.task?
        ++ (w.after es).todo.map (Task.stored w.outbox.retryLimit) := by
  induction es generalizing w with
  | nil => simp [frames, record, after]
  | cons e es ih =>
      have hturn := w.turn_tasks e
      have hrest := ih (w.turn e).2
      -- what is due depends on the number of attempts, which no event changes
      rw [(w.turn_outbox e).retryLimit] at hrest
      rw [frames, List.flatMap_append, ← List.append_assoc, hturn, List.append_assoc, hrest,
        record_cons, List.filterMap_append, List.append_assoc, after_cons]

lemma record_commands (w : Workshop) (es : List Event) :
    (w.atWork : Multiset Command) + (w.record es).filterMap Entry.started?
      = ((w.record es).filterMap Entry.reported?).map (·.1) + (w.after es).atWork := by
  induction es generalizing w with
  | nil => simp [record, after]
  | cons e es ih =>
      have hturn := w.turn_commands e
      have hrest := ih (w.turn e).2
      rw [record_cons, List.filterMap_append, List.filterMap_append, List.map_append,
        ← Multiset.coe_add, ← Multiset.coe_add, ← add_assoc, hturn, add_assoc, hrest, after_cons,
        add_assoc]

/-! ## The ends of commands -/

lemma limit_turn (w : Workshop) (e : Event) : (w.turn e).2.limit = w.limit := by
  cases e with
  | frame text | elapse ms =>
      simp only [turn]
      split_ifs <;> rfl
  | task | ended i child =>
      simp only [turn]
      split <;> rfl
  | other o => rfl

lemma limit_after (w : Workshop) (es : List Event) : (w.after es).limit = w.limit := by
  induction es generalizing w with
  | nil => rfl
  | cons e es ih => exact (ih _).trans (w.limit_turn e)

/-- The report of an end, as it is stored. -/
lemma stamp_notice (w : Workshop) (c : Command) (child : Except Refusal Process) :
    w.outbox.stamp (w.notice c child) =
      completing w.outbox.retryLimit w.now c (Execution.completionOf w.limit c child) := rfl

/-- Whatever an executor inserts is the completion notice of its command. -/
lemma turn_reports (w : Workshop) (e : Event) :
    ∀ p ∈ (w.turn e).1.filterMap Entry.reported?, ∃ time child,
      p.2 = completing w.outbox.retryLimit time p.1 (Execution.completionOf w.limit p.1 child) := by
  intro p hp
  cases e with
  | frame text | elapse ms => by_cases htodo : w.todo = [] <;> simp [turn, htodo] at hp
  | task =>
      cases htodo : w.todo with
      | nil => simp [turn, htodo] at hp
      | cons t rest =>
          cases t <;> simp [turn, htodo, offer, List.filterMap_cons, Entry.reported?] at hp
  | ended i child =>
      cases hc : w.atWork[i]? with
      | none => simp [turn, hc] at hp
      | some c =>
          have hreport : p = (c, w.outbox.stamp (w.notice c child)) := by
            simpa [turn, hc, offer, List.filterMap_cons, Entry.reported?] using hp
          exact ⟨w.now, child, by rw [hreport, stamp_notice]⟩
  | other o => simp [turn, (recorded_elsewhere w.outbox o).2.2] at hp

lemma record_reports (w : Workshop) (es : List Event) :
    ∀ p ∈ (w.record es).filterMap Entry.reported?, ∃ time child,
      p.2 = completing w.outbox.retryLimit time p.1 (Execution.completionOf w.limit p.1 child) := by
  induction es generalizing w with
  | nil => exact nofun
  | cons e es ih =>
      intro p hp
      rw [record_cons, List.filterMap_append, List.mem_append] at hp
      rcases hp with hp | hp
      · exact w.turn_reports e p hp
      · have hrest := ih (w.turn e).2 p hp
        rwa [(w.turn_outbox e).retryLimit, limit_turn] at hrest

/-- **When the commands at work have ended, each of them has been reported.**  It does not matter
what has come of their processes. -/
theorem record_ends (outcome : Command → Except Refusal Process) {cs : List Command}
    (hcs : w.atWork = cs) :
    (w.after (cs.map fun c => .ended 0 (outcome c))).atWork = [] ∧
      (w.record (cs.map fun c => .ended 0 (outcome c))).filterMap Entry.reported? =
        cs.map fun c => (c, completing w.outbox.retryLimit w.now c
          (Execution.completionOf w.limit c (outcome c))) := by
  induction cs generalizing w with
  | nil => exact ⟨hcs, rfl⟩
  | cons c cs ih =>
      have hturn : w.turn (.ended 0 (outcome c)) =
          { w with atWork := cs }.offer (.executor c) (w.notice c (outcome c)) := by
        simp [turn, hcs]
      have hatWork : (w.turn (.ended 0 (outcome c))).2.atWork = cs := by
        rw [hturn]
        rfl
      obtain ⟨hafter, hreported⟩ := ih hatWork
      rw [(w.turn_outbox _).retryLimit, limit_turn] at hreported
      refine ⟨hafter, ?_⟩
      rw [List.map_cons, record_cons, List.filterMap_append, hreported, hturn]
      rfl

/-! ## The life of a command -/

/-- The intake comes to the end of what it has to do. -/
lemma todo_after {ts : List Task} (hts : w.todo = ts) :
    (w.after (ts.map fun _ => .task)).todo = [] := by
  induction ts generalizing w with
  | nil => exact hts
  | cons t ts ih =>
      refine ih (w := (w.turn .task).2) ?_
      cases t with
      | post r =>
          simp only [turn, hts]
          rfl
      | start c => simp only [turn, hts]

/-- Undisturbed, the intake does one task after another. -/
lemma after_tasks (rs : List Request) (cs : List Command)
    (htodo : w.todo = rs.map .post ++ cs.map .start) :
    w.after ((rs.map Task.post ++ cs.map Task.start).map fun _ => .task) =
      { w with outbox := rs.foldl (fun b r => (b.offer r).2) w.outbox, todo := [],
               atWork := w.atWork ++ cs } := by
  induction rs generalizing w with
  | nil =>
      induction cs generalizing w with
      | nil =>
          rw [List.append_nil]
          exact congrArg (fun todo => { w with todo }) htodo
      | cons c cs ih =>
          have hnext := ih (w := { w with todo := cs.map .start, atWork := w.atWork ++ [c] }) rfl
          simpa [turn, htodo] using hnext
  | cons r rs ih =>
      have hnext := ih (w := { w with outbox := (w.outbox.offer r).2,
                                      todo := rs.map .post ++ cs.map .start }) rfl
      simpa [turn, htodo, offer] using hnext

/-- **Undisturbed, the intake does with a frame what its handling says.** -/
theorem after_frame (text : String) (htodo : w.todo = []) :
    let h := handleText w.now text
    w.after (.frame text :: h.tasks.map fun _ => .task) =
      { w with outbox := h.post w.outbox, atWork := w.atWork ++ h.command.toList } := by
  intro h
  have hread : (w.turn (.frame text)).2 = { w with todo := h.tasks } := by simp [turn, htodo, h]
  rw [after_cons, hread, Handling.tasks, after_tasks _ _ rfl, htodo]
  rfl

lemma outbox_post (a : Agent) (rs : List Request) :
    (a.post rs).fleet.outbox = rs.foldl (fun b r => (b.offer r).2) a.fleet.outbox ∧
      (a.post rs).fleet.now = a.fleet.now := by
  have key (f : Fleet) : (rs.foldl Fleet.offer f).outbox =
        rs.foldl (fun b r => (b.offer r).2) f.outbox ∧ (rs.foldl Fleet.offer f).now = f.now := by
    induction rs generalizing f with
    | nil => exact ⟨rfl, rfl⟩
    | cons r rs ih =>
        have hnext := ih (f.offer r)
        rw [Fleet.offer, Fleet.outbox_afterInsert, Fleet.now_afterInsert] at hnext
        exact hnext
  exact key a.fleet

/-- **The agent carries out what is due for a frame in one such run**, in which the command that is
started ends at once. -/
theorem outbox_carryOut (a : Agent) (text : String) :
    let h := handleText a.fleet.now text
    let w : Workshop :=
      { now := a.fleet.now, outbox := a.fleet.outbox, limit := a.settings.control.commandTimeout }
    (a.carryOut h).fleet.outbox = ((w.after (.frame text :: h.tasks.map fun _ => .task)).after
      (h.command.toList.map fun c => .ended 0 (Execution.start c))).outbox := by
  intro h w
  obtain ⟨houtbox, hnow⟩ := outbox_post a h.notices
  have hframe : w.after (.frame text :: h.tasks.map fun _ => .task) =
      { w with outbox := h.post w.outbox, atWork := h.command.toList } := after_frame text rfl
  rw [hframe, Agent.carryOut]
  cases hcommand : h.command with
  | none => exact houtbox
  | some c =>
      dsimp only
      rw [(outbox_post _ _).1, houtbox, hnow]
      rfl

/-- **The life of a command.**  Whatever frames are read, however the children of commands end, and
whatever others do with the outbox in between, of which nothing is assumed:

* what the intake has done and what it has still to do is what is due for the frames, in their
  order: a command is acknowledged and then started, an internal restart is acknowledged and
  reported, and for all else nothing is done.  If it is let, it comes to the end of this;
* each command that was started is at work or has been reported once;
* whatever an executor inserts is the completion notice of its command;
* when those at work have ended, whatever has come of their processes, each has been reported;
* each insertion enters the outbox or is counted as dropped. -/
theorem command_lifecycle (now : Int) (b : Outbox) (limit : Span) (es : List Event)
    (outcome : Command → Except Refusal Process) :
    let w : Workshop := { now, outbox := b, limit }
    let k := w.after es
    let log := w.record es
    let ends := k.atWork.map fun c => Event.ended 0 (outcome c)
    log.filterMap Entry.task? ++ k.todo.map (Task.stored b.retryLimit) =
        (w.frames es).flatMap (due b.retryLimit) ∧
      (k.after (k.todo.map fun _ => .task)).todo = [] ∧
      (log.filterMap Entry.started? : Multiset Command) =
        (log.filterMap Entry.reported?).map (·.1) + k.atWork ∧
      (∀ p ∈ log.filterMap Entry.reported?, ∃ time child,
        p.2 = completing b.retryLimit time p.1 (Execution.completionOf limit p.1 child)) ∧
      ((k.after ends).atWork = [] ∧ (k.record ends).filterMap Entry.reported? =
        k.atWork.map fun c => (c, completing b.retryLimit k.now c
          (Execution.completionOf limit c (outcome c)))) ∧
      ((b.entries : Multiset Request) + log.filterMap Entry.entered? =
          log.filterMap Entry.taken? + k.outbox.entries ∧
        k.outbox.dropped = b.dropped + log.countP Entry.isRefused) := by
  intro w k log ends
  have houtbox : Accounts b log k.outbox := w.record_outbox es
  have htasks := w.record_tasks es
  have hcommands := w.record_commands es
  have hends := record_ends outcome (w := k) rfl
  rw [houtbox.retryLimit, limit_after] at hends
  exact ⟨htasks.symm, todo_after rfl, (zero_add _).symm.trans hcommands, w.record_reports es, hends,
    houtbox.entries, houtbox.dropped⟩

end Workshop

end HostAgent.Intake
