import HostAgent.Proofs.Backhaul.Course
import Mathlib.Data.Seq.Basic

/-!
# A connection from its handshake to its end

What comes of all that arrives over one connection while nobody wishes anything.  It is split at the
first message that ends the connection.

* `Arrival` — a message and the time at which it arrives.
* `untilStop`, `stop?`, `pastStop` — the messages before the first that ends the connection, this
  one if there is one, and those after it.
* `handled`, `sent` — the effects of what arrives, and what goes out.
* `Talked` — what comes of a conversation.
* `talk_until_stop` — just this comes of every conversation, and what arrives after its end does
  nothing.
-/

namespace HostAgent.Backhaul

open Intake (Handling)
open Wire (Query)

/-- A message that arrives. -/
structure Arrival where
  time : Int
  message : Message
  deriving DecidableEq

namespace Arrival

/-- The ending that it brings to the connection, if it does. -/
def ending? (a : Arrival) : Option Ending :=
  a.message.ending?

/-- What follows from its query. -/
def handling (a : Arrival) : Handling :=
  a.message.handling a.time

/-- What is sent last if it ends the connection.  At the end of the stream nobody is there to hear
it. -/
def farewell (a : Arrival) : List Sent :=
  if a.message = .ended then [] else [.close]

/-- The messages before the first that ends the connection. -/
def untilStop (as : List Arrival) : List Arrival :=
  as.takeWhile fun a => a.ending?.isNone

/-- The first message that ends the connection. -/
def stop? (as : List Arrival) : Option Arrival :=
  (as.dropWhile fun a => a.ending?.isNone).head?

/-- The messages after the first that ends the connection. -/
def pastStop (as : List Arrival) : List Arrival :=
  (as.dropWhile fun a => a.ending?.isNone).tail

variable {a : Arrival} {as bs : List Arrival}

section Goes

variable (h : a.ending? = none)
include h

lemma untilStop_cons_of_none : untilStop (a :: as) = a :: untilStop as := by
  simp [untilStop, h]

lemma stop?_cons_of_none : stop? (a :: as) = stop? as := by
  simp [stop?, h]

lemma pastStop_cons_of_none : pastStop (a :: as) = pastStop as := by
  simp [pastStop, h]

end Goes

section Stops

variable {e : Ending} (h : a.ending? = some e)
include h

lemma untilStop_cons_of_some : untilStop (a :: as) = [] := by
  simp [untilStop, h]

lemma stop?_cons_of_some : stop? (a :: as) = some a := by
  simp [stop?, h]

lemma pastStop_cons_of_some : pastStop (a :: as) = as := by
  simp [pastStop, h]

end Stops

end Arrival

namespace Message

/-- There is one probe in the answer to a data frame, and none in any other. -/
lemma count_answer (m : Message) :
    m.answer.count (.text Wire.pingText) = if m.isData then 1 else 0 := by
  cases m <;> simp [answer, isData]

lemma count_flatMap_answer (ms : List Message) :
    (ms.flatMap answer).count (.text Wire.pingText) = ms.countP isData := by
  induction ms with
  | nil => rfl
  | cons m ms ih => rw [List.flatMap_cons, List.count_append, count_answer, ih, List.countP_cons,
      add_comm]

end Message

namespace Link

/-- Whether a move leaves the link to its connection: nobody wishes anything, and there is no other
handshake. -/
def Move.isTalk : Move → Bool
  | .quit | .reconnect | .connected => false
  | _ => true

/-- The message that a move brings. -/
def Move.message? : Move → Option Message
  | .receive x => some x
  | _ => none

/-- What a link sends with a move. -/
def sends (l : Link) : Move → List Sent
  | .tick => (l.tick.map (·.1)).getD []
  | .receive x => (l.receive x).2.1
  | _ => []

/-- What arrives along a course. -/
def arrivals : Link → List Move → List Arrival :=
  notes fun l m => m.message?.toList.map (⟨l.now, ·⟩)

/-- The effects of what arrives along a course. -/
def handled : Link → List Move → List Handling :=
  notes fun l m => m.message?.toList.map fun x => (l.receive x).1

/-- What a link sends along a course. -/
def sent : Link → List Move → List Sent :=
  notes sends

/-- The ending of a connection that is gone. -/
def Turn.ending? : Turn → Option Ending
  | .lost _ => some .lost
  | .decided v => some (.verdict v)
  | _ => none

variable {l l' : Link} {m : Move} {ms : List Move} {t? : Option Turn} {since : Int} {e : Ending}
  {x : Message}

lemma Move.message?_eq_some : m.message? = some x ↔ m = .receive x := by
  unfold Move.message?
  split <;> simp_all

lemma arrivals_cons (l : Link) (m : Move) (ms : List Move) :
    l.arrivals (m :: ms) = m.message?.toList.map (⟨l.now, ·⟩) ++ (l.move m).arrivals ms := rfl

lemma handled_cons (l : Link) (m : Move) (ms : List Move) :
    l.handled (m :: ms) =
      (m.message?.toList.map fun x => (l.receive x).1) ++ (l.move m).handled ms := rfl

lemma sent_cons (l : Link) (m : Move) (ms : List Move) :
    l.sent (m :: ms) = l.sends m ++ (l.move m).sent ms := rfl

/-- A link that serves hears the query of every message. -/
lemma hears?_of_serving (h : l.phase = .serving since) (m : Move) :
    l.hears? m = m.message?.bind Message.query? := by
  unfold hears? Move.message?
  split <;> simp_all

/-! ## Without a connection -/

lemma isServing_eq_false_iff : l.isServing = false ↔ ∀ since, l.phase ≠ .serving since := by
  unfold isServing
  cases l.phase <;> simp

lemma isServing_of_since? (h : l.phase.since? = none) : l.isServing = false := by
  rw [isServing_eq_false_iff]
  rintro since hphase
  rw [hphase] at h
  exact absurd h (by simp [Phase.since?])

/-- Only a handshake makes a connection. -/
lemma Step.isServing (h : Step l m t? l') (hm : m.isTalk = true) (hnone : l.isServing = false) :
    l'.isServing = false := by
  cases h with
  | still | elapse ms => exact hnone
  | quit | reconnect | made => exact absurd hm (by simp [Move.isTalk])
  | begun | aborted | cut | rested => exact isServing_of_since? (since?_attempt _)
  | failed | obeyed | told => rfl
  | ended | lost => exact isServing_of_since? (since?_lost _ _)
  | decided => exact isServing_of_since? (since?_afterClose _ _ _)

/-- Without a connection there is nothing to send. -/
lemma sends_of_not_serving (h : l.isServing = false) (m : Move) : l.sends m = [] := by
  cases m with
  | rested => rfl
  | receive x => exact congrArg (·.2.1) (receive_of_not_serving h x)
  | tick =>
      rw [isServing_eq_false_iff] at h
      simp only [sends, tick]
      cases hphase : l.phase with
      | serving since => exact absurd hphase (h since)
      | connecting | pausing =>
          dsimp only
          split_ifs <;> rfl
      | starting | closing | finished => rfl
  | _ => rfl

/-- Nothing that arrives without a connection has an effect, and nothing is sent. -/
lemma silent (h : l.isServing = false) (hms : ∀ m ∈ ms, m.isTalk = true) :
    l.handled ms = (l.arrivals ms).map (fun _ => {}) ∧ l.heard ms = [] ∧ l.sent ms = [] ∧
      (l.course ms).isServing = false := by
  induction ms generalizing l with
  | nil => exact ⟨rfl, rfl, rfl, h⟩
  | cons m ms ih =>
      obtain ⟨hhandled, hheard, hsent, hserving⟩ := ih ((l.step m).isServing (hms m (by simp)) h)
        fun x hx => hms x (List.mem_cons_of_mem _ hx)
      have hhears : l.hears? m = none := by
        rw [isServing_eq_false_iff] at h
        unfold hears?
        split
        · next hphase => exact absurd hphase (h _)
        · rfl
      have hreceive (x : Message) : (l.receive x).1 = {} :=
        congrArg (·.1) (receive_of_not_serving h x)
      refine ⟨?_, ?_, ?_, hserving⟩
      · rw [handled_cons, arrivals_cons, hhandled, List.map_append]
        cases m.message? with
        | none => rfl
        | some x => simp [hreceive]
      · simp [heard_cons, hheard, hhears]
      · simp [sent_cons, hsent, sends_of_not_serving h]

/-- Without a connection messages make no difference. -/
lemma course_silent (h : l.isServing = false) (hms : ∀ m ∈ ms, m.isTalk = true) :
    l.course ms = l.course (ms.filter fun m => m.message?.isNone) := by
  induction ms generalizing l with
  | nil => rfl
  | cons m ms ih =>
      have hnext := ih ((l.step m).isServing (hms m (by simp)) h)
        fun x hx => hms x (List.mem_cons_of_mem _ hx)
      cases hmessage : m.message? with
      | none =>
          rw [List.filter_cons_of_pos (by simp [hmessage]), course_cons, course_cons, hnext]
      | some x =>
          have hstill : l.move m = l := by
            rw [Move.message?_eq_some.mp hmessage]
            exact congrArg (·.2.2) (receive_of_not_serving h x)
          rw [List.filter_cons_of_neg (by simp [hmessage]), course_cons, hnext, hstill]

/-! ## With a connection -/

/-- What a move makes of a link that serves and goes on serving. -/
structure Stays (since : Int) (l : Link) (m : Move) : Prop where
  phase : (l.move m).phase = .serving since
  unseen : (l.move m).unseen = false
  turn : l.turn? m = none
  goes : ∀ x ∈ m.message?, x.ending? = none
  reply : ∀ x ∈ m.message?, l.receive x = (x.handling l.now, x.answer, l)
  silent : m.message? = none → l.sends m = []

namespace Stays

/-- A move that brings no message and leaves the link as it is. -/
lemma of_still (hphase : l.phase = .serving since) (hseen : l.unseen = false)
    (hmessage : m.message? = none) (hmove : l.move m = l) (hturn : l.turn? m = none)
    (hsends : l.sends m = []) : Stays since l m :=
  ⟨by rw [hmove, hphase], by rw [hmove, hseen], hturn, by simp [hmessage], by simp [hmessage],
    fun _ => hsends⟩

/-- A message that does not end the connection. -/
lemma of_receive (hphase : l.phase = .serving since) (hseen : l.unseen = false)
    (hending : x.ending? = none) : Stays since l (.receive x) := by
  have hreceive : l.receive x = (x.handling l.now, x.answer, l) := by
    rw [receive_of_serving hphase, take_eq, hending]
  have hmove : l.move (.receive x) = l := congrArg (·.2.2) hreceive
  have hturn : l.turn? (.receive x) = none := by
    cases x with
    | ended => exact absurd hending (by simp [Message.ending?])
    | _ => simp [turn?]
  exact ⟨by rw [hmove, hphase], by rw [hmove, hseen], hturn, by simp [Move.message?, hending],
    by simp [Move.message?, hreceive], by simp [Move.message?]⟩

end Stays

/-- A link that serves goes on serving, or a message ends its connection. -/
lemma stays_or_stops (hphase : l.phase = .serving since) (hseen : l.unseen = false)
    (hm : m.isTalk = true) :
    Stays since l m ∨ ∃ x e, m = .receive x ∧ x.ending? = some e := by
  cases m with
  | rested =>
      exact .inl (.of_still hphase hseen rfl (by simp [move, Link.rested, hphase])
        (by simp [turn?, hphase]) rfl)
  | quit | reconnect | connected => exact absurd hm (by simp [Move.isTalk])
  | elapse ms =>
      exact .inl ⟨hphase, hseen, rfl, by simp [Move.message?], by simp [Move.message?],
        fun _ => rfl⟩
  | failed =>
      exact .inl (.of_still hphase hseen rfl (by simp [move, Link.failed, hphase])
        (by simp [turn?, hphase]) rfl)
  | tick =>
      have htick : l.tick = none := by simp [tick, hphase, hseen]
      exact .inl (.of_still hphase hseen rfl (by simp [move, htick])
        (by simp [turn?, ownTurn?, hphase]) (by simp [sends, htick]))
  | receive x =>
      cases hending : x.ending? with
      | some e => exact .inr ⟨x, e, rfl, hending⟩
      | none => exact .inl (.of_receive hphase hseen hending)

/-- A connection that is being closed is gone by the next thing that comes about. -/
lemma closes (hphase : l.phase = .closing since e) (ms : List Move) :
    l.turns ms = [] ∧ (l.course ms).phase = .closing since e ∨
      ∃ t, (l.turns ms).head? = some t ∧ t.ending? = some e := by
  induction ms generalizing l with
  | nil => exact .inl ⟨rfl, hphase⟩
  | cons m ms ih =>
      have hstep := l.step m
      rw [course_cons, turns_cons]
      generalize l.move m = k at *
      generalize l.turn? m = t? at *
      -- nothing that happens to a link that is closing its connection keeps it from doing so
      cases hstep with
      | still | quit | reconnect | elapse ms => exact ih hphase
      | begun h | aborted h | failed h | made h | obeyed h | told h | ended h | cut h | rested h =>
          exact absurd (h.symm.trans hphase) (by simp)
      | lost h | decided h =>
          obtain ⟨-, rfl⟩ := Phase.closing.inj (h.symm.trans hphase)
          exact .inr ⟨_, rfl, rfl⟩

/-- What comes of a conversation, of which this came before the message that stopped it, if one did,
and this after it. -/
structure Talked (since : Int) (l : Link) (ms : List Move) (before : List Arrival)
    (stop? : Option Arrival) (later : List Arrival) : Prop where
  /-- Each query is handled once and in order up to the end, and nothing after it. -/
  handled : l.handled ms =
    before.map Arrival.handling ++ stop?.toList.map Arrival.handling ++
      later.map fun _ => ({} : Handling)
  heard : l.heard ms = (before ++ stop?.toList).filterMap (·.message.query?)
  /-- Each message before the end is answered, and nothing else is sent before the farewell. -/
  sent : l.sent ms =
    (before.map (·.message)).flatMap Message.answer ++ stop?.toList.flatMap Arrival.farewell
  /-- The connection stays if nothing stops it. -/
  stays : stop? = none → (l.course ms).phase = .serving since ∧ l.turns ms = []
  /-- It ends as the message says that stops it, at the latest with the next turn. -/
  ends : ∀ a ∈ stop?, (l.course ms).isServing = false ∧ ∃ e ∈ a.ending?,
    l.turns ms = [] ∧ (l.course ms).phase = .closing since e ∨
      ∃ t, (l.turns ms).head? = some t ∧ t.ending? = some e

namespace Talked

variable {before later : List Arrival} {a? : Option Arrival}

/-- A move that leaves the connection as it is goes before what comes after it. -/
lemma cons_of_stays (hphase : l.phase = .serving since) (h : Stays since l m)
    (hnext : Talked since (l.move m) ms before a? later) :
    Talked since l (m :: ms) (m.message?.toList.map (⟨l.now, ·⟩) ++ before) a? later := by
  have hturns : l.turns (m :: ms) = (l.move m).turns ms := by
    rw [turns_cons, h.turn]
    rfl
  refine ⟨?_, ?_, ?_, fun hnone => hturns ▸ hnext.stays hnone, fun a ha => hturns ▸ hnext.ends a ha⟩
  · rw [handled_cons, hnext.handled]
    cases hmessage : m.message? with
    | none => rfl
    | some x =>
        have hreply := h.reply x hmessage
        simp [hreply, Arrival.handling]
  · rw [heard_cons, hnext.heard, hears?_of_serving hphase]
    cases hmessage : m.message? with
    | none => rfl
    | some x => cases hquery : x.query? <;> simp [hquery]
  · rw [sent_cons, hnext.sent]
    cases hmessage : m.message? with
    | none =>
        rw [h.silent hmessage]
        rfl
    | some x =>
        obtain rfl := Move.message?_eq_some.mp hmessage
        have hsends : l.sends (.receive x) = x.answer := congrArg (·.2.1) (h.reply x rfl)
        simp [hsends]

/-- With a message that ends the connection the rest comes to nothing. -/
lemma cons_of_stops (hphase : l.phase = .serving since) (hending : x.ending? = some e)
    (hms : ∀ m ∈ ms, m.isTalk = true) :
    Talked since l (.receive x :: ms) [] (some ⟨l.now, x⟩) ((l.move (.receive x)).arrivals ms) := by
  have hreceive : l.receive x = if x = .ended then (x.handling l.now, [], l.lost since)
      else (x.handling l.now, [.close], l.close since e) := by
    rw [receive_of_serving hphase, take_eq, hending]
  have hmove : l.move (.receive x) = if x = .ended then l.lost since else l.close since e := by
    refine (congrArg (·.2.2) hreceive).trans ?_
    split_ifs <;> rfl
  have hserving : (l.move (.receive x)).isServing = false := by
    rw [hmove]
    split_ifs
    · exact isServing_of_since? (since?_lost l since)
    · rfl
  obtain ⟨hhandled, hheard, hsent, hend⟩ := silent hserving hms
  refine ⟨?_, ?_, ?_, nofun, fun a ha => ?_⟩
  · have hhandling : (l.receive x).1 = x.handling l.now := by
      rw [hreceive]
      split_ifs <;> rfl
    rw [handled_cons, hhandled]
    simp [Move.message?, Arrival.handling, hhandling]
  · rw [heard_cons, hheard, hears?_of_serving hphase]
    cases hquery : x.query? <;> simp [Move.message?, hquery]
  · rw [sent_cons, hsent, sends, hreceive]
    by_cases hended : x = .ended <;> simp [Arrival.farewell, hended]
  · obtain rfl := Option.some.inj ha
    refine ⟨hend, e, hending, ?_⟩
    rw [turns_cons, course_cons]
    by_cases hended : x = .ended
    · subst hended
      obtain rfl := Option.some.inj hending
      exact .inr ⟨.lost (l.age since), by simp [turn?, hphase], rfl⟩
    · have hturn : l.turn? (.receive x) = none := by
        cases x <;> simp [turn?] at hended ⊢
      rw [hturn, hmove, if_neg hended]
      exact closes rfl ms

end Talked

/-- What comes of every conversation. -/
lemma talked (hphase : l.phase = .serving since) (hseen : l.unseen = false)
    (hms : ∀ m ∈ ms, m.isTalk = true) :
    Talked since l ms (Arrival.untilStop (l.arrivals ms)) (Arrival.stop? (l.arrivals ms))
      (Arrival.pastStop (l.arrivals ms)) := by
  induction ms generalizing l with
  | nil => exact ⟨rfl, rfl, rfl, fun _ => ⟨hphase, rfl⟩, nofun⟩
  | cons m ms ih =>
      -- a move goes before what comes of the rest, unless the conversation stops with it
      have hrest : ∀ x ∈ ms, x.isTalk = true := fun x hx => hms x (List.mem_cons_of_mem _ hx)
      rw [arrivals_cons]
      rcases stays_or_stops hphase hseen (hms m (by simp)) with hstays | ⟨x, e, rfl, hending⟩
      · have hnext := (ih hstays.phase hstays.unseen hrest).cons_of_stays hphase hstays
        cases hmessage : m.message? with
        | none => simpa [hmessage] using hnext
        | some x =>
            have hgoes : Arrival.ending? ⟨l.now, x⟩ = none := hstays.goes x hmessage
            simpa [hmessage, Arrival.untilStop_cons_of_none hgoes, Arrival.stop?_cons_of_none hgoes,
              Arrival.pastStop_cons_of_none hgoes] using hnext
      · have hstops : Arrival.ending? ⟨l.now, x⟩ = some e := hending
        simpa [Move.message?, Arrival.untilStop_cons_of_some hstops,
          Arrival.stop?_cons_of_some hstops, Arrival.pastStop_cons_of_some hstops]
          using Talked.cons_of_stops hphase hending hrest

/-- **A conversation goes on until it is stopped.**  After a handshake, let a row of moves follow,
finite or infinite, in which nobody wishes anything and there is no other handshake.  At every point
of it:

* what has come of the messages so far is what `Talked` says: up to the first one that ends the
  connection, and with it, each query is handled once and in order;
* for each data frame before the end a probe is sent, and no other;
* once the connection has ended, the course is the same without the messages that come later;
* bytes that are a text do the same as the text. -/
theorem talk_until_stop (l : Link) (deadline : Int) (hphase : l.phase = .connecting deadline)
    (hseen : l.unseen = false) (moves : Stream'.Seq Move)
    (htalk : ∀ m ∈ moves, m.isTalk = true) (n : ℕ) :
    let k := l.connected
    let ms := moves.take n
    let before := Arrival.untilStop (k.arrivals ms)
    Talked l.now k ms before (Arrival.stop? (k.arrivals ms)) (Arrival.pastStop (k.arrivals ms)) ∧
      (k.sent ms).count (.text Wire.pingText) = before.countP (·.message.isData) ∧
      (∀ pre post, ms = pre ++ post → (Arrival.stop? (k.arrivals pre)).isSome = true →
        k.course ms = k.course (pre ++ post.filter fun m => m.message?.isNone)) ∧
      ∀ bytes s, String.fromUTF8? ⟨bytes.toArray⟩ = some s →
        (k.course ms).receive (.binary bytes) = (k.course ms).receive (.text s) := by
  intro k ms before
  have hk : k = { l.present .connected with phase := .serving l.now } := by
    simp [k, connected, hphase]
  have hserving : k.phase = .serving l.now := by rw [hk]
  have hunseen : k.unseen = false := by
    rw [hk]
    exact hseen
  have hms : ∀ m ∈ ms, m.isTalk = true := fun m hm => Stream'.Seq.take_all htalk hm
  have htalked := talked hserving hunseen hms
  refine ⟨htalked, ?_, fun pre post hsplit hstop => ?_, fun bytes s hs => ?_⟩
  · have hfarewell : (((Arrival.stop? (k.arrivals ms)).toList.flatMap Arrival.farewell).count
        (.text Wire.pingText)) = 0 := by
      cases Arrival.stop? (k.arrivals ms) with
      | none => rfl
      | some a =>
          unfold Arrival.farewell
          by_cases hended : a.message = .ended <;> simp [hended]
    rw [htalked.sent, List.count_append, Message.count_flatMap_answer, hfarewell, List.countP_map]
    rfl
  · obtain ⟨a, ha⟩ := Option.isSome_iff_exists.mp hstop
    rw [hsplit] at hms ⊢
    have hpre := talked hserving hunseen fun m hm => hms m (List.mem_append_left _ hm)
    rw [course_append, course_append]
    exact course_silent (hpre.ends a ha).1 fun m hm => hms m (List.mem_append_right _ hm)
  · exact receive_binary hs

/-- A conversation that ends with a query to quit: bytes that are no text are answered with a probe,
and what comes after the query does nothing. -/
theorem talk_until_stop_quit :
    let l := (fresh 0 .standard).move .tick
    let quit : Message := .text "\x7b\"query\":\"quit\"\x7d"
    let ms : List Move := [.receive (.binary [255]), .receive (.ping [1]), .elapse 1000,
      .receive quit, .receive (.text "late"), .tick]
    l.phase = .connecting 30000 ∧ l.unseen = false ∧
      (∀ m ∈ Stream'.Seq.ofList ms, m.isTalk = true) ∧
      Talked 0 l.connected ms [⟨0, .binary [255]⟩, ⟨0, .ping [1]⟩] (some ⟨1000, quit⟩)
        [⟨1000, .text "late"⟩] ∧
      (l.connected.sent ms).count (.text Wire.pingText) = 1 := by
  intro l quit ms
  have htalk : ∀ m ∈ Stream'.Seq.ofList ms, m.isTalk = true := by
    simp [ms, Stream'.Seq.ofList_cons, Move.isTalk]
  have htake : (Stream'.Seq.ofList ms).take 6 = ms := by
    simp [ms, Stream'.Seq.ofList_cons]
  have hbefore : Arrival.untilStop (l.connected.arrivals ms) =
      [⟨0, .binary [255]⟩, ⟨0, .ping [1]⟩] := by decide +kernel
  have hstop : Arrival.stop? (l.connected.arrivals ms) = some ⟨1000, quit⟩ := by decide +kernel
  have hlater : Arrival.pastStop (l.connected.arrivals ms) = [⟨1000, .text "late"⟩] := by
    decide +kernel
  obtain ⟨htalked, hprobes, -⟩ := talk_until_stop l 30000 rfl rfl (Stream'.Seq.ofList ms) htalk 6
  rw [htake, hbefore, hstop, hlater] at htalked
  rw [htake, hbefore] at hprobes
  exact ⟨rfl, rfl, htalk, htalked, hprobes⟩

end Link

end HostAgent.Backhaul
