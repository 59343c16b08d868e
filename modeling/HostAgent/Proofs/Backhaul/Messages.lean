import HostAgent.Backhaul.Link
import Mathlib.Tactic

/-!
# What a message does

What a link does with a message that comes in over its connection, read as one equation.

* `Message.query?` — the query in a message, whether it comes as text or as bytes.
* `Message.ending?` — the ending that a message brings to the connection, if it does.
* `Message.handling`, `Message.answer` — what follows from its query, and what is answered to it.
* `take_eq` — a link that takes a message does just this.
-/

namespace HostAgent.Backhaul

open Intake (Verdict Handling)
open Wire (Query)

/-! ## What it asks for -/

/-- The ending that a query brings to the connection it came over. -/
def endingOf : Query → Option Ending
  | .quit _ => some (.verdict .quit)
  | .reconnect _ => some (.verdict .reconnect)
  | .command c => if c.isInternal "restart" then some (.verdict .restart) else none
  | .unknown _ => none

/-- A query ends its connection exactly if its verdict is not to proceed. -/
lemma endingOf_eq (now : Int) (q : Query) :
    endingOf q = if (Intake.handle now q).verdict = .proceed then none
      else some (.verdict (Intake.handle now q).verdict) := by
  cases q with
  | command c => by_cases hc : c.isInternal "restart" <;> simp [endingOf, Intake.handle, hc]
  | quit reason => rfl
  | reconnect reason => rfl
  | unknown name => rfl

namespace Message

/-- The query in a message, if it is a data frame that holds one. -/
def query? (m : Message) : Option Query :=
  match Link.dataText? m with
  | some (some s) => (Query.decode s).toOption
  | _ => none

/-- The ending that a message brings to the connection it comes over.  A ping that is too long is a
fault of the other side, like a frame that cannot be read. -/
def ending? : Message → Option Ending
  | .close | .broken | .ended => some .lost
  | .ping bytes => if bytes.length ≤ 125 then none else some .lost
  | .pong _ => none
  | m => m.query?.bind endingOf

/-- What follows from the query in a message; nothing if there is none. -/
def handling (m : Message) (now : Int) : Handling :=
  match m.query? with
  | some q => Intake.handle now q
  | none => {}

/-- What is answered to a message that does not end the connection. -/
def answer : Message → List Sent
  | .text _ | .binary _ => [.text Wire.pingText]
  | .ping bytes => [.pong bytes]
  | _ => []

/-- Whether a message is a data frame. -/
def isData : Message → Bool
  | .text _ | .binary _ => true
  | _ => false

variable {m : Message}

/-- Only a data frame holds a query. -/
lemma query?_eq_none (h : m.isData = false) : m.query? = none := by
  cases m with
  | text s | binary bytes => exact absurd h (by simp [isData])
  | _ => rfl

lemma ending?_of_isData (h : m.isData = true) : m.ending? = m.query?.bind endingOf := by
  cases m with
  | text s | binary bytes => rfl
  | _ => exact absurd h (by simp [isData])

lemma answer_of_isData (h : m.isData = true) : m.answer = [.text Wire.pingText] := by
  cases m with
  | text s | binary bytes => rfl
  | _ => exact absurd h (by simp [isData])

lemma handling_eq (m : Message) (now : Int) :
    (match Link.dataText? m with
      | some (some s) => Intake.handleText now s
      | _ => {}) = m.handling now := by
  rw [handling, query?]
  rcases Link.dataText? m with _ | _ | s
  · rfl
  · rfl
  · cases hdecode : Query.decode s <;> simp [Intake.handleText, Except.toOption, hdecode]

/-- The verdict on a data frame is to proceed exactly if it does not end the connection. -/
lemma ending?_eq (h : m.isData = true) (now : Int) :
    m.ending? = if (m.handling now).verdict = .proceed then none
      else some (.verdict (m.handling now).verdict) := by
  rw [ending?_of_isData h, handling]
  cases m.query? with
  | none => rfl
  | some q => exact endingOf_eq now q

/-- No message ends its connection to proceed with it. -/
lemma ending?_ne_proceed (m : Message) : m.ending? ≠ some (.verdict .proceed) := by
  intro h
  by_cases hdata : m.isData = true
  · rw [ending?_eq hdata 0] at h
    split_ifs at h with hverdict
    exact hverdict (by simpa using h)
  · cases m with
    | text s | binary bytes => exact absurd rfl hdata
    | ping bytes =>
        rw [ending?] at h
        split_ifs at h
        exact absurd (Option.some.inj h) (by simp)
    | pong bytes => exact absurd h (by simp [ending?])
    | close | broken | ended => exact absurd (Option.some.inj h) (by simp)

/-- Bytes that are a text have the query of the text. -/
lemma query?_binary {bytes : List UInt8} {s : String}
    (h : String.fromUTF8? ⟨bytes.toArray⟩ = some s) :
    (binary bytes).query? = (text s).query? := by
  simp only [query?, Link.dataText?, h]

end Message

/-! ## What the link does -/

namespace Link

variable {l : Link} {since : Int} {m : Message}

lemma take_data (h : m.isData = true) :
    l.take since m = if (m.handling l.now).verdict = .proceed then
        (m.handling l.now, [.text Wire.pingText], l)
      else (m.handling l.now, [.close], l.close since (.verdict (m.handling l.now).verdict)) := by
  rw [← Message.handling_eq]
  cases m with
  | text s | binary bytes => rfl
  | _ => exact absurd h (by simp [Message.isData])

/-- **What a link does with a message.**  It handles the query and answers, unless the message ends
the connection: then the link closes it, or finds that it is gone. -/
theorem take_eq (l : Link) (since : Int) (m : Message) :
    l.take since m = match m.ending? with
      | none => (m.handling l.now, m.answer, l)
      | some e => if m = .ended then (m.handling l.now, [], l.lost since)
        else (m.handling l.now, [.close], l.close since e) := by
  by_cases hdata : m.isData = true
  · have hm : m ≠ .ended := by rintro rfl; exact absurd hdata (by simp [Message.isData])
    rw [take_data hdata, Message.ending?_eq hdata l.now, Message.answer_of_isData hdata]
    by_cases hverdict : (m.handling l.now).verdict = .proceed <;> simp [hverdict, hm]
  · cases m with
    | text s | binary bytes => exact absurd rfl hdata
    | ping bytes =>
        have hnone : (Message.ping bytes).handling l.now = {} := rfl
        by_cases hlong : bytes.length ≤ 125 <;>
          simp [take, Message.ending?, Message.answer, hnone, hlong]
    | pong bytes | close | broken | ended => rfl

lemma receive_of_serving (h : l.phase = .serving since) (m : Message) :
    l.receive m = l.take since m := by
  rw [receive, h]

/-- Without a connection there is nobody to hear a message. -/
lemma receive_of_not_serving (h : l.isServing = false) (m : Message) :
    l.receive m = ({}, [], l) := by
  unfold receive
  split
  · next since hphase => simp [isServing, hphase] at h
  · rfl

/-- Bytes that are a text do the same as the text. -/
lemma receive_binary {bytes : List UInt8} {s : String}
    (h : String.fromUTF8? ⟨bytes.toArray⟩ = some s) :
    l.receive (.binary bytes) = l.receive (.text s) := by
  have hhandling : (Message.binary bytes).handling l.now = (Message.text s).handling l.now := by
    rw [Message.handling, Message.handling, Message.query?_binary h]
  unfold receive
  split
  · rw [take_data rfl, take_data rfl, hhandling]
  · rfl

end Link

end HostAgent.Backhaul
