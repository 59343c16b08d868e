import HostAgent.Backhaul.Pace
import Mathlib.Data.List.DropRight
import Mathlib.Tactic

/-!
# The pauses double

A pace keeps only the next pause.  What that is after so many pauses has a closed form, which is
exact although doubling stops at the longest span: the ceiling is no longer than that.

* `Pace.scheduled` — the pause that comes after so many others, in nanoseconds.
* `Pace.After` — a pace that has made so many pauses since it was fresh or started over.
* `Pace.Call`, `Pace.answer`, `Pace.taken` — a history of pauses and restarts, the pause that comes
  after it, and how many there have been since the last restart.
* `Pace.answer_closed_form` — after every history the pause is the scheduled one.
-/

namespace HostAgent

namespace Span

variable {a b : Span}

@[ext] lemma ext (h : a.nanos = b.nanos) : a = b := by
  cases a
  cases b
  simpa using h

lemma nanos_min (a b : Span) : (min a b).nanos = min a.nanos b.nanos := by
  change (if a.nanos ≤ b.nanos then a else b).nanos = _
  split_ifs <;> omega

lemma nanos_max (a b : Span) : (max a b).nanos = max a.nanos b.nanos := by
  change (if a.nanos ≤ b.nanos then b else a).nanos = _
  split_ifs <;> omega

lemma nanos_double (a : Span) : a.double.nanos = min (2 * a.nanos) limit := rfl

lemma le_iff_nanos_le : a ≤ b ↔ a.nanos ≤ b.nanos := .rfl

/-- A span is no longer than the time between two points exactly if it has no more nanoseconds. -/
lemma le_between_iff {earlier later : Int} :
    a ≤ between earlier later ↔ a.nanos ≤ (later - earlier).toNat * 1000000 := by
  have ha := a.nanos_le
  rw [le_iff_nanos_le]
  simp only [between, millis, ofNanos, limit]
  omega

end Span

namespace Backhaul.Pace

/-- The pause that comes after so many others, in nanoseconds. -/
def scheduled (initial ceiling : Span) (j : ℕ) : ℕ :=
  min (initial.nanos * 2 ^ j) (max initial.nanos ceiling.nanos)

lemma scheduled_zero (initial ceiling : Span) : scheduled initial ceiling 0 = initial.nanos := by
  rw [scheduled, pow_zero, mul_one]
  exact min_eq_left (le_max_left _ _)

/-- The pauses never get shorter. -/
lemma scheduled_mono (initial ceiling : Span) : Monotone (scheduled initial ceiling) := by
  intro j k hjk
  have hpow : 2 ^ j ≤ 2 ^ k := Nat.pow_le_pow_right two_pos hjk
  exact min_le_min_right _ (Nat.mul_le_mul_left _ hpow)

/-- The usual pauses, in nanoseconds. -/
example : (List.range 6).map (scheduled (.seconds 5) (.seconds 60)) =
    [5, 10, 20, 40, 60, 60].map (· * 1000000000) := by decide

/-- A pace that has made so many pauses since it was fresh or started over. -/
structure After (initial ceiling : Span) (j : ℕ) (p : Pace) : Prop where
  initial_eq : p.initial = initial
  ceiling_eq : p.ceiling = max ceiling initial
  next_eq : p.next.nanos = scheduled initial ceiling j

namespace After

variable {initial ceiling : Span} {j : ℕ} {p : Pace}

lemma restart (h : After initial ceiling j p) : After initial ceiling 0 p.restart where
  initial_eq := h.initial_eq
  ceiling_eq := h.ceiling_eq
  next_eq := by rw [scheduled_zero, Pace.restart, h.initial_eq]

lemma of (initial ceiling : Span) : After initial ceiling 0 (.of initial ceiling) where
  initial_eq := rfl
  ceiling_eq := rfl
  next_eq := (scheduled_zero initial ceiling).symm

/-- The pause that is made is the scheduled one, and so is the next. -/
lemma take (h : After initial ceiling j p) :
    p.take.1.nanos = scheduled initial ceiling j ∧ After initial ceiling (j + 1) p.take.2 := by
  refine ⟨h.next_eq, h.initial_eq, h.ceiling_eq, ?_⟩
  have hinitial := initial.nanos_le
  have hceiling := ceiling.nanos_le
  rw [Pace.take, Span.nanos_min, Span.nanos_double, h.next_eq, h.ceiling_eq, Span.nanos_max,
    scheduled, scheduled, Span.limit, pow_succ, ← mul_assoc]
  omega

end After

/-! ## Histories of calls -/

/-- What may be asked of a pace: the pause to make now, or to start over. -/
inductive Call where
  | take
  | restart
  deriving DecidableEq

/-- The pace after a call. -/
def meet (p : Pace) : Call → Pace
  | .take => p.take.2
  | .restart => p.restart

/-- The pause that is answered after these calls to a fresh pace. -/
def answer (initial ceiling : Span) (calls : List Call) : Span :=
  (calls.foldl meet (of initial ceiling)).take.1

/-- How many pauses have been taken since the last restart, or since the beginning. -/
def taken (calls : List Call) : ℕ :=
  (calls.rtakeWhile (· = .take)).length

lemma taken_take (calls : List Call) : taken (calls ++ [.take]) = taken calls + 1 := by
  simp [taken]

lemma taken_restart (calls : List Call) : taken (calls ++ [.restart]) = 0 := by
  simp [taken]

/-- Pauses that follow without a restart add to those before. -/
lemma taken_replicate (calls : List Call) (n : ℕ) :
    taken (calls ++ List.replicate n .take) = taken calls + n := by
  induction n with
  | zero => simp
  | succ n ih => rw [List.replicate_succ', ← List.append_assoc, taken_take, ih, add_assoc]

variable {initial ceiling : Span}

/-- One more call: a pause counts, and a restart begins to count anew. -/
lemma After.meet {p : Pace} {calls : List Call} (h : After initial ceiling (taken calls) p)
    (c : Call) : After initial ceiling (taken (calls ++ [c])) (p.meet c) := by
  cases c with
  | take =>
      rw [taken_take]
      exact h.take.2
  | restart =>
      rw [taken_restart]
      exact h.restart

/-- A pace has made as many pauses as its history tells. -/
lemma after_calls (initial ceiling : Span) (calls : List Call) :
    After initial ceiling (taken calls) (calls.foldl meet (of initial ceiling)) := by
  induction calls using List.reverseRecOn with
  | nil => exact .of initial ceiling
  | append_singleton calls c ih =>
      rw [List.foldl_append]
      exact ih.meet c

lemma nanos_answer (initial ceiling : Span) (calls : List Call) :
    (answer initial ceiling calls).nanos = scheduled initial ceiling (taken calls) :=
  (after_calls initial ceiling calls).take.1

/-- **The pause after every history of calls**, for all spans: the initial one, doubled exactly as
often as pauses have been taken since the last restart, but no longer than the ceiling or, if that
is longer, the initial one.  So pauses do not get shorter without a restart, and every one of them
lies between the initial one and that bound. -/
theorem answer_closed_form (initial ceiling : Span) (calls : List Call) :
    (answer initial ceiling calls).nanos =
        min (initial.nanos * 2 ^ taken calls) (max initial.nanos ceiling.nanos) ∧
      (∀ n, answer initial ceiling calls ≤
        answer initial ceiling (calls ++ List.replicate n .take)) ∧
      initial ≤ answer initial ceiling calls ∧
      answer initial ceiling calls ≤ max initial ceiling := by
  refine ⟨nanos_answer initial ceiling calls, ?_, ?_, ?_⟩
  · intro n
    rw [Span.le_iff_nanos_le, nanos_answer, nanos_answer, taken_replicate]
    exact scheduled_mono initial ceiling (Nat.le_add_right _ _)
  · rw [Span.le_iff_nanos_le, nanos_answer, ← scheduled_zero initial ceiling]
    exact scheduled_mono initial ceiling (Nat.zero_le _)
  · rw [Span.le_iff_nanos_le, nanos_answer, Span.nanos_max]
    exact min_le_right _ _

/-- Doubling stops at the longest span, and a restart begins from the first pause again. -/
example : [[], [.take], [.take, .take], [.take, .restart]].map
      (answer (.seconds Word.half64) ⟨Span.limit, le_rfl⟩) =
    [.seconds Word.half64, ⟨Span.limit, le_rfl⟩, ⟨Span.limit, le_rfl⟩, .seconds Word.half64] := by
  decide

end Backhaul.Pace

end HostAgent
