import HostAgent.Proofs.Fleet.Turns

/-!
# Motions

Everything that may happen to a fleet, one small step at a time, and runs made of such steps.

* `Motion`, `move` — a producer offers a request, somebody else takes one, the clock runs, an alarm
  rings, the order to stop arrives, or an awake courier does one action.  Any courier that is awake
  may be the one: a run is any interleaving at all.
* `run` — what a list of motions makes of a fleet.
* `Follows` — a run all of whose motions keep to a rule; `Serial` is the rule of a single thread
  whose clock stands still as long as somebody is awake, and under `Unbroken` the couriers go on
  one at a time too, but in any order.
* `Sound.run` — whatever happens, the fleet stays sound.
-/

namespace HostAgent.Fleet

open Outbound (Request)

variable {carrier : Carrier} {f g : Fleet} {i j : ℕ} {m : Motion} {ms : List Motion}

/-- What may happen next. -/
inductive Motion where
  /-- A producer inserts a request. -/
  | offer (r : Request)
  /-- A courier that is awake does one action. -/
  | act (i : ℕ)
  /-- The clock runs to a moment. -/
  | pass (t : Int)
  /-- The alarm of a courier rings, if it is due. -/
  | ring (i : ℕ)
  /-- Somebody else takes the most urgent request. -/
  | pop
  /-- The couriers are told to stop. -/
  | stop

/-- The fleet with an awake courier at the head of those who are awake. -/
def first (f : Fleet) (i : ℕ) : Fleet :=
  { f with awake := i :: f.awake.erase i }

/-- The fleet at a later moment. -/
def later (f : Fleet) (t : Int) : Fleet :=
  { f with now := max f.now t }

/-- A motion; one that cannot take place changes nothing. -/
def move (carrier : Carrier) (f : Fleet) : Motion → Fleet
  | .offer r => f.offer r
  | .act i => if i ∈ f.awake then step carrier (f.first i) else f
  | .pass t => f.later t
  | .ring i => if (f.phase i).alarm?.any (· ≤ f.now) then f.ring i else f
  | .pop => f.pop.2
  | .stop => f.stop

/-- One motion after the other. -/
def run (carrier : Carrier) (f : Fleet) (ms : List Motion) : Fleet :=
  ms.foldl (move carrier) f

@[simp] lemma run_nil : run carrier f [] = f := rfl

@[simp] lemma run_cons : run carrier f (m :: ms) = run carrier (move carrier f m) ms := rfl

lemma run_append (ms ms' : List Motion) :
    run carrier f (ms ++ ms') = run carrier (run carrier f ms) ms' :=
  List.foldl_append

lemma run_snoc : run carrier f (ms ++ [m]) = move carrier (run carrier f ms) m :=
  run_append ms [m]

/-! ## Rules -/

/-- Every motion of a run keeps to a rule, in the state in which it takes place. -/
def Follows (carrier : Carrier) (rule : Fleet → Motion → Prop) : Fleet → List Motion → Prop
  | _, [] => True
  | f, m :: ms => rule f m ∧ Follows carrier rule (move carrier f m) ms

variable {rule rule' : Fleet → Motion → Prop}

lemma follows_append {ms' : List Motion} : Follows carrier rule f (ms ++ ms') ↔
    Follows carrier rule f ms ∧ Follows carrier rule (run carrier f ms) ms' := by
  induction ms generalizing f with
  | nil => simp [Follows]
  | cons m ms ih => simp [Follows, ih, and_assoc]

lemma follows_snoc : Follows carrier rule f (ms ++ [m]) ↔
    Follows carrier rule f ms ∧ rule (run carrier f ms) m := by
  simp [follows_append, Follows]

lemma Follows.mono (h : ∀ f m, rule f m → rule' f m) (hf : Follows carrier rule f ms) :
    Follows carrier rule' f ms := by
  induction ms generalizing f with
  | nil => trivial
  | cons m ms ih => exact ⟨h _ _ hf.1, ih hf.2⟩

instance [∀ f m, Decidable (rule f m)] : ∀ f ms, Decidable (Follows carrier rule f ms)
  | _, [] => isTrue trivial
  | f, m :: ms =>
    have := instDecidableFollows (move carrier f m) ms
    inferInstanceAs (Decidable (rule f m ∧ Follows carrier rule (move carrier f m) ms))

/-- What holds at first and is kept by every motion that keeps to the rule, holds after the
run. -/
theorem Follows.induction {P : Fleet → Prop} (hf : Follows carrier rule f ms) (h : P f)
    (hmove : ∀ f m, P f → rule f m → P (move carrier f m)) : P (run carrier f ms) := by
  induction ms generalizing f with
  | nil => exact h
  | cons m ms ih => exact ih hf.2 (hmove _ _ h hf.1)

/-- Nobody is awake, and no alarm is set for an earlier moment. -/
def QuietUntil (f : Fleet) (t : Int) : Prop :=
  f.awake = [] ∧ ∀ i a, (f.phase i).alarm? = some a → t ≤ a

/-- What holds of one who is about to look holds of everybody, if it holds of all couriers. -/
lemma forall_phase_iff {P : Phase → Prop} (h : P .looking) :
    (∀ i, P (f.phase i)) ↔ ∀ i < f.couriers.size, P (f.phase i) := by
  refine ⟨fun hf i _ => hf i, fun hf i => ?_⟩
  by_cases hi : i < f.couriers.size
  · exact hf i hi
  · rw [phase_of_size_le (not_lt.mp hi)]
    exact h

instance (f : Fleet) (t : Int) : Decidable (f.QuietUntil t) :=
  decidable_of_iff (f.awake = [] ∧ ∀ i < f.couriers.size, ∀ a ∈ (f.phase i).alarm?, t ≤ a)
    (and_congr_right fun _ =>
      (forall_phase_iff (P := fun p => ∀ a ∈ p.alarm?, t ≤ a) fun _ ha => nomatch ha).symm)

/-- The clock runs only while everybody waits, and not past an alarm. -/
def Prompt (f : Fleet) : Motion → Prop
  | .pass t => f.QuietUntil t
  | _ => True

/-- Whether a courier in this phase is in the middle of a turn: it has a request in hand, or has
put it back and not yet begun to wait. -/
def Phase.midTurn : Phase → Bool
  | .holding _ | .enlisting _ => true
  | _ => false

/-- Nobody is in the middle of a turn. -/
def BetweenTurns (f : Fleet) : Prop :=
  ∀ i, (f.phase i).midTurn = false

instance (f : Fleet) : Decidable f.BetweenTurns :=
  decidable_of_iff (∀ i < f.couriers.size, (f.phase i).midTurn = false)
    (forall_phase_iff (P := fun p => p.midTurn = false) rfl).symm

/-- Those who are awake take turns, others interfere between turns only, and the clock runs only
while everybody waits. -/
def Serial (f : Fleet) : Motion → Prop
  | .act i => f.awake.head? = some i
  | .pass t => f.QuietUntil t
  | .ring _ => True
  | .offer _ | .pop | .stop => f.BetweenTurns

/-- The rule of couriers that go on until they wait, one at a time and in any order; others
interfere between turns only, and the clock runs only while everybody waits. -/
def Unbroken (f : Fleet) : Motion → Prop
  | .act i => f.BetweenTurns ∨ f.awake.head? = some i
  | .pass t => f.QuietUntil t
  | .ring _ => True
  | .offer _ | .pop | .stop => f.BetweenTurns

instance (f : Fleet) : ∀ m, Decidable (f.Prompt m)
  | .pass t => inferInstanceAs (Decidable (f.QuietUntil t))
  | .offer _ | .act _ | .ring _ | .pop | .stop => isTrue trivial

instance (f : Fleet) : ∀ m, Decidable (f.Serial m)
  | .act i => inferInstanceAs (Decidable (f.awake.head? = some i))
  | .pass t => inferInstanceAs (Decidable (f.QuietUntil t))
  | .ring _ => isTrue trivial
  | .offer _ | .pop | .stop => inferInstanceAs (Decidable f.BetweenTurns)

instance (f : Fleet) : ∀ m, Decidable (f.Unbroken m)
  | .act i => inferInstanceAs (Decidable (f.BetweenTurns ∨ f.awake.head? = some i))
  | .pass t => inferInstanceAs (Decidable (f.QuietUntil t))
  | .ring _ => isTrue trivial
  | .offer _ | .pop | .stop => inferInstanceAs (Decidable f.BetweenTurns)

lemma Serial.prompt (h : Serial f m) : Prompt f m := by
  cases m <;> first | exact h | trivial

/-! ## Soundness -/

lemma first_of_head (h : f.awake.head? = some i) : f.first i = f := by
  obtain ⟨others, ha⟩ := List.head?_eq_some_iff.mp h
  have hself : i :: f.awake.erase i = f.awake := by simp [ha]
  rw [first, hself]

lemma move_act_of_head (h : f.awake.head? = some i) :
    move carrier f (.act i) = step carrier f := by
  have hi : i ∈ f.awake := List.mem_of_mem_head? h
  simp only [move, hi, if_true, first_of_head h]

lemma Sound.first (h : Sound f) (hi : i ∈ f.awake) : Sound (f.first i) where
  line_nodup := h.line_nodup
  mem_line := h.mem_line
  awake_nodup := (List.perm_cons_erase hi).nodup_iff.mp h.awake_nodup
  mem_awake j := (List.perm_cons_erase hi).mem_iff.symm.trans (h.mem_awake j)
  line_of_permit := h.line_of_permit

/-- An action of an awake courier is one of the branches. -/
lemma Sound.act (h : Sound f) (hi : i ∈ f.awake) :
    Act carrier (f.first i) i (step carrier (f.first i)) :=
  step_act rfl ((h.mem_awake i).mp hi).2

lemma Sound.later (h : Sound f) (t : Int) : Sound (f.later t) :=
  h.congr rfl rfl rfl fun _ => rfl

lemma Sound.move (h : Sound f) (m : Motion) : Sound (move carrier f m) := by
  cases m with
  | offer r => exact h.offer r
  | act i =>
      rw [Fleet.move]
      split_ifs with hi
      · exact (h.act hi).sound (h.first hi) rfl
      · exact h
  | pass t => exact h.later t
  | ring i =>
      rw [Fleet.move]
      split_ifs
      · exact h.ring i
      · exact h
  | pop => exact h.pop
  | stop => exact h.stop

/-- **Whatever happens, a fleet stays sound.** -/
theorem Sound.run (h : Sound f) (ms : List Motion) : Sound (run carrier f ms) := by
  induction ms generalizing f with
  | nil => exact h
  | cons m ms ih => exact ih (h.move m)

end HostAgent.Fleet
