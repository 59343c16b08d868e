/-!
# Tables over code points

Properties of characters are kept by ascending code points, each written as the gap to the one
before it.

* `placed` — entries with their code points.
* `countUpTo` — binary search in an ascending array.
* `CharSet` — a set, by the points at which membership changes.
* `Table` — values at code points, looked up exactly or by the last entry at or below.
-/

namespace HostAgent.Text

/-- What is told about code points, of which each entry starts with the gap to the one before. -/
def placed (last : Nat) : List (List Nat) → List (Nat × List Nat)
  | (gap :: told) :: rest => (last + gap, told) :: placed (last + gap) rest
  | _ => []

/-- The place behind the elements that are at most `n`, in the part of an ascending array that
starts at `low` and is `size` long. -/
def countUpTo (xs : Array Nat) (n : Nat) (low size : Nat) : Nat :=
  if size = 0 then low
  else
    let half := size / 2
    match xs[low + half]? with
    | none => low
    | some x =>
      if x ≤ n then countUpTo xs n (low + half + 1) (size - half - 1)
      else countUpTo xs n low half
termination_by size
decreasing_by all_goals omega

/-- A set of code points by the points at which membership changes. -/
structure CharSet where
  changes : Array Nat
  deriving Repr, Inhabited

namespace CharSet

/-- The points that gaps lead to. -/
def points (last : Nat) : List Nat → List Nat
  | gap :: rest => (last + gap) :: points (last + gap) rest
  | [] => []

/-- The set that gaps write. -/
def ofGaps (gaps : List Nat) : CharSet :=
  ⟨(points 0 gaps).toArray⟩

/-- Whether a character is in the set: an odd number of changes lies at or below it. -/
def contains (s : CharSet) (c : Char) : Bool :=
  countUpTo s.changes c.toNat 0 s.changes.size % 2 == 1

end CharSet

/-- Values at ascending code points. -/
structure Table (α : Type) where
  points : Array Nat := #[]
  values : Array α := #[]
  deriving Inhabited

namespace Table

variable {α : Type}

/-- The table of entries, which are given in ascending order. -/
def ofEntries (entries : List (Nat × α)) : Table α :=
  ⟨(entries.map Prod.fst).toArray, (entries.map Prod.snd).toArray⟩

/-- The value of the last entry at or below a code point. -/
def below? (t : Table α) (n : Nat) : Option α :=
  match countUpTo t.points n 0 t.points.size with
  | 0 => none
  | k + 1 => t.values[k]?

/-- The value at a code point. -/
def at? (t : Table α) (n : Nat) : Option α :=
  match countUpTo t.points n 0 t.points.size with
  | 0 => none
  | k + 1 => if t.points[k]? = some n then t.values[k]? else none

/-- The table of what rows of entries tell, one number each. -/
def numbers (rows : List (List (List Nat))) : Table Nat :=
  ofEntries ((placed 0 rows.flatten).map fun e => (e.1, e.2.headD 0))

end Table

end HostAgent.Text
