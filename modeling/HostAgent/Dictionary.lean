/-!
# Dictionaries

Texts under keys.  The entries are kept in the order of their keys, so two dictionaries with the
same entries are equal.

* `Dictionary.insert` — sets a key; a key that is there already gets the new value.
* `Dictionary.ofList` — the entries of a list, later ones winning.
-/

namespace HostAgent

/-- Texts under distinct keys, in the order of the keys. -/
structure Dictionary where
  entries : List (String × String) := []
  sorted : entries.Pairwise (fun a b => a.1 < b.1) := by exact List.Pairwise.nil
  deriving DecidableEq, Repr

namespace Dictionary

/-- No texts at all. -/
def empty : Dictionary := {}

instance : Inhabited Dictionary := ⟨empty⟩

/-- Sets a key in a list of entries: before the first larger key, or over the equal one. -/
def place (k v : String) : List (String × String) → List (String × String)
  | [] => [(k, v)]
  | e :: es =>
    if k < e.1 then (k, v) :: e :: es
    else if e.1 < k then e :: place k v es
    else (k, v) :: es

/-- The keys of a list after setting one are those before and that one. -/
theorem mem_place {k v : String} {es : List (String × String)} {x : String × String}
    (h : x ∈ place k v es) : x = (k, v) ∨ x ∈ es := by
  induction es with
  | nil => simpa [place] using h
  | cons e es ih =>
    simp only [place] at h
    split at h
    · simpa using h
    · split at h
      · rcases List.mem_cons.1 h with h | h
        · exact Or.inr (by simp [h])
        · exact (ih h).imp id (List.mem_cons_of_mem _)
      · rcases List.mem_cons.1 h with h | h
        · exact Or.inl h
        · exact Or.inr (List.mem_cons_of_mem _ h)

/-- Setting a key keeps the order. -/
theorem sorted_place {k v : String} {es : List (String × String)}
    (h : es.Pairwise (fun a b => a.1 < b.1)) :
    (place k v es).Pairwise (fun a b => a.1 < b.1) := by
  induction es with
  | nil => simp [place]
  | cons e es ih =>
    have ⟨he, hes⟩ := List.pairwise_cons.1 h
    simp only [place]
    split
    · rename_i hk
      refine List.pairwise_cons.2 ⟨fun x hx => ?_, h⟩
      rcases List.mem_cons.1 hx with rfl | hx
      · exact hk
      · exact String.lt_trans hk (he x hx)
    · split
      · rename_i hk
        refine List.pairwise_cons.2 ⟨fun x hx => ?_, ih hes⟩
        rcases mem_place hx with rfl | hx
        · exact hk
        · exact he x hx
      · rename_i h1 h2
        have hke : k = e.1 := String.le_antisymm (String.not_lt.1 h2) (String.not_lt.1 h1)
        exact List.pairwise_cons.2 ⟨fun x hx => hke ▸ he x hx, hes⟩

/-- Sets a key. -/
def insert (d : Dictionary) (k v : String) : Dictionary :=
  ⟨place k v d.entries, sorted_place d.sorted⟩

/-- The text under a key. -/
def get? (d : Dictionary) (k : String) : Option String :=
  d.entries.lookup k

/-- Removes a key. -/
def erase (d : Dictionary) (k : String) : Dictionary :=
  ⟨d.entries.filter (·.1 != k), d.sorted.filter _⟩

/-- The entries of a list; of several under one key the last one counts. -/
def ofList (es : List (String × String)) : Dictionary :=
  es.foldl (fun d e => d.insert e.1 e.2) empty

end Dictionary

end HostAgent
