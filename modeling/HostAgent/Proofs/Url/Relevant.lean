import HostAgent.Outbound.Session
import HostAgent.Proofs.Text.Lists

/-!
# What counts in a joined text

A URL is made from a text by cutting blanks off its ends and tabs and line breaks out of it.  When
a path is appended to the text of a server, the end of that text is an end no more, and what would
have been cut off there counts.

* `stem` — what counts of a text that goes on.
* `relevant_append` — of a joined text, the first part counts by its stem.
* `blanksBehind` — what would count behind a text, were it to go on.
* `stem_trimSlashes` — a text without the slashes at its end that goes on: as read alone, less some
  slashes or plus the blanks behind it.
-/

namespace HostAgent.Url

open Outbound (trimSlashes)

/-- What is cut off at the ends of a text. -/
def isEdge (c : Char) : Bool := c.val ≤ 0x20

/-- What is not cut out of a text. -/
def counts (c : Char) : Bool := c != '\t' && c != '\n' && c != '\r'

/-- What counts of a text that goes on. -/
def stem (s : String) : List Char := (s.toList.dropWhile isEdge).filter counts

/-- What counts of a text that follows another. -/
def appended (s : String) : List Char := (s.toList.rdropWhile isEdge).filter counts

/-- What would count behind a text, were it to go on. -/
def blanksBehind (s : String) : List Char := (s.toList.rtakeWhile isEdge).filter counts

variable {s path : String} {c : Char}

lemma relevant_eq (s : String) :
    relevant s = ((s.toList.dropWhile isEdge).rdropWhile isEdge).filter counts := rfl

lemma toList_trimSlashes (s : String) :
    (trimSlashes s).toList = s.toList.rdropWhile (· == '/') := String.toList_ofList

lemma head_eq_slash (h : path.toList.head? = some '/') : ∃ ys, path.toList = '/' :: ys := by
  cases hp : path.toList with
  | nil => simp [hp] at h
  | cons c ys =>
      rw [hp, List.head?_cons, Option.some.injEq] at h
      exact ⟨ys, h ▸ rfl⟩

/-- A path starts with what it starts with. -/
lemma appended_of_slash (h : path.toList.head? = some '/') : ∃ p, appended path = '/' :: p := by
  obtain ⟨ys, hys⟩ := head_eq_slash h
  have hcons := @List.rdropWhile_append_cons _ isEdge [] ys '/' rfl
  exact ⟨(ys.rdropWhile isEdge).filter counts, by rw [appended, hys]; exact congrArg _ hcons⟩

/-- **Of a text with a path behind it the first part counts by its stem.** -/
theorem relevant_append (s : String) (h : path.toList.head? = some '/') :
    relevant (s ++ path) = stem s ++ appended path := by
  obtain ⟨ys, hys⟩ := head_eq_slash h
  have hpath := @List.rdropWhile_append_cons _ isEdge [] ys '/' rfl
  rw [List.nil_append, List.nil_append] at hpath
  rw [relevant_eq, String.toList_append, hys, List.dropWhile_append_cons rfl,
    List.rdropWhile_append_cons rfl, ← hpath, List.filter_append, stem, appended, hys]

lemma isEdge_of_mem_blanksBehind (h : c ∈ blanksBehind s) : isEdge c = true :=
  List.mem_rtakeWhile_imp (List.mem_of_mem_filter h)

/-- What counts of a text that goes on is what counts of it alone and the blanks behind it. -/
lemma stem_eq (h : relevant s ≠ []) : stem s = relevant s ++ blanksBehind s := by
  have hne : (s.toList.dropWhile isEdge).rdropWhile isEdge ≠ [] := fun h0 =>
    h (by rw [relevant_eq, h0, List.filter_nil])
  have hinner : ∃ y ∈ s.toList.dropWhile isEdge, isEdge y = false := by
    by_contra hall
    simp only [not_exists, not_and, Bool.not_eq_false] at hall
    exact hne (List.rdropWhile_eq_nil_iff.mpr hall)
  have htake : s.toList.rtakeWhile isEdge = (s.toList.dropWhile isEdge).rtakeWhile isEdge := by
    conv_lhs => rw [← List.takeWhile_append_dropWhile (p := isEdge) (l := s.toList)]
    exact List.rtakeWhile_append hinner
  rw [stem, relevant_eq, blanksBehind, htake, ← List.filter_append,
    List.rdropWhile_append_rtakeWhile]

/-- A text that ends in an edge has no slash at its end. -/
lemma trimSlashes_of_blanksBehind (h : blanksBehind s ≠ []) : trimSlashes s = s := by
  have hne : s.toList.rtakeWhile isEdge ≠ [] := fun h0 => h (by rw [blanksBehind, h0]; rfl)
  rw [ne_eq, List.rtakeWhile_eq_nil_iff, not_forall] at hne
  obtain ⟨hs, hlast⟩ := hne
  rw [not_not] at hlast
  have hself : s.toList.rdropWhile (· == '/') = s.toList := by
    refine List.rdropWhile_eq_self_iff.mpr fun _ hslash => ?_
    rw [eq_of_beq hslash] at hlast
    exact absurd hlast (by decide)
  rw [trimSlashes, ← List.rdropWhile, hself, String.ofList_toList]

/-- **Without the slashes at its end, a text with blanks behind it counts with these when it goes
on.** -/
theorem stem_trimSlashes_blanks (hs : relevant s ≠ []) (h : blanksBehind s ≠ []) :
    stem (trimSlashes s) = relevant s ++ blanksBehind s := by
  rw [trimSlashes_of_blanksBehind h, stem_eq hs]

/-- **Without the slashes at its end, any other text counts when it goes on as it does alone, less
some slashes.** -/
theorem stem_trimSlashes (hs : relevant s ≠ []) (h : blanksBehind s = []) :
    ∃ k, relevant s = stem (trimSlashes s) ++ List.replicate k '/' := by
  obtain ⟨k, hk⟩ := List.exists_rdropWhile_append '/' s.toList
  refine ⟨k, ?_⟩
  have hstem : stem s = relevant s := by rw [stem_eq hs, h, List.append_nil]
  have hslashes : ∀ n, (List.replicate n '/').filter counts = List.replicate n '/' := fun n =>
    List.filter_eq_self.mpr fun a ha => by rw [List.eq_of_mem_replicate ha]; rfl
  rw [← hstem, stem, stem, toList_trimSlashes]
  conv_lhs => rw [hk]
  cases k with
  | zero => simp
  | succ k =>
      rw [List.replicate_succ, List.dropWhile_append_cons rfl, List.filter_append,
        ← List.replicate_succ, hslashes]

end HostAgent.Url
