import HostAgent.Proofs.Text.Lists
import HostAgent.Proofs.Url.Percent

/-!
# Resolving paths

In a URL of the web a path is resolved segment by segment on a stack.  What stands before the last
slash only matters by the stack it leaves, so a path appended to another is resolved on top of it.

* `enter`, `directories` — the stack that segments leave, none of them the last.
* `resolve_append` — what follows is resolved on top of the stack.
* `resolve_map` — encoding what lies on the stack makes no difference to the encoded result.
* `pathText` — segments as they are written; `directories_pathText` — reading them back.
* `segments_append` — the segments of a path behind another.
-/

namespace HostAgent.Url

open Percent

variable {rev rev' xs ys segs : List (List Char)} {s t cs : List Char} {c : Char}

/-! ## The stack -/

/-- The stack after one more segment that is not the last. -/
def enter (rev : List (List Char)) (s : List Char) : List (List Char) :=
  if isDotDot s then rev.tail else if isDot s then rev else s :: rev

/-- A segment that stands for itself. -/
structure Settled (s : List Char) : Prop where
  notAbove : isDotDot s = false
  notHere : isDot s = false

lemma settled_nil : Settled [] := ⟨rfl, rfl⟩

@[simp]
lemma shorten_web (rev : List (List Char)) : shorten .web rev = rev.tail := by
  match rev with
  | [] => rfl
  | [_] => rfl
  | _ :: _ :: _ => rfl

/-- A segment with a blank in it stands for itself. -/
lemma settled_of_mem (hc : c ∈ s) (hblank : c.val ≤ 0x20) : Settled s := by
  have hlower : c.toLower = c := by
    unfold Char.toLower
    refine dif_neg fun hupper => ?_
    have hA := UInt32.le_iff_toNat_le.mp (UInt32.le_trans hupper.1 hblank)
    exact absurd hA (by decide)
  have hmem : c ∈ s.map Char.toLower := List.mem_map.mpr ⟨c, hc, hlower⟩
  have hnot : c ∉ ['.', '%', '2', 'e'] := fun h => by
    have hall : ['.', '%', '2', 'e'].all fun d => !decide (d.val ≤ 0x20) := by decide
    simpa [hblank] using List.all_eq_true.mp hall c h
  constructor
  · rw [← Bool.not_eq_true]
    intro h
    simp only [isDotDot, Bool.or_eq_true, beq_iff_eq] at h
    rcases h with ((h | h) | h) | h <;> · rw [h] at hmem; simp_all
  · rw [← Bool.not_eq_true]
    intro h
    simp only [isDot, Bool.or_eq_true, beq_iff_eq] at h
    rcases h with h | h
    · simp_all
    · rw [h] at hmem
      simp_all

lemma enter_of_settled (h : Settled s) : enter rev s = s :: rev := by
  simp [enter, h.notAbove, h.notHere]

lemma foldl_enter_of_settled (h : ∀ s ∈ xs, Settled s) (rev : List (List Char)) :
    xs.foldl enter rev = xs.reverse ++ rev := by
  induction xs generalizing rev with
  | nil => rfl
  | cons s xs ih =>
      rw [List.foldl_cons, enter_of_settled (h s (by simp)), ih fun t ht => h t (by simp [ht])]
      simp

/-- One segment is resolved.  A dot segment at the end leaves an empty one behind. -/
lemma resolve_step (rev : List (List Char)) (s : List Char) (rest : List (List Char)) :
    resolve .web rev (s :: rest) = resolve .web
      (if rest.isEmpty && (isDotDot s || isDot s) then [] :: enter rev s else enter rev s)
      rest := by
  have hkind : (Kind.web == Kind.file) = false := rfl
  rw [resolve, enter]
  cases habove : isDotDot s <;> cases hhere : isDot s <;> cases rest <;> simp [hkind]

lemma resolve_singleton (rev : List (List Char)) (s : List Char) :
    ∃ k ≤ 1, resolve .web rev [s] = (enter rev s).reverse ++ List.replicate k [] := by
  rw [resolve_step, resolve]
  cases isDotDot s || isDot s
  · exact ⟨0, by omega, by simp⟩
  · exact ⟨1, le_rfl, by simp⟩

/-- One segment before others. -/
lemma resolve_cons (h : ys ≠ []) (rev : List (List Char)) (s : List Char) :
    resolve .web rev (s :: ys) = resolve .web (enter rev s) ys := by
  have hys : ys.isEmpty = false := by simpa using h
  simp [resolve_step, hys]

/-- **What follows is resolved on top of the stack.** -/
theorem resolve_append (h : ys ≠ []) (rev xs : List (List Char)) :
    resolve .web rev (xs ++ ys) = resolve .web (xs.foldl enter rev) ys := by
  induction xs generalizing rev with
  | nil => rfl
  | cons s xs ih => rw [List.cons_append, resolve_cons (by simp [h]), ih, List.foldl_cons]

/-- What all segments resolve to, by the stack they leave. -/
lemma resolve_eq (h : xs ≠ []) (rev : List (List Char)) :
    ∃ k ≤ 1, resolve .web rev xs = (xs.foldl enter rev).reverse ++ List.replicate k [] := by
  obtain ⟨init, last, rfl⟩ : ∃ init last, xs = init ++ [last] :=
    ⟨_, _, (List.dropLast_append_getLast h).symm⟩
  rw [resolve_append (by simp), List.foldl_append]
  exact resolve_singleton _ last

lemma resolve_empty (rev : List (List Char)) : resolve .web rev [[]] = rev.reverse ++ [[]] := by
  simp [resolve, isDotDot, isDot]

/-- Segments that stand for themselves stay. -/
lemma resolve_of_settled (h : ∀ s ∈ xs, Settled s) (rev : List (List Char)) :
    resolve .web rev xs = rev.reverse ++ xs := by
  induction xs generalizing rev with
  | nil => simp [resolve]
  | cons s xs ih =>
      have hs := h s (by simp)
      rw [resolve_step, enter_of_settled hs, hs.notAbove, hs.notHere, Bool.or_self, Bool.and_false,
        if_neg (by simp), ih fun t ht => h t (by simp [ht])]
      simp

/-- What lies on the stack lay there before or is one of the segments that were entered. -/
lemma mem_foldl_enter (h : s ∈ xs.foldl enter rev) : s ∈ rev ∨ s ∈ xs ∧ Settled s := by
  induction xs generalizing rev with
  | nil => exact .inl h
  | cons t xs ih =>
      rcases ih h with h | ⟨h, hs⟩
      · unfold enter at h
        split_ifs at h with habove hhere
        · exact .inl (List.mem_of_mem_tail h)
        · exact .inl h
        · rcases List.mem_cons.mp h with rfl | h
          · exact .inr ⟨by simp, by simpa using habove, by simpa using hhere⟩
          · exact .inl h
      · exact .inr ⟨by simp [h], hs⟩

lemma map_enter (f : List Char → List Char) (h : rev.map f = rev'.map f) (s : List Char) :
    (enter rev s).map f = (enter rev' s).map f := by
  unfold enter
  split_ifs
  · rw [List.map_tail, List.map_tail, h]
  · exact h
  · rw [List.map_cons, List.map_cons, h]

/-- **A change to what lies on the stack that does not show in the end makes no difference.** -/
theorem resolve_map (f : List Char → List Char) (h : rev.map f = rev'.map f) (hxs : xs ≠ []) :
    (resolve .web rev xs).map f = (resolve .web rev' xs).map f := by
  obtain ⟨init, last, rfl⟩ : ∃ init last, xs = init ++ [last] :=
    ⟨_, _, (List.dropLast_append_getLast hxs).symm⟩
  have hfold : (init.foldl enter rev).map f = (init.foldl enter rev').map f := by
    clear hxs
    induction init generalizing rev rev' with
    | nil => exact h
    | cons s init ih => exact ih (map_enter f h s)
  rw [resolve_append (by simp), resolve_append (by simp)]
  generalize init.foldl enter rev = r at hfold ⊢
  generalize init.foldl enter rev' = r' at hfold ⊢
  have hlast := map_enter f hfold last
  rw [resolve_step, resolve_step, resolve, resolve, List.map_reverse, List.map_reverse]
  split_ifs
  · rw [List.map_cons, List.map_cons, hlast]
  · rw [hlast]

/-! ## Slashes -/

/-- What separates the segments of a path. -/
def isSlash (c : Char) : Bool := c == '/' || c == '\\'

lemma splitPath_web (cs : List Char) : splitPath .web cs = cs.splitOnP isSlash := by
  have hsep : (fun c : Char => c == '/' || (Kind.web != Kind.other && c == '\\')) = isSlash := by
    funext c
    rfl
  rw [splitPath, hsep]

lemma splitPath_ne_nil (cs : List Char) : splitPath .web cs ≠ [] := by
  rw [splitPath_web]
  exact List.splitOnP_ne_nil _ _

lemma splitPath_append_slash (xs ys : List Char) :
    splitPath .web (xs ++ '/' :: ys) = splitPath .web xs ++ splitPath .web ys := by
  simp only [splitPath_web]
  exact List.splitOnP_append_cons xs ys rfl

lemma splitPath_of_forall (h : ∀ c ∈ cs, isSlash c = false) : splitPath .web cs = [cs] := by
  rw [splitPath_web]
  exact List.splitOnP_eq_singleton h

/-- Between the slashes there are no slashes. -/
lemma isSlash_of_mem_splitPath (h : s ∈ splitPath .web cs) (hc : c ∈ s) : isSlash c = false := by
  rw [splitPath_web] at h
  exact List.eq_false_of_mem_splitOnP h hc

/-- What is put behind a path without a slash becomes part of its last segment. -/
lemma splitPath_append (ht : ∀ c ∈ t, isSlash c = false) (cs : List Char) : ∃ init last,
    splitPath .web cs = init ++ [last] ∧ splitPath .web (cs ++ t) = init ++ [last ++ t] := by
  simp only [splitPath_web]
  induction cs with
  | nil => exact ⟨[], [], rfl, List.splitOnP_eq_singleton ht⟩
  | cons c cs ih =>
      obtain ⟨init, last, hcs, hct⟩ := ih
      rw [List.cons_append, List.splitOnP_cons_eq_if_modifyHead,
        List.splitOnP_cons_eq_if_modifyHead, hcs, hct]
      split_ifs
      · exact ⟨[] :: init, last, rfl, rfl⟩
      · cases init with
        | nil => exact ⟨[], c :: last, rfl, rfl⟩
        | cons s init => exact ⟨(c :: s) :: init, last, rfl, rfl⟩

/-- What follows the slash that a path starts with. -/
def body : List Char → List Char
  | '/' :: r => r
  | '\\' :: r => r
  | cs => cs

lemma hierarchical_web (cs : List Char) :
    hierarchical .web cs = .segments ((segments .web (body cs)).map String.ofList) := by
  have hkind : (Kind.web == Kind.other) = false := rfl
  unfold hierarchical body
  split <;> simp [hkind]

lemma segments_web (cs : List Char) :
    segments .web cs = (resolve .web [] (splitPath .web cs)).map (encode inPath) := rfl

/-- A text that is empty or starts with a slash. -/
def Rooted (cs : List Char) : Prop := cs = [] ∨ ∃ c r, isSlash c = true ∧ cs = c :: r

lemma body_cons (h : isSlash c = true) (r : List Char) : body (c :: r) = r := by
  simp only [isSlash, Bool.or_eq_true, beq_iff_eq] at h
  rcases h with rfl | rfl <;> rfl

/-- The stack that a path leaves for what follows it. -/
def directories (cs : List Char) : List (List Char) :=
  if cs.isEmpty then [] else (splitPath .web (body cs)).foldl enter []

/-- **The segments of a path behind another are resolved on top of its stack.** -/
theorem segments_append (h : Rooted cs) (p : List Char) :
    segments .web (body (cs ++ '/' :: p))
      = (resolve .web (directories cs) (splitPath .web p)).map (encode inPath) := by
  rcases h with rfl | ⟨c, r, hc, rfl⟩
  · rfl
  · rw [segments_web, List.cons_append, body_cons hc, splitPath_append_slash,
      resolve_append (splitPath_ne_nil p), directories, body_cons hc]
    rfl

lemma directories_append (h : Rooted cs) (p : List Char) :
    directories (cs ++ '/' :: p) = (splitPath .web p).foldl enter (directories cs) := by
  rcases h with rfl | ⟨c, r, hc, rfl⟩
  · rfl
  · rw [directories, directories, List.cons_append, body_cons hc, body_cons hc,
      splitPath_append_slash, List.foldl_append]
    rfl

lemma Rooted.append_slash (h : Rooted cs) (p : List Char) : Rooted (cs ++ '/' :: p) := by
  rcases h with rfl | ⟨c, r, hc, rfl⟩
  · exact .inr ⟨'/', p, rfl, rfl⟩
  · exact .inr ⟨c, _, hc, rfl⟩

/-- Slashes at the end leave empty segments on the stack. -/
lemma directories_append_slashes (h : Rooted cs) (k : ℕ) :
    directories (cs ++ List.replicate k '/') = List.replicate k [] ++ directories cs := by
  induction k generalizing cs with
  | zero => simp
  | succ k ih =>
      have hfirst : directories (cs ++ ['/']) = [] :: directories cs := by
        rw [directories_append h, splitPath_of_forall (by simp)]
        rfl
      rw [List.replicate_succ, List.append_cons, ih (h.append_slash []), hfirst,
        List.append_cons, ← List.replicate_succ']

/-! ## Written paths -/

/-- Segments with a slash before each. -/
def pathText (segs : List (List Char)) : List Char := segs.flatMap ('/' :: ·)

/-- A segment as it stands in a URL: resolved and encoded. -/
structure Canonical (s : List Char) : Prop where
  settled : Settled s
  fits : ∀ c ∈ s, Fits inPath c
  noSlash : ∀ c ∈ s, isSlash c = false

lemma canonical_nil : Canonical [] := ⟨settled_nil, by simp, by simp⟩

/-- A segment that stands for itself is canonical when it is encoded. -/
lemma canonical_encode (h : Settled s) (hs : ∀ c ∈ s, isSlash c = false) :
    Canonical (encode inPath s) where
  settled :=
    ⟨by rw [isDotDot_encode sparing_inPath, h.notAbove],
      by rw [isDot_encode sparing_inPath, h.notHere]⟩
  fits _ hc := fits_of_mem_encode sparing_inPath hc
  noSlash c hc := by
    obtain ⟨d, hd, hc⟩ := List.mem_flatMap.mp hc
    by_cases hfits : Fits inPath d
    · rw [encodeChar_of_fits hfits, List.mem_singleton] at hc
      exact hc ▸ hs d hd
    · rw [encodeChar_of_not_fits hfits, List.mem_flatMap] at hc
      obtain ⟨b, -, hb⟩ := hc
      have hall : ('%' :: Text.Hex.digits).all (!isSlash ·) := by decide +kernel
      simpa using List.all_eq_true.mp hall c (List.mem_cons.mpr (mem_ofByte hb))

lemma Canonical.encode_eq (h : Canonical s) : encode inPath s = s := encode_of_fits h.fits

/-- What lies on the stack of a path. -/
lemma settled_of_mem_directories (h : s ∈ directories cs) :
    Settled s ∧ ∀ c ∈ s, isSlash c = false := by
  unfold directories at h
  split at h
  · simp at h
  · rcases mem_foldl_enter h with h | ⟨h, hs⟩
    · simp at h
    · exact ⟨hs, fun c hc => isSlash_of_mem_splitPath h hc⟩

lemma canonical_of_mem_map_directories (h : s ∈ ((directories cs).map (encode inPath))) :
    Canonical s := by
  obtain ⟨t, ht, rfl⟩ := List.mem_map.mp h
  obtain ⟨hsettled, hslash⟩ := settled_of_mem_directories ht
  exact canonical_encode hsettled hslash

/-- All segments of a path are canonical. -/
theorem canonical_of_mem_segments (h : s ∈ segments .web cs) : Canonical s := by
  rw [segments_web, List.mem_map] at h
  obtain ⟨t, ht, rfl⟩ := h
  obtain ⟨k, -, hk⟩ := resolve_eq (splitPath_ne_nil cs) []
  rw [hk, List.mem_append, List.mem_reverse] at ht
  rcases ht with ht | ht
  · rcases mem_foldl_enter ht with ht | ⟨ht, hs⟩
    · simp at ht
    · exact canonical_encode hs fun c hc => isSlash_of_mem_splitPath ht hc
  · rw [List.eq_of_mem_replicate ht]
    exact canonical_nil

lemma segments_ne_nil (cs : List Char) : segments .web cs ≠ [] := by
  obtain ⟨init, last, hsplit⟩ : ∃ init last, splitPath .web cs = init ++ [last] :=
    ⟨_, _, (List.dropLast_append_getLast (splitPath_ne_nil cs)).symm⟩
  rw [segments_web, hsplit, resolve_append (by simp), resolve_step, resolve, ne_eq,
    List.map_eq_nil_iff, List.reverse_eq_nil_iff, enter]
  cases isDotDot last <;> cases isDot last <;> simp

/-- Written segments start with a slash. -/
lemma rooted_pathText (segs : List (List Char)) : Rooted (pathText segs) := by
  cases segs with
  | nil => exact .inl rfl
  | cons s segs => exact .inr ⟨'/', s ++ pathText segs, rfl, rfl⟩

lemma pathText_append (xs ys : List (List Char)) :
    pathText (xs ++ ys) = pathText xs ++ pathText ys := List.flatMap_append

lemma pathText_replicate (k : ℕ) : pathText (List.replicate k []) = List.replicate k '/' := by
  induction k with
  | zero => rfl
  | succ k ih => rw [List.replicate_succ, pathText, List.flatMap_cons, ← pathText, ih]; rfl

/-- What was written segment by segment is split into the segments. -/
lemma splitPath_pathText (h : segs ≠ []) (hs : ∀ s ∈ segs, ∀ c ∈ s, isSlash c = false) :
    splitPath .web (body (pathText segs)) = segs := by
  induction segs with
  | nil => exact absurd rfl h
  | cons s segs ih =>
      rw [pathText, List.flatMap_cons, List.cons_append, body_cons rfl, ← pathText]
      have hself := splitPath_of_forall (hs s (by simp))
      cases segs with
      | nil => simpa [pathText] using hself
      | cons t segs =>
          have hrest := ih (by simp) fun t ht => hs t (by simp [ht])
          rw [pathText, List.flatMap_cons, List.cons_append, body_cons rfl] at hrest
          rw [pathText, List.flatMap_cons, List.cons_append, splitPath_append_slash, hself, hrest]
          rfl

/-- **Written segments are read back.** -/
theorem segments_pathText (h : segs ≠ []) (hs : ∀ s ∈ segs, Canonical s) :
    segments .web (body (pathText segs)) = segs := by
  rw [segments_web, splitPath_pathText h fun s hm => (hs s hm).noSlash,
    resolve_of_settled fun s hm => (hs s hm).settled, List.reverse_nil, List.nil_append]
  conv_rhs => rw [← List.map_id segs]
  exact List.map_congr_left fun s hm => (hs s hm).encode_eq

/-- **Written segments leave themselves on the stack.** -/
theorem directories_pathText (hs : ∀ s ∈ segs, Canonical s) :
    directories (pathText segs) = segs.reverse := by
  cases segs with
  | nil => rfl
  | cons s segs =>
      have hne : (pathText (s :: segs)).isEmpty = false := rfl
      rw [directories, hne, splitPath_pathText (by simp) fun s hm => (hs s hm).noSlash]
      simpa using foldl_enter_of_settled (fun s hm => (hs s hm).settled) []

/-- Slashes at the end of written segments are empty segments. -/
lemma rdropWhile_pathText (hs : ∀ s ∈ segs, ∀ c ∈ s, isSlash c = false) :
    (pathText segs).rdropWhile (· == '/') = pathText (segs.rdropWhile List.isEmpty) := by
  induction segs using List.reverseRecOn with
  | nil => rfl
  | append_singleton segs s ih =>
      rw [pathText_append]
      have hsingle : pathText [s] = '/' :: s := by simp [pathText]
      rw [hsingle]
      cases s using List.reverseRecOn with
      | nil =>
          rw [List.rdropWhile_concat_pos _ _ _ (by simp), List.rdropWhile_concat_pos _ _ _ rfl,
            ih fun s hm => hs s (by simp [hm])]
      | append_singleton s c =>
          have hc : c ≠ '/' := by
            rintro rfl
            exact absurd (hs (s ++ ['/']) (by simp) '/' (by simp)) (by decide)
          rw [List.rdropWhile_concat_neg _ _ _ (by simp), pathText_append, ← List.cons_append,
            ← List.append_assoc, List.rdropWhile_concat_neg _ _ _ (by simpa using hc)]
          simp [pathText]

end HostAgent.Url
