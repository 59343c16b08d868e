import HostAgent.Proofs.Url.Paths
import HostAgent.Proofs.Url.Relevant

/-!
# What follows the authority of a URL

Path, query and fragment of a URL of the web are read from the text behind its authority.  A path
put behind that text goes to its last part: it is resolved against the path, or it becomes part of
the query or of the fragment.

* `Ending` — path, query and fragment; `Ending.read` reads them, `Ending.text` writes them.
* `directory` — a text behind an authority as what follows it finds it: dot segments resolved, all
  encoded.
* `read_append` — what follows only depends on the directory.
* `text_read` — a text as it is written is its directory, but for a slash at its end.
* `Resolved` — the texts that are their own directories, among them a directory without the slashes
  at its end.
-/

namespace HostAgent.Url

open Percent

/-- What follows the authority of a URL, each part as it is written. -/
structure Ending where
  segments : List (List Char)
  query : Option (List Char)
  fragment : Option (List Char)

variable {t y q p : List Char} {oq ofr : Option (List Char)} {segs : List (List Char)} {c : Char}

/-! ## Query and fragment split off -/

/-- A text with neither query nor fragment. -/
def Plain (cs : List Char) : Prop := ∀ c ∈ cs, c ≠ '#' ∧ c ≠ '?'

/-- What precedes query and fragment does not matter to them. -/
lemma splitEnd_append (h : Plain y) (t : List Char) :
    splitEnd (y ++ t) = (y ++ (splitEnd t).1, (splitEnd t).2) := by
  have hhash : ∀ c ∈ y, (c != '#') = true := fun c hc => by simpa using (h c hc).1
  have hmark : ∀ c ∈ y, (c != '?') = true := fun c hc => by simpa using (h c hc).2
  simp only [splitEnd, List.takeWhile_append_of_pos hhash, List.dropWhile_append_of_pos hhash,
    List.takeWhile_append_of_pos hmark, List.dropWhile_append_of_pos hmark]

lemma splitEnd_plain (h : Plain y) : splitEnd y = (y, none, none) := by
  simpa [splitEnd] using splitEnd_append h []

lemma splitEnd_query (h : '#' ∉ q) (t : List Char) : splitEnd ('?' :: (q ++ t)) =
    ([], some (q ++ t.takeWhile (· != '#')), (t.dropWhile (· != '#')).tail?) := by
  have hhash : ∀ c ∈ q, (c != '#') = true := fun c hc => by
    simpa using ne_of_mem_of_not_mem hc h
  simp [splitEnd, List.takeWhile_append_of_pos hhash, List.dropWhile_append_of_pos hhash]

lemma splitEnd_fragment (h : ∀ q ∈ oq, '#' ∉ q) (f : List Char) :
    splitEnd (oq.elim [] ('?' :: ·) ++ '#' :: f) = ([], oq, some f) := by
  cases oq with
  | none => simp [splitEnd]
  | some q =>
      rw [Option.elim_some, List.cons_append, splitEnd_query (h q rfl)]
      simp

/-- A text by what it ends in: its path, its query or its fragment. -/
inductive Form : List Char → Prop where
  | path (y : List Char) (hy : Plain y) : Form y
  | query (y q : List Char) (hy : Plain y) (hq : '#' ∉ q) : Form (y ++ '?' :: q)
  | fragment (y : List Char) (oq : Option (List Char)) (f : List Char) (hy : Plain y)
      (hq : ∀ q ∈ oq, '#' ∉ q) : Form (y ++ (oq.elim [] ('?' :: ·) ++ '#' :: f))

lemma form (t : List Char) : Form t := by
  have hsplit : ∀ (d : Char) (xs : List Char), d ∉ xs ∨
      ∃ front back, d ∉ front ∧ xs = front ++ d :: back := fun d xs => by
    by_cases h : d ∈ xs
    · obtain ⟨front, back, rfl, hfront⟩ := List.eq_append_cons_of_mem h
      exact .inr ⟨front, back, hfront, rfl⟩
    · exact .inl h
  have hplain : ∀ xs : List Char, '#' ∉ xs → '?' ∉ xs → Plain xs := fun xs h1 h2 c hc =>
    ⟨fun h => h1 (h ▸ hc), fun h => h2 (h ▸ hc)⟩
  rcases hsplit '#' t with hhash | ⟨front, f, hfront, rfl⟩
  · rcases hsplit '?' t with hmark | ⟨y, q, hy, rfl⟩
    · exact .path t (hplain t hhash hmark)
    · exact .query y q (hplain y (fun h => hhash (by simp [h])) hy) fun h => hhash (by simp [h])
  · rcases hsplit '?' front with hmark | ⟨y, q, hy, rfl⟩
    · simpa using Form.fragment front none f (hplain front hfront hmark) (by simp)
    · have := Form.fragment y (some q) f (hplain y (fun h => hfront (by simp [h])) hy)
        (by rintro _ ⟨⟩ h; exact hfront (by simp [h]))
      simpa using this

/-! ## Reading and writing -/

namespace Ending

/-- Reads path, query and fragment. -/
def read (t : List Char) : Ending where
  segments := Url.segments .web (body (splitEnd t).1)
  query := (splitEnd t).2.1.map (encode inWebQuery)
  fragment := (splitEnd t).2.2.map (encode inFragment)

/-- Writes path, query and fragment. -/
def text (e : Ending) : List Char :=
  pathText e.segments ++ (e.query.elim [] ('?' :: ·) ++ e.fragment.elim [] ('#' :: ·))

/-- The URL with this ending. -/
def on (e : Ending) (u : Url) : Url :=
  { u with
    path := .segments (e.segments.map String.ofList)
    query := e.query.map String.ofList
    fragment := e.fragment.map String.ofList }

end Ending

lemma withEnd_eq (u : Url) (t : List Char) :
    withEnd .web { u with path := hierarchical .web (splitEnd t).1 } (splitEnd t).2.1
      (splitEnd t).2.2 = (Ending.read t).on u := by
  have hkind : (Kind.web == Kind.other) = false := rfl
  simp [withEnd, hierarchical_web, Ending.on, Ending.read, hkind, Option.map_map, Function.comp_def]

lemma read_path (h : Plain y) : Ending.read y = ⟨segments .web (body y), none, none⟩ := by
  rw [Ending.read, splitEnd_plain h]
  rfl

lemma read_query (hy : Plain y) (hq : '#' ∉ q) (t : List Char) :
    Ending.read (y ++ '?' :: (q ++ t)) =
    ⟨segments .web (body y),
      some (encode inWebQuery q ++ encode inWebQuery (t.takeWhile (· != '#'))),
      (t.dropWhile (· != '#')).tail?.map (encode inFragment)⟩ := by
  rw [Ending.read, splitEnd_append hy, splitEnd_query hq]
  simp [encode_append]

lemma read_fragment (hy : Plain y) (hq : ∀ q ∈ oq, '#' ∉ q) (f : List Char) :
    Ending.read (y ++ (oq.elim [] ('?' :: ·) ++ '#' :: f)) =
      ⟨segments .web (body y), oq.map (encode inWebQuery), some (encode inFragment f)⟩ := by
  rw [Ending.read, splitEnd_append hy, splitEnd_fragment hq]
  simp

/-! ## Directories -/

/-- A text behind an authority as a path behind it finds it. -/
def directory (t : List Char) : List Char :=
  match splitEnd t with
  | (y, none, none) => pathText ((directories y).map (encode inPath)).reverse
  | _ => (Ending.read t).text

lemma directory_path (h : Plain y) :
    directory y = pathText ((directories y).map (encode inPath)).reverse := by
  rw [directory, splitEnd_plain h]

lemma directory_query (hy : Plain y) (hq : '#' ∉ q) : directory (y ++ '?' :: q) =
    pathText (segments .web (body y)) ++ '?' :: encode inWebQuery q := by
  have hread := read_query hy hq []
  have hsplit := splitEnd_append hy ('?' :: (q ++ []))
  rw [splitEnd_query hq] at hsplit
  simp only [List.append_nil, List.takeWhile_nil, List.dropWhile_nil, encode_nil] at hread hsplit
  rw [directory, hsplit]
  simp [hread, Ending.text]

lemma directory_fragment (hy : Plain y) (hq : ∀ q ∈ oq, '#' ∉ q) (f : List Char) :
    directory (y ++ (oq.elim [] ('?' :: ·) ++ '#' :: f)) = pathText (segments .web (body y)) ++
      ((oq.map (encode inWebQuery)).elim [] ('?' :: ·) ++ '#' :: encode inFragment f) := by
  rw [directory, splitEnd_append hy, splitEnd_fragment hq]
  simp [read_fragment hy hq, Ending.text]

/-- What may stand in a path is neither query nor fragment. -/
lemma plain_pathText (h : ∀ s ∈ segs, Canonical s) : Plain (pathText segs) := by
  intro c hc
  obtain ⟨s, hs, hc⟩ := List.mem_flatMap.mp hc
  rcases List.mem_cons.mp hc with rfl | hc
  · decide
  · have hfits := ((h s hs).fits c hc).2
    constructor <;> rintro rfl <;> exact absurd hfits (by decide)

lemma not_mem_encode_query (q : List Char) : '#' ∉ encode inWebQuery q := fun h =>
  absurd (fits_of_mem_encode sparing_inWebQuery h).2 (by decide)

/-- The texts that are their own directories. -/
inductive Resolved : List Char → Prop where
  | path (segs : List (List Char)) (h : ∀ s ∈ segs, Canonical s) : Resolved (pathText segs)
  | query (segs : List (List Char)) (hne : segs ≠ []) (h : ∀ s ∈ segs, Canonical s)
      (q : List Char) : Resolved (pathText segs ++ '?' :: encode inWebQuery q)
  | fragment (segs : List (List Char)) (hne : segs ≠ []) (h : ∀ s ∈ segs, Canonical s)
      (oq : Option (List Char)) (f : List Char) : Resolved (pathText segs ++
        ((oq.map (encode inWebQuery)).elim [] ('?' :: ·) ++ '#' :: encode inFragment f))

lemma not_mem_map_encode : ∀ q ∈ oq.map (encode inWebQuery), '#' ∉ q := by
  intro q hq
  obtain ⟨r, -, rfl⟩ := Option.map_eq_some_iff.mp hq
  exact not_mem_encode_query r

/-- **A directory is its own directory.** -/
theorem Resolved.directory_eq (h : Resolved t) : directory t = t := by
  cases h with
  | path segs h =>
      have hmap : segs.map (encode inPath) = segs := by
        conv_rhs => rw [← List.map_id segs]
        exact List.map_congr_left fun s hs => (h s hs).encode_eq
      rw [directory_path (plain_pathText h), directories_pathText h, List.map_reverse,
        List.reverse_reverse, hmap]
  | query segs hne h q =>
      rw [directory_query (plain_pathText h) (not_mem_encode_query q), segments_pathText hne h,
        encode_encode sparing_inWebQuery]
  | fragment segs hne h oq f =>
      have hq : (oq.map (encode inWebQuery)).map (encode inWebQuery)
          = oq.map (encode inWebQuery) := by
        rw [Option.map_map]
        congr 1
        exact funext fun q => encode_encode sparing_inWebQuery q
      rw [directory_fragment (plain_pathText h) not_mem_map_encode, segments_pathText hne h, hq,
        encode_encode sparing_inFragment]

lemma resolved_directory (t : List Char) : Resolved (directory t) := by
  cases form t with
  | path _ hy =>
      rw [directory_path hy]
      exact .path _ fun s hs => canonical_of_mem_map_directories (List.mem_reverse.mp hs)
  | query y q hy hq =>
      rw [directory_query hy hq]
      exact .query _ (segments_ne_nil _) (fun _ => canonical_of_mem_segments) q
  | fragment y oq f hy hq =>
      rw [directory_fragment hy hq]
      exact .fragment _ (segments_ne_nil _) (fun _ => canonical_of_mem_segments) oq f

/-- **A directory without the slashes at its end is one.** -/
theorem Resolved.rdropWhile (h : Resolved t) : Resolved (t.rdropWhile (· == '/')) := by
  cases h with
  | path segs h =>
      rw [rdropWhile_pathText fun s hs => (h s hs).noSlash]
      have hfront := List.rdropWhile_prefix List.isEmpty segs
      exact .path _ fun s hs => h s (hfront.subset hs)
  | query segs hne h q =>
      rw [List.rdropWhile_append_cons (by decide), rdropWhile_encode (p := inWebQuery) (by decide)]
      exact .query segs hne h _
  | fragment segs hne h oq f =>
      rw [← List.append_assoc, List.rdropWhile_append_cons (by decide), List.append_assoc,
        rdropWhile_encode (p := inFragment) (by decide)]
      exact .fragment segs hne h oq _

/-! ## What follows -/

/-- What a text behind an authority may be. -/
def Behind (t : List Char) : Prop := Rooted (splitEnd t).1

lemma Resolved.behind (h : Resolved t) : Behind t := by
  cases h with
  | path segs h =>
      rw [Behind, splitEnd_plain (plain_pathText h)]
      exact rooted_pathText segs
  | query segs hne h q =>
      have hq := splitEnd_query (not_mem_encode_query q) []
      rw [List.append_nil] at hq
      rw [Behind, splitEnd_append (plain_pathText h), hq, List.append_nil]
      exact rooted_pathText segs
  | fragment segs hne h oq f =>
      rw [Behind, splitEnd_append (plain_pathText h), splitEnd_fragment not_mem_map_encode,
        List.append_nil]
      exact rooted_pathText segs

/-- A path behind a path is resolved on top of its stack. -/
lemma read_append_path (hy : Plain y) (hroot : Rooted y) (p : List Char) :
    Ending.read (y ++ '/' :: p) =
      ⟨(resolve .web (directories y) (splitPath .web (splitEnd p).1)).map (encode inPath),
        (splitEnd p).2.1.map (encode inWebQuery), (splitEnd p).2.2.map (encode inFragment)⟩ := by
  have hslash : splitEnd ('/' :: p) = ('/' :: (splitEnd p).1, (splitEnd p).2) :=
    splitEnd_append (y := ['/']) (by simp [Plain]) p
  rw [Ending.read, splitEnd_append hy, hslash, segments_append hroot]

/-- **What follows only depends on the directory.** -/
theorem read_append (h : Behind t) (p : List Char) :
    Ending.read (t ++ '/' :: p) = Ending.read (directory t ++ '/' :: p) := by
  cases form t with
  | path _ hy =>
      have hcanonical : ∀ s ∈ ((directories t).map (encode inPath)).reverse, Canonical s :=
        fun s hs => canonical_of_mem_map_directories (List.mem_reverse.mp hs)
      have hroot : Rooted t := by simpa [Behind, splitEnd_plain hy] using h
      rw [directory_path hy, read_append_path hy hroot,
        read_append_path (plain_pathText hcanonical) (rooted_pathText _),
        directories_pathText hcanonical, List.reverse_reverse,
        @resolve_map _ ((directories t).map (encode inPath)) _ _ _ (splitPath_ne_nil _)]
      rw [List.map_map]
      exact List.map_congr_left fun s _ => (encode_encode sparing_inPath s).symm
  | query y q hy hq =>
      rw [directory_query hy hq, List.append_assoc, List.append_assoc, List.cons_append,
        List.cons_append, read_query hy hq,
        read_query (plain_pathText fun _ => canonical_of_mem_segments) (not_mem_encode_query q),
        segments_pathText (segments_ne_nil _) fun _ => canonical_of_mem_segments,
        encode_encode sparing_inWebQuery]
  | fragment y oq f hy hq =>
      have hmap : (oq.map (encode inWebQuery)).map (encode inWebQuery)
          = oq.map (encode inWebQuery) := by
        rw [Option.map_map]
        congr 1
        exact funext fun q => encode_encode sparing_inWebQuery q
      rw [directory_fragment hy hq]
      simp only [List.append_assoc, List.cons_append]
      rw [read_fragment hy hq,
        read_fragment (plain_pathText fun _ => canonical_of_mem_segments) not_mem_map_encode,
        segments_pathText (segments_ne_nil _) fun _ => canonical_of_mem_segments, hmap,
        encode_append, encode_append, encode_encode sparing_inFragment]

/-- **A slash behind a text is written behind its directory.** -/
theorem text_read_slash (h : Behind t) :
    (Ending.read (t ++ ['/'])).text = directory t ++ ['/'] := by
  cases form t with
  | path _ hy =>
      have hroot : Rooted t := by simpa [Behind, splitEnd_plain hy] using h
      rw [read_append_path hy hroot, directory_path hy]
      have hnil : splitEnd [] = ([], none, none) := rfl
      simp [Ending.text, hnil, splitPath_of_forall, resolve_empty, pathText]
  | query y q hy hq =>
      have hslash : encode inWebQuery ['/'] = ['/'] := by decide +kernel
      rw [directory_query hy hq, List.append_assoc, List.cons_append, read_query hy hq]
      simp [Ending.text, hslash]
  | fragment y oq f hy hq =>
      have hslash : encode inFragment ['/'] = ['/'] := by decide +kernel
      rw [directory_fragment hy hq]
      simp only [List.append_assoc, List.cons_append]
      rw [read_fragment hy hq, encode_append, hslash]
      simp [Ending.text]

/-- **A text is written as its directory, but for a slash at its end.** -/
theorem text_read (h : Behind t) :
    ∃ k, (Ending.read t).text = directory t ++ List.replicate k '/' := by
  cases form t with
  | path _ hy =>
      have hroot : Rooted t := by simpa [Behind, splitEnd_plain hy] using h
      rw [read_path hy, directory_path hy]
      rcases hroot with rfl | ⟨c, r, hc, rfl⟩
      · exact ⟨1, rfl⟩
      · obtain ⟨k, -, hk⟩ := resolve_eq (splitPath_ne_nil r) []
        have hdirs : directories (c :: r) = (splitPath .web r).foldl enter [] := by
          rw [directories, body_cons hc]
          rfl
        refine ⟨k, ?_⟩
        rw [body_cons hc, segments_web, hk, hdirs]
        simp [Ending.text, pathText_append, pathText_replicate]
  | query y q hy hq =>
      have hread := read_query hy hq []
      simp only [List.append_nil, List.takeWhile_nil, List.dropWhile_nil, encode_nil] at hread
      exact ⟨0, by rw [hread, directory_query hy hq]; simp [Ending.text]⟩
  | fragment y oq f hy hq =>
      exact ⟨0, by rw [read_fragment hy hq, directory_fragment hy hq]; simp [Ending.text]⟩

/-- **Slashes behind a text stay behind its directory.** -/
theorem directory_append_slashes (h : Behind t) (k : ℕ) :
    directory (t ++ List.replicate k '/') = directory t ++ List.replicate k '/' := by
  have hslashes : ∀ p : Char → Bool, p '/' = false →
      encode p (List.replicate k '/') = List.replicate k '/' := fun p hp =>
    encode_of_fits fun c hc => by rw [List.eq_of_mem_replicate hc]; exact ⟨by decide, hp⟩
  have hnot : '#' ∉ List.replicate k '/' := by simp
  cases form t with
  | path _ hy =>
      have hroot : Rooted t := by simpa [Behind, splitEnd_plain hy] using h
      have hplain : Plain (t ++ List.replicate k '/') := by
        intro c hc
        rcases List.mem_append.mp hc with hc | hc
        · exact hy c hc
        · rw [List.eq_of_mem_replicate hc]
          decide
      rw [directory_path hy, directory_path hplain, directories_append_slashes hroot]
      simp [pathText_append, pathText_replicate]
  | query y q hy hq =>
      have hq' : '#' ∉ q ++ List.replicate k '/' := by simp [hq]
      rw [directory_query hy hq, List.append_assoc, List.cons_append, directory_query hy hq',
        encode_append, hslashes _ (by decide)]
      simp
  | fragment y oq f hy hq =>
      rw [directory_fragment hy hq]
      simp only [List.append_assoc, List.cons_append]
      rw [directory_fragment hy hq, encode_append, hslashes _ (by decide)]

/-- The length of a path as it is written, by its stack. -/
def writtenLength (rev : List (List Char)) : ℕ :=
  (pathText (rev.map (encode inPath)).reverse).length

lemma writtenLength_cons (s : List Char) (rev : List (List Char)) :
    writtenLength (s :: rev) = writtenLength rev + 1 + (encode inPath s).length := by
  simp [writtenLength, pathText]
  omega

lemma writtenLength_enter_le (rev : List (List Char)) (s : List Char) :
    writtenLength (enter rev s) ≤ writtenLength rev + 1 + (encode inPath s).length := by
  unfold enter
  split_ifs
  · cases rev with
    | nil => simp [writtenLength, pathText]
    | cons r rev =>
        rw [List.tail_cons, writtenLength_cons]
        omega
  · omega
  · exact (writtenLength_cons s rev).le

/-- **Blanks behind a text make its directory longer.** -/
theorem length_directory_lt {b : List Char} (h : Behind t) (ht : t ≠ []) (hb : b ≠ [])
    (hedge : ∀ c ∈ b, isEdge c = true) : (directory t).length < (directory (t ++ b)).length := by
  have hne : ∀ c ∈ b, ∀ d, isEdge d = false → c ≠ d := by
    rintro c hc d hd rfl
    rw [hedge c hc] at hd
    cases hd
  have hpositive : ∀ p, 0 < (encode p b).length := fun p =>
    List.length_pos_iff.mpr (encode_eq_nil.not.mpr hb)
  have hhash : '#' ∉ b := fun h => hne _ h '#' rfl rfl
  cases form t with
  | path _ hy =>
      have hroot : Rooted t := by simpa [Behind, splitEnd_plain hy] using h
      obtain ⟨c, r, hc, rfl⟩ := hroot.resolve_left ht
      have hplain : Plain (c :: r ++ b) := by
        intro d hd
        rcases List.mem_append.mp hd with hd | hd
        · exact hy d hd
        · exact ⟨hne d hd '#' rfl, hne d hd '?' rfl⟩
      have hslash : ∀ d ∈ b, isSlash d = false := fun d hd => by
        simp [isSlash, hne d hd '/' rfl, hne d hd '\\' rfl]
      obtain ⟨init, last, hr, hrb⟩ := splitPath_append hslash r
      obtain ⟨d, ds, rfl⟩ := List.exists_cons_of_ne_nil hb
      have hsettled : Settled (last ++ d :: ds) :=
        settled_of_mem (c := d) (by simp) (of_decide_eq_true (hedge d (by simp)))
      have hdirs : directories (c :: r) = enter (init.foldl enter []) last := by
        rw [directories, body_cons hc, hr, List.foldl_append]
        rfl
      have hdirs' : directories (c :: r ++ d :: ds) = (last ++ d :: ds) :: init.foldl enter [] := by
        rw [List.cons_append, directories, body_cons hc, hrb, List.foldl_append, List.foldl_cons,
          enter_of_settled hsettled]
        rfl
      have hle := writtenLength_enter_le (init.foldl enter []) last
      have heq := writtenLength_cons (last ++ d :: ds) (init.foldl enter [])
      rw [encode_append, List.length_append] at heq
      have hpos := hpositive inPath
      rw [directory_path hy, directory_path hplain, hdirs, hdirs', ← writtenLength,
        ← writtenLength]
      omega
  | query y q hy hq =>
      have hqb : '#' ∉ q ++ b := by simp [hq, hhash]
      have hpos := hpositive inWebQuery
      rw [List.append_assoc, List.cons_append, directory_query hy hq, directory_query hy hqb,
        encode_append]
      simp only [List.length_append, List.length_cons]
      omega
  | fragment y oq f hy hq =>
      have hpos := hpositive inFragment
      simp only [List.append_assoc, List.cons_append]
      rw [directory_fragment hy hq, directory_fragment hy hq, encode_append]
      simp only [List.length_append, List.length_cons]
      omega

end HostAgent.Url
