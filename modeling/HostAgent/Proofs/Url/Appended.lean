import HostAgent.Proofs.Url.Places

/-!
# A path appended to the text of a server

The text of a server may be written in many ways, and a path may be appended to the text as it is
given or to the text of the URL that it is read as.

* `ServerText` — the text of a server taken apart: scheme, authority, and what follows.
* `ServerText.parse_append`, `ServerText.parse_append_blanks` — a path appended to the text as it is
  given.
* `parse_written` — a path appended to the text of a URL.
-/

namespace HostAgent.Url

open Outbound (trimSlashes)

variable {scheme raw path s : String} {cs xs t front rest p : List Char} {c : Char} {u v : Url}
  {k : ℕ}

/-! ## Schemes -/

/-- What may stand in a scheme. -/
def inScheme (c : Char) : Bool := c.isAlphanum || c == '+' || c == '-' || c == '.'

lemma scheme?_append (hfront : ∀ c ∈ front, inScheme c = true) (halpha : c.isAlpha = true)
    (xs : List Char) : scheme? ((c :: front) ++ ':' :: xs)
      = some (String.ofList ((c :: front).map Char.toLower), xs) := by
  have hc : inScheme c = true := by simp [inScheme, Char.isAlphanum, halpha]
  have hall : ∀ d ∈ c :: front, inScheme d = true := by
    intro d hd
    rcases List.mem_cons.mp hd with rfl | hd
    · exact hc
    · exact hfront d hd
  have hcolon : inScheme ':' = false := by decide
  have hdrop : ((c :: front) ++ ':' :: xs).dropWhile inScheme = ':' :: xs := by
    rw [List.dropWhile_append_of_pos hall, List.dropWhile_cons_of_neg (by simp [hcolon])]
  have htake : ((c :: front) ++ ':' :: xs).takeWhile inScheme = c :: front := by
    rw [List.takeWhile_append_of_pos hall, List.takeWhile_cons_of_neg (by simp [hcolon]),
      List.append_nil]
  have hok : (fun c : Char => c.isAlphanum || c == '+' || c == '-' || c == '.') = inScheme := rfl
  rw [List.cons_append] at hdrop htake ⊢
  simp only [scheme?, hok, hdrop, htake, halpha, if_true]

/-- What follows the colon does not matter to the scheme. -/
lemma exists_scheme (h : scheme? cs = some (scheme, rest)) :
    ∃ front, cs = front ++ ':' :: rest ∧
      ∀ xs, scheme? (front ++ ':' :: xs) = some (scheme, xs) := by
  have hok : (fun c : Char => c.isAlphanum || c == '+' || c == '-' || c == '.') = inScheme := rfl
  unfold scheme? at h
  rw [hok] at h
  dsimp only at h
  split at h
  · cases h
  · next c r =>
      split at h
      · next rest' hdrop =>
          split at h
          · next halpha =>
              cases h
              have hc : inScheme c = true := by simp [inScheme, Char.isAlphanum, halpha]
              have hsplit := List.takeWhile_append_dropWhile (p := inScheme) (l := c :: r)
              rw [hdrop, List.takeWhile_cons_of_pos hc] at hsplit
              refine ⟨c :: r.takeWhile inScheme, hsplit.symm, fun xs => ?_⟩
              rw [scheme?_append (fun d hd => List.mem_takeWhile_imp hd) halpha,
                List.takeWhile_cons_of_pos hc]
          · cases h
      · cases h

/-- The schemes that a server may have. -/
def IsWeb (scheme : String) : Prop := scheme = "http" ∨ scheme = "https"

lemma scheme?_web (h : IsWeb scheme) (xs : List Char) :
    scheme? (scheme.toList ++ ':' :: xs) = some (scheme, xs) := by
  have hread : ∀ (c : Char) (front : List Char), scheme = String.ofList (c :: front) →
      (c :: front).all inScheme = true → c.isAlpha = true →
      (c :: front).map Char.toLower = c :: front →
      scheme? (scheme.toList ++ ':' :: xs) = some (scheme, xs) := by
    rintro c front rfl hall halpha hlower
    rw [String.toList_ofList, scheme?_append (fun d hd => ?_) halpha, hlower]
    exact List.all_eq_true.mp hall d (List.mem_cons_of_mem _ hd)
  rcases h with rfl | rfl
  · exact hread 'h' ['t', 't', 'p'] rfl (by decide) (by decide) (by decide)
  · exact hread 'h' ['t', 't', 'p', 's'] rfl (by decide) (by decide) (by decide)

lemma kind_web (h : IsWeb scheme) : kind scheme = .web := by
  rcases h with rfl | rfl <;> rfl

lemma visible_scheme (h : IsWeb scheme) (hc : c ∈ scheme.toList) : isEdge c = false := by
  have hread : ∀ l : List Char, scheme = String.ofList l → l.all (!isEdge ·) = true →
      isEdge c = false := by
    rintro l rfl hall
    rw [String.toList_ofList] at hc
    simpa using List.all_eq_true.mp hall c hc
  rcases h with rfl | rfl
  · exact hread ['h', 't', 't', 'p'] rfl (by decide)
  · exact hread ['h', 't', 't', 'p', 's'] rfl (by decide)

lemma scheme_file (h : file cs = .ok u) : u.scheme = "file" := by
  unfold file at h
  simp only [bind, Except.bind, pure, Except.pure] at h
  repeat' split at h
  all_goals first | (cases h; rfl) | cases h

lemma scheme_authority {kind : Kind} {r : Url × List Char} (h : authority scheme kind cs = .ok r) :
    r.1.scheme = scheme := by
  unfold authority at h
  simp only [bind, Except.bind, pure, Except.pure, throw, throwThe, MonadExceptOf.throw] at h
  repeat' split at h
  all_goals first | (cases h; rfl) | cases h

/-- A URL has the scheme it is written with. -/
lemma scheme_of_parse (h : parse s = .ok u) (hweb : IsWeb u.scheme) :
    ∃ rest, scheme? (relevant s) = some (u.scheme, rest) := by
  unfold parse at h
  split at h
  · cases h
  · next scheme rest hs =>
      have hafter : ∃ w q f, afterScheme scheme (kind scheme) (splitEnd rest).1 = .ok w ∧
          u = withEnd (kind scheme) w q f := by
        simp only [bind, Except.bind, pure, Except.pure] at h
        split at h
        · cases h
        · next w hw =>
            cases h
            exact ⟨w, _, _, hw, rfl⟩
      obtain ⟨w, q, f, hw, rfl⟩ := hafter
      change IsWeb w.scheme at hweb
      change ∃ rest, scheme? (relevant s) = some (w.scheme, rest)
      suffices hscheme : w.scheme = scheme from ⟨rest, hscheme ▸ hs⟩
      cases hk : kind scheme with
      | file =>
          rw [hk] at hw
          have hfile : w.scheme = "file" := scheme_file hw
          rw [hfile] at hweb
          rcases hweb with h | h <;> exact absurd h (by decide)
      | web =>
          rw [hk] at hw
          simp only [afterScheme, bind, Except.bind, pure, Except.pure] at hw
          split at hw
          · cases hw
          · next r hr =>
              cases hw
              exact scheme_authority hr
      | other =>
          rw [hk] at hw
          simp only [afterScheme, bind, Except.bind, pure, Except.pure] at hw
          repeat' split at hw
          all_goals first | (cases hw; rfl) | (cases hw; exact scheme_authority ‹_›) | cases hw

/-! ## Appending to the text as it is given -/

/-- The text of a server: its scheme, what follows the colon, and the authority that is read from
it. -/
structure ServerText (raw scheme : String) (front rest : List Char) (v : Url) : Prop where
  web : IsWeb scheme
  relevant_eq : relevant raw = front ++ ':' :: rest
  scheme_eq : ∀ xs, scheme? (front ++ ':' :: xs) = some (scheme, xs)
  place_eq : place scheme (authorityPart rest) = .ok v

lemma exists_server (h : parse raw = .ok u) (hweb : IsWeb u.scheme) :
    ∃ front rest v, ServerText raw u.scheme front rest v ∧
      u = (Ending.read (behindAuthority rest)).on v := by
  obtain ⟨rest, hscheme⟩ := scheme_of_parse h hweb
  obtain ⟨front, hfront, hany⟩ := exists_scheme hscheme
  rw [parse_web hscheme (kind_web hweb)] at h
  cases hplace : place u.scheme (authorityPart rest) with
  | error fault => rw [hplace] at h; cases h
  | ok v =>
      rw [hplace] at h
      exact ⟨front, rest, v, ⟨hweb, hfront, hany, hplace⟩, (Except.ok.inj h).symm⟩

namespace ServerText

variable (h : ServerText raw scheme front rest v)
include h

lemma placed : Placed scheme v := placed_of_place h.place_eq

lemma relevant_ne_nil : relevant raw ≠ [] := by
  rw [h.relevant_eq]
  simp

lemma dropWhile_ne_nil : rest.dropWhile isSlash ≠ [] := by
  intro hnil
  have hplace := h.place_eq
  have herror : place scheme [] = .error .emptyHost := rfl
  rw [authorityPart, hnil, List.takeWhile_nil, herror] at hplace
  cases hplace

/-- What is read when the text goes on. -/
lemma parse_joined (hpath : path.toList.head? = some '/')
    (hstem : stem (trimSlashes raw) = front ++ ':' :: t) :
    parse (trimSlashes raw ++ path) = (place scheme (authorityPart (t ++ appended path))).map
      fun u => (Ending.read (behindAuthority (t ++ appended path))).on u := by
  refine parse_web ?_ (kind_web h.web)
  rw [relevant_append _ hpath, hstem, List.append_assoc, List.cons_append, h.scheme_eq]

end ServerText

/-- What ends an authority does not matter to it. -/
lemma authority_append (xs t : List Char) (hne : xs.dropWhile isSlash ≠ [])
    (ht : Ender (behindAuthority xs ++ t)) :
    authorityPart (xs ++ t) = authorityPart xs ∧
      behindAuthority (xs ++ t) = behindAuthority xs ++ t := by
  have hdrop : (xs ++ t).dropWhile isSlash = authorityPart xs ++ (behindAuthority xs ++ t) := by
    rw [List.dropWhile_append, if_neg (by simpa using hne), ← List.append_assoc, authorityPart,
      behindAuthority, List.takeWhile_append_dropWhile]
  rw [authorityPart, behindAuthority, hdrop]
  exact takeWhile_append_ender (unended_authorityPart xs) ht

lemma ender_append (ht : Ender t) (hp : Ender p) : Ender (t ++ p) := by
  cases t with
  | nil => exact hp
  | cons c t => exact ht

lemma ender_append_of_ne_nil (ht : Ender t) (hne : t ≠ []) (p : List Char) : Ender (t ++ p) := by
  cases t with
  | nil => exact absurd rfl hne
  | cons c t => exact ht

lemma ender_slash (p : List Char) : Ender ('/' :: p) := by
  rintro _ ⟨⟩
  rfl

lemma ender_slashes (k : ℕ) : Ender (List.replicate k '/') := by
  cases k with
  | zero => simp [Ender]
  | succ k => exact ender_slash _

namespace ServerText

variable (h : ServerText raw scheme front rest v)
include h

/-- **Without blanks behind it, the text of a server keeps its authority when a path is appended,
and of what follows the authority only slashes are lost.** -/
theorem parse_append (hblanks : blanksBehind raw = []) : ∃ t k, Ender t ∧
    behindAuthority rest = t ++ List.replicate k '/' ∧
    ∀ path : String, path.toList.head? = some '/' →
      parse (trimSlashes raw ++ path) = .ok ((Ending.read (t ++ appended path)).on v) := by
  obtain ⟨k, hk⟩ := stem_trimSlashes h.relevant_ne_nil hblanks
  rw [h.relevant_eq] at hk
  -- no slash that is trimmed precedes the colon
  obtain ⟨xs, hstem, hxs⟩ : ∃ xs, stem (trimSlashes raw) = front ++ ':' :: xs ∧
      rest = xs ++ List.replicate k '/' := by
    have hcolon : ':' ∉ List.replicate k '/' := by simp
    rcases List.append_eq_append_iff.mp hk with ⟨ys, hys, hrest⟩ | ⟨ys, -, hrest⟩
    · cases ys with
      | nil => exact absurd (by rw [← List.nil_append (List.replicate k _), ← hrest]; simp) hcolon
      | cons c ys =>
          rw [List.cons_append, List.cons.injEq] at hrest
          exact ⟨ys, by rw [hys, ← hrest.1], hrest.2⟩
    · exact absurd (by rw [hrest]; simp) hcolon
  have hne : xs.dropWhile isSlash ≠ [] := fun hnil => by
    refine h.dropWhile_ne_nil ?_
    rw [hxs, List.dropWhile_append, if_pos (by simp [hnil])]
    exact List.dropWhile_eq_nil_iff.mpr fun c hc => by rw [List.eq_of_mem_replicate hc]; rfl
  obtain ⟨hpart, hbehind⟩ := authority_append _ _ hne
    (ender_append (ender_behindAuthority xs) (ender_slashes k))
  refine ⟨behindAuthority xs, k, ender_behindAuthority xs, by rw [hxs, hbehind], ?_⟩
  intro path hpath
  obtain ⟨p, hp⟩ := appended_of_slash hpath
  have hender : Ender (behindAuthority xs ++ appended path) :=
    ender_append (ender_behindAuthority xs) (hp ▸ ender_slash p)
  obtain ⟨hpart', hbehind'⟩ := authority_append _ _ hne hender
  rw [h.parse_joined hpath hstem, hpart', hbehind', ← hpart, ← hxs, h.place_eq]
  rfl

/-- **With blanks behind it, the text of a server keeps its authority when a path is appended, and
the blanks precede the path, if something follows the authority.** -/
theorem parse_append_blanks (hblanks : blanksBehind raw ≠ []) (hrest : behindAuthority rest ≠ [])
    (hpath : path.toList.head? = some '/') : parse (trimSlashes raw ++ path) =
      .ok ((Ending.read (behindAuthority rest ++ blanksBehind raw ++ appended path)).on v) := by
  have hstem : stem (trimSlashes raw) = front ++ ':' :: (rest ++ blanksBehind raw) := by
    rw [stem_trimSlashes_blanks h.relevant_ne_nil hblanks, h.relevant_eq, List.append_assoc,
      List.cons_append]
  have hender := ender_append_of_ne_nil (ender_behindAuthority rest) hrest
    (blanksBehind raw ++ appended path)
  obtain ⟨hpart, hbehind⟩ := authority_append _ _ h.dropWhile_ne_nil hender
  rw [h.parse_joined hpath hstem, List.append_assoc, hpart, hbehind, h.place_eq, List.append_assoc]
  rfl

/-- **With blanks behind it and nothing behind its authority, the text of a server is that of no URL
when a path is appended.** -/
theorem parse_append_blanks_nil (hblanks : blanksBehind raw ≠ [])
    (hrest : behindAuthority rest = [])
    (hpath : path.toList.head? = some '/') :
    ∃ fault, parse (trimSlashes raw ++ path) = .error fault := by
  have hstem : stem (trimSlashes raw) = front ++ ':' :: (rest ++ blanksBehind raw) := by
    rw [stem_trimSlashes_blanks h.relevant_ne_nil hblanks, h.relevant_eq, List.append_assoc,
      List.cons_append]
  obtain ⟨p, hp⟩ := appended_of_slash hpath
  have hdrop : rest.dropWhile isSlash = authorityPart rest := by
    have := List.takeWhile_append_dropWhile (p := (!endsAuthority .web ·))
      (l := rest.dropWhile isSlash)
    rw [← authorityPart, ← behindAuthority, hrest, List.append_nil] at this
    exact this.symm
  have hblank : (rest ++ blanksBehind raw).dropWhile isSlash
      = authorityPart rest ++ blanksBehind raw := by
    rw [List.dropWhile_append, if_neg (by simpa using h.dropWhile_ne_nil), hdrop]
  have hunended : Unended (authorityPart rest ++ blanksBehind raw) := by
    intro c hc
    rcases List.mem_append.mp hc with hc | hc
    · exact unended_authorityPart rest c hc
    · exact endsAuthority_of_isEdge (isEdge_of_mem_blanksBehind hc)
  have hpart : authorityPart (rest ++ blanksBehind raw) = authorityPart rest ++ blanksBehind raw ∧
      behindAuthority (rest ++ blanksBehind raw) = [] := by
    have := @takeWhile_append_ender _ [] hunended (by simp [Ender])
    rw [List.append_nil] at this
    rwa [authorityPart, behindAuthority, hblank]
  obtain ⟨hjoined, -⟩ := authority_append (rest ++ blanksBehind raw) (appended path)
    (by rw [hblank]; simp [hblanks]) (by rw [hpart.2, hp]; exact ender_slash p)
  obtain ⟨fault, hfault⟩ : ∃ fault,
      place scheme (authorityPart rest ++ blanksBehind raw) = .error fault := by
    obtain ⟨init, c, hlast⟩ := (List.eq_nil_or_concat' (blanksBehind raw)).resolve_left hblanks
    have hc : c ∈ blanksBehind raw := by simp [hlast]
    rw [hlast, ← List.append_assoc] at hunended ⊢
    exact place_concat_blank (fun d hd => hunended d (List.mem_append_left _ hd))
      (isEdge_of_mem_blanksBehind hc)
  exact ⟨fault, by rw [h.parse_joined hpath hstem, hjoined, hpart.1, hfault]; rfl⟩

end ServerText

/-! ## Appending to the text of a URL -/

/-- A text of visible characters counts as a whole. -/
lemma stem_of_visible (h : ∀ c ∈ s.toList, isEdge c = false) : stem s = s.toList := by
  have hdrop : s.toList.dropWhile isEdge = s.toList := by
    cases hs : s.toList with
    | nil => rfl
    | cons c cs => rw [List.dropWhile_cons_of_neg (by simp [h c (by simp [hs])])]
  rw [stem, hdrop, List.filter_eq_self]
  intro c hc
  have hedge := h c hc
  simp only [counts, Bool.and_eq_true, bne_iff_ne, ne_eq]
  refine ⟨⟨?_, ?_⟩, ?_⟩ <;> rintro rfl <;> exact absurd hedge (by decide)

/-- The text of a URL without the slashes at its end. -/
lemma toList_trimSlashes_text (hu : Placed scheme u) (t : List Char) :
    (trimSlashes ((Ending.read t).on u).text).toList = scheme.toList ++ ':' :: '/' :: '/' ::
      (placeText u ++ (Ending.read t).text.rdropWhile (· == '/')) := by
  have hcons : ∀ xs, scheme.toList ++ ':' :: '/' :: '/' :: xs
      = (scheme.toList ++ [':', '/', '/']) ++ xs := fun xs => by simp
  rw [toList_trimSlashes, toList_text_on hu.host_isSome, hu.scheme_eq, hcons,
    rdropWhile_placeText hu, ← hcons]

lemma Ender.of_isPrefix (h : Ender t) (hp : p <+: t) : Ender p := by
  obtain ⟨r, rfl⟩ := hp
  cases p with
  | nil => simp [Ender]
  | cons c p => exact h

lemma ender_text (t : List Char) : Ender (Ending.read t).text := by
  rw [Ending.text]
  obtain ⟨s, segs, hsegs⟩ := List.exists_cons_of_ne_nil (segments_ne_nil (body (splitEnd t).1))
  have hread : (Ending.read t).segments = s :: segs := hsegs
  rw [hread, pathText, List.flatMap_cons, List.cons_append, List.cons_append]
  exact ender_slash _

/-- What follows the two slashes of a written URL. -/
lemma authority_written (hu : Placed scheme u) (ht : Ender t) :
    authorityPart ('/' :: '/' :: (placeText u ++ t)) = placeText u ∧
      behindAuthority ('/' :: '/' :: (placeText u ++ t)) = t := by
  have hdrop : ('/' :: '/' :: (placeText u ++ t)).dropWhile isSlash = placeText u ++ t := by
    rw [List.dropWhile_cons_of_pos rfl, List.dropWhile_cons_of_pos rfl]
    obtain ⟨c, cs, hc⟩ := List.exists_cons_of_ne_nil (placeText_ne_nil hu)
    have hends := unended_placeText hu c (by simp [hc])
    rw [endsAuthority_web, Bool.or_eq_false_iff, Bool.or_eq_false_iff] at hends
    rw [hc, List.cons_append, List.dropWhile_cons_of_neg (by simp [hends.1.1])]
  rw [authorityPart, behindAuthority, hdrop]
  exact takeWhile_append_ender (unended_placeText hu) ht

/-- **A path appended to the text of a URL is found behind the URL's own authority and what is
left of its ending.** -/
theorem parse_written (hweb : IsWeb scheme) (hu : Placed scheme u) (t : List Char)
    (hpath : path.toList.head? = some '/') :
    parse (trimSlashes ((Ending.read t).on u).text ++ path) = .ok ((Ending.read
      ((Ending.read t).text.rdropWhile (· == '/') ++ appended path)).on u) := by
  have htext := toList_trimSlashes_text hu t
  have hfront : (Ending.read t).text.rdropWhile (· == '/') <+: (Ending.read t).text :=
    List.rdropWhile_prefix _ _
  have hvisible : ∀ c ∈ (trimSlashes ((Ending.read t).on u).text).toList, isEdge c = false := by
    intro c hc
    rw [htext] at hc
    simp only [List.mem_append, List.mem_cons] at hc
    rcases hc with hc | rfl | rfl | rfl | hc | hc
    · exact visible_scheme hweb hc
    · rfl
    · rfl
    · rfl
    · exact visible_placeText hu hc
    · exact visible_text t (hfront.subset hc)
  obtain ⟨p, hp⟩ := appended_of_slash hpath
  have hender : Ender ((Ending.read t).text.rdropWhile (· == '/') ++ appended path) :=
    ender_append ((ender_text t).of_isPrefix hfront) (hp ▸ ender_slash p)
  obtain ⟨hpart, hbehind⟩ := authority_written hu hender
  have hrelevant : relevant (trimSlashes ((Ending.read t).on u).text ++ path) = scheme.toList ++
      ':' :: '/' :: '/' ::
        (placeText u ++ ((Ending.read t).text.rdropWhile (· == '/') ++ appended path)) := by
    rw [relevant_append _ hpath, stem_of_visible hvisible, htext]
    simp
  rw [parse_web (by rw [hrelevant, scheme?_web hweb]) (kind_web hweb), hpart, hbehind,
    place_placeText hu]
  rfl

end HostAgent.Url
