import HostAgent.Proofs.Backhaul.Address
import HostAgent.Proofs.Url.Literal

/-!
# Where the session finds a path of the API

The session puts a path behind the text of the server's URL.  What is read from the two together
has the server's own authority, whatever the server's URL looks like.  Its path is the server's,
without the slashes at its end, with the given path behind it, if the server's URL ends in its
path.  If it ends in a query or a fragment, the given path becomes part of that.

* `IsApiPath` — the paths that are looked at: letters, digits, hyphens, low lines and slashes.
* `stump` — the segments of an ending without the empty ones at its end.
* `segments_read_behind` — the segments that are read behind what is left of an ending.
* `urlFor_apiPath` — where the session finds a path of the API.
-/

namespace HostAgent

open Outbound (Platform Session trimSlashes)

namespace Url

open Percent

variable {segs : List (List Char)} {t cs s : List Char} {c : Char} {path : String} {e : Ending}

/-! ## Paths of the API -/

/-- What may stand in a path of the API. -/
def inApiPath (c : Char) : Bool := c.isAlphanum || c == '-' || c == '_' || c == '/'

/-- A path of the API starts with a slash and holds letters, digits, hyphens, low lines and
slashes. -/
def IsApiPath (path : String) : Prop :=
  path.toList.head? = some '/' ∧ path.toList.all inApiPath = true

instance (path : String) : Decidable (IsApiPath path) :=
  inferInstanceAs (Decidable (_ ∧ _))

lemma toNat_lt_of_inApiPath (h : inApiPath c = true) : c.toNat < 128 := by
  simp only [inApiPath, Char.isAlphanum, Char.isAlpha, Char.isUpper, Char.isLower, Char.isDigit,
    Bool.or_eq_true, Bool.and_eq_true, decide_eq_true_eq, beq_iff_eq, ge_iff_le,
    UInt32.le_iff_toNat_le] at h
  rcases h with ((((⟨-, h⟩ | ⟨-, h⟩) | ⟨-, h⟩) | rfl) | rfl) | rfl
  · exact lt_of_le_of_lt h (by decide)
  · exact lt_of_le_of_lt h (by decide)
  · exact lt_of_le_of_lt h (by decide)
  all_goals decide

/-- A character that is neither cut out nor encoded, separates segments if it is a slash only, and
is no part of a dot segment. -/
structure Steady (c : Char) : Prop where
  notEdge : isEdge c = false
  counts : counts c = true
  fits : Fits inPath c
  notBackslash : c ≠ '\\'
  notStop : c ≠ '.'
  notPercent : c ≠ '%'

lemma steady_of_inApiPath (h : inApiPath c = true) : Steady c := by
  have hall : ∀ n < 128, let c := Char.ofNat n; inApiPath c = true → isEdge c = false ∧
      counts c = true ∧ (c.val < 0x80 ∧ inPath c = false) ∧ c ≠ '\\' ∧ c ≠ '.' ∧ c ≠ '%' := by
    decide +kernel
  have hspec := hall c.toNat (toNat_lt_of_inApiPath h)
  simp only [Char.ofNat_toNat] at hspec
  obtain ⟨hedge, hcounts, hfits, hback, hstop, hpercent⟩ := hspec h
  exact ⟨hedge, hcounts, hfits, hback, hstop, hpercent⟩

lemma IsApiPath.steady (h : IsApiPath path) : ∀ c ∈ path.toList, Steady c := fun c hc =>
  steady_of_inApiPath (List.all_eq_true.mp h.2 c hc)

/-- A path of the API counts as a whole. -/
lemma IsApiPath.appended_eq (h : IsApiPath path) : appended path = path.toList := by
  have hkept : path.toList.rdropWhile isEdge = path.toList :=
    List.rdropWhile_eq_self_iff.mpr fun hne => by
      simp [(h.steady _ (List.getLast_mem hne)).notEdge]
  rw [appended, hkept]
  exact List.filter_eq_self.mpr fun c hc => (h.steady c hc).counts

/-- A path of the API is written segments. -/
lemma IsApiPath.exists_segments (h : IsApiPath path) :
    ∃ segs ≠ [], (∀ s ∈ segs, Canonical s) ∧ path.toList = pathText segs := by
  obtain ⟨cs, hcs⟩ := head_eq_slash h.1
  have hback : '\\' ∉ cs := fun hmem =>
    (h.steady '\\' (hcs ▸ List.mem_cons_of_mem _ hmem)).notBackslash rfl
  have htext : path.toList = pathText (splitPath .web cs) := by rw [pathText_splitPath hback, hcs]
  refine ⟨_, splitPath_ne_nil cs, fun s hs => ?_, htext⟩
  have hsteady : ∀ c ∈ s, Steady c := fun c hc => h.steady c <| by
    rw [htext]
    exact List.mem_flatMap.mpr ⟨s, hs, List.mem_cons_of_mem _ hc⟩
  have hstop : '.' ∉ s := fun hc => (hsteady _ hc).notStop rfl
  have hsettled : Settled s := (settled_iff fun hc => (hsteady _ hc).notPercent rfl).mpr
    ⟨fun h => hstop (by simp [h]), fun h => hstop (by simp [h])⟩
  exact ⟨hsettled, fun c hc => (hsteady c hc).fits, fun c hc => isSlash_of_mem_splitPath hs hc⟩

/-! ## Behind an ending -/

/-- A URL with neither query nor fragment. -/
def EndsInPath (u : Url) : Prop := u.query = none ∧ u.fragment = none

instance (u : Url) : Decidable u.EndsInPath :=
  inferInstanceAs (Decidable (_ ∧ _))

lemma endsInPath_on {u : Url} : (e.on u).EndsInPath ↔ e.query = none ∧ e.fragment = none := by
  simp [EndsInPath, Ending.on]

/-- The segments of an ending without the empty ones at its end. -/
def Ending.stump (e : Ending) : List (List Char) := e.segments.rdropWhile List.isEmpty

lemma canonical_of_mem_stump (h : s ∈ (Ending.read t).stump) : Canonical s :=
  canonical_of_mem_segments ((List.rdropWhile_prefix _ _).subset h)

/-- The path of an ending without the slashes at its end. -/
lemma pathText_stump (t : List Char) :
    (pathText (Ending.read t).segments).rdropWhile (· == '/') = pathText (Ending.read t).stump :=
  rdropWhile_pathText fun _ hs => (canonical_of_mem_segments hs).noSlash

/-- What is left of an ending that is a path. -/
lemma rdropWhile_text_path (hquery : (Ending.read t).query = none)
    (hfragment : (Ending.read t).fragment = none) :
    (Ending.read t).text.rdropWhile (· == '/') = pathText (Ending.read t).stump := by
  rw [Ending.text, hquery, hfragment]
  simpa using pathText_stump t

/-- **Behind a path, a path is read as more segments.** -/
lemma segments_read_path (hquery : (Ending.read t).query = none)
    (hfragment : (Ending.read t).fragment = none) (hne : segs ≠ [])
    (hsegs : ∀ s ∈ segs, Canonical s) :
    (Ending.read ((Ending.read t).text.rdropWhile (· == '/') ++ pathText segs)).segments
      = (Ending.read t).stump ++ segs := by
  have hall : ∀ s ∈ (Ending.read t).stump ++ segs, Canonical s := fun s hs =>
    (List.mem_append.mp hs).elim canonical_of_mem_stump (hsegs s)
  rw [rdropWhile_text_path hquery hfragment, ← pathText_append, read_path (plain_pathText hall),
    segments_pathText (by simp [hne]) hall]

/-- **Behind a query or a fragment, nothing is read as segments.** -/
lemma segments_read_behind
    (h : ¬((Ending.read t).query = none ∧ (Ending.read t).fragment = none)) (p : List Char) :
    (Ending.read ((Ending.read t).text.rdropWhile (· == '/') ++ p)).segments
      = (Ending.read t).segments := by
  have hcanonical : ∀ cs, ∀ s ∈ segments .web cs, Canonical s := fun _ _ =>
    canonical_of_mem_segments
  cases form t with
  | path _ hy => exact absurd (by rw [read_path hy]; exact ⟨rfl, rfl⟩) h
  | query y q hy hq =>
      have hread := read_query hy hq []
      simp only [List.append_nil, List.takeWhile_nil, List.dropWhile_nil, encode_nil] at hread
      rw [hread, Ending.text]
      simp only [List.tail?_nil, Option.map_none, Option.elim_some, Option.elim_none,
        List.append_nil]
      rw [List.rdropWhile_append_cons (by decide), rdropWhile_encode (p := inWebQuery) (by decide),
        List.append_assoc, List.cons_append,
        read_query (plain_pathText (hcanonical _)) (not_mem_encode_query _)]
      exact segments_pathText (segments_ne_nil _) (hcanonical _)
  | fragment y oq f hy hq =>
      rw [read_fragment hy hq, Ending.text]
      simp only [Option.elim_some]
      rw [← List.append_assoc, List.rdropWhile_append_cons (by decide),
        rdropWhile_encode (p := inFragment) (by decide), List.append_assoc, List.append_assoc,
        List.cons_append,
        read_fragment (plain_pathText (hcanonical _)) not_mem_map_encode]
      exact segments_pathText (segments_ne_nil _) (hcanonical _)

end Url

namespace Outbound

open Backhaul (parse_of_check plainSettings noFiles atLoopback urlFor_eq)
open Url (parse Ending IsApiPath ServerText behindAuthority)

variable {s : Settings} {platform : Platform} {session : Session} {path scheme : String} {u v : Url}
  {front rest : List Char} {c : Char}

/-- A URL is at the server of another one. -/
structure AtServer (u v : Url) : Prop where
  scheme_eq : v.scheme = u.scheme
  host_eq : v.host = u.host
  portNumber_eq : v.portNumber = u.portNumber

lemma atServer_on (e e' : Ending) (v : Url) : AtServer (e.on v) (e'.on v) := ⟨rfl, rfl, rfl⟩

/-- The session finds a path at the server of a URL, behind the path of the URL. -/
def FindsBehind (session : Session) (u : Url) (path : String) : Prop :=
  ∃ v, parse (session.urlFor path) = .ok v ∧ AtServer u v ∧
    v.path.text = trimSlashes u.path.text ++ path

/-- What the session finds, by the parts of the server's text. -/
lemma exists_urlFor (h : ServerText s.server.url scheme front rest v)
    (hs : Session.of platform s.server = .ok session)
    (hu : parse s.server.url = .ok u) (hv : u = (Ending.read (behindAuthority rest)).on v)
    (hpath : IsApiPath path) :
    ∃ w, parse (session.urlFor path) = .ok w ∧ AtServer u w ∧ w.path.text =
      if u.EndsInPath then trimSlashes u.path.text ++ path else u.path.text := by
  subst hv
  refine ⟨_, urlFor_eq hs h hu hpath.1, atServer_on _ _ v, String.toList_injective ?_⟩
  have htext : ∀ e : Ending, (e.on v).path.text.toList = Url.pathText e.segments := fun e =>
    Url.toList_text_segments e.segments
  obtain ⟨segs, hne, hsegs, hpathText⟩ := hpath.exists_segments
  rw [htext, hpath.appended_eq, hpathText]
  split_ifs with hend
  · rw [Url.endsInPath_on] at hend
    rw [Url.segments_read_path hend.1 hend.2 hne hsegs, Url.pathText_append, String.toList_append,
      Url.toList_trimSlashes, htext, Url.pathText_stump, hpathText]
  · rw [Url.endsInPath_on] at hend
    rw [Url.segments_read_behind hend, htext]

/-- A text does not end in a path behind itself, unless the path ends in a slash. -/
lemma ne_trimSlashes_append {text : String} (h : path.toList.getLast? = some c) (hc : c ≠ '/') :
    trimSlashes text ++ path ≠ text := by
  intro heq
  obtain ⟨front, hfront⟩ := List.getLast?_eq_some_iff.mp h
  have hlist : text.toList.rdropWhile (· == '/') ++ (front ++ [c]) = text.toList := by
    rw [← hfront, ← Url.toList_trimSlashes, ← String.toList_append, heq]
  -- nothing is trimmed off a text that ends in the path
  have hkept : text.toList.rdropWhile (· == '/') = text.toList := by
    rw [← hlist, ← List.append_assoc, List.rdropWhile_concat_neg _ _ _ (by simpa using hc)]
  rw [hkept] at hlist
  simpa using congrArg List.length hlist

/-- **Where the session finds a path of the API.**  For checked settings it is always at the server
that is configured.  If the server's URL has neither query nor fragment, the path is the server's
without the slashes at its end with the given path behind it; otherwise it is the server's own
path, whatever path is given.  So the given paths are found behind the server's if and only if the
server's URL has neither query nor fragment. -/
theorem urlFor_apiPath (hcheck : s.check = .ok ())
    (hs : Session.of platform s.server = .ok session) : ∃ u, parse s.server.url = .ok u ∧
      (∀ path, IsApiPath path → ∃ v, parse (session.urlFor path) = .ok v ∧ AtServer u v ∧
        v.path.text = if u.EndsInPath then trimSlashes u.path.text ++ path else u.path.text) ∧
      ((∀ path, IsApiPath path → FindsBehind session u path) ↔ u.EndsInPath) := by
  obtain ⟨u, hu, hweb⟩ := parse_of_check hcheck
  obtain ⟨front, rest, v, h, hv⟩ := Url.exists_server hu hweb
  have hfound := fun (path : String) (hpath : IsApiPath path) => exists_urlFor h hs hu hv hpath
  refine ⟨u, hu, hfound, fun hall => ?_, fun hend path hpath => ?_⟩
  · by_contra hend
    -- a path that does not end in a slash tells its place from the server's own
    have hpath : IsApiPath "/a" := by decide +kernel
    obtain ⟨w, hw, -, hbehind⟩ := hall "/a" hpath
    obtain ⟨w', hw', -, hown⟩ := hfound "/a" hpath
    obtain rfl : w = w' := Except.ok.inj (hw.symm.trans hw')
    rw [if_neg hend] at hown
    exact ne_trimSlashes_append (c := 'a') (by decide +kernel) (by decide) (hbehind.symm.trans hown)
  · obtain ⟨w, hw, hserver, htext⟩ := hfound path hpath
    rw [if_pos hend] at htext
    exact ⟨w, hw, hserver, htext⟩

/-- The server's own path stays in front of what is given. -/
theorem urlFor_apiPath_loopback :
    let s := plainSettings "http://[::1]/a/" "b"
    let session : Session := { base := "http://[::1]/a", authorization := "id=\"a\", key=\"b\"" }
    s.check = .ok () ∧ Session.of noFiles s.server = .ok session ∧
      parse s.server.url = .ok (atLoopback "http" ["a", ""]) ∧
      FindsBehind session (atLoopback "http" ["a", ""]) "/ws/servers/" := by
  intro s session
  have hcheck : s.check = .ok () := by decide +kernel
  have hs : Session.of noFiles s.server = .ok session := by decide +kernel
  have hu : parse s.server.url = .ok (atLoopback "http" ["a", ""]) := by decide +kernel
  obtain ⟨u, hu', -, hlaw⟩ := urlFor_apiPath hcheck hs
  obtain rfl : atLoopback "http" ["a", ""] = u := Except.ok.inj (hu.symm.trans hu')
  exact ⟨hcheck, hs, hu, hlaw.mpr ⟨rfl, rfl⟩ _ (by decide +kernel)⟩

/-- What is put behind a fragment becomes part of the fragment. -/
theorem fragment_takes_path :
    let s := plainSettings "http://[::1]/#f" "b"
    let session : Session := { base := "http://[::1]/#f", authorization := "id=\"a\", key=\"b\"" }
    let u : Url := { atLoopback "http" [""] with fragment := some "f" }
    s.check = .ok () ∧ Session.of noFiles s.server = .ok session ∧ parse s.server.url = .ok u ∧
      IsApiPath "/ws" ∧
      parse (session.urlFor "/ws") = .ok { atLoopback "http" [""] with fragment := some "f/ws" } ∧
      ¬FindsBehind session u "/ws" := by
  intro s session u
  have hurl : parse (session.urlFor "/ws")
      = .ok { atLoopback "http" [""] with fragment := some "f/ws" } := by decide +kernel
  refine ⟨by decide +kernel, by decide +kernel, by decide +kernel, by decide +kernel, hurl, ?_⟩
  rintro ⟨v, hv, -, htext⟩
  rw [hurl] at hv
  obtain rfl := Except.ok.inj hv
  exact absurd htext (by decide +kernel)

end Outbound

end HostAgent
