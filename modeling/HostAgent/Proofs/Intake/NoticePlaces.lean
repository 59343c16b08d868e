import HostAgent.Intake
import HostAgent.Proofs.Outbound.ApiPaths
import HostAgent.Proofs.Wire.Envelopes

/-!
# Where notices are posted

The acknowledgement and the completion of a command are posted to paths in which the id of the
command is a segment, as it is.  The id is any text that is not empty, and what is read as a URL
may have lost some of it: tabs and line breaks are cut out, a query or a fragment begins, slashes
make segments and dot segments among them vanish, and a percent form is what it stands for.

* `eroded` — the characters that this happens to.
* `readBehind` — what is read of the end of a path behind a stack of segments.
* `readBehind_inj` — of ids without these characters different ends are read.
* `namesakes`, `readBehind_namesakes` — for each of these characters there are two ids of which the
  same is read.
* `notices_apart_iff` — so the notices are kept apart by the other characters, and by no more.
-/

namespace HostAgent.Intake

open Backhaul (plainSettings noFiles atLoopback)
open Outbound (Platform Session)
open Url (parse Ending EndsInPath ServerText behindAuthority splitEnd splitPath resolve enter counts
  isSlash Canonical Settled)
open Url.Percent (encode inPath inWebQuery sparing_inPath)
open Wire (Query acknowledgePath completionPath)

variable {s : Settings} {platform : Platform} {session : Session} {path scheme : String} {u v : Url}
  {front rest p : List Char} {c : Char} {cs ds word word' : List Char}
  {rev segs : List (List Char)}

/-! ## Readings -/

/-- What is read of the end of a path behind a stack of segments: segments and query. -/
def readBehind (rev : List (List Char)) (p : List Char) :
    List (List Char) × Option (List Char) :=
  ((resolve .web rev (splitPath .web (splitEnd p).1)).map (encode inPath),
    (splitEnd p).2.1.map (encode inWebQuery))

/-- Segments with a slash behind each. -/
def slashed (segs : List (List Char)) : List Char := segs.flatMap (· ++ ['/'])

/-- Whether a text is read as one segment. -/
def isSegment (cs : List Char) : Bool := cs.all fun c => c != '#' && c != '?' && !isSlash c

lemma isSegment_iff : isSegment cs = true ↔ Url.Plain cs ∧ ∀ c ∈ cs, isSlash c = false := by
  simp only [isSegment, List.all_eq_true, Bool.and_eq_true, bne_iff_ne, Bool.not_eq_true',
    Url.Plain]
  exact ⟨fun h => ⟨fun c hc => (h c hc).1, fun c hc => (h c hc).2⟩,
    fun h c hc => ⟨h.1 c hc, h.2 c hc⟩⟩

lemma readBehind_nil (rev : List (List Char)) :
    readBehind rev [] = ((rev.map (encode inPath)).reverse ++ [[]], none) := by
  have hsplit : splitPath .web [] = [[]] := Url.splitPath_of_forall (by simp)
  rw [readBehind]
  change ((resolve .web rev (splitPath .web [])).map (encode inPath), none) = _
  rw [hsplit, Url.resolve_empty, List.map_append, List.map_reverse]
  rfl

/-- A segment is read by entering it. -/
lemma readBehind_segment (h : isSegment cs = true) (rev : List (List Char)) (p : List Char) :
    readBehind rev (cs ++ '/' :: p) = readBehind (enter rev cs) p := by
  obtain ⟨hplain, hslash⟩ := isSegment_iff.mp h
  have hfront : Url.Plain (cs ++ ['/']) := fun c hc => by
    rcases List.mem_append.mp hc with hc | hc
    · exact hplain c hc
    · obtain rfl := List.mem_singleton.mp hc
      decide
  have hsplit := Url.splitEnd_append hfront p
  rw [List.append_assoc, List.singleton_append] at hsplit
  rw [readBehind, hsplit, List.append_assoc, List.singleton_append, Url.splitPath_append_slash,
    Url.splitPath_of_forall hslash, List.singleton_append,
    Url.resolve_cons (Url.splitPath_ne_nil _)]
  rfl

/-- Segments are read by entering them one after the other. -/
lemma readBehind_slashed (h : ∀ s ∈ segs, isSegment s = true) (rev : List (List Char))
    (p : List Char) : readBehind rev (slashed segs ++ p) = readBehind (segs.foldl enter rev) p := by
  induction segs generalizing rev with
  | nil => rfl
  | cons s segs ih =>
      have hsplit : slashed (s :: segs) ++ p = s ++ '/' :: (slashed segs ++ p) := by
        simp [slashed]
      rw [hsplit, readBehind_segment (h s (by simp)), ih fun t ht => h t (by simp [ht]),
        List.foldl_cons]

/-! ## The paths of notices -/

/-- The segments of the directory of commands. -/
def directorySegments : List (List Char) := ["api".toList, "events".toList, "commands".toList]

/-- The last segment of the path of an acknowledgement. -/
def ackWord : List Char := "ack".toList

/-- The last segment of the path of a completion. -/
def finWord : List Char := "fin".toList

/-- The segments that end the paths of notices. -/
def lastWords : List (List Char) := [ackWord, finWord]

/-- What follows the directory of commands in the path of a notice. -/
def noticeEnd (word id : List Char) : List Char := slashed [id, word]

/-- The path of a notice. -/
def noticePath (word id : List Char) : List Char :=
  '/' :: (slashed directorySegments ++ noticeEnd word id)

/-- A segment that is read as it is written. -/
structure Fixed (w : List Char) : Prop where
  segment : isSegment w = true
  settled : Settled w
  counted : w.filter counts = w
  noPercent : '%' ∉ w

lemma fixed_of_mem : ∀ w ∈ directorySegments ++ lastWords, Fixed w := by
  have hall : (directorySegments ++ lastWords).all fun w =>
      isSegment w && !Url.isDotDot w && !Url.isDot w && w.all counts && !w.contains '%' := by
    decide +kernel
  intro w hw
  have hspec := List.all_eq_true.mp hall w hw
  simp only [Bool.and_eq_true, Bool.not_eq_true'] at hspec
  obtain ⟨⟨⟨⟨hsegment, habove⟩, hhere⟩, hcounts⟩, hpercent⟩ := hspec
  refine ⟨hsegment, ⟨habove, hhere⟩, List.filter_eq_self.mpr (List.all_eq_true.mp hcounts),
    fun hmem => ?_⟩
  rw [List.contains_iff_mem.mpr hmem] at hpercent
  cases hpercent

lemma fixed_directory {w : List Char} (h : w ∈ directorySegments) : Fixed w :=
  fixed_of_mem w (List.mem_append_left _ h)

lemma fixed_lastWord (h : word ∈ lastWords) : Fixed word :=
  fixed_of_mem word (List.mem_append_right _ h)

lemma noticeEnd_eq (word id : List Char) : noticeEnd word id = (id ++ '/' :: word) ++ ['/'] := by
  simp [noticeEnd, slashed]

lemma toList_notice {back : String} (hback : back.toList = '/' :: word ++ ['/']) (id : String) :
    ("/api/events/commands/" ++ id ++ back).toList = noticePath word id.toList := by
  have hfront : "/api/events/commands/".toList = '/' :: slashed directorySegments := by
    decide +kernel
  rw [String.toList_append, String.toList_append, hfront, hback, noticePath, noticeEnd_eq,
    ← List.cons_append, List.append_assoc, List.append_assoc]

lemma toList_acknowledgePath (id : String) :
    (acknowledgePath id).toList = noticePath ackWord id.toList :=
  toList_notice (by decide +kernel) id

lemma toList_completionPath (id : String) :
    (completionPath id).toList = noticePath finWord id.toList :=
  toList_notice (by decide +kernel) id

lemma filter_slashed (segs : List (List Char)) :
    (slashed segs).filter counts = slashed (segs.map (·.filter counts)) := by
  have hslash : ['/'].filter counts = ['/'] := by decide
  simp [slashed, List.filter_flatMap, List.flatMap_map, hslash]

/-- In the path of a notice, nothing but tabs and line breaks in the id is cut out. -/
lemma appended_notice (hword : word ∈ lastWords) (h : path.toList = noticePath word cs) :
    Url.appended path = noticePath word (cs.filter counts) := by
  have hdirectory : directorySegments.map (·.filter counts) = directorySegments := by
    conv_rhs => rw [← List.map_id directorySegments]
    exact List.map_congr_left fun w hw => (fixed_directory hw).counted
  -- the path ends in a slash, so blanks that end the id are not cut off
  have hend : path.toList.rdropWhile Url.isEdge = path.toList := by
    rw [h, noticePath, noticeEnd_eq, ← List.append_assoc, ← List.cons_append,
      List.rdropWhile_concat_neg _ _ _ (by decide)]
  rw [Url.appended, hend, h, noticePath, List.filter_cons_of_pos (by decide), List.filter_append,
    noticeEnd, filter_slashed, filter_slashed, hdirectory, List.map_cons, List.map_cons,
    (fixed_lastWord hword).counted, noticePath, noticeEnd, List.map_nil]

/-- The end of the path of a notice whose id is read as one segment. -/
lemma readBehind_noticeEnd (hid : isSegment cs = true) (hword : word ∈ lastWords)
    (rev : List (List Char)) : readBehind rev (noticeEnd word cs) =
      (((word :: enter rev cs).map (encode inPath)).reverse ++ [[]], none) := by
  have hsegments : ∀ s ∈ [cs, word], isSegment s = true :=
    List.forall_mem_cons.mpr ⟨hid, List.forall_mem_singleton.mpr (fixed_lastWord hword).segment⟩
  rw [noticeEnd, ← List.append_nil (slashed _), readBehind_slashed hsegments, readBehind_nil,
    List.foldl_cons, List.foldl_cons, List.foldl_nil,
    Url.enter_of_settled (fixed_lastWord hword).settled]

/-! ## Eroded characters -/

/-- The characters that a segment of a path may lose or change. -/
def eroded : List Char := ['#', '?', '/', '\\', '%', '\t', '\n', '\r']

/-- A text without eroded characters. -/
def Uneroded (cs : List Char) : Prop := ∀ c ∈ cs, c ∉ eroded

lemma Uneroded.isSegment (h : Uneroded cs) : isSegment cs = true := by
  refine List.all_eq_true.mpr fun c hc => ?_
  have hnot := h c hc
  simp only [eroded, List.mem_cons, not_or] at hnot
  simp [isSlash, hnot]

lemma Uneroded.noPercent (h : Uneroded cs) : '%' ∉ cs := fun hc => h _ hc (by decide)

lemma Uneroded.filter_counts (h : Uneroded cs) : cs.filter counts = cs := by
  refine List.filter_eq_self.mpr fun c hc => ?_
  have hnot := h c hc
  simp only [eroded, List.mem_cons, not_or] at hnot
  simp [counts, hnot]

/-- **Of ids without eroded characters different ends are read.** -/
theorem readBehind_inj (hrev : rev ≠ []) (hcs : Uneroded cs) (hds : Uneroded ds)
    (hword : word ∈ lastWords) (hword' : word' ∈ lastWords)
    (h : readBehind rev (noticeEnd word cs) = readBehind rev (noticeEnd word' ds)) :
    word = word' ∧ cs = ds := by
  rw [readBehind_noticeEnd hcs.isSegment hword, readBehind_noticeEnd hds.isSegment hword',
    Prod.mk.injEq, List.append_cancel_right_eq, List.reverse_inj, List.map_cons, List.map_cons,
    List.cons.injEq] at h
  have hencode := Url.encode_inj sparing_inPath (fixed_lastWord hword).noPercent
    (fixed_lastWord hword').noPercent
  exact ⟨hencode.mp h.1.1, Url.enter_inj hrev hcs.noPercent hds.noPercent h.1.2⟩

/-- Two ids with an eroded character in one of them, which look alike behind any stack. -/
def namesakes : Char → List Char × List Char
  | '#' => (['#', 'a'], ['#', 'b'])
  | '?' => (['.', '?'], ['?'])
  | '/' => (['.', '/', 'a'], ['a'])
  | '\\' => (['.', '\\', 'a'], ['a'])
  | '%' => (['%', '2', '0'], [' '])
  | c => (['a', c], ['a'])

lemma namesakes_spec (hc : c ∈ eroded) : (namesakes c).1 ≠ (namesakes c).2 ∧
    ∀ id ∈ [(namesakes c).1, (namesakes c).2], id ≠ [] ∧ ∀ d ∈ id, d ∈ eroded → d = c := by
  have hall : eroded.all fun c => (namesakes c).1 != (namesakes c).2 &&
      [(namesakes c).1, (namesakes c).2].all fun id => id != [] && id.all fun d =>
        !eroded.contains d || d == c := by decide +kernel
  have hspec := List.all_eq_true.mp hall c hc
  simp only [Bool.and_eq_true, List.all_eq_true, bne_iff_ne, Bool.or_eq_true, Bool.not_eq_true',
    beq_iff_eq] at hspec
  refine ⟨hspec.1, fun id hid => ⟨(hspec.2 id hid).1, fun d hd he => ?_⟩⟩
  refine ((hspec.2 id hid).2 d hd).resolve_left fun hnot => ?_
  rw [List.contains_iff_mem.mpr he] at hnot
  cases hnot

/-- **For each eroded character there are two ids of which the same is read.** -/
theorem readBehind_namesakes (hc : c ∈ eroded) (rev : List (List Char)) :
    readBehind rev (noticeEnd ackWord ((namesakes c).1.filter counts))
      = readBehind rev (noticeEnd ackWord ((namesakes c).2.filter counts)) := by
  simp only [eroded, List.mem_cons, List.not_mem_nil, or_false] at hc
  rcases hc with rfl | rfl | rfl | rfl | rfl | rfl | rfl | rfl
  -- what differs is in a fragment, in a dot segment in front of a query, or in one before a slash
  · rfl
  · rfl
  · rfl
  · rfl
  · -- a blank is written as its percent form
    have hspace : encode inPath ['%', '2', '0'] = encode inPath [' '] := by decide +kernel
    change readBehind rev (noticeEnd _ ['%', '2', '0']) = readBehind rev (noticeEnd _ [' '])
    rw [readBehind_noticeEnd (by decide +kernel) (by decide +kernel),
      readBehind_noticeEnd (by decide +kernel) (by decide +kernel),
      Url.enter_of_settled ⟨rfl, rfl⟩, Url.enter_of_settled ⟨rfl, rfl⟩]
    simp only [List.map_cons, hspace]
  -- what differs is cut out
  · rfl
  · rfl
  · rfl

/-! ## Places -/

/-- A URL without its fragment, which is not sent. -/
def withoutFragment (u : Url) : Url := { u with fragment := none }

/-- Where a request on a path is sent. -/
def placeOf (session : Session) (path : String) : Except Url.Fault Url :=
  (parse (session.urlFor path)).map withoutFragment

/-- The URL at an authority that ends in what is read. -/
def urlOf (v : Url) (r : List (List Char) × Option (List Char)) : Url :=
  ({ segments := r.1, query := r.2, fragment := none } : Ending).on v

lemma urlOf_injective (v : Url) : (urlOf v).Injective := by
  rintro ⟨segs, q⟩ ⟨segs', q'⟩ h
  have hlist : (String.ofList).Injective := fun _ _ => String.ofList_injective
  simp only [urlOf, Ending.on, Url.mk.injEq, Url.Path.segments.injEq, true_and, and_true] at h
  exact Prod.ext (List.map_injective_iff.mpr hlist h.1) (Option.map_injective hlist h.2)

/-- The stack that the directory of commands leaves. -/
def directoryOn (rev : List (List Char)) : List (List Char) := directorySegments.foldl enter rev

lemma directoryOn_ne_nil (rev : List (List Char)) : directoryOn rev ≠ [] := by
  rw [directoryOn, Url.foldl_enter_of_settled fun w hw => (fixed_directory hw).settled]
  simp [directorySegments]

/-- Behind the path of a server, a notice is sent to what is read behind the stump of that. -/
lemma placeOf_notice (h : ServerText s.server.url scheme front rest v)
    (hs : Session.of platform s.server = .ok session)
    (hu : parse s.server.url = .ok ((Ending.read (behindAuthority rest)).on v))
    (hend : ((Ending.read (behindAuthority rest)).on v).EndsInPath) (hword : word ∈ lastWords)
    (hpath : path.toList = noticePath word cs) : placeOf session path = .ok (urlOf v (readBehind
      (directoryOn (Ending.read (behindAuthority rest)).stump.reverse)
      (noticeEnd word (cs.filter counts)))) := by
  have hcanonical : ∀ s ∈ (Ending.read (behindAuthority rest)).stump, Canonical s := fun _ =>
    Url.canonical_of_mem_stump
  rw [Url.endsInPath_on] at hend
  rw [placeOf, Backhaul.urlFor_eq hs h hu (by rw [hpath]; rfl),
    Url.rdropWhile_text_path hend.1 hend.2, appended_notice hword hpath, noticePath,
    Url.read_append_path (Url.plain_pathText hcanonical) (Url.rooted_pathText _),
    Url.directories_pathText hcanonical, directoryOn, ← readBehind_slashed fun w hw =>
      (fixed_directory hw).segment]
  rfl

/-- The stack behind which a server's notices are read, and the authority they are sent to. -/
lemma exists_placeOf (hcheck : s.check = .ok ()) (hs : Session.of platform s.server = .ok session)
    (hu : parse s.server.url = .ok u) (hend : u.EndsInPath) : ∃ v rev, rev ≠ [] ∧ ∀ id : String,
      placeOf session (acknowledgePath id) = .ok (urlOf v (readBehind rev
        (noticeEnd ackWord (id.toList.filter counts)))) ∧
      placeOf session (completionPath id) = .ok (urlOf v (readBehind rev
        (noticeEnd finWord (id.toList.filter counts)))) := by
  obtain ⟨u', hu', hweb⟩ := Backhaul.parse_of_check hcheck
  obtain rfl : u = u' := Except.ok.inj (hu.symm.trans hu')
  obtain ⟨front, rest, v, h, rfl⟩ := Url.exists_server hu hweb
  exact ⟨v, _, directoryOn_ne_nil _, fun id =>
    ⟨placeOf_notice h hs hu hend List.mem_cons_self (toList_acknowledgePath id),
      placeOf_notice h hs hu hend (List.mem_cons_of_mem _ List.mem_cons_self)
        (toList_completionPath id)⟩⟩

/-! ## Ids -/

/-- The management plane can send a command of this id. -/
def Accepted (id : String) : Prop :=
  ∃ text c, Query.decode text = .ok (.command c) ∧ c.id = id

/-- **Every text that is not empty is the id of a command.** -/
theorem accepted_iff {id : String} : Accepted id ↔ id ≠ "" := by
  constructor
  · rintro ⟨text, c, hdecode, rfl⟩ hempty
    unfold Query.decode at hdecode
    split at hdecode
    · cases hdecode
    · unfold Query.ofEnvelope at hdecode
      split at hdecode
      · split at hdecode
        · cases hdecode
        · split_ifs at hdecode with hid
          cases hdecode
          exact hid (by rw [hempty]; rfl)
      all_goals cases hdecode
  · intro hid
    refine ⟨Wire.Envelope.text { query := "command", command := some { id } }, { id }, ?_, rfl⟩
    have hnot : ¬id.isEmpty = true := by simpa using hid
    rw [Query.decode, Wire.read?_text]
    exact if_neg hnot

/-! ## Notices that are kept apart -/

/-- An id that the management plane can send, written with some alphabet. -/
structure IsId (A : Char → Prop) (id : String) : Prop where
  accepted : Accepted id
  written : ∀ c ∈ id.toList, A c

/-- **Notices are kept apart**: each has a place, and no two that differ have the same one. -/
structure Apart (session : Session) (A : Char → Prop) : Prop where
  places : ∀ id, IsId A id → (∃ u, placeOf session (acknowledgePath id) = .ok u) ∧
    ∃ u, placeOf session (completionPath id) = .ok u
  acknowledgements : ∀ id id', IsId A id → IsId A id' → id ≠ id' →
    placeOf session (acknowledgePath id) ≠ placeOf session (acknowledgePath id')
  completions : ∀ id id', IsId A id → IsId A id' → id ≠ id' →
    placeOf session (completionPath id) ≠ placeOf session (completionPath id')
  crossed : ∀ id id', IsId A id → IsId A id' →
    placeOf session (acknowledgePath id) ≠ placeOf session (completionPath id')

/-- The two texts that are read alike are ids. -/
lemma isId_namesakes {A : Char → Prop} (hA : ∀ c ∉ eroded, A c) (hc : c ∈ eroded) (hAc : A c) :
    ∀ id ∈ [(namesakes c).1, (namesakes c).2], IsId A (String.ofList id) := by
  intro id hid
  obtain ⟨hnil, hother⟩ := (namesakes_spec hc).2 id hid
  refine ⟨accepted_iff.mpr fun hempty => hnil (by simpa using hempty), fun d hd => ?_⟩
  rw [String.toList_ofList] at hd
  by_cases he : d ∈ eroded
  · exact hother d hd he ▸ hAc
  · exact hA d he

/-- **Notices are kept apart by the characters that are not eroded, and by no more.**  For checked
settings and a server whose URL has neither query nor fragment: over an alphabet that has all
characters that are not eroded, no notice is sent to the place of another one if and only if the
alphabet has no eroded characters. -/
theorem notices_apart_iff (hcheck : s.check = .ok ())
    (hs : Session.of platform s.server = .ok session) (hu : parse s.server.url = .ok u)
    (hend : u.EndsInPath) {A : Char → Prop} (hA : ∀ c ∉ eroded, A c) :
    Apart session A ↔ ∀ c ∈ eroded, ¬A c := by
  obtain ⟨v, rev, hrev, hplace⟩ := exists_placeOf hcheck hs hu hend
  constructor
  · intro hapart c hc hAc
    have hid := isId_namesakes hA hc hAc
    refine hapart.acknowledgements _ _ (hid _ (by simp)) (hid _ (by simp))
      (fun heq => (namesakes_spec hc).1 (String.ofList_injective heq)) ?_
    rw [(hplace _).1, (hplace _).1, String.toList_ofList, String.toList_ofList,
      readBehind_namesakes hc]
  · intro hnone
    have hkept : ∀ {id}, IsId A id → Uneroded id.toList := fun hid c hc he =>
      hnone c he (hid.written c hc)
    -- notices that share a place end in the same word and have the same id
    have hinj : ∀ {w w' : List Char} {id id' : String}, w ∈ lastWords → w' ∈ lastWords →
        IsId A id → IsId A id' → urlOf v (readBehind rev (noticeEnd w (id.toList.filter counts)))
          = urlOf v (readBehind rev (noticeEnd w' (id'.toList.filter counts))) →
        w = w' ∧ id = id' := by
      intro w w' id id' hw hw' hid hid' heq
      rw [(hkept hid).filter_counts, (hkept hid').filter_counts] at heq
      obtain ⟨hword, hlist⟩ :=
        readBehind_inj hrev (hkept hid) (hkept hid') hw hw' (urlOf_injective v heq)
      exact ⟨hword, String.toList_injective hlist⟩
    have hack : ackWord ∈ lastWords := List.mem_cons_self
    have hfin : finWord ∈ lastWords := List.mem_cons_of_mem _ List.mem_cons_self
    refine ⟨fun id _ => ⟨⟨_, (hplace id).1⟩, _, (hplace id).2⟩, fun id id' hid hid' hne heq => ?_,
      fun id id' hid hid' hne heq => ?_, fun id id' hid hid' heq => ?_⟩
    · rw [(hplace id).1, (hplace id').1] at heq
      exact hne (hinj hack hack hid hid' (Except.ok.inj heq)).2
    · rw [(hplace id).2, (hplace id').2] at heq
      exact hne (hinj hfin hfin hid hid' (Except.ok.inj heq)).2
    · rw [(hplace id).1, (hplace id').2] at heq
      exact absurd (hinj hack hfin hid hid' (Except.ok.inj heq)).1 (by decide +kernel)

/-- They are kept apart by letters, digits, blanks and whatever else is not eroded. -/
theorem notices_apart_loopback :
    let s := plainSettings "http://[::1]" "b"
    let session : Session := { base := "http://[::1]", authorization := "id=\"a\", key=\"b\"" }
    s.check = .ok () ∧ Session.of noFiles s.server = .ok session ∧
      parse s.server.url = .ok (atLoopback "http" [""]) ∧
      Apart session fun c => c ∉ eroded := by
  intro s session
  have hcheck : s.check = .ok () := by decide +kernel
  have hs : Session.of noFiles s.server = .ok session := by decide +kernel
  have hu : parse s.server.url = .ok (atLoopback "http" [""]) := by decide +kernel
  exact ⟨hcheck, hs, hu, (notices_apart_iff hcheck hs hu ⟨rfl, rfl⟩ fun _ hc => hc).mpr
    fun _ hc hnot => hnot hc⟩

/-- What follows a number sign in an id is not sent, nor is the word behind the id. -/
theorem number_sign_hides_id :
    let s := plainSettings "http://[::1]" "b"
    let session : Session := { base := "http://[::1]", authorization := "id=\"a\", key=\"b\"" }
    let place := atLoopback "http" ["api", "events", "commands", "job"]
    s.check = .ok () ∧ Session.of noFiles s.server = .ok session ∧
      Query.decode "\x7b\"query\":\"command\",\"command\":\x7b\"id\":\"job#1\"\x7d\x7d"
        = .ok (.command { id := "job#1" }) ∧
      Query.decode "\x7b\"query\":\"command\",\"command\":\x7b\"id\":\"job#2\"\x7d\x7d"
        = .ok (.command { id := "job#2" }) ∧
      placeOf session (acknowledgePath "job#1") = .ok place ∧
      placeOf session (acknowledgePath "job#2") = .ok place ∧
      placeOf session (completionPath "job#2") = .ok place := by
  decide +kernel

end HostAgent.Intake
