import HostAgent.Backhaul.Target
import HostAgent.Proofs.Settings.Checks
import HostAgent.Proofs.Url.Appended

/-!
# The backhaul and the session lead to the same place

The session appends a path to the text of the URL that the server's text is read as; the backhaul
appends it to the server's text as it is given.  Both drop the slashes at the end first, but of
different texts.

* `SamePlace` — the backhaul's address is the session's, with the scheme of websockets.
* `same_place_iff` — for which texts this is so: nothing but tabs and line breaks is cut off at the
  end, and the root of the backhaul has no second slash at its end.
-/

namespace HostAgent.Backhaul

open Outbound (Platform Session trimSlashes)
open Url (blanksBehind parse Ending Placed placeText ServerText directory behindAuthority IsWeb)

variable {s : Settings} {platform : Platform} {session : Session} {raw path scheme : String}
  {front rest t p : List Char} {u v root : Url}

/-- The URL that the session finds a path at is the backhaul's, but for the scheme, which is that
of websockets. -/
def SamePlace (session : Session) (path : String) (u : Url) : Prop :=
  ∃ v, parse (session.urlFor path) = .ok v ∧ socketScheme? v.scheme = some u.scheme ∧
    u = { v with scheme := u.scheme }

/-- The scheme of websockets for a server's. -/
def socketScheme (scheme : String) : String := if scheme = "http" then "ws" else "wss"

lemma socketScheme?_web (h : IsWeb scheme) : socketScheme? scheme = some (socketScheme scheme) := by
  rcases h with rfl | rfl <;> rfl

/-- What the check says about the server's address. -/
lemma parse_of_check (h : s.check = .ok ()) : ∃ u, parse s.server.url = .ok u ∧ IsWeb u.scheme := by
  have hserver := (Settings.check_eq_ok_iff.mp h).1
  unfold Settings.Server.problem? at hserver
  split at hserver
  · cases hserver
  · next u hu =>
      refine ⟨u, hu, ?_⟩
      by_contra hweb
      rw [if_pos (by simpa [IsWeb, not_or] using hweb)] at hserver
      cases hserver

/-- The address of the backhaul by what the joined text is read as. -/
lemma backhaulUrl_of_parse (h : IsWeb u.scheme) (hp : parse (trimSlashes raw ++ path) = .ok u) :
    backhaulUrl raw path = .ok { u with scheme := socketScheme u.scheme } := by
  rw [backhaulUrl, hp]
  simp only [socketScheme?_web h]

lemma backhaulUrl_of_error {fault : Url.Fault}
    (hp : parse (trimSlashes raw ++ path) = .error fault) :
    ∃ e, backhaulUrl raw path = .error e := by
  rw [backhaulUrl, hp]
  exact ⟨_, rfl⟩

lemma base_of_session (hs : Session.of platform s.server = .ok session)
    (hu : parse s.server.url = .ok u) : session.base = trimSlashes u.text := by
  unfold Session.of at hs
  rw [hu] at hs
  dsimp only at hs
  split at hs
  · cases hs
  split at hs
  · cases hs
  split at hs <;> cases hs
  rfl

lemma urlFor_of_slash (h : path.toList.head? = some '/') :
    session.urlFor path = session.base ++ path := by
  rw [Session.urlFor, if_pos h]

/-- A URL is determined by what is written behind its authority. -/
lemma text_eq_of_on_eq {e e' : Ending} (hv : v.host.isSome) (h : e.on v = e'.on v) :
    e.text = e'.text := by
  have htext := congrArg (fun u => u.text.toList) h
  simp only [Url.toList_text_on hv] at htext
  simpa using htext

/-! ## One text, two addresses -/

/-- The session's address of a path, by the ending that is left of the server's. -/
lemma urlFor_eq (hs : Session.of platform s.server = .ok session)
    (h : ServerText s.server.url scheme front rest v)
    (hu : parse s.server.url = .ok ((Ending.read (behindAuthority rest)).on v))
    (hpath : path.toList.head? = some '/') : parse (session.urlFor path) = .ok ((Ending.read
      ((Ending.read (behindAuthority rest)).text.rdropWhile (· == '/') ++ Url.appended path)).on v)
    := by
  rw [urlFor_of_slash hpath, base_of_session hs hu, Url.parse_written h.web h.placed _ hpath]

/-- What is left of the server's ending is its directory without the slashes at its end. -/
lemma rdropWhile_text (rest : List Char) :
    (Ending.read (behindAuthority rest)).text.rdropWhile (· == '/')
      = (directory (behindAuthority rest)).rdropWhile (· == '/') := by
  obtain ⟨k, hk⟩ := Url.text_read (Url.ender_behindAuthority rest).behind
  rw [hk, List.rdropWhile_append_replicate]

/-- Two addresses on one authority are the same place if their endings are. -/
lemma samePlace_iff {e e' : Ending} (hweb : IsWeb v.scheme)
    (h : parse (session.urlFor path) = .ok (e.on v)) :
    SamePlace session path { e'.on v with scheme := socketScheme v.scheme } ↔ e.on v = e'.on v := by
  constructor
  · rintro ⟨w, hw, -, heq⟩
    rw [h] at hw
    obtain rfl := Except.ok.inj hw
    simp only [Ending.on, Url.mk.injEq] at heq ⊢
    tauto
  · intro heq
    exact ⟨e.on v, h, socketScheme?_web hweb, by rw [heq]⟩

/-- A slash at the end is doubled if what precedes it ends in one. -/
lemma not_doubled_iff (xs : List Char) :
    ¬['/', '/'] <:+ xs ++ ['/'] ↔ xs.rdropWhile (· == '/') = xs := by
  rw [List.rdropWhile_eq_self_iff]
  constructor
  · intro h hne hslash
    refine h ⟨xs.dropLast, ?_⟩
    conv_rhs => rw [← List.dropLast_append_getLast hne, eq_of_beq hslash]
    simp
  · rintro h ⟨ys, hys⟩
    obtain rfl : xs = ys ++ ['/'] := by
      have : ys ++ ['/'] ++ ['/'] = xs ++ ['/'] := by simpa using hys
      exact (List.append_cancel_right this).symm
    exact h (by simp) (by simp)

/-- The root of the backhaul ends in one slash if the directory it stands in ends in none. -/
lemma root_not_doubled_iff (hv : Placed scheme v) (ht : Url.Behind t) :
    ¬['/', '/'] <:+
        (Url.text { (Ending.read (t ++ ['/'])).on v with scheme := socketScheme v.scheme }).toList ↔
      (directory t).rdropWhile (· == '/') = directory t := by
  have hhost : ({ v with scheme := socketScheme v.scheme } : Url).host.isSome :=
    hv.host_isSome
  have htext := Url.toList_text_on hhost (Ending.read (t ++ ['/']))
  have hplace : placeText { v with scheme := socketScheme v.scheme } = placeText v := rfl
  have hsplit : ∀ front : List Char, front ++ ':' :: '/' :: '/' ::
      (placeText v ++ (directory t ++ ['/'])) =
        (front ++ [':', '/', '/']) ++ (placeText v ++ directory t) ++ ['/'] := fun _ => by simp
  change ¬['/', '/'] <:+ ((Ending.read (t ++ ['/'])).on
    { v with scheme := socketScheme v.scheme }).text.toList ↔ _
  rw [htext, Url.text_read_slash ht, hplace, hsplit, not_doubled_iff,
    Url.rdropWhile_placeText hv]
  simp

lemma appended_slash : Url.appended "/" = ['/'] := by
  have hlist : "/".toList = ['/'] := String.toList_ofList
  rw [Url.appended, hlist]
  rfl

/-- **The backhaul and the session lead to the same place.**  They do at every path if and only if
nothing but tabs and line breaks is cut off behind the server's text and the backhaul's own root
does not end in two slashes. -/
theorem same_place_iff (hcheck : s.check = .ok ())
    (hs : Session.of platform s.server = .ok session) :
    (∀ path u, path.toList.head? = some '/' → backhaulUrl s.server.url path = .ok u →
      SamePlace session path u) ↔
    ∀ root, backhaulUrl s.server.url "/" = .ok root →
      blanksBehind s.server.url = [] ∧ ¬['/', '/'] <:+ root.text.toList := by
  obtain ⟨u, hu, hweb⟩ := parse_of_check hcheck
  obtain ⟨front, rest, v, h, rfl⟩ := Url.exists_server hu hweb
  have hroot : "/".toList.head? = some '/' := by
    have hlist : "/".toList = ['/'] := String.toList_ofList
    rw [hlist]
    rfl
  have hscheme : IsWeb v.scheme := hweb
  have hplaced : Placed v.scheme v := h.placed
  have hurl : ∀ path : String, path.toList.head? = some '/' → parse (session.urlFor path) =
      .ok ((Ending.read ((directory (behindAuthority rest)).rdropWhile (· == '/') ++
        Url.appended path)).on v) := fun path hp => by
    rw [← rdropWhile_text]
    exact urlFor_eq hs h hu hp
  -- if they agree about the root, what is left of the ending is a directory
  have hagree : ∀ t, Url.Behind t → SamePlace session "/"
      { (Ending.read (t ++ ['/'])).on v with scheme := socketScheme v.scheme } →
      (directory (behindAuthority rest)).rdropWhile (· == '/') = directory t := by
    intro t ht hsame
    have hresolved := (Url.resolved_directory (behindAuthority rest)).rdropWhile
    have htext := text_eq_of_on_eq hplaced.host_isSome
      ((samePlace_iff hscheme (hurl "/" hroot)).mp hsame)
    rw [appended_slash, Url.text_read_slash hresolved.behind, Url.text_read_slash ht,
      hresolved.directory_eq] at htext
    exact List.append_cancel_right htext
  by_cases hblanks : blanksBehind s.server.url = []
  · obtain ⟨t, k, hender, hrest, hparse⟩ := h.parse_append hblanks
    have hleft : (directory (behindAuthority rest)).rdropWhile (· == '/')
        = (directory t).rdropWhile (· == '/') := by
      rw [hrest, Url.directory_append_slashes hender.behind, List.rdropWhile_append_replicate]
    have hbackhaul : ∀ path : String, path.toList.head? = some '/' →
        backhaulUrl s.server.url path = .ok { (Ending.read (t ++ Url.appended path)).on v with
          scheme := socketScheme v.scheme } := fun path hp =>
      backhaulUrl_of_parse (u := (Ending.read (t ++ Url.appended path)).on v) hscheme
        (hparse path hp)
    constructor
    · intro hall root hok
      refine ⟨hblanks, ?_⟩
      have hsame := hall "/" root hroot hok
      rw [hbackhaul "/" hroot, appended_slash] at hok
      obtain rfl := Except.ok.inj hok
      rw [root_not_doubled_iff hplaced hender.behind, ← hleft]
      exact hagree t hender.behind hsame
    · intro hcond path u hpath hok
      obtain ⟨-, hdoubled⟩ := hcond _ (hbackhaul "/" hroot)
      rw [appended_slash, root_not_doubled_iff hplaced hender.behind] at hdoubled
      rw [hbackhaul path hpath] at hok
      obtain rfl := Except.ok.inj hok
      obtain ⟨p, hp⟩ := Url.appended_of_slash hpath
      rw [samePlace_iff hscheme (hurl path hpath), hleft, hdoubled, hp,
        Url.read_append hender.behind]
  · by_cases hrest : behindAuthority rest = []
    · have herror : ∀ path : String, path.toList.head? = some '/' →
          ∃ e, backhaulUrl s.server.url path = .error e := fun path hp => by
        obtain ⟨fault, hfault⟩ := h.parse_append_blanks_nil hblanks hrest hp
        exact backhaulUrl_of_error hfault
      constructor
      · intro _ root hok
        obtain ⟨e, he⟩ := herror "/" hroot
        rw [he] at hok
        cases hok
      · intro _ path u hpath hok
        obtain ⟨e, he⟩ := herror path hpath
        rw [he] at hok
        cases hok
    · have hbackhaul := backhaulUrl_of_parse (u := (Ending.read (behindAuthority rest ++
        blanksBehind s.server.url ++ Url.appended "/")).on v) hscheme
        (h.parse_append_blanks hblanks hrest hroot)
      have hbehind := (Url.ender_append_of_ne_nil (Url.ender_behindAuthority rest) hrest
        (blanksBehind s.server.url)).behind
      constructor
      · intro hall
        have hsame := hall "/" _ hroot hbackhaul
        rw [appended_slash] at hsame
        have heq := hagree _ hbehind hsame
        have hlt := Url.length_directory_lt (Url.ender_behindAuthority rest).behind hrest hblanks
          fun c => Url.isEdge_of_mem_blanksBehind
        have hfront := List.rdropWhile_prefix (· == '/') (directory (behindAuthority rest))
        have hle := hfront.length_le
        rw [heq] at hle
        exact absurd hle (not_le.mpr hlt)
      · intro hcond
        exact absurd (hcond _ hbackhaul).1 hblanks

/-! ### Two servers -/

/-- Settings that say no more than they have to. -/
def plainSettings (url key : String) : Settings := { server := { url, id := "a", key } }

/-- A machine without files, on which everything can be set up. -/
def noFiles : Platform where
  files _ := .error .absent

/-- A URL at the machine's own address. -/
def atLoopback (scheme : String) (segments : List String) : Url :=
  { scheme, host := some (.ipv6 [0, 0, 0, 0, 0, 0, 0, 1]), path := .segments segments }

/-- Without anything behind the server's text the places are the same. -/
theorem same_place_loopback :
    (plainSettings "http://[::1]" "b").check = .ok () ∧
      Session.of noFiles (plainSettings "http://[::1]" "b").server
        = .ok { base := "http://[::1]", authorization := "id=\"a\", key=\"b\"" } ∧
      SamePlace { base := "http://[::1]", authorization := "id=\"a\", key=\"b\"" } "/ws"
        (atLoopback "ws" ["ws"]) := by
  have hcheck : (plainSettings "http://[::1]" "b").check = .ok () := by decide +kernel
  have hs : Session.of noFiles (plainSettings "http://[::1]" "b").server
      = .ok { base := "http://[::1]", authorization := "id=\"a\", key=\"b\"" } := by
    decide +kernel
  have hroot : backhaulUrl "http://[::1]" "/" = .ok (atLoopback "ws" [""]) := by decide +kernel
  refine ⟨hcheck, hs, (same_place_iff hcheck hs).mpr ?_ "/ws" _ (by decide +kernel)
    (by decide +kernel)⟩
  intro root hok
  rw [show (plainSettings "http://[::1]" "b").server.url = "http://[::1]" from rfl, hroot] at hok
  cases hok
  exact ⟨by decide +kernel, by decide +kernel⟩

/-- A blank behind the server's text is cut off for the session, but stands before the path of the
backhaul. -/
theorem blank_parts_places :
    (plainSettings "http://[::1]/ " "b").check = .ok () ∧
      Session.of noFiles (plainSettings "http://[::1]/ " "b").server
        = .ok { base := "http://[::1]", authorization := "id=\"a\", key=\"b\"" } ∧
      backhaulUrl "http://[::1]/ " "/ws" = .ok (atLoopback "ws" ["%20", "ws"]) ∧
      ¬SamePlace { base := "http://[::1]", authorization := "id=\"a\", key=\"b\"" } "/ws"
        (atLoopback "ws" ["%20", "ws"]) := by
  refine ⟨by decide +kernel, by decide +kernel, by decide +kernel, ?_⟩
  rintro ⟨v, hv, -, heq⟩
  have hsession : parse (Session.urlFor
      { base := "http://[::1]", authorization := "id=\"a\", key=\"b\"" } "/ws")
        = .ok (atLoopback "http" ["ws"]) := by decide +kernel
  rw [hsession] at hv
  cases hv
  exact absurd heq (by decide +kernel)

end HostAgent.Backhaul
