import HostAgent.Proofs.Backhaul.Address

/-!
# What settings that pass the check need to start

The check looks at the server's address as a URL and at the credentials as texts that are not
blank.  To start, the agent also sends the credentials and the address in headers and appends the
backhaul's path to the address.

* `behindServer` — what follows the authority in the text of a server.
* `isHeaderValue_authorization` — the credentials can be sent if both their parts can.
* `starts_iff` — checked settings start the agent if and only if all three texts may stand in a
  header and no blank is left behind an authority that ends the address.
-/

namespace HostAgent.Settings

open Backhaul (backhaulUrl Target backhaulUrl_of_parse backhaulUrl_of_error noFiles parse_of_check
  plainSettings)
open Http (isHeaderValue authorization)
open Outbound (Platform Session trimSlashes)
open Url (blanksBehind behindAuthority parse ServerText IsWeb)

variable {s : Settings} {platform : Platform} {raw path scheme : String} {front rest : List Char}
  {u v : Url}

/-! ## Headers -/

lemma isHeaderValue_append (x y : String) :
    isHeaderValue (x ++ y) = (isHeaderValue x && isHeaderValue y) := by
  simp [isHeaderValue]

/-- **The credentials can be sent if both their parts can.** -/
theorem isHeaderValue_authorization (id key : String) :
    isHeaderValue (authorization id key) = (isHeaderValue id && isHeaderValue key) := by
  have hid : isHeaderValue "id=\"" = true := by decide +kernel
  have hkey : isHeaderValue "\", key=\"" = true := by decide +kernel
  have hend : isHeaderValue "\"" = true := by decide +kernel
  simp only [authorization, isHeaderValue_append, hid, hkey, hend, Bool.true_and, Bool.and_true]

/-! ## The joined address -/

/-- What follows the authority in the text of a server. -/
def behindServer (raw : String) : List Char :=
  match Url.scheme? (Url.relevant raw) with
  | some (_, rest) => behindAuthority rest
  | none => []

lemma behindServer_eq (h : ServerText raw scheme front rest v) :
    behindServer raw = behindAuthority rest := by
  rw [behindServer, h.relevant_eq, h.scheme_eq]

/-- The backhaul has an address unless a blank is left behind an authority that ends the server's
text. -/
lemma backhaulUrl_ok_iff (hu : parse raw = .ok u) (hweb : IsWeb u.scheme)
    (hpath : path.toList.head? = some '/') :
    (∃ w, backhaulUrl raw path = .ok w) ↔ blanksBehind raw = [] ∨ behindServer raw ≠ [] := by
  obtain ⟨front, rest, v, h, rfl⟩ := Url.exists_server hu hweb
  have hscheme : IsWeb v.scheme := hweb
  rw [behindServer_eq h]
  by_cases hblanks : blanksBehind raw = []
  · obtain ⟨t, k, -, -, hparse⟩ := h.parse_append hblanks
    have hok := backhaulUrl_of_parse (u := (Url.Ending.read (t ++ Url.appended path)).on v) hscheme
      (hparse path hpath)
    exact ⟨fun _ => .inl hblanks, fun _ => ⟨_, hok⟩⟩
  · by_cases hrest : behindAuthority rest = []
    · obtain ⟨fault, hfault⟩ := h.parse_append_blanks_nil hblanks hrest hpath
      obtain ⟨e, he⟩ := backhaulUrl_of_error hfault
      constructor
      · rintro ⟨w, hw⟩
        rw [he] at hw
        cases hw
      · rintro (hnil | hne)
        · exact absurd hnil hblanks
        · exact absurd hrest hne
    · have hok := backhaulUrl_of_parse (u := (Url.Ending.read (behindAuthority rest ++
        blanksBehind raw ++ Url.appended path)).on v) hscheme
        (h.parse_append_blanks hblanks hrest hpath)
      exact ⟨fun _ => .inr hrest, fun _ => ⟨_, hok⟩⟩

/-! ## Starting -/

/-- Without a certificate to load, a session needs an address and credentials that can be sent. -/
lemma session_ok_iff (hu : parse s.server.url = .ok u) (hcert : s.server.certificate = none)
    (hclient : platform.client? (authorization s.server.id s.server.key) s.server.verify none
      = none) :
    (∃ session, Session.of platform s.server = .ok session) ↔
      isHeaderValue (authorization s.server.id s.server.key) = true := by
  unfold Session.of
  rw [hu, hcert]
  dsimp only [Platform.certificate]
  rw [hclient]
  cases isHeaderValue (authorization s.server.id s.server.key) <;> simp

/-- Without a certificate to load, a target needs the address of the backhaul, and credentials and
an origin that can be sent. -/
lemma target_ok_iff (hcert : s.server.certificate = none)
    (hconnector : platform.connector? s.server.verify none = none) :
    (∃ t, Target.of platform s.server s.control.path = .ok t) ↔
      (∃ w, backhaulUrl s.server.url s.control.path = .ok w) ∧
        isHeaderValue (authorization s.server.id s.server.key) = true ∧
        isHeaderValue (trimSlashes s.server.url) = true := by
  have hsecure : Backhaul.secureFault? platform s.server = none := by
    simp [Backhaul.secureFault?, Platform.certificate, hcert, hconnector]
  unfold Target.of
  cases backhaulUrl s.server.url s.control.path with
  | error e => simp
  | ok w =>
      simp only [hsecure, ite_self]
      cases isHeaderValue (authorization s.server.id s.server.key) <;>
        cases isHeaderValue (trimSlashes s.server.url) <;> simp

/-- **What checked settings need to start.**  Without a certificate, session, backhaul address and
target can all be had if and only if the credentials and the server's text without the slashes at
its end may stand in headers, and no blank is left behind an authority that ends the text.  The
libraries are taken to set up what they are asked for. -/
theorem starts_iff (hcheck : s.check = .ok ()) (hcert : s.server.certificate = none)
    (hclient : platform.client? (authorization s.server.id s.server.key) s.server.verify none
      = none)
    (hconnector : platform.connector? s.server.verify none = none) :
    ((∃ session, Session.of platform s.server = .ok session) ∧
      (∃ w, backhaulUrl s.server.url s.control.path = .ok w) ∧
      ∃ t, Target.of platform s.server s.control.path = .ok t) ↔
    isHeaderValue s.server.id = true ∧ isHeaderValue s.server.key = true ∧
      isHeaderValue (trimSlashes s.server.url) = true ∧
      (blanksBehind s.server.url = [] ∨ behindServer s.server.url ≠ []) := by
  obtain ⟨u, hu, hweb⟩ := parse_of_check hcheck
  rw [session_ok_iff hu hcert hclient, target_ok_iff hcert hconnector,
    backhaulUrl_ok_iff hu hweb (path_of_check hcheck), isHeaderValue_authorization,
    Bool.and_eq_true]
  constructor
  · rintro ⟨⟨hid, hkey⟩, hblank, -, -, horigin⟩
    exact ⟨hid, hkey, horigin, hblank⟩
  · rintro ⟨hid, hkey, horigin, hblank⟩
    exact ⟨⟨hid, hkey⟩, hblank, hblank, ⟨hid, hkey⟩, horigin⟩

/-- An agent with a plain server and plain credentials starts. -/
theorem starts_plain :
    (plainSettings "http://[::1]" "b").check = .ok () ∧
      (plainSettings "http://[::1]" "b").server.certificate = none ∧
      (∃ session, Session.of noFiles (plainSettings "http://[::1]" "b").server = .ok session) ∧
      (∃ w, backhaulUrl "http://[::1]" (plainSettings "http://[::1]" "b").control.path = .ok w) ∧
      ∃ t, Target.of noFiles (plainSettings "http://[::1]" "b").server
        (plainSettings "http://[::1]" "b").control.path = .ok t := by
  have hcheck : (plainSettings "http://[::1]" "b").check = .ok () := by decide +kernel
  exact ⟨hcheck, rfl, (starts_iff hcheck rfl rfl rfl).mpr ⟨by decide +kernel, by decide +kernel,
    by decide +kernel, .inl (by decide +kernel)⟩⟩

/-- A key with a line break in it passes the check and cannot be sent. -/
theorem check_passes_broken_key :
    (plainSettings "http://[::1]" "a\nb").check = .ok () ∧
      (plainSettings "http://[::1]" "a\nb").server.certificate = none ∧
      Session.of noFiles (plainSettings "http://[::1]" "a\nb").server = .error .invalidHeader ∧
      Target.of noFiles (plainSettings "http://[::1]" "a\nb").server
        (plainSettings "http://[::1]" "a\nb").control.path = .error (.invalidHeader "Authorization")
    := by
  refine ⟨?_, rfl, ?_, ?_⟩ <;> decide +kernel

end HostAgent.Settings
