import HostAgent.Agent
import HostAgent.Proofs.Settings.StartUp

/-!
# The key is not let out

Settings that differ in their key alone are shown, checked, refused and summed up in the same
words.  Two things only can be told of a key: whether it is blank, and whether a header can hold it.

* `withKey` — the settings with another key.
* `Discreet` — a library that is given the credentials says nothing of them.
* `SameFromOutside` — nothing that is shown or said of two settings tells them apart.
* `load_of_read` — what a file and the environment give is checked before it is used.
* `key_not_revealed` — two keys are told apart exactly by these two things.
-/

namespace HostAgent.Settings

open Backhaul (atLoopback backhaulUrl Target noFiles plainSettings)
open Http (isHeaderValue authorization)
open Outbound (Platform Session)

/-- The settings with another key. -/
def withKey (s : Settings) (key : String) : Settings :=
  { s with server := { s.server with key } }

/-- What a file and the environment give, before it is checked. -/
def read (content : Except Refusal ByteArray) (env : Dictionary) : Except Fault Settings :=
  (ofFile content).map (·.overridden env)

/-- What is said if there is no client does not depend on the credentials.  The library only keeps
them to send them later. -/
def Discreet (platform : Platform) : Prop :=
  ∀ sent sent', isHeaderValue sent = true → isHeaderValue sent' = true →
    ∀ verify certificate, platform.client? sent verify certificate
      = platform.client? sent' verify certificate

/-- **Nothing that is shown or said of two settings tells them apart.**  Where something comes of
them that holds the credentials, it is the same apart from these. -/
structure SameFromOutside (a b : Settings) : Prop where
  debugText : a.debugText = b.debugText
  check : a.check = b.check
  session : ∀ platform, Discreet platform →
    (Session.of platform a.server).map (·.base) = (Session.of platform b.server).map (·.base)
  target : ∀ platform,
    (Target.of platform a.server a.control.path).map (fun t => (t.url, t.origin)) =
      (Target.of platform b.server b.control.path).map (fun t => (t.url, t.origin))
  backhaul : backhaulUrl a.server.url a.control.path = backhaulUrl b.server.url b.control.path
  /-- What a check of settings prints, from whatever file and environment they are. -/
  printed : ∀ path content env content' env', read content env = .ok a →
    read content' env' = .ok b →
    HostAgent.check path (load content env) = HostAgent.check path (load content' env')

variable {s : Settings} {key key' : String}

/-! ## What is said of settings with another key -/

/-- The check looks at the key only to see whether it is blank. -/
lemma problem?_withKey (s : Settings) (hblank : Text.allBlank key = Text.allBlank key') :
    (s.withKey key).problem? = (s.withKey key').problem? := by
  have hserver : (s.withKey key).server.problem? = (s.withKey key').server.problem? := by
    simp only [withKey, Server.problem?, hblank]
    rfl
  rw [problem?, problem?, hserver]
  rfl

lemma check_withKey (s : Settings) (hblank : Text.allBlank key = Text.allBlank key') :
    (s.withKey key).check = (s.withKey key').check := by
  rw [check, check, problem?_withKey s hblank]

/-- The credentials can be sent or not with either key. -/
lemma isHeaderValue_withKey (id : String) (hheader : isHeaderValue key = isHeaderValue key') :
    isHeaderValue (authorization id key) = isHeaderValue (authorization id key') := by
  rw [isHeaderValue_authorization, isHeaderValue_authorization, hheader]

/-- A session is refused for the same reason, or has the same base. -/
lemma session_withKey (s : Settings) {platform : Platform} (hdiscreet : Discreet platform)
    (hheader : isHeaderValue key = isHeaderValue key') :
    (Session.of platform (s.withKey key).server).map (·.base) =
      (Session.of platform (s.withKey key').server).map (·.base) := by
  have hsent := isHeaderValue_withKey s.server.id hheader
  simp only [withKey, Session.of]
  cases Url.parse s.server.url with
  | error fault => rfl
  | ok u =>
      -- once it is known that the credentials can be sent, they are not looked at again
      by_cases hvalue : isHeaderValue (authorization s.server.id key') = true
      · simp only [hsent, hvalue, Bool.not_true, Bool.false_eq_true, if_false]
        cases platform.certificate s.server.certificate with
        | error fault => rfl
        | ok certificate =>
            dsimp only
            rw [hdiscreet _ _ (hsent.trans hvalue) hvalue]
            cases platform.client? (authorization s.server.id key') s.server.verify certificate with
            | none => rfl
            | some complaint => rfl
      · simp [hsent, hvalue]

/-- A target is refused for the same reason, or is the same apart from the credentials. -/
lemma target_withKey (s : Settings) (platform : Platform)
    (hheader : isHeaderValue key = isHeaderValue key') :
    (Target.of platform (s.withKey key).server s.control.path).map (fun t => (t.url, t.origin)) =
      (Target.of platform (s.withKey key').server s.control.path).map
        (fun t => (t.url, t.origin)) := by
  have hsent := isHeaderValue_withKey s.server.id hheader
  -- what makes a connection secure is set up without the credentials
  have hsecure (k : String) : Backhaul.secureFault? platform { s.server with key := k }
      = Backhaul.secureFault? platform s.server := rfl
  simp only [withKey, Target.of, hsecure]
  cases backhaulUrl s.server.url s.control.path with
  | error fault => rfl
  | ok u =>
      by_cases hvalue : isHeaderValue (authorization s.server.id key') = true
      · simp only [hsent, hvalue, Bool.not_true, Bool.false_eq_true, if_false]
        by_cases horigin : isHeaderValue (Outbound.trimSlashes s.server.url) = true
        · simp only [horigin, Bool.not_true, Bool.false_eq_true, if_false]
          generalize (if u.scheme == "wss" then
            Backhaul.secureFault? platform s.server else none) = fault
          cases fault with
          | none => rfl
          | some fault => rfl
        · simp [horigin]
      · simp [hsent, hvalue]

/-! ## What a check of settings prints -/

/-- What has been read is used if the check finds no problem. -/
lemma load_of_read {content : Except Refusal ByteArray} {env : Dictionary}
    (h : read content env = .ok s) : load content env =
      match s.problem? with
      | some p => .error (.invalid p)
      | none => .ok s := by
  rw [read] at h
  rw [load]
  cases hfile : ofFile content with
  | error fault =>
      rw [hfile] at h
      cases h
  | ok s₀ =>
      rw [hfile] at h
      cases h
      rfl

/-- The summary does not name the key. -/
lemma summary_withKey (s : Settings) (key path backhaul : String) :
    (s.withKey key).summary path backhaul = s.summary path backhaul := by
  simp only [summary, withKey]

/-- Nor does what is printed of settings that are used. -/
lemma checkText_withKey (s : Settings) (key path : String) :
    HostAgent.check path (.ok (s.withKey key)) = HostAgent.check path (.ok s) := by
  have hurl : (s.withKey key).server.url = s.server.url := rfl
  have hpath : (s.withKey key).control.path = s.control.path := rfl
  simp only [HostAgent.check, hurl, hpath, summary_withKey]

/-- A check of settings prints the same, whatever it finds. -/
lemma printed_withKey (s : Settings) (hblank : Text.allBlank key = Text.allBlank key')
    (path : String) {content content' : Except Refusal ByteArray} {env env' : Dictionary}
    (h : read content env = .ok (s.withKey key)) (h' : read content' env' = .ok (s.withKey key')) :
    HostAgent.check path (load content env) = HostAgent.check path (load content' env') := by
  rw [load_of_read h, load_of_read h', problem?_withKey s hblank]
  cases (s.withKey key').problem? with
  | some p => rfl
  | none => exact (checkText_withKey s key path).trans (checkText_withKey s key' path).symm

/-! ## What can be told of a key -/

/-- What is alike in both respects is not told apart. -/
lemma sameFromOutside_withKey (s : Settings) (hblank : Text.allBlank key = Text.allBlank key')
    (hheader : isHeaderValue key = isHeaderValue key') :
    SameFromOutside (s.withKey key) (s.withKey key') where
  debugText := rfl
  check := check_withKey s hblank
  session _ hdiscreet := session_withKey s hdiscreet hheader
  target platform := target_withKey s platform hheader
  backhaul := rfl
  printed path _ _ _ _ h h' := printed_withKey s hblank path h h'

/-- The server of plain settings. -/
lemma parse_plainUrl : Url.parse "http://[::1]" = .ok (atLoopback "http" [""]) := by
  decide +kernel

/-- The check of plain settings tells whether their key is blank. -/
lemma check_plainSettings_iff (key : String) :
    (plainSettings "http://[::1]" key).check = .ok () ↔ Text.allBlank key = false := by
  have hplain : (plainSettings "http://[::1]" "b").check = .ok () := by decide +kernel
  have hparts := (check_eq_ok_iff.mp hplain).2
  have hid : Text.allBlank "a" = false := by decide +kernel
  have hserver : (plainSettings "http://[::1]" key).server.problem? =
      if Text.allBlank key then some .emptyKey else none := by
    simp only [plainSettings, Server.problem?, parse_plainUrl, atLoopback, hid]
    rfl
  rw [check_eq_ok_iff, hserver]
  constructor
  · rintro ⟨hkey, -⟩
    simpa using hkey
  · intro hkey
    exact ⟨by simp [hkey], hparts⟩

/-- Something comes of both or of neither, if what comes of them is the same in one respect. -/
lemma exists_ok_iff_of_map_eq {ε α β : Type} {x y : Except ε α} {f : α → β}
    (h : x.map f = y.map f) : (∃ a, x = .ok a) ↔ ∃ b, y = .ok b := by
  cases x with
  | error e =>
      cases y with
      | error e' => simp
      | ok b => cases h
  | ok a =>
      cases y with
      | error e => cases h
      | ok b => simp

/-- Whether there is a session of plain settings tells whether a header can hold their key. -/
lemma session_plainSettings_iff (key : String) :
    (∃ session, Session.of noFiles (plainSettings "http://[::1]" key).server = .ok session) ↔
      isHeaderValue key = true := by
  have hid : isHeaderValue "a" = true := by decide +kernel
  rw [session_ok_iff parse_plainUrl rfl rfl, isHeaderValue_authorization]
  simp [plainSettings, hid]

/-- **What can be told of a key.**  Whatever the other settings are, nothing that is shown, checked,
refused or printed differs between two keys that are both blank or both not, and that a header can
both hold or not; so nothing differs between keys that the agent can run with.  Keys that differ in
one of these respects are told apart. -/
theorem key_not_revealed (key key' : String) :
    (∀ s : Settings, SameFromOutside (s.withKey key) (s.withKey key')) ↔
      Text.allBlank key = Text.allBlank key' ∧ isHeaderValue key = isHeaderValue key' := by
  constructor
  · -- plain settings with these keys show both differences: the check the one, a session the other
    intro h
    have hsame : SameFromOutside (plainSettings "http://[::1]" key)
      (plainSettings "http://[::1]" key') := h (plainSettings "http://[::1]" key)
    constructor
    · have hblank := check_plainSettings_iff key
      rw [hsame.check, check_plainSettings_iff key'] at hblank
      rw [← Bool.not_inj_iff, Bool.eq_iff_iff]
      simpa using hblank.symm
    · have hsession := hsame.session noFiles fun _ _ _ _ _ _ => rfl
      rw [Bool.eq_iff_iff, ← session_plainSettings_iff, ← session_plainSettings_iff]
      exact exists_ok_iff_of_map_eq hsession
  · rintro ⟨hblank, hheader⟩ s
    exact sameFromOutside_withKey s hblank hheader

end HostAgent.Settings
