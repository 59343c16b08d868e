import HostAgent.Http.Header
import HostAgent.Settings.Validation
import Mathlib.Tactic

/-!
# Credentials that are sent alike

The credentials are the id and the key between quotes, as they are.  A quote in them is not marked,
so what parts the key from the id may stand in either, and the same text may be read in more ways
than one.

* `Shifted` — a separator in one id is the one that ends the other.
* `authorization_eq_iff` — there is no other way for two pairs to be sent alike.
-/

namespace HostAgent.Http

variable {id key id' key' : String} {xs ys zs t : List Char}

/-- What parts the key from the quote that ends the id. -/
def keyMark : List Char := ", key=\"".toList

/-- What is sent, by its characters: the rest of the credentials behind their first quote. -/
def credentialText (id key : List Char) : List Char := id ++ '"' :: (keyMark ++ key)

lemma toList_authorization (id key : String) : (authorization id key).toList =
    "id=\"".toList ++ (credentialText id.toList key.toList ++ ['"']) := by
  have hmark : "\", key=\"".toList = '"' :: keyMark := by decide +kernel
  have hquote : "\"".toList = ['"'] := by decide +kernel
  rw [authorization, credentialText]
  simp only [String.toList_append, hmark, hquote, List.append_assoc, List.cons_append]

lemma authorization_eq_iff_credentialText : authorization id key = authorization id' key' ↔
    credentialText id.toList key.toList = credentialText id'.toList key'.toList := by
  rw [← String.toList_inj, toList_authorization, toList_authorization, List.append_cancel_left_eq,
    List.append_cancel_right_eq]

/-- The only quote in the mark is its last character. -/
lemma keyMark_eq_append (h : keyMark = xs ++ '"' :: ys) : ys = [] := by
  have hmark : keyMark = [',', ' ', 'k', 'e', 'y', '='] ++ ['"'] := by decide +kernel
  rcases List.eq_nil_or_concat' ys with hnil | ⟨init, c, rfl⟩
  · exact hnil
  · rw [hmark, ← List.cons_append, ← List.append_assoc] at h
    have hquote : '"' ∈ [',', ' ', 'k', 'e', 'y', '='] := by
      rw [(List.append_inj' h rfl).1]
      simp
    exact absurd hquote (by decide)

/-! ## Shifts -/

/-- `Shifted` for the characters of ids and keys. -/
def ShiftedText (id key id' key' : List Char) : Prop :=
  ∃ z, id' ++ ['"'] = id ++ '"' :: (keyMark ++ z) ∧ key = z ++ (keyMark ++ key')

/-- What is sent shifted is sent alike. -/
lemma ShiftedText.credentialText_eq {a k b l : List Char} (h : ShiftedText a k b l) :
    credentialText a k = credentialText b l := by
  obtain ⟨z, hid, hkey⟩ := h
  calc a ++ '"' :: (keyMark ++ k)
      = (a ++ '"' :: (keyMark ++ z)) ++ (keyMark ++ l) := by simp [hkey]
    _ = (b ++ ['"']) ++ (keyMark ++ l) := by rw [hid]
    _ = b ++ '"' :: (keyMark ++ l) := by simp

/-- Of two pairs that are sent alike, the one with the shorter id is shifted, if they differ. -/
lemma shiftedText_of_append {a k l : List Char}
    (h : credentialText a k = credentialText (a ++ t) l) :
    (t = [] ∧ k = l) ∨ ShiftedText a k (a ++ t) l := by
  rw [credentialText, credentialText, List.append_assoc, List.append_cancel_left_eq] at h
  cases t with
  | nil => exact .inl ⟨rfl, List.append_cancel_left (List.cons.inj h).2⟩
  | cons c t =>
      obtain ⟨rfl, htail⟩ := List.cons.inj h
      refine .inr ?_
      have hquote : keyMark ++ k = (t ++ ['"']) ++ (keyMark ++ l) := by simpa using htail
      rcases List.append_eq_append_iff.mp hquote with ⟨z, hz, hk⟩ | ⟨z, hz, hk⟩
      · exact ⟨z, by rw [← hz]; simp, hk⟩
      · -- the quote behind the shorter id is the one that ends the mark
        obtain rfl : z = [] := keyMark_eq_append (by simpa using hz)
        exact ⟨[], by rw [hz]; simp, by simpa using hk.symm⟩

/-- Who is shifted against a pair shows in the id of that. -/
lemma ShiftedText.infix {a k b l : List Char} (h : ShiftedText a k b l) :
    "\", key=".toList <:+: b := by
  obtain ⟨z, hid, -⟩ := h
  have hmark : '"' :: keyMark = "\", key=".toList ++ ['"'] := by decide +kernel
  rw [← List.cons_append, hmark, List.append_assoc, ← List.append_assoc] at hid
  have hlength := congrArg List.length hid
  simp only [List.length_append, List.length_singleton] at hlength
  have hfront : a ++ "\", key=".toList <+: b :=
    List.prefix_of_prefix_length_le ⟨_, hid.symm⟩ (List.prefix_append b _) (by
      rw [List.length_append]
      omega)
  obtain ⟨r, hr⟩ := hfront
  exact ⟨a, r, hr⟩

/-- **A pair is shifted against another one**: the separator that ends its id stands in the other
id, the quote that ends that included, and its key goes on from there to the other key. -/
def Shifted (id key id' key' : String) : Prop :=
  ∃ z, id' ++ "\"" = id ++ "\", key=\"" ++ z ∧ key = z ++ ", key=\"" ++ key'

lemma shifted_iff :
    Shifted id key id' key' ↔ ShiftedText id.toList key.toList id'.toList key'.toList := by
  have hmark : "\", key=\"".toList = '"' :: keyMark := by decide +kernel
  have hquote : "\"".toList = ['"'] := by decide +kernel
  have hcomma : ", key=\"".toList = keyMark := rfl
  constructor
  · rintro ⟨z, hid, hkey⟩
    refine ⟨z.toList, ?_, ?_⟩
    · have hlist := congrArg String.toList hid
      rwa [String.toList_append, String.toList_append, String.toList_append, hmark, hquote,
        List.append_assoc] at hlist
    · have hlist := congrArg String.toList hkey
      rwa [String.toList_append, String.toList_append, hcomma, List.append_assoc] at hlist
  · rintro ⟨z, hid, hkey⟩
    refine ⟨String.ofList z, String.toList_injective ?_, String.toList_injective ?_⟩
    · rw [String.toList_append, String.toList_append, String.toList_append, hmark, hquote,
        List.append_assoc, hid]
      simp only [String.toList_ofList, List.cons_append]
    · rw [String.toList_append, String.toList_append, hcomma, String.toList_ofList,
        List.append_assoc, hkey]

/-- Pairs that are sent alike are equal, or one is shifted against the other. -/
lemma eq_or_shifted {a k b l : List Char} (h : credentialText a k = credentialText b l) :
    (a = b ∧ k = l) ∨ ShiftedText a k b l ∨ ShiftedText b l a k := by
  rcases List.append_eq_append_iff.mp h with ⟨t, rfl, -⟩ | ⟨t, rfl, -⟩
  · rcases shiftedText_of_append h with ⟨rfl, hk⟩ | hshifted
    · exact .inl ⟨(List.append_nil a).symm, hk⟩
    · exact .inr (.inl hshifted)
  · rcases shiftedText_of_append h.symm with ⟨rfl, hk⟩ | hshifted
    · exact .inl ⟨List.append_nil b, hk.symm⟩
    · exact .inr (.inr hshifted)

/-- **Two pairs are sent alike if and only if they are equal or one is shifted against the other.**
So ids that do not hold a quote with `, key=` behind it keep the credentials apart, whatever the
keys are. -/
theorem authorization_eq_iff (id key id' key' : String) :
    (authorization id key = authorization id' key' ↔
      (id = id' ∧ key = key') ∨ Shifted id key id' key' ∨ Shifted id' key' id key) ∧
    (¬"\", key=".toList <:+: id.toList ∧ ¬"\", key=".toList <:+: id'.toList ∧
      authorization id key = authorization id' key' → id = id' ∧ key = key') := by
  have hpair : (id.toList = id'.toList ∧ key.toList = key'.toList) ↔ id = id' ∧ key = key' := by
    rw [String.toList_inj, String.toList_inj]
  rw [authorization_eq_iff_credentialText, shifted_iff, shifted_iff, ← hpair]
  refine ⟨⟨eq_or_shifted, ?_⟩, fun ⟨hid, hid', heq⟩ => ?_⟩
  · rintro (⟨hid, hkey⟩ | hshifted | hshifted)
    · rw [hid, hkey]
    · exact hshifted.credentialText_eq
    · exact hshifted.credentialText_eq.symm
  · rcases eq_or_shifted heq with hequal | hshifted | hshifted
    · exact hequal
    · exact absurd hshifted.infix hid'
    · exact absurd hshifted.infix hid

/-- A separator in the id of one agent is the end of the id of another one. -/
theorem separator_read_twice :
    let s : Settings := { server := { url := "http://[::1]", id := "a", key := "b\", key=\"c" } }
    let s' : Settings := { server := { url := "http://[::1]", id := "a\", key=\"b", key := "c" } }
    s.check = .ok () ∧ s'.check = .ok () ∧
      isHeaderValue (authorization s.server.id s.server.key) = true ∧
      isHeaderValue (authorization s'.server.id s'.server.key) = true ∧
      authorization s.server.id s.server.key = authorization s'.server.id s'.server.key ∧
      s.server.id ≠ s'.server.id ∧ s.server.key ≠ s'.server.key := by
  decide +kernel

end HostAgent.Http
