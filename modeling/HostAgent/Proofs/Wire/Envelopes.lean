import HostAgent.Proofs.Json.RoundTrip
import HostAgent.Proofs.Text.Lists
import HostAgent.Wire.Envelope

/-!
# Envelopes are read as they were written

* `Dictionary.ofList_of_perm` — a dictionary is made of its own entries, in any order.
* `members?_raw`, `fields?_raw` — the members of a record that was written, under their keys.
* `readDictionary?_raw`, `read?_command`, `ofRaw?_envelope` — what each reader makes of what its
  writer has written.
* `envelope_round_trip` — so an envelope is read back, and asks for the same.
-/

namespace HostAgent

namespace Dictionary

variable {k v : String} {es : List (String × String)}

/-- Setting a new key adds just that one. -/
lemma place_perm (h : ∀ e ∈ es, e.1 ≠ k) : (place k v es).Perm ((k, v) :: es) := by
  induction es with
  | nil => exact List.Perm.refl _
  | cons e es ih =>
      obtain ⟨he, hes⟩ := List.forall_mem_cons.mp h
      rw [place]
      split_ifs with hlt hgt
      · exact List.Perm.refl _
      · exact ((ih hes).cons e).trans (List.Perm.swap (k, v) e es)
      · exact absurd (String.le_antisymm (String.not_lt.mp hlt) (String.not_lt.mp hgt)) he

/-- Dictionaries with the same entries are equal. -/
lemma eq_of_entries_eq {d d' : Dictionary} (h : d.entries = d'.entries) : d = d' := by
  cases d
  cases d'
  cases h
  rfl

/-- The entries of a list with different keys are all kept. -/
lemma ofList_perm (h : (es.map (·.1)).Nodup) : (ofList es).entries.Perm es := by
  induction es using List.reverseRecOn with
  | nil => exact List.Perm.refl _
  | append_singleton es e ih =>
      rw [List.map_append, List.nodup_append] at h
      obtain ⟨hes, -, hne⟩ := h
      have hrest := ih hes
      have hinsert : (ofList (es ++ [e])).entries = place e.1 e.2 (ofList es).entries := by
        rw [ofList, List.foldl_append]
        rfl
      have hnew : ∀ e' ∈ (ofList es).entries, e'.1 ≠ e.1 := fun e' he' =>
        hne _ (List.mem_map_of_mem (hrest.mem_iff.mp he')) _ (List.mem_singleton_self _)
      rw [hinsert]
      exact ((place_perm hnew).trans (hrest.cons e)).trans (List.perm_append_singleton e es).symm

/-- **A dictionary is made of its own entries**, in any order. -/
theorem ofList_of_perm {d : Dictionary} (h : es.Perm d.entries) : ofList es = d := by
  have hnodup : (d.entries.map (·.1)).Nodup :=
    List.pairwise_map.mpr (d.sorted.imp fun hlt => String.ne_of_lt hlt)
  have hperm := (ofList_perm ((h.map (·.1)).nodup_iff.mpr hnodup)).trans h
  refine eq_of_entries_eq
    (hperm.eq_of_pairwise (fun a b _ _ hab hba => ?_) (ofList es).sorted d.sorted)
  exact absurd hba (String.lt_asymm hab)

end Dictionary

namespace Wire

open Json (Raw Plain PlainMembers raw rawMembers)

variable {ms : List (String × Datum)}

/-! ## Records -/

/-- The members of a record that was written. -/
lemma members?_raw (ms : List (String × Datum)) :
    (raw (.record ms)).members? = some (ms.map fun m => (m.1, raw m.2)) := by
  rw [raw, Raw.members?]
  induction ms with
  | nil => rfl
  | cons m ms ih =>
      rw [rawMembers, List.mapM_cons, ih]
      simp [Json.Escaped.decode?_encode]

/-- Of different keys at most one is a given one. -/
lemma filter_members (hms : (ms.map (·.1)).Nodup) (name : String) :
    (ms.map fun m => (m.1, raw m.2)).filter (·.1 == name)
      = ((ms.lookup name).map fun d => (name, raw d)).toList := by
  induction ms with
  | nil => rfl
  | cons m ms ih =>
      obtain ⟨k, d⟩ := m
      obtain ⟨hk, hms⟩ := List.nodup_cons.mp hms
      rw [List.map_cons, List.filter_cons, ih hms, List.lookup_cons]
      by_cases hname : k = name
      · subst hname
        have hnone : ms.lookup k = none := List.lookup_eq_none_iff.mpr fun e he => by
          simpa using fun h => hk (List.mem_map.mpr ⟨e, he, h.symm⟩)
        simp [hnone]
      · have hname' : (name == k) = false := by simpa using Ne.symm hname
        simp [hname, hname']

/-- **The named members of a record that was written.** -/
theorem fields?_raw (hms : (ms.map (·.1)).Nodup) (names : List String) :
    (raw (.record ms)).fields? names = some (names.map fun name => (ms.lookup name).map raw) := by
  have hmembers := members?_raw ms
  rw [raw] at hmembers ⊢
  rw [Raw.fields?, hmembers, Option.bind_eq_bind, Option.bind_some]
  refine List.mapM_eq_some_iff.mpr
    (List.forall₂_map_right_iff.mpr (List.forall₂_same.mpr fun name _ => ?_))
  rw [filter_members hms]
  cases ms.lookup name <;> rfl

/-! ## Readers -/

/-- A text is read as it was written. -/
lemma text?_raw (s : String) : (raw (.text s)).text? = some s := by
  rw [raw, Raw.text?, Json.Escaped.decode?_encode, Option.map_some, String.ofList_toList]

/-- A member of a dictionary. -/
def keyedText? (m : String × Raw) : Option (String × String) :=
  m.2.text?.map fun s => (m.1, s)

lemma readDictionary?_eq (v : Raw) :
    readDictionary? v = v.members?.bind fun d => (d.mapM keyedText?).bind fun es =>
      some (.ofList es) := rfl

/-- The members of a record of texts are read as they were written. -/
lemma mapM_keyedText?_texts (es : List (String × String)) :
    ((es.map fun (k, v) => (k, Datum.text v)).map fun m => (m.1, raw m.2)).mapM keyedText?
      = some es := by
  induction es with
  | nil => rfl
  | cons e es ih =>
      rw [List.map_cons, List.map_cons, List.mapM_cons, ih]
      simp [keyedText?, text?_raw]

/-- A record of texts is read as the dictionary of its members. -/
lemma readDictionary?_raw (es : List (String × String)) :
    readDictionary? (raw (.record (es.map fun (k, v) => (k, .text v)))) = some (.ofList es) := by
  rw [readDictionary?_eq, members?_raw, Option.bind_some, mapM_keyedText?_texts, Option.bind_some]

/-- A member that is there and not null is read as such. -/
lemma optional?_some {read? : Raw → Option α} {v : Raw} {x : α} (hv : v ≠ .null)
    (h : read? v = some x) : optional? read? (some v) = some (some x) := by
  rw [optional?, h]
  · rfl
  · exact hv

lemma orEmpty?_some {read? : Raw → Option α} {v : Raw} {x empty : α} (hv : v ≠ .null)
    (h : read? v = some x) : orEmpty? empty read? (some v) = some x := by
  rw [orEmpty?, optional?_some hv h]
  rfl

/-- A member that may be left out is read as it was written. -/
lemma optional?_map {read? : Raw → Option α} {write : α → Raw} {x : Option α}
    (hwrite : ∀ y ∈ x, write y ≠ .null) (h : ∀ y ∈ x, read? (write y) = some y) :
    optional? read? (x.map write) = some x := by
  cases x with
  | none => rfl
  | some y => exact optional?_some (hwrite y rfl) (h y rfl)

/-- A text in a command is read as it was written. -/
lemma orEmpty?_text (s : String) : orEmpty? "" Raw.text? (some (raw (.text s))) = some s :=
  orEmpty?_some nofun (text?_raw s)

/-! ## Envelopes -/

/-- A command as it is written with its environment in a given order. -/
def Command.datumWith (c : Command) (env : List (String × String)) : Datum :=
  .record
    [("id", .text c.id), ("shell", .text c.shell), ("line", .text c.line), ("user", .text c.user),
      ("group", .text c.group), ("env", .record (env.map fun (k, v) => (k, .text v))),
      ("data", .text c.data)]

/-- An envelope as it is written with the environment of its command in a given order. -/
def Envelope.datumWith (e : Envelope) (env : List (String × String)) : Datum :=
  .record
    (("query", .text e.query)
      :: (e.command.map fun c => ("command", c.datumWith env)).toList
      ++ (e.reason.map fun s => ("reason", .text s)).toList)

/-- The order of the keys is one of them. -/
lemma datumWith_entries (e : Envelope) :
    ∃ env, e.datum = e.datumWith env ∧ ∀ c ∈ e.command, env.Perm c.env.entries := by
  obtain ⟨query, command, reason⟩ := e
  cases command with
  | none => exact ⟨[], rfl, nofun⟩
  | some c =>
      refine ⟨c.env.entries, rfl, fun c' hc' => ?_⟩
      obtain rfl : c = c' := Option.some.inj hc'
      exact List.Perm.refl _

/-- **A command is read as it was written.** -/
theorem read?_command {c : Command} {env : List (String × String)}
    (henv : env.Perm c.env.entries) : Command.read? (raw (c.datumWith env)) = some c := by
  have hfields : (raw (c.datumWith env)).fields? Command.fieldNames = some
      [some (raw (.text c.id)), some (raw (.text c.shell)), some (raw (.text c.line)),
        some (raw (.text c.user)), some (raw (.text c.group)),
        some (raw (.record (env.map fun (k, v) => (k, .text v)))), some (raw (.text c.data))] := by
    rw [Command.datumWith, fields?_raw (by simp)]
    simp [Command.fieldNames, List.lookup_cons]
  have hdictionary : orEmpty? .empty readDictionary?
      (some (raw (.record (env.map fun (k, v) => (k, .text v))))) = some c.env := by
    refine orEmpty?_some nofun ?_
    rw [readDictionary?_raw, Dictionary.ofList_of_perm henv]
  rw [Command.read?, hfields]
  simp only [Option.bind_eq_bind, Option.bind_some, orEmpty?_text, hdictionary]
  rfl

/-- An envelope is read as it was written. -/
lemma ofRaw?_envelope {e : Envelope} {env : List (String × String)}
    (henv : ∀ c ∈ e.command, env.Perm c.env.entries) :
    Envelope.ofRaw? (raw (e.datumWith env)) = some e := by
  have hfields : (raw (e.datumWith env)).fields? ["query", "command", "reason"] = some
      [some (raw (.text e.query)), e.command.map fun c => raw (c.datumWith env),
        e.reason.map fun s => raw (.text s)] := by
    obtain ⟨query, command, reason⟩ := e
    rw [Envelope.datumWith, fields?_raw]
    · cases command <;> cases reason <;> simp [List.lookup_cons]
    · cases command <;> cases reason <;> simp
  have hcommand : optional? Command.read? (e.command.map fun c => raw (c.datumWith env))
      = some e.command :=
    optional?_map (fun c _ => by rw [Command.datumWith, raw]; nofun)
      fun c hc => read?_command (henv c hc)
  have hreason : optional? Raw.text? (e.reason.map fun s => raw (.text s)) = some e.reason :=
    optional?_map (fun s _ => by rw [raw]; nofun) fun s _ => text?_raw s
  rw [Envelope.ofRaw?, hfields]
  simp only [Option.bind_eq_bind, Option.bind_some, text?_raw, hcommand, hreason]
  rfl

/-- Members that are texts are plain. -/
lemma plainMembers_texts (es : List (String × String)) :
    PlainMembers (es.map fun (k, v) => (k, .text v)) := by
  induction es with
  | nil => trivial
  | cons e es ih => exact ⟨trivial, ih⟩

/-- An envelope is written without numbers. -/
lemma plain_envelope (e : Envelope) (env : List (String × String)) : Plain (e.datumWith env) := by
  have hcommand (c : Command) : Plain (c.datumWith env) :=
    ⟨trivial, trivial, trivial, trivial, trivial, plainMembers_texts env, trivial, trivial⟩
  obtain ⟨query, command, reason⟩ := e
  cases command with
  | none => cases reason <;> trivial
  | some c => cases reason <;> exact ⟨trivial, hcommand c, by trivial⟩

/-- The text of an envelope is read, in whatever order the environment is written. -/
lemma read?_datumWith {e : Envelope} {env : List (String × String)}
    (henv : ∀ c ∈ e.command, env.Perm c.env.entries) :
    Envelope.read? (Json.render (e.datumWith env)) = some e := by
  rw [Envelope.read?, Json.raw_parse?_render _ (plain_envelope e env), Option.bind_eq_bind,
    Option.bind_some, ofRaw?_envelope henv]

lemma read?_text (e : Envelope) : Envelope.read? e.text = some e := by
  obtain ⟨env, hdatum, henv⟩ := datumWith_entries e
  rw [Envelope.text, hdatum, read?_datumWith henv]

/-- **An envelope is read as it was written**, and so it asks for the same, or is refused for the
same reason.  Its texts and the keys of the environment may hold any characters, the command and
the reason may be there or not, and the environment may be written in any order. -/
theorem envelope_round_trip (e : Envelope) :
    Envelope.read? e.text = some e ∧ Query.decode e.text = Query.ofEnvelope e ∧
      ∀ env : List (String × String), (∀ c ∈ e.command, env.Perm c.env.entries) →
        Envelope.read? (Json.render (e.datumWith env)) = some e := by
  exact ⟨read?_text e, by rw [Query.decode, read?_text], fun _ => read?_datumWith⟩

end Wire

end HostAgent
