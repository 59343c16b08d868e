import HostAgent.Proofs.Json.Assembly
import HostAgent.Proofs.Wire.Envelopes

/-!
# Readers see the known members only

A reader asks a record for the members that it knows.  It does not notice in which order they
stand, what else is there, or whether a member that may be left out is left out or null.

* `Edit` — the changes of a record that a reader does not notice.
* `field?`, `SameField` — what a reader gets of one name, and when it takes two such things for the
  same.
* `fields?_edit` — an edit changes nothing in what a reader gets but things that are the same to it.
* `readDictionary?_perm`, `read?_edit`, `ofRaw?_edit` — so each reader reads the same.
* `decode_known_members` — and texts whose records differ by such edits ask for the same.
-/

namespace HostAgent.Wire

open Json (Raw Escaped.decode? Escaped.encode Part quoted recordText raw_parse?_quoted
  raw_parse?_recordText writes_quoted)

/-- The members of a record under the keys as they are written. -/
abbrev Members := List (List Char × Raw)

/-- The name that a key stands for. -/
def nameOf? (key : List Char) : Option String :=
  (Escaped.decode? key).map String.ofList

/-- A key with the escapes of a name stands for it. -/
lemma nameOf?_encode (name : String) : nameOf? (Escaped.encode name.toList) = some name := by
  rw [nameOf?, Json.Escaped.decode?_encode, Option.map_some, String.ofList_toList]

variable {names optional : List String} {inner : String → Members → Members → Prop}
  {ms ms' : Members} {d d' : List (String × Raw)} {name : String} {a a' : Option Raw}

/-! ## Edits -/

/-- **The changes of a record that a reader does not notice**, if it knows these names, may do
without those of them that are optional, and does not notice these changes of records within. -/
inductive Edit (names optional : List String) (inner : String → Members → Members → Prop) :
    Members → Members → Prop where
  /-- The members stand in another order. -/
  | permute {ms ms' : Members} (h : ms.Perm ms') : Edit names optional inner ms ms'
  /-- One comes in that the reader does not know. -/
  | add {ms : Members} {key : List Char} {name : String} (v : Raw) (hkey : nameOf? key = some name)
      (hname : name ∉ names) : Edit names optional inner ms ((key, v) :: ms)
  /-- One that is left out is given as null. -/
  | null {ms : Members} {key : List Char} {name : String} (hkey : nameOf? key = some name)
      (hname : name ∈ optional) (habsent : ∀ m ∈ ms, nameOf? m.1 ≠ some name) :
      Edit names optional inner ms ((key, .null) :: ms)
  /-- A record within changes. -/
  | within {ms vs vs' : Members} {key : List Char} {name : String} (hkey : nameOf? key = some name)
      (hinner : inner name vs vs') :
      Edit names optional inner ((key, .record vs) :: ms) ((key, .record vs') :: ms)

/-- What may change within a command: the order of its environment, if no key comes twice. -/
def EnvEdit (name : String) (vs vs' : Members) : Prop :=
  name = "env" ∧ vs.Perm vs' ∧ (vs.filterMap fun m => nameOf? m.1).Nodup

/-- Commands that differ by edits, in either direction. -/
def SameCommand : Members → Members → Prop :=
  Relation.EqvGen (Edit Command.fieldNames Command.fieldNames EnvEdit)

/-- What may change within an envelope: its command. -/
def CommandEdit (name : String) (vs vs' : Members) : Prop :=
  name = "command" ∧ SameCommand vs vs'

/-- Envelopes that differ by edits, in either direction. -/
def SameEnvelope : Members → Members → Prop :=
  Relation.EqvGen (Edit ["query", "command", "reason"] ["command", "reason"] CommandEdit)

/-- What no single edit changes, edits do not change. -/
lemma eq_of_eqvGen {α β : Type*} {r : α → α → Prop} {f : α → β} {x y : α}
    (h : Relation.EqvGen r x y) (hf : ∀ x y, r x y → f x = f y) : f x = f y := by
  induction h with
  | rel x y hxy => exact hf x y hxy
  | refl x => rfl
  | symm x y _ ih => exact ih.symm
  | trans x y z _ _ ihxy ihyz => exact ihxy.trans ihyz

/-! ## Lists read item by item -/

/-- Both fail, or both succeed with related results. -/
lemma rel_bind {α β α' β' : Type*} {r : α → α' → Prop} {s : β → β' → Prop} {x : Option α}
    {x' : Option α'} {f : α → Option β} {f' : α' → Option β'} (h : Option.Rel r x x')
    (hf : ∀ a a', r a a' → Option.Rel s (f a) (f' a')) : Option.Rel s (x.bind f) (x'.bind f') := by
  cases h with
  | some hr => exact hf _ _ hr
  | none => exact .none

/-- Items in another order give results in another order. -/
lemma perm_mapM {α β : Type*} {l l' : List α} (f : α → Option β) (h : l.Perm l') :
    Option.Rel List.Perm (l.mapM f) (l'.mapM f) := by
  induction h with
  | nil => exact .some (List.Perm.refl _)
  | @cons x l l' _ ih =>
      rw [List.mapM_cons, List.mapM_cons]
      cases f x with
      | none => exact .none
      | some y =>
          rw [Option.bind_eq_bind, Option.bind_some, Option.bind_eq_bind, Option.bind_some]
          refine rel_bind ih fun l l' h => ?_
          exact .some (List.Perm.cons y h)
  | swap x y l =>
      simp only [List.mapM_cons]
      cases f x <;> cases f y <;> cases l.mapM f <;>
        first | exact .none | exact .some (List.Perm.swap _ _ _)
  | @trans l₁ l₂ l₃ _ _ ih ih' =>
      generalize l₁.mapM f = x₁ at ih ⊢
      generalize l₂.mapM f = x₂ at ih ih'
      generalize l₃.mapM f = x₃ at ih' ⊢
      cases ih with
      | none => exact ih'
      | some h =>
          cases ih' with
          | some h' => exact .some (h.trans h')

/-! ## Fields -/

/-- What a reader gets of one name: nothing, one value, or a failure if there are several. -/
def field? (d : List (String × Raw)) (name : String) : Option (Option Raw) :=
  match d.filter (·.1 == name) with
  | [] => some none
  | [(_, v)] => some (some v)
  | _ => none

lemma members?_eq (ms : Members) : (Raw.record ms).members?
    = ms.mapM fun m => (nameOf? m.1).map fun name => (name, m.2) := by
  rw [Raw.members?]
  refine congrArg (List.mapM · ms) (funext fun m => ?_)
  obtain ⟨key, v⟩ := m
  rw [nameOf?, Option.map_map]
  rfl

lemma fields?_eq (names : List String) (ms : Members) : (Raw.record ms).fields? names
    = (Raw.record ms).members?.bind fun d => names.mapM (field? d) := rfl

/-- Values of a name that are the same to a reader. -/
inductive SameField (optional : List String) (inner : String → Members → Members → Prop)
    (name : String) : Option Raw → Option Raw → Prop where
  | refl (a : Option Raw) : SameField optional inner name a a
  | null (h : name ∈ optional) : SameField optional inner name none (some .null)
  | within {vs vs' : Members} (h : inner name vs vs') :
      SameField optional inner name (some (.record vs)) (some (.record vs'))

/-- The same for one name after the other. -/
inductive SameFields (optional : List String) (inner : String → Members → Members → Prop) :
    List String → List (Option Raw) → List (Option Raw) → Prop where
  | nil : SameFields optional inner [] [] []
  | cons {name : String} {names : List String} {a a' : Option Raw} {as as' : List (Option Raw)}
      (h : SameField optional inner name a a') (hs : SameFields optional inner names as as') :
      SameFields optional inner (name :: names) (a :: as) (a' :: as')

lemma rel_refl (x : Option (Option Raw)) : Option.Rel (SameField optional inner name) x x := by
  cases x with
  | none => exact .none
  | some a => exact .some (.refl a)

lemma field?_perm (h : d.Perm d') (name : String) : field? d name = field? d' name := by
  have hfilter := h.filter (·.1 == name)
  rw [field?, field?]
  generalize d.filter (·.1 == name) = l at hfilter ⊢
  generalize d'.filter (·.1 == name) = l' at hfilter ⊢
  match l with
  | [] => rw [List.nil_perm.mp hfilter]
  | [m] => rw [List.singleton_perm.mp hfilter]
  | m :: n :: l =>
      match l', hfilter.length_eq with
      | m' :: n' :: l', _ => rfl

/-- A member of another name does not matter. -/
lemma field?_cons_of_ne {other : String} (h : other ≠ name) (v : Raw) :
    field? ((other, v) :: d) name = field? d name := by
  have hne : (other == name) = false := by simpa using h
  simp [field?, hne]

/-- A name that no key stands for is left out. -/
lemma filter_eq_nil_of_absent (hd : (Raw.record ms).members? = some d)
    (habsent : ∀ m ∈ ms, nameOf? m.1 ≠ some name) : d.filter (·.1 == name) = [] := by
  rw [members?_eq] at hd
  induction List.mapM_eq_some_iff.mp hd with
  | nil => rfl
  | @cons m x ms d hm hms ih =>
      obtain ⟨other, hother, rfl⟩ := Option.map_eq_some_iff.mp hm
      obtain ⟨hne, habsent⟩ := List.forall_mem_cons.mp habsent
      have hother' : (other == name) = false :=
        beq_eq_false_iff_ne.mpr fun h => hne (hother.trans (congrArg some h))
      rw [List.filter_cons, hother', if_neg Bool.false_ne_true]
      exact ih (List.mapM_eq_some_iff.mpr hms) habsent

/-- **An edit changes no field but to one that is the same to the reader.** -/
lemma field?_edit (h : Edit names optional inner ms ms') :
    Option.Rel (fun d d' => ∀ name ∈ names,
        Option.Rel (SameField optional inner name) (field? d name) (field? d' name))
      (Raw.record ms).members? (Raw.record ms').members? := by
  have hcons (key : List Char) (v : Raw) (ms : Members) : (Raw.record ((key, v) :: ms)).members?
      = (nameOf? key).bind fun name => (Raw.record ms).members?.map ((name, v) :: ·) := by
    rw [members?_eq, List.mapM_cons, ← members?_eq]
    generalize (Raw.record ms).members? = x
    cases nameOf? key with
    | none => rfl
    | some name => cases x <;> rfl
  cases h with
  | permute h =>
      have hperm := perm_mapM (fun m => (nameOf? m.1).map fun name => (name, m.2)) h
      rw [← members?_eq, ← members?_eq] at hperm
      generalize (Raw.record ms).members? = x at hperm ⊢
      generalize (Raw.record ms').members? = x' at hperm ⊢
      cases hperm with
      | none => exact .none
      | some hperm =>
          refine .some fun name _ => ?_
          rw [field?_perm hperm]
          exact rel_refl _
  | @add ms key other v hkey hother =>
      rw [hcons, hkey]
      cases (Raw.record ms).members? with
      | none => exact .none
      | some d =>
          refine .some fun name hname => ?_
          rw [field?_cons_of_ne (ne_of_mem_of_not_mem hname hother).symm]
          exact rel_refl _
  | @null ms key other hkey hother habsent =>
      rw [hcons, hkey]
      cases hd : (Raw.record ms).members? with
      | none => exact .none
      | some d =>
          refine .some fun name _ => ?_
          by_cases hname : other = name
          · subst hname
            have hnone := filter_eq_nil_of_absent hd habsent
            simpa [field?, hnone] using Option.Rel.some (SameField.null hother)
          · rw [field?_cons_of_ne hname]
            exact rel_refl _
  | @within ms vs vs' key other hkey hinner =>
      rw [hcons, hcons, hkey]
      cases (Raw.record ms).members? with
      | none => exact .none
      | some d =>
          refine .some fun name _ => ?_
          by_cases hname : other = name
          · subst hname
            cases hrest : d.filter (·.1 == other) with
            | nil => simpa [field?, hrest] using Option.Rel.some (SameField.within hinner)
            | cons m l => simp [field?, hrest]
          · rw [field?_cons_of_ne hname, field?_cons_of_ne hname]
            exact rel_refl _

lemma mapM_sameFields {g g' : String → Option (Option Raw)}
    (h : ∀ name ∈ names, Option.Rel (SameField optional inner name) (g name) (g' name)) :
    Option.Rel (SameFields optional inner names) (names.mapM g) (names.mapM g') := by
  induction names with
  | nil => exact .some .nil
  | cons name names ih =>
      obtain ⟨hname, hnames⟩ := List.forall_mem_cons.mp h
      rw [List.mapM_cons, List.mapM_cons]
      exact rel_bind hname fun _ _ hfield =>
        rel_bind (ih hnames) fun _ _ hfields => .some (.cons hfield hfields)

/-- **An edit changes nothing that the reader notices.** -/
theorem fields?_edit (h : Edit names optional inner ms ms') :
    Option.Rel (SameFields optional inner names) ((Raw.record ms).fields? names)
      ((Raw.record ms').fields? names) := by
  rw [fields?_eq, fields?_eq]
  exact rel_bind (field?_edit h) fun _ _ hd => mapM_sameFields hd

/-! ## Readers -/

variable {α : Type} {e : α} {read? : Raw → Option α} {es : List (String × String)}

/-- A member that may be left out is read alike, if a record within is. -/
lemma optional?_same (h : SameField optional inner name a a')
    (hread : ∀ vs vs', inner name vs vs' → read? (.record vs) = read? (.record vs')) :
    optional? read? a = optional? read? a' := by
  cases h with
  | refl => rfl
  | null => rfl
  | @within vs vs' h => exact congrArg (·.map some) (hread vs vs' h)

lemma orEmpty?_same (h : SameField optional inner name a a')
    (hread : ∀ vs vs', inner name vs vs' → read? (.record vs) = read? (.record vs')) :
    orEmpty? e read? a = orEmpty? e read? a' :=
  congrArg (·.map (·.getD e)) (optional?_same h hread)

/-- No text is a record. -/
lemma orEmpty?_text_same (h : SameField optional inner name a a') :
    orEmpty? "" Raw.text? a = orEmpty? "" Raw.text? a' :=
  orEmpty?_same h fun _ _ _ => rfl

/-- The names of the members are those that the keys stand for. -/
lemma filterMap_nameOf? (hd : (Raw.record ms).members? = some d) :
    ms.filterMap (fun m => nameOf? m.1) = d.map (·.1) := by
  rw [members?_eq] at hd
  induction List.mapM_eq_some_iff.mp hd with
  | nil => rfl
  | @cons m x ms d hm hms ih =>
      obtain ⟨name, hname, rfl⟩ := Option.map_eq_some_iff.mp hm
      rw [List.filterMap_cons, hname, List.map_cons, ← ih (List.mapM_eq_some_iff.mpr hms)]

/-- The texts of the members stand under the same names. -/
lemma map_fst_entries (h : d.mapM keyedText? = some es) : es.map (·.1) = d.map (·.1) := by
  induction List.mapM_eq_some_iff.mp h with
  | nil => rfl
  | @cons x e d es hx hd ih =>
      obtain ⟨s, -, rfl⟩ := Option.map_eq_some_iff.mp hx
      rw [List.map_cons, List.map_cons, ih (List.mapM_eq_some_iff.mpr hd)]

/-- Both fail, or both succeed with the same result. -/
lemma bind_eq_of_rel {β γ : Type*} {r : β → β → Prop} {x x' : Option β} {f : β → Option γ}
    (h : Option.Rel r x x') (hf : ∀ b b', x = some b → r b b' → f b = f b') :
    x.bind f = x'.bind f := by
  cases h with
  | some hr => exact hf _ _ rfl hr
  | none => rfl

/-- **A dictionary does not depend on the order of its members**, if no key comes twice. -/
lemma readDictionary?_perm (h : ms.Perm ms') (hkeys : (ms.filterMap fun m => nameOf? m.1).Nodup) :
    readDictionary? (.record ms) = readDictionary? (.record ms') := by
  have hmembers := perm_mapM (fun m => (nameOf? m.1).map fun name => (name, m.2)) h
  rw [← members?_eq, ← members?_eq] at hmembers
  rw [readDictionary?_eq, readDictionary?_eq]
  refine bind_eq_of_rel hmembers fun d d' hd hperm => ?_
  refine bind_eq_of_rel (perm_mapM keyedText? hperm) fun es es' hes hperm' => ?_
  have hnames : (d.map (·.1)).Nodup := filterMap_nameOf? hd ▸ hkeys
  have hnodup : (es'.map (·.1)).Nodup :=
    (hperm'.map _).nodup_iff.mp ((map_fst_entries hes).symm ▸ hnames)
  exact congrArg some (Dictionary.ofList_of_perm
    (hperm'.trans (Dictionary.ofList_perm hnodup).symm))

/-- **A command is read alike after an edit.** -/
theorem read?_edit (h : Edit Command.fieldNames Command.fieldNames EnvEdit ms ms') :
    Command.read? (.record ms) = Command.read? (.record ms') := by
  have hfields := fields?_edit h
  rw [Command.read?, Command.read?]
  generalize (Raw.record ms).fields? Command.fieldNames = x at hfields ⊢
  generalize (Raw.record ms').fields? Command.fieldNames = x' at hfields ⊢
  cases hfields with
  | none => rfl
  | some hsame =>
      obtain _ | ⟨hid, _ | ⟨hshell, _ | ⟨hline, _ | ⟨huser, _ | ⟨hgroup, hsame⟩⟩⟩⟩⟩ := hsame
      obtain _ | ⟨henv, _ | ⟨hdata, _ | _⟩⟩ := hsame
      have henv' (empty : Dictionary) := orEmpty?_same (e := empty) henv fun _ _ h =>
        readDictionary?_perm h.2.1 h.2.2
      simp only [Option.bind_eq_bind, Option.bind_some, orEmpty?_text_same hid,
        orEmpty?_text_same hshell, orEmpty?_text_same hline, orEmpty?_text_same huser,
        orEmpty?_text_same hgroup, orEmpty?_text_same hdata, henv']

/-- **An envelope is read alike after an edit.** -/
theorem ofRaw?_edit
    (h : Edit ["query", "command", "reason"] ["command", "reason"] CommandEdit ms ms') :
    Envelope.ofRaw? (.record ms) = Envelope.ofRaw? (.record ms') := by
  have hfields := fields?_edit h
  rw [Envelope.ofRaw?, Envelope.ofRaw?]
  generalize (Raw.record ms).fields? _ = x at hfields ⊢
  generalize (Raw.record ms').fields? _ = x' at hfields ⊢
  cases hfields with
  | none => rfl
  | some hsame =>
      obtain _ | @⟨_, _, query, query', _, _, hquery, _ | ⟨hcommand, _ | ⟨hreason, _ | _⟩⟩⟩ := hsame
      obtain rfl : query = query' := by
        cases hquery with
        | refl => rfl
        | null h => simp at h
        | within h => exact absurd h.1 (by decide)
      have hcommand' := optional?_same hcommand fun _ _ h =>
        eq_of_eqvGen (f := fun ms => Command.read? (.record ms)) h.2 fun _ _ => read?_edit
      have hreason' := optional?_same hreason fun vs vs' _ =>
        show (Raw.record vs).text? = (Raw.record vs').text? from rfl
      cases query with
      | none => rfl
      | some query => simp only [Option.bind_eq_bind, Option.bind_some, hcommand', hreason']

lemma decode_of_parse? {s : String} {v : Raw} (h : Raw.parse? s = some v) :
    Query.decode s = match Envelope.ofRaw? v with
      | none => .error .malformed
      | some e => Query.ofEnvelope e := by
  rw [Query.decode, Envelope.read?, h]
  rfl

/-- **Texts that differ by edits ask for the same**, or have the same fault.  The texts are any
texts of records.  If their members differ only in their order, in members of other names, or in
that a command or a reason is left out in the one and null in the other, and the members of their
commands only in the same ways, and those of an environment with different keys only in their order,
then both are decoded alike.  And a text put together from the texts of its members is the text of
the record of these members, so that each such edit can be made in the text itself. -/
theorem decode_known_members :
    (∀ (ps : List Part) (ms : Members), List.Forall₂ Part.Writes ps ms →
      Raw.parse? (recordText ps) = some (.record ms)) ∧
    ∀ (s s' : String) (ms ms' : Members), Raw.parse? s = some (.record ms) →
      Raw.parse? s' = some (.record ms') → SameEnvelope ms ms' →
        Query.decode s = Query.decode s' := by
  refine ⟨fun _ _ => raw_parse?_recordText, fun s s' ms ms' hs hs' hsame => ?_⟩
  have hread := eq_of_eqvGen (f := fun ms => Envelope.ofRaw? (.record ms)) hsame
    fun _ _ => ofRaw?_edit
  rw [decode_of_parse? hs, decode_of_parse? hs', hread]

/-- A command is asked for in one order of its members, and in another one with a null shell, a null
reason and a list under a name that nobody knows. -/
theorem decode_known_members_shuffled :
    ∃ c, Query.decode (recordText [⟨quoted "query", quoted "command"⟩,
        ⟨quoted "command", recordText [⟨quoted "id", quoted "1"⟩,
          ⟨quoted "env", recordText [⟨quoted "A", quoted "x"⟩, ⟨quoted "B", quoted "y"⟩]⟩]⟩])
        = .ok (.command c) ∧
      Query.decode (recordText [⟨quoted "reason", "null"⟩, ⟨quoted "unknown", "[1]"⟩,
        ⟨quoted "command", recordText [⟨quoted "shell", "null"⟩,
          ⟨quoted "env", recordText [⟨quoted "B", quoted "y"⟩, ⟨quoted "A", quoted "x"⟩]⟩,
          ⟨quoted "id", quoted "1"⟩]⟩,
        ⟨quoted "query", quoted "command"⟩]) = .ok (.command c) := by
  obtain ⟨hassemble, hsame⟩ := decode_known_members
  have hnull : Raw.parse? "null" = some .null := rfl
  have hlist : Raw.parse? "[1]" = some (.list [.number ⟨false, [1], none, none⟩]) := rfl
  have hA := writes_quoted "A" (raw_parse?_quoted "x")
  have hB := writes_quoted "B" (raw_parse?_quoted "y")
  have hid := writes_quoted "id" (raw_parse?_quoted "1")
  have hquery := writes_quoted "query" (raw_parse?_quoted "command")
  have hcommand := writes_quoted "command" (hassemble _ _
    (.cons hid (.cons (writes_quoted "env" (hassemble _ _ (.cons hA (.cons hB .nil)))) .nil)))
  have hcommand' := writes_quoted "command" (hassemble _ _ (.cons (writes_quoted "shell" hnull)
    (.cons (writes_quoted "env" (hassemble _ _ (.cons hB (.cons hA .nil)))) (.cons hid .nil))))
  have hs := hassemble _ _ (.cons hquery (.cons hcommand .nil))
  have hs' := hassemble _ _ (.cons (writes_quoted "reason" hnull)
    (.cons (writes_quoted "unknown" hlist) (.cons hcommand' (.cons hquery .nil))))
  have hdecode : Query.decode (recordText _)
      = .ok (.command { id := "1", env := .ofList [("A", "x"), ("B", "y")] }) :=
    (decode_of_parse? hs).trans rfl
  refine ⟨_, hdecode, (hsame _ _ _ _ hs hs' ?_).symm.trans hdecode⟩
  refine .trans _ _ _ (.rel _ _ (.permute (.swap _ _ _))) (.trans _ _ _
    (.rel _ _ (.within (nameOf?_encode "command") ⟨rfl, ?_⟩)) (.trans _ _ _
    (.rel _ _ (.add _ (nameOf?_encode "unknown") (by decide)))
    (.rel _ _ (.null (nameOf?_encode "reason") (by decide) (by decide +kernel)))))
  exact .trans _ _ _ (.rel _ _ (.permute (.swap _ _ _))) (.trans _ _ _
    (.rel _ _ (.within (nameOf?_encode "env") ⟨rfl, .swap _ _ _, by decide +kernel⟩))
    (.rel _ _ (.null (nameOf?_encode "shell") (by decide) (by decide +kernel))))

end HostAgent.Wire
