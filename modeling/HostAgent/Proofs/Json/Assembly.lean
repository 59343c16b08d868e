import HostAgent.Proofs.Json.RoundTrip

/-!
# Records are put together from texts

Any texts of values make the text of a record: each behind a key and a colon, commas between them
and braces around them, with white space wherever there is some around the keys and the values.

* `Scan.over`, `foldlM_over` — the scanner does not look at the tokens that it has already made.
* `step?_beneath`, `build_value` — the builder does not look at the frames beneath a value.
* `Part`, `recordText` — a key and a value, each with white space around it, and the text of a
  record of such parts.
* `raw_parse?_recordText` — it is read as the record of what its parts stand for.
-/

namespace HostAgent.Json

open Token (Scan)
open Token.Scan (start?)
open Raw (Builder Frame)

variable {c : Char} {t : Token} {cs : List Char} {ts : List Token} {v : Raw}

/-! ## Scanning a part -/

/-- The scanner with tokens that were made before. -/
def Token.Scan.over (s : Scan) (base : List Token) : Scan :=
  ⟨s.done ++ base, s.inside⟩

lemma start?_over (done base : List Token) (c : Char) :
    start? (done ++ base) c = (start? done c).map (·.over base) := by
  unfold Token.Scan.start?
  split_ifs
  · rfl
  · rfl
  · rfl
  · cases Token.ofMark? c <;> rfl

lemma step?_over (s : Scan) (base : List Token) (c : Char) :
    (s.over base).step? c = (s.step? c).map (·.over base) := by
  obtain ⟨done, inside⟩ := s
  cases inside with
  | nothing => exact start?_over done base c
  | lexeme seen =>
      simp only [Scan.over, Scan.step?]
      split_ifs
      · rfl
      · cases Token.ofLexeme? seen.reverse with
        | none => rfl
        | some t => exact start?_over (t :: done) base c
  | text seen =>
      simp only [Scan.over, Scan.step?]
      split_ifs <;> rfl
  | escape seen =>
      simp only [Scan.over, Scan.step?]
      split_ifs <;> rfl
  | digits left seen =>
      simp only [Scan.over, Scan.step?]
      split_ifs
      · rfl
      · cases left <;> rfl

/-- **The scanner does not look at the tokens that it has already made.** -/
lemma foldlM_over (cs : List Char) (s : Scan) (base : List Token) :
    cs.foldlM Scan.step? (s.over base) = (cs.foldlM Scan.step? s).map (·.over base) := by
  induction cs generalizing s with
  | nil => rfl
  | cons c cs ih =>
      rw [List.foldlM_cons, List.foldlM_cons, step?_over]
      cases s.step? c with
      | none => rfl
      | some s' => exact ih s'

/-- What can be scanned alone can be scanned anywhere. -/
theorem scans_of_scan? (h : Token.scan? cs = some ts) : Scans cs ts := by
  intro base
  rw [Token.scan?, Option.bind_eq_bind, Option.bind_eq_some_iff] at h
  obtain ⟨s, hs, hfinish⟩ := h
  refine ⟨s.over base, ?_, ?_⟩
  · have hover := foldlM_over cs {} base
    rw [hs] at hover
    exact hover
  · obtain ⟨done, inside⟩ := s
    cases inside with
    | nothing =>
        obtain rfl : done.reverse = ts := Option.some.inj hfinish
        rw [List.reverse_reverse]
        exact ended_nothing (done ++ base)
    | lexeme seen =>
        obtain ⟨t, ht, rfl⟩ := Option.map_eq_some_iff.mp hfinish
        rw [List.reverse_reverse]
        exact ended_lexeme seen ht (done ++ base)
    | text seen | escape seen | digits left seen => cases hfinish

/-! ## Building a part -/

/-- **The builder does not look at the frames beneath those that it needs.** -/
lemma step?_beneath {b b' : Builder} (h : b.step? t = some b') (base : List Frame) :
    Builder.step? ⟨b.frames ++ base, b.expecting⟩ t
      = some ⟨b'.frames ++ base, b'.expecting⟩ := by
  obtain ⟨frames, expecting⟩ := b
  have hbegin (frames : List Frame) (h : Builder.begin? frames t = some b') :
      Builder.begin? (frames ++ base) t = some ⟨b'.frames ++ base, b'.expecting⟩ := by
    cases t <;> simp only [Builder.begin?, Option.some.injEq, reduceCtorEq] at h <;> subst h <;> rfl
  cases expecting with
  | value => exact hbegin frames h
  | firstItem =>
      cases t with
      | closeList =>
          cases frames with
          | nil => cases h
          | cons frame frames =>
              cases frame with
              | list items =>
                  cases h
                  rfl
              | _ => cases h
      | _ => exact hbegin frames h
  | firstKey | key | after v =>
      cases frames with
      | nil => cases t <;> cases h
      | cons frame frames => cases frame <;> cases t <;> cases h <;> rfl
  | colon =>
      cases t with
      | colon =>
          cases h
          rfl
      | _ => cases h

lemma foldlM_beneath {b b' : Builder} (h : ts.foldlM Builder.step? b = some b')
    (base : List Frame) : ts.foldlM Builder.step? ⟨b.frames ++ base, b.expecting⟩
      = some ⟨b'.frames ++ base, b'.expecting⟩ := by
  induction ts generalizing b with
  | nil =>
      cases h
      rfl
  | cons t ts ih =>
      rw [List.foldlM_cons, Option.bind_eq_bind, Option.bind_eq_some_iff] at h
      obtain ⟨b₁, hstep, hrest⟩ := h
      rw [build_cons (step?_beneath hstep base)]
      exact ih hrest

/-- The tokens of a value build it wherever one may stand. -/
theorem build_value (h : Raw.ofTokens? ts = some v) (frames : List Frame) :
    ts.foldlM Builder.step? ⟨frames, .value⟩ = some ⟨frames, .after v⟩ := by
  rw [Raw.ofTokens?, Option.bind_eq_bind, Option.bind_eq_some_iff] at h
  obtain ⟨⟨left, expecting⟩, hb, hfinish⟩ := h
  cases left with
  | cons frame left => cases hfinish
  | nil =>
      cases expecting with
      | after w =>
          obtain rfl : w = v := Option.some.inj hfinish
          exact foldlM_beneath hb frames
      | _ => cases hfinish

/-! ## Putting parts together -/

/-- The texts of a key and of a value, each with white space around it. -/
structure Part where
  key : String
  value : String

/-- What a part stands for: a key in quotes and a value. -/
structure Part.Writes (p : Part) (m : List Char × Raw) : Prop where
  key : Token.scan? p.key.toList = some [.text m.1]
  value : Raw.parse? p.value = some m.2

/-- The text of a part. -/
def Part.chars (p : Part) : List Char :=
  p.key.toList ++ ':' :: p.value.toList

/-- The text of a record of parts. -/
def recordText : List Part → String
  | [] => String.ofList ['{', '}']
  | p :: ps => String.ofList ('{' :: p.chars ++ ps.flatMap (fun q => ',' :: q.chars) ++ ['}'])

variable {p : Part} {ps : List Part} {m : List Char × Raw} {ms : List (List Char × Raw)}

/-- A part is scanned as its key, a colon and the tokens of its value. -/
lemma Part.Writes.scans (h : p.Writes m) :
    ∃ ts, Scans p.chars (.text m.1 :: .colon :: ts) ∧ Raw.ofTokens? ts = some m.2 := by
  obtain ⟨hkey, hvalue⟩ := h
  rw [Raw.parse?, Option.bind_eq_bind, Option.bind_eq_some_iff] at hvalue
  obtain ⟨ts, hscan, hbuild⟩ := hvalue
  exact ⟨ts, (scans_of_scan? hkey).mark (isMark_of_ofMark? rfl) (scans_of_scan? hscan), hbuild⟩

/-- The parts after the first complete a record. -/
lemma exists_tokens (h : List.Forall₂ Part.Writes ps ms) : ∃ ts,
    (∀ cs before, Scans cs before →
      Scans (cs ++ ps.flatMap fun q => ',' :: q.chars) (before ++ ts)) ∧
    ∀ frames k v before,
      (ts ++ [Token.closeRecord]).foldlM Builder.step? ⟨.member before k :: frames, .after v⟩
        = some ⟨frames, .after (.record (before.reverse ++ (k, v) :: ms))⟩ := by
  induction h with
  | nil =>
      refine ⟨[], fun cs before h => by simpa using h, fun frames k v before => ?_⟩
      simp [Builder.step?]
  | @cons p m ps ms hp hps ih =>
      obtain ⟨ts, hscan, hbuild⟩ := hp.scans
      obtain ⟨rest, hscans, hbuilds⟩ := ih
      refine ⟨.comma :: .text m.1 :: .colon :: ts ++ rest, fun cs before h => ?_,
        fun frames k v before => ?_⟩
      · have hnext := hscans _ _ (h.mark (isMark_of_ofMark? (c := ',') rfl) hscan)
        simpa using hnext
      · rw [List.cons_append, List.cons_append, List.cons_append, List.cons_append,
          List.cons_append, List.cons_append, build_cons rfl, build_cons rfl, build_cons rfl,
          List.append_assoc, build_append (build_value hbuild _),
          hbuilds frames m.1 m.2 ((k, v) :: before), List.reverse_cons, List.append_assoc,
          List.singleton_append]

/-- **A record put together from parts is read as the record of what they stand for.** -/
theorem raw_parse?_recordText (h : List.Forall₂ Part.Writes ps ms) :
    Raw.parse? (recordText ps) = some (.record ms) := by
  cases h with
  | nil =>
      rw [recordText, Raw.parse?, String.toList_ofList]
      rfl
  | @cons p m ps ms hp hps =>
      obtain ⟨ts, hscan, hbuild⟩ := hp.scans
      obtain ⟨rest, hscans, hbuilds⟩ := exists_tokens hps
      have hall := ((hscans _ _ hscan).mark_snoc (isMark_of_ofMark? (c := '}') rfl)).mark_cons
        (isMark_of_ofMark? (c := '{') rfl)
      obtain ⟨s, hs, hended⟩ := hall []
      have htokens : Token.scan? (recordText (p :: ps)).toList = some (.openRecord ::
          (.text m.1 :: .colon :: ts ++ rest ++ [.closeRecord])) := by
        rw [recordText, String.toList_ofList, Token.scan?, List.cons_append, List.cons_append, hs,
          Option.bind_eq_bind, Option.bind_some, hended.finish]
        simp
      have hopen : Builder.step? {} .openRecord = some ⟨[.record []], .firstKey⟩ := rfl
      have htree : Raw.ofTokens? (.openRecord ::
          (.text m.1 :: .colon :: ts ++ rest ++ [.closeRecord])) = some (.record (m :: ms)) := by
        rw [Raw.ofTokens?, build_cons hopen, List.cons_append, List.cons_append, List.cons_append,
          List.cons_append, build_cons rfl, build_cons rfl, List.append_assoc,
          build_append (build_value hbuild _), hbuilds [] m.1 m.2 []]
        rfl
      rw [Raw.parse?, htokens, Option.bind_eq_bind, Option.bind_some, htree]

/-- A text in quotes is the text of a text. -/
lemma raw_parse?_quoted (s : String) :
    Raw.parse? (quoted s) = some (.text (Escaped.encode s.toList)) := by
  obtain ⟨scan, hscan, hended⟩ := scans_quoted s []
  rw [Raw.parse?, Token.scan?, hscan, Option.bind_eq_bind, Option.bind_eq_bind, Option.bind_some,
    hended.finish]
  rfl

/-- A name in quotes is the text of a key. -/
lemma writes_quoted (k : String) {s : String} (h : Raw.parse? s = some v) :
    Part.Writes ⟨quoted k, s⟩ (Escaped.encode k.toList, v) := by
  obtain ⟨scan, hscan, hended⟩ := scans_quoted k []
  refine ⟨?_, h⟩
  rw [Token.scan?, hscan, Option.bind_eq_bind, Option.bind_some, hended.finish]
  rfl

end HostAgent.Json
