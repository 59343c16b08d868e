import HostAgent.Proofs.Json.Escapes
import HostAgent.Proofs.Json.Integers

/-!
# What is written can be read

Reading a JSON text that was written gives back the value, for every value whose numbers are
integers that fit a 64-bit register.

* `Plain` — such values.
* `tokens`, `raw` — what the scanner and the builder are to make of the text of a value.
* `Ended`, `Scans` — a number or a word ends only at the next mark, so what is scanned is said of a
  text together with what may follow it.
* `scans_render`, `build_tokens` — that is what they make of it.
* `parse?_render` — so the value is read back.
-/

namespace HostAgent.Json

open Token (Scan)
open Token.Scan (start?)
open Raw (Builder Frame)

mutual

/-- A value without doubles, all of whose integers fit a signed or unsigned 64-bit register. -/
def Plain : Datum → Prop
  | .null | .bool _ | .text _ => True
  | .int i => -Word.half64 ≤ i ∧ i < Word.size64
  | .float _ => False
  | .list ds => PlainItems ds
  | .record ms => PlainMembers ms

/-- Items like that. -/
def PlainItems : List Datum → Prop
  | [] => True
  | d :: ds => Plain d ∧ PlainItems ds

/-- Members like that. -/
def PlainMembers : List (String × Datum) → Prop
  | [] => True
  | (_, d) :: ms => Plain d ∧ PlainMembers ms

end

mutual

/-- The tokens of a plain value. -/
def tokens : Datum → List Token
  | .null | .float _ => [.null]
  | .bool b => [.bool b]
  | .int i => [.number (numeral i)]
  | .text s => [.text (Escaped.encode s.toList)]
  | .list [] => [.openList, .closeList]
  | .list (d :: ds) => .openList :: tokens d ++ itemTokens ds ++ [.closeList]
  | .record [] => [.openRecord, .closeRecord]
  | .record ((k, d) :: ms) =>
    .openRecord :: .text (Escaped.encode k.toList) :: .colon :: tokens d ++ memberTokens ms
      ++ [.closeRecord]

/-- The tokens of the items after the first. -/
def itemTokens : List Datum → List Token
  | [] => []
  | d :: ds => .comma :: tokens d ++ itemTokens ds

/-- The tokens of the members after the first. -/
def memberTokens : List (String × Datum) → List Token
  | [] => []
  | (k, d) :: ms =>
    .comma :: .text (Escaped.encode k.toList) :: .colon :: tokens d ++ memberTokens ms

end

mutual

/-- The tree of a plain value, with its texts as they are written. -/
def raw : Datum → Raw
  | .null | .float _ => .null
  | .bool b => .bool b
  | .int i => .number (numeral i)
  | .text s => .text (Escaped.encode s.toList)
  | .list ds => .list (rawItems ds)
  | .record ms => .record (rawMembers ms)

/-- The trees of all items. -/
def rawItems : List Datum → List Raw
  | [] => []
  | d :: ds => raw d :: rawItems ds

/-- The trees of all members. -/
def rawMembers : List (String × Datum) → List (List Char × Raw)
  | [] => []
  | (k, d) :: ms => (Escaped.encode k.toList, raw d) :: rawMembers ms

end

/-! ## Scanning -/

/-- The scanner is at the end of the last of these tokens, at the latest when a mark follows. -/
structure Ended (s : Scan) (done : List Token) : Prop where
  finish : s.finish? = some done.reverse
  step : ∀ c, isLexemeChar c = false → s.step? c = start? done c

lemma ended_nothing (done : List Token) : Ended ⟨done, .nothing⟩ done :=
  ⟨rfl, fun _ _ => rfl⟩

lemma ended_lexeme (seen : List Char) {t : Token} (h : Token.ofLexeme? seen.reverse = some t)
    (done : List Token) : Ended ⟨done, .lexeme seen⟩ (t :: done) :=
  ⟨by simp [Scan.finish?, h], fun c hc => by simp [Scan.step?, hc, h]⟩

/-- A text is scanned as these tokens, whatever has been scanned before. -/
def Scans (cs : List Char) (ts : List Token) : Prop :=
  ∀ done, ∃ s, cs.foldlM Scan.step? ⟨done, .nothing⟩ = some s ∧ Ended s (ts.reverse ++ done)

lemma scans_nil : Scans [] [] :=
  fun done => ⟨_, rfl, ended_nothing done⟩

/-- A mark is a token of its own, and ends the one before it. -/
structure IsMark (c : Char) (t : Token) : Prop where
  lexeme : isLexemeChar c = false
  start : ∀ done, start? done c = some ⟨t :: done, .nothing⟩

lemma isMark_of_ofMark? {c : Char} {t : Token} (h : Token.ofMark? c = some t) : IsMark c t := by
  unfold Token.ofMark? at h
  split at h <;> first | exact ⟨by decide, fun done => by cases h; rfl⟩ | cases h

variable {c : Char} {t : Token} {cs cs' : List Char} {ts ts' : List Token}

/-- What follows a mark is scanned by itself. -/
lemma Scans.mark (h : Scans cs ts) (hc : IsMark c t) (h' : Scans cs' ts') :
    Scans (cs ++ c :: cs') (ts ++ t :: ts') := by
  intro done
  obtain ⟨s, hs, hended⟩ := h done
  obtain ⟨s', hs', hended'⟩ := h' (t :: ts.reverse ++ done)
  refine ⟨s', ?_, ?_⟩
  · rw [List.foldlM_append, hs, Option.bind_eq_bind, Option.bind_some, List.foldlM_cons,
      hended.step c hc.lexeme, hc.start]
    exact hs'
  · simpa using hended'

lemma Scans.mark_cons (hc : IsMark c t) (h : Scans cs ts) : Scans (c :: cs) (t :: ts) :=
  scans_nil.mark hc h

lemma Scans.mark_snoc (h : Scans cs ts) (hc : IsMark c t) : Scans (cs ++ [c]) (ts ++ [t]) :=
  h.mark hc scans_nil

/-- The characters of numbers and words begin nothing else. -/
lemma start?_of_isLexemeChar (h : isLexemeChar c = true) (done : List Token) :
    start? done c = some ⟨done, .lexeme [c]⟩ := by
  have hspace : isSpace c = false := by
    by_contra hspace
    simp only [Bool.not_eq_false, isSpace, Bool.or_eq_true, beq_iff_eq] at hspace
    rcases hspace with ((rfl | rfl) | rfl) | rfl <;> simp [isLexemeChar] at h
  have hquote : c ≠ '"' := by
    rintro rfl
    simp [isLexemeChar] at h
  rw [start?, hspace, if_neg Bool.false_ne_true, if_neg hquote, if_pos h]

/-- A number or a word is gathered. -/
lemma gather_lexeme (h : ∀ c ∈ cs, isLexemeChar c = true) (done : List Token) (seen : List Char) :
    cs.foldlM Scan.step? ⟨done, .lexeme seen⟩ = some ⟨done, .lexeme (cs.reverse ++ seen)⟩ := by
  induction cs generalizing seen with
  | nil => rfl
  | cons c cs ih =>
      obtain ⟨hc, hcs⟩ := List.forall_mem_cons.mp h
      have hstep : Scan.step? ⟨done, .lexeme seen⟩ c = some ⟨done, .lexeme (c :: seen)⟩ := by
        simp [Scan.step?, hc]
      rw [List.foldlM_cons, hstep, Option.bind_eq_bind, Option.bind_some, ih hcs,
        List.reverse_cons, List.append_assoc, List.singleton_append]

/-- A number or a word is one token. -/
lemma scans_lexeme (h : ∀ c ∈ cs, isLexemeChar c = true) (ht : Token.ofLexeme? cs = some t) :
    Scans cs [t] := by
  intro done
  cases cs with
  | nil => cases ht
  | cons c cs =>
      obtain ⟨hc, hcs⟩ := List.forall_mem_cons.mp h
      refine ⟨_, ?_, ended_lexeme (cs.reverse ++ [c]) (by simpa using ht) done⟩
      rw [List.foldlM_cons, Scan.step?]
      simp only [start?_of_isLexemeChar hc, Option.bind_eq_bind, Option.bind_some,
        gather_lexeme hcs]

lemma scans_quoted (s : String) :
    Scans (quoted s).toList [.text (Escaped.encode s.toList)] :=
  fun done => ⟨_, Token.scan_quoted done s, ended_nothing _⟩

/-- What is a number is no word. -/
lemma ofLexeme?_of_numeral {n : Numeral} (h : Numeral.ofLexeme? cs = some n) :
    Token.ofLexeme? cs = some (.number n) := by
  have hne : ∀ w, Numeral.ofLexeme? w = none → cs ≠ w := by
    rintro w hw rfl
    cases hw.symm.trans h
  rw [Token.ofLexeme?, if_neg (hne _ rfl), if_neg (hne _ rfl), if_neg (hne _ rfl), h]
  rfl

lemma scans_int (i : ℤ) : Scans (toString i).toList [.number (numeral i)] :=
  scans_lexeme (fun _ hc => isLexemeChar_of_mem hc) (ofLexeme?_of_numeral (ofLexeme?_toString i))

/-- A key and a value with a colon between them. -/
lemma Scans.member (k : String) (h : Scans cs ts) : Scans ((quoted k).toList ++ ':' :: cs)
    (.text (Escaped.encode k.toList) :: .colon :: ts) :=
  (scans_quoted k).mark (isMark_of_ofMark? rfl) h

/-- The marks and words that the printer puts between texts and numbers. -/
lemma toList_marks : "[".toList = ['['] ∧ "]".toList = [']'] ∧ "\x7b".toList = ['{'] ∧
    "\x7d".toList = ['}'] ∧ ":".toList = [':'] ∧ ",".toList = [','] ∧ "[]".toList = ['[', ']'] ∧
    "\x7b\x7d".toList = ['{', '}'] :=
  ⟨String.toList_ofList, String.toList_ofList, String.toList_ofList, String.toList_ofList,
    String.toList_ofList, String.toList_ofList, String.toList_ofList, String.toList_ofList⟩

lemma toList_words : "null".toList = ['n', 'u', 'l', 'l'] ∧ "true".toList = ['t', 'r', 'u', 'e'] ∧
    "false".toList = ['f', 'a', 'l', 's', 'e'] :=
  ⟨String.toList_ofList, String.toList_ofList, String.toList_ofList⟩

mutual

/-- **A plain value is scanned as its tokens.** -/
theorem scans_render : ∀ d, Plain d → Scans (render d).toList (tokens d)
  | .null, _ => by
      rw [render, toList_words.1, tokens]
      exact scans_lexeme (by simp [isLexemeChar]) (if_pos rfl)
  | .bool true, _ => by
      rw [render, toList_words.2.1, tokens]
      exact scans_lexeme (by simp [isLexemeChar]) (by decide)
  | .bool false, _ => by
      rw [render, toList_words.2.2, tokens]
      exact scans_lexeme (by simp [isLexemeChar]) (by decide)
  | .int i, _ => scans_int i
  | .text s, _ => scans_quoted s
  | .list [], _ => by
      obtain ⟨-, -, -, -, -, -, hempty, -⟩ := toList_marks
      rw [render, hempty]
      exact .mark_cons (isMark_of_ofMark? rfl) (scans_nil.mark_snoc (isMark_of_ofMark? rfl))
  | .list (d :: ds), h => by
      obtain ⟨hopen, hclose, -⟩ := toList_marks
      have hitems := scans_renderItems ds h.2 _ _ (scans_render d h.1)
      simpa [render, tokens, hopen, hclose] using
        (hitems.mark_snoc (isMark_of_ofMark? (c := ']') rfl)).mark_cons
          (isMark_of_ofMark? (c := '[') rfl)
  | .record [], _ => by
      obtain ⟨-, -, -, -, -, -, -, hempty⟩ := toList_marks
      rw [render, hempty]
      exact .mark_cons (isMark_of_ofMark? rfl) (scans_nil.mark_snoc (isMark_of_ofMark? rfl))
  | .record ((k, d) :: ms), h => by
      obtain ⟨-, -, hopen, hclose, hcolon, -⟩ := toList_marks
      have hmembers := scans_renderMembers ms h.2 _ _ ((scans_render d h.1).member k)
      simpa [render, tokens, hopen, hclose, hcolon] using
        (hmembers.mark_snoc (isMark_of_ofMark? (c := '}') rfl)).mark_cons
          (isMark_of_ofMark? (c := '{') rfl)

/-- So are the items after what is scanned before. -/
lemma scans_renderItems : ∀ ds, PlainItems ds → ∀ cs ts, Scans cs ts →
    Scans (cs ++ (renderItems ds).toList) (ts ++ itemTokens ds)
  | [], _, cs, ts, hcs => by simpa [renderItems, itemTokens] using hcs
  | d :: ds, h, cs, ts, hcs => by
      obtain ⟨-, -, -, -, -, hcomma, -⟩ := toList_marks
      have hd := hcs.mark (isMark_of_ofMark? (c := ',') rfl) (scans_render d h.1)
      simpa [renderItems, itemTokens, hcomma] using scans_renderItems ds h.2 _ _ hd

/-- So are the members. -/
lemma scans_renderMembers : ∀ ms, PlainMembers ms → ∀ cs ts, Scans cs ts →
    Scans (cs ++ (renderMembers ms).toList) (ts ++ memberTokens ms)
  | [], _, cs, ts, hcs => by simpa [renderMembers, memberTokens] using hcs
  | (k, d) :: ms, h, cs, ts, hcs => by
      obtain ⟨-, -, -, -, hcolon, hcomma, -⟩ := toList_marks
      have hd := hcs.mark (isMark_of_ofMark? (c := ',') rfl) ((scans_render d h.1).member k)
      simpa [renderMembers, memberTokens, hcolon, hcomma] using scans_renderMembers ms h.2 _ _ hd

end

/-! ## Building -/

/-- Where a value may begin. -/
inductive Begins : Raw.Expecting → Prop where
  | value : Begins .value
  | firstItem : Begins .firstItem

/-- One token after the other. -/
lemma build_cons {b b' : Builder} (h : b.step? t = some b') :
    (t :: ts).foldlM Builder.step? b = ts.foldlM Builder.step? b' := by
  rw [List.foldlM_cons, h]
  rfl

/-- Where a value may begin, the first token of one begins it. -/
lemma build_begin {e : Raw.Expecting} (he : Begins e) {frames : List Frame} {b : Builder}
    (h : Builder.begin? frames t = some b) :
    (t :: ts).foldlM Builder.step? ⟨frames, e⟩ = ts.foldlM Builder.step? b := by
  refine build_cons ?_
  cases he with
  | value => exact h
  | firstItem =>
      cases t with
      | closeList => cases h
      | _ => exact h

lemma build_append {b b' : Builder} (h : ts.foldlM Builder.step? b = some b') :
    (ts ++ ts').foldlM Builder.step? b = ts'.foldlM Builder.step? b' := by
  rw [List.foldlM_append, h]
  rfl

mutual

/-- **The tokens of a value build its tree.** -/
theorem build_tokens : ∀ d frames e, Begins e →
    (tokens d).foldlM Builder.step? ⟨frames, e⟩ = some ⟨frames, .after (raw d)⟩
  | .null, frames, e, he | .float x, frames, e, he | .bool b, frames, e, he
  | .int i, frames, e, he | .text s, frames, e, he => by
      rw [tokens, raw, build_begin he rfl]
      rfl
  | .list [], frames, e, he => by
      rw [tokens, raw, build_begin he rfl]
      rfl
  | .list (d :: ds), frames, e, he => by
      have hd := build_tokens d (.list [] :: frames) .firstItem .firstItem
      rw [tokens, List.cons_append, List.cons_append,
        build_begin he rfl, List.append_assoc, build_append hd,
        build_itemTokens ds frames (raw d) []]
      rfl
  | .record [], frames, e, he => by
      rw [tokens, raw, build_begin he rfl]
      rfl
  | .record ((k, d) :: ms), frames, e, he => by
      have hd := build_tokens d (.member [] (Escaped.encode k.toList) :: frames) .value .value
      rw [tokens, List.cons_append, List.cons_append, List.cons_append, List.cons_append,
        List.cons_append, List.cons_append, build_begin he rfl,
        build_cons rfl, build_cons rfl, List.append_assoc, build_append hd,
        build_memberTokens ms frames _ (raw d) []]
      rfl

/-- The items after the first complete a list. -/
lemma build_itemTokens : ∀ ds frames v vs,
    (itemTokens ds ++ [Token.closeList]).foldlM Builder.step? ⟨.list vs :: frames, .after v⟩
      = some ⟨frames, .after (.list (vs.reverse ++ v :: rawItems ds))⟩
  | [], frames, v, vs => by
      simp [itemTokens, rawItems, Builder.step?]
  | d :: ds, frames, v, vs => by
      have hd := build_tokens d (.list (v :: vs) :: frames) .value .value
      rw [itemTokens, List.cons_append, List.cons_append, build_cons rfl, List.append_assoc,
        build_append hd, build_itemTokens ds frames (raw d) (v :: vs), rawItems,
        List.reverse_cons, List.append_assoc, List.singleton_append]

/-- The members after the first complete a record. -/
lemma build_memberTokens : ∀ ms frames k v before,
    (memberTokens ms ++ [Token.closeRecord]).foldlM Builder.step?
        ⟨.member before k :: frames, .after v⟩
      = some ⟨frames, .after (.record (before.reverse ++ (k, v) :: rawMembers ms))⟩
  | [], frames, k, v, before => by
      simp [memberTokens, rawMembers, Builder.step?]
  | (k', d) :: ms, frames, k, v, before => by
      have hd := build_tokens d (.member ((k, v) :: before) (Escaped.encode k'.toList) :: frames)
        .value .value
      rw [memberTokens, List.cons_append, List.cons_append, List.cons_append, List.cons_append,
        List.cons_append, List.cons_append, build_cons rfl, build_cons rfl, build_cons rfl,
        List.append_assoc, build_append hd,
        build_memberTokens ms frames _ (raw d) ((k, v) :: before), rawMembers, List.reverse_cons,
        List.append_assoc, List.singleton_append]

end

/-! ## Reading back -/

/-- **The text of a value is read as its tree.** -/
theorem raw_parse?_render (d : Datum) (h : Plain d) : Raw.parse? (render d) = some (raw d) := by
  obtain ⟨s, hs, hended⟩ := scans_render d h []
  have hscan : Token.scan? (render d).toList = some (tokens d) := by
    rw [Token.scan?]
    simp [hs, hended.finish]
  have hbuild : Raw.ofTokens? (tokens d) = some (raw d) := by
    rw [Raw.ofTokens?, build_tokens d [] .value .value]
    rfl
  rw [Raw.parse?, hscan, Option.bind_eq_bind, Option.bind_some, hbuild]

mutual

/-- The tree of a value stands for it. -/
theorem datum?_raw : ∀ d, Plain d → (raw d).datum? = some d
  | .null, _ => rfl
  | .bool b, _ => rfl
  | .int i, h => datum?_numeral h.1 h.2
  | .text s, _ => by
      rw [raw, Raw.datum?, Escaped.decode?_encode, Option.map_some, String.ofList_toList]
  | .list ds, h => by
      rw [raw, Raw.datum?, dataOf?_rawItems ds h]
      rfl
  | .record ms, h => by
      rw [raw, Raw.datum?, membersOf?_rawMembers ms h]
      rfl

/-- So do the trees of all items. -/
lemma dataOf?_rawItems : ∀ ds, PlainItems ds → Raw.dataOf? (rawItems ds) = some ds
  | [], _ => rfl
  | d :: ds, h => by
      rw [rawItems, Raw.dataOf?, datum?_raw d h.1, dataOf?_rawItems ds h.2]
      rfl

/-- So do the trees of all members. -/
lemma membersOf?_rawMembers : ∀ ms, PlainMembers ms → Raw.membersOf? (rawMembers ms) = some ms
  | [], _ => rfl
  | (k, d) :: ms, h => by
      rw [rawMembers, Raw.membersOf?, Escaped.decode?_encode, datum?_raw d h.1,
        membersOf?_rawMembers ms h.2]
      simp

end

/-- **What is written is read back**, for every value without doubles whose integers fit a signed
or unsigned 64-bit register: texts of any characters, lists and records of any depth. -/
theorem parse?_render (d : Datum) (h : Plain d) : parse? (render d) = some d := by
  rw [parse?, raw_parse?_render d h, Option.bind_eq_bind, Option.bind_some, datum?_raw d h]

end HostAgent.Json
