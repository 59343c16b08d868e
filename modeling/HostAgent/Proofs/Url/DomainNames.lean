import HostAgent.Url.DomainName
import HostAgent.Proofs.Unicode.Normal
import HostAgent.Proofs.Url.Punycode

/-!
# Domain names are read as they are written

* `ascii?_eq_some` — when a name has an ASCII form.
* `Written`, `written_of_readLabel?` — a label that has been read can be written and read again.
* `ascii?_ascii` — the ASCII form of a name is its own ASCII form.
* `ascii?_of_digits` — digits and full stops are theirs.
* `ascii?_of_blank` — a name with a blank has none.
-/

namespace HostAgent

open Unicode

namespace Unicode

/-! ## Plain characters -/

lemma pairwise_treatmentEntries : (treatmentEntries.map Prod.fst).Pairwise (· ≤ ·) := by
  rw [treatmentEntries, List.map_map]
  exact Text.pairwise_placed 0 treatmentRows.flatten

lemma treatment_eq (c : Char) : treatment c
    = ((Text.Table.lastUpTo treatmentEntries c.toNat).map Prod.snd).getD .refuse := by
  rw [treatment, treatments, Text.Table.below?_ofEntries pairwise_treatmentEntries]

/-- The characters that written names are made of. -/
def plain : List Char := ['-', '.'] ++ Url.Punycode.digits

lemma treatment_of_plain {c : Char} (h : c ∈ plain) : treatment c = .keep := by
  have hall : plain.all (fun c => ((Text.Table.lastUpTo treatmentEntries c.toNat).map
      Prod.snd).getD .refuse = .keep) = true := by decide +kernel
  rw [treatment_eq]
  simpa using List.all_eq_true.mp hall c h

lemma treatment_of_blank {c : Char} (h : c.toNat ≤ 0x20) : treatment c = .keep := by
  have hall : ∀ n ≤ 0x20, ((Text.Table.lastUpTo treatmentEntries n).map Prod.snd).getD .refuse
      = .keep := by decide +kernel
  rw [treatment_eq]
  exact hall _ h

lemma marks_of_lt {c : Char} (h : c.toNat < 0x300) : marks.contains c = false := by
  rw [marks, Text.contains_ofGaps]
  generalize c.toNat = n at h
  revert n
  decide +kernel

lemma toNat_of_isDigit {c : Char} (h : c.isDigit = true) : 48 ≤ c.toNat ∧ c.toNat ≤ 57 := by
  simpa [Char.isDigit, UInt32.le_iff_toNat_le] using h

lemma direction_of_isDigit {c : Char} (h : c.isDigit = true) : direction c = .europeanNumber := by
  obtain ⟨hlow, hhigh⟩ := toNat_of_isDigit h
  have hclass : ∀ n ≤ 57, 48 ≤ n → (directions.below? n).getD 0 = 4 := by
    rw [directions]
    simp only [Text.below?_numbers]
    decide +kernel
  rw [direction, hclass _ hhigh hlow]
  rfl

end Unicode

namespace Url.DomainName

variable {c : Char} {cs name out label piece mapped : List Char} {labels : List (List Char)}

/-! ## Mapping -/

lemma mapChars?_of_keep (h : ∀ c ∈ cs, treatment c = .keep) : mapChars? cs = some cs := by
  induction cs with
  | nil => rfl
  | cons c cs ih =>
      obtain ⟨hc, hcs⟩ := List.forall_mem_cons.mp h
      rw [mapChars?, hc, ih hcs]
      rfl

/-- What is kept is not lost. -/
lemma mem_of_mapChars? (h : mapChars? cs = some mapped) (hc : c ∈ cs)
    (hkeep : treatment c = .keep) : c ∈ mapped := by
  induction cs generalizing mapped with
  | nil => cases hc
  | cons d cs ih =>
      rw [mapChars?] at h
      rcases List.mem_cons.mp hc with rfl | hc
      · rw [hkeep] at h
        obtain ⟨rest, -, rfl⟩ := Option.map_eq_some_iff.mp h
        exact List.mem_cons_self
      · cases hd : treatment d with
        | refuse => simp [hd] at h
        | drop =>
            rw [hd] at h
            exact ih h hc
        | keep | replace ds =>
            rw [hd] at h
            obtain ⟨rest, hrest, rfl⟩ := Option.map_eq_some_iff.mp h
            simp [ih hrest hc]

/-! ## Labels -/

/-- The mark of a label in punycode. -/
def mark : List Char := ['x', 'n', '-', '-']

lemma readLabel?_mark (code : List Char) : readLabel? (mark ++ code) = (do
    let decoded ← Punycode.decode? code
    if decoded.all (·.val < 0x80) || normal decoded != decoded || !validLabel decoded then none
    else some decoded) := rfl

lemma readLabel?_of_not_mark (h : ∀ code, label ≠ mark ++ code) :
    readLabel? label = if validLabel label then some label else none := by
  unfold readLabel?
  split
  · exact absurd rfl (h _)
  · rfl

/-- How a label has been read: as it stands, or from punycode. -/
lemma readLabel?_cases (h : readLabel? piece = some label) :
    validLabel label = true ∧ ((label = piece ∧ ∀ code, piece ≠ mark ++ code) ∨
      ∃ code, piece = mark ++ code ∧ Punycode.decode? code = some label ∧
        label.all (·.val < 0x80) = false ∧ normal label = label) := by
  by_cases hmark : ∃ code, piece = mark ++ code
  · obtain ⟨code, rfl⟩ := hmark
    rw [readLabel?_mark] at h
    obtain ⟨decoded, hdecoded, h⟩ := Option.bind_eq_some_iff.mp h
    split_ifs at h with hbad
    cases h
    simp only [Bool.or_eq_true, Bool.not_eq_true', not_or, bne_iff_ne, ne_eq, not_not,
      Bool.not_eq_true, Bool.not_eq_false] at hbad
    exact ⟨hbad.2, .inr ⟨code, rfl, hdecoded, hbad.1.1, hbad.1.2⟩⟩
  · have hnot : ∀ code, piece ≠ mark ++ code := fun code hcode => hmark ⟨code, hcode⟩
    rw [readLabel?_of_not_mark hnot] at h
    split_ifs at h with hvalid
    cases h
    exact ⟨hvalid, .inl ⟨rfl, hnot⟩⟩

/-- A label that is read as it is written, from characters that are kept and without a full
stop. -/
structure Written (label : List Char) : Prop where
  read : readLabel? (writeLabel label) = some label
  ascii : ∀ c ∈ writeLabel label, c.val < 0x80
  keep : ∀ c ∈ writeLabel label, treatment c = .keep
  noDot : '.' ∉ writeLabel label

/-- What labels in punycode are made of, apart from the characters of the label. -/
def coded : List Char := '-' :: Punycode.digits

lemma plain_of_coded (h : c ∈ coded) : c ∈ plain :=
  (List.mem_cons.mp h).elim (fun hc => by simp [hc, plain]) (List.mem_append_right _)

lemma coded_ascii : coded.all (·.val < 0x80) = true := by decide +kernel

lemma dot_not_coded : coded.contains '.' = false := by decide +kernel

lemma mark_coded : mark.all coded.contains = true := by decide +kernel

/-- A label that is written as it stands. -/
lemma written_of_ascii (hread : readLabel? label = some label)
    (hascii : label.all (·.val < 0x80) = true) (hkeep : ∀ c ∈ label, treatment c = .keep)
    (hdot : '.' ∉ label) : Written label := by
  have hwrite : writeLabel label = label := if_pos hascii
  constructor <;> rw [hwrite]
  · exact hread
  · simpa using hascii
  · exact hkeep
  · exact hdot

/-- A label that is written in punycode. -/
lemma written_of_not_ascii (hvalid : validLabel label = true)
    (hascii : label.all (·.val < 0x80) = false) (hnormal : normal label = label)
    (hkeep : ∀ c ∈ label, treatment c = .keep) (hdot : '.' ∉ label) : Written label := by
  have hwrite : writeLabel label = mark ++ Punycode.encode label :=
    if_neg (by rw [hascii]; exact Bool.false_ne_true)
  have hmem : ∀ c ∈ writeLabel label, c ∈ label ∧ c.val < 0x80 ∨ c ∈ coded := fun c hc => by
    rw [hwrite] at hc
    rcases List.mem_append.mp hc with hc | hc
    · exact .inr (List.contains_iff_mem.mp (List.all_eq_true.mp mark_coded c hc))
    · exact (Punycode.mem_encode hc).imp_right List.mem_cons.mpr
  refine ⟨?_, fun c hc => ?_, fun c hc => ?_, fun hc => ?_⟩
  · rw [hwrite, readLabel?_mark, Punycode.decode?_encode, Option.bind_eq_bind, Option.bind_some,
      hascii, hnormal, hvalid]
    simp
  · exact (hmem c hc).elim And.right fun hc => by
      simpa using List.all_eq_true.mp coded_ascii c hc
  · exact (hmem c hc).elim (hkeep c ·.1) fun hc => treatment_of_plain (plain_of_coded hc)
  · refine (hmem _ hc).elim (hdot ·.1) fun hc => ?_
    have hdotted := List.contains_iff_mem.mpr hc
    rw [dot_not_coded] at hdotted
    cases hdotted

/-- **A label that has been read can be written and read again.** -/
theorem written_of_readLabel? (hnormal : normal piece = piece) (hdot : '.' ∉ piece)
    (h : readLabel? piece = some label) : Written label := by
  obtain ⟨hvalid, hcases⟩ := readLabel?_cases h
  have hkeep : ∀ c ∈ label, treatment c = .keep := by
    simp only [validLabel, Bool.and_eq_true, List.all_eq_true, beq_iff_eq] at hvalid
    exact hvalid.1.2
  rcases hcases with ⟨rfl, -⟩ | ⟨code, rfl, hdecode, hascii, hnormal'⟩
  · cases hascii : label.all (·.val < 0x80) with
    | true => exact written_of_ascii h hascii hkeep hdot
    | false => exact written_of_not_ascii hvalid hascii hnormal hkeep hdot
  · refine written_of_not_ascii hvalid hascii hnormal' hkeep fun hc => hdot ?_
    exact List.mem_append_right _ (Punycode.mem_of_mem_decode? hdecode hc (by decide))

/-! ## Names -/

/-- **When a name has an ASCII form.** -/
lemma ascii?_eq_some : ascii? name = some out ↔ ∃ mapped labels, mapChars? name = some mapped ∧
    (splitAtDots (normal mapped)).mapM readLabel? = some labels ∧
    (labels.any (·.any runsLeft) && !labels.all oneDirection) = false ∧
    out = ['.'].intercalate (labels.map writeLabel) ∧ out.any forbidden = false := by
  constructor
  · intro h
    obtain ⟨mapped, hmapped, h⟩ := Option.bind_eq_some_iff.mp h
    obtain ⟨labels, hlabels, h⟩ := Option.bind_eq_some_iff.mp h
    dsimp only at h
    split_ifs at h with hdirection hforbidden
    cases h
    exact ⟨mapped, labels, hmapped, hlabels, by simpa using hdirection, rfl,
      by simpa using hforbidden⟩
  · rintro ⟨mapped, labels, hmapped, hlabels, hdirection, rfl, hforbidden⟩
    rw [ascii?, hmapped, Option.bind_eq_bind, Option.bind_some, hlabels, Option.bind_eq_bind,
      Option.bind_some]
    dsimp only
    rw [hdirection, hforbidden]
    rfl

/-- The labels of a name. -/
lemma written_of_mapM (h : (splitAtDots (normal mapped)).mapM readLabel? = some labels) :
    labels ≠ [] ∧ ∀ label ∈ labels, Written label := by
  have hlabels := List.mapM_eq_some_iff.mp h
  refine ⟨fun hnil => ?_, fun label hlabel => ?_⟩
  · rw [hnil, List.forall₂_nil_right_iff] at hlabels
    exact List.splitOn_ne_nil _ _ hlabels
  · obtain ⟨piece, hpiece, hread⟩ := hlabels.exists_left label hlabel
    have hdot := List.not_mem_of_mem_splitOn hpiece
    rw [splitAtDots, normal_splitOn (by decide)] at hpiece
    obtain ⟨raw, -, rfl⟩ := List.mem_map.mp hpiece
    exact written_of_readLabel? (normal_normal raw) hdot hread

/-- What written labels are joined to is neither mapped nor composed any further. -/
lemma mapChars?_of_written (hwritten : ∀ label ∈ labels, Written label) :
    mapChars? (['.'].intercalate (labels.map writeLabel))
        = some (['.'].intercalate (labels.map writeLabel)) ∧
      normal (['.'].intercalate (labels.map writeLabel))
        = ['.'].intercalate (labels.map writeLabel) := by
  have hchars : ∀ c ∈ ['.'].intercalate (labels.map writeLabel),
      treatment c = .keep ∧ c.val < 0x80 := by
    intro c hc
    rcases List.mem_intercalate_singleton.mp hc with ⟨piece, hpiece, hc⟩ | ⟨rfl, -⟩
    · obtain ⟨label, hlabel, rfl⟩ := List.mem_map.mp hpiece
      exact ⟨(hwritten label hlabel).keep c hc, (hwritten label hlabel).ascii c hc⟩
    · exact ⟨treatment_of_plain (by simp [plain]), by decide⟩
  refine ⟨mapChars?_of_keep fun c hc => (hchars c hc).1, if_pos ?_⟩
  rw [List.all_eq_true]
  exact fun c hc => decide_eq_true (UInt32.lt_trans (hchars c hc).2 (by decide))

/-- **The ASCII form of a name is its own ASCII form.** -/
theorem ascii?_ascii (h : ascii? name = some out) : ascii? out = some out := by
  obtain ⟨mapped, labels, -, hlabels, hdirection, rfl, hforbidden⟩ := ascii?_eq_some.mp h
  obtain ⟨hne, hwritten⟩ := written_of_mapM hlabels
  obtain ⟨hmap, hnormal⟩ := mapChars?_of_written hwritten
  refine ascii?_eq_some.mpr ⟨_, labels, hmap, ?_, hdirection, rfl, hforbidden⟩
  rw [hnormal, splitAtDots, List.splitOn_intercalate, List.mapM_eq_some_iff,
    List.forall₂_map_left_iff, List.forall₂_same]
  · exact fun label hlabel => (hwritten label hlabel).read
  · simpa using fun label hlabel => (hwritten label hlabel).noDot
  · simpa using hne

lemma joinersOk_of_forall (h : ∀ c ∈ label, c.toNat < 0x200C) (before : List Char) :
    joinersOk before label = true := by
  induction label generalizing before with
  | nil => rfl
  | cons c label ih =>
      obtain ⟨hc, hlabel⟩ := List.forall_mem_cons.mp h
      have hnon : c ≠ '\u200c' := by
        rintro rfl
        exact absurd hc (by decide)
      have hjoin : c ≠ '\u200d' := by
        rintro rfl
        exact absurd hc (by decide)
      unfold joinersOk
      simp only [hnon, hjoin, if_false, Bool.true_and]
      exact ih hlabel _

/-- Digits and full stops are plain, and end no host. -/
lemma plain_of_isDigit (h : c.isDigit = true ∨ c = '.') : c ∈ plain ∧ forbidden c = false := by
  have hall : ∀ n ≤ 57, 46 ≤ n → n ≠ 47 →
      plain.contains (Char.ofNat n) = true ∧ forbidden (Char.ofNat n) = false := by decide +kernel
  have hc := hall c.toNat
  rw [Char.ofNat_toNat, List.contains_iff_mem] at hc
  rcases h with h | rfl
  · obtain ⟨hlow, hhigh⟩ := toNat_of_isDigit h
    exact hc hhigh (by omega) (by omega)
  · exact hc (by decide) (by decide) (by decide)

lemma ascii_of_isDigit (h : c.isDigit = true ∨ c = '.') : c.val < 0x80 := by
  rcases h with h | rfl
  · exact UInt32.lt_iff_toNat_lt.mpr ((toNat_of_isDigit h).2.trans_lt (by decide))
  · decide

/-- A label of digits. -/
lemma readLabel?_of_digits (h : ∀ c ∈ label, c.isDigit = true) : readLabel? label = some label := by
  have hlow : ∀ c ∈ label, c.toNat < 0x200C := fun c hc =>
    (toNat_of_isDigit (h c hc)).2.trans_lt (by decide)
  have hkeep : (label.all fun c => treatment c == .keep) = true := by
    simpa using fun c hc => treatment_of_plain (plain_of_isDigit (.inl (h c hc))).1
  have hvalid : validLabel label = true := by
    unfold validLabel
    rw [hkeep, joinersOk_of_forall hlow]
    cases label with
    | nil => rfl
    | cons c label =>
        have hmark := marks_of_lt ((toNat_of_isDigit (h c List.mem_cons_self)).2.trans_lt
          (show 57 < 0x300 by decide))
        simp [hmark]
  rw [readLabel?_of_not_mark, hvalid, if_pos rfl]
  rintro code rfl
  exact absurd (h 'x' (by simp [mark])) (by decide)

/-- **Digits and full stops are their own ASCII form.** -/
theorem ascii?_of_digits (h : ∀ c ∈ name, c.isDigit = true ∨ c = '.') :
    ascii? name = some name := by
  have hnormal : normal name = name := if_pos (List.all_eq_true.mpr fun c hc =>
    decide_eq_true (UInt32.lt_trans (ascii_of_isDigit (h c hc)) (by decide)))
  have hlabels : ∀ label ∈ name.splitOn '.', ∀ c ∈ label, c.isDigit = true := by
    intro label hlabel c hc
    have hmem : c ∈ name := by
      rw [← @List.intercalate_splitOn _ name _ _ '.']
      exact List.mem_intercalate_singleton.mpr (.inl ⟨label, hlabel, hc⟩)
    refine (h c hmem).resolve_right ?_
    rintro rfl
    exact List.not_mem_of_mem_splitOn hlabel hc
  have hread : (splitAtDots name).mapM readLabel? = some (name.splitOn '.') :=
    List.mapM_eq_some_iff.mpr (List.forall₂_same.mpr fun label hlabel =>
      readLabel?_of_digits (hlabels label hlabel))
  have hdirection : (name.splitOn '.').any (·.any runsLeft) = false := by
    simp only [List.any_eq_false, List.any_eq_true, not_exists, not_and]
    intro label hlabel c hc
    simp [runsLeft, direction_of_isDigit (hlabels label hlabel c hc)]
  have hwrite : (name.splitOn '.').map writeLabel = name.splitOn '.' := by
    conv_rhs => rw [← List.map_id (name.splitOn '.')]
    refine List.map_congr_left fun label hlabel => if_pos (List.all_eq_true.mpr fun c hc => ?_)
    exact decide_eq_true (ascii_of_isDigit (.inl (hlabels label hlabel c hc)))
  refine ascii?_eq_some.mpr ⟨name, name.splitOn '.',
    mapChars?_of_keep fun c hc => treatment_of_plain (plain_of_isDigit (h c hc)).1,
    by rwa [hnormal], by rw [hdirection, Bool.false_and],
    by rw [hwrite, List.intercalate_splitOn], ?_⟩
  rw [List.any_eq_false]
  exact fun c hc => by rw [(plain_of_isDigit (h c hc)).2]; exact Bool.false_ne_true

/-- A label keeps what means nothing in punycode. -/
lemma mem_writeLabel (h : readLabel? piece = some label) (hc : c ∈ piece) (hlow : c.toNat < 0x2D) :
    c ∈ writeLabel label := by
  have hnot : ∀ d ∈ mark, c ≠ d := by
    rintro d hd rfl
    have hmark : mark.all (0x2D ≤ ·.toNat) = true := by decide +kernel
    have hle := List.all_eq_true.mp hmark c hd
    simp only [decide_eq_true_eq] at hle
    omega
  have hlabel : c ∈ label := by
    obtain ⟨-, ⟨rfl, -⟩ | ⟨code, rfl, hdecode, -⟩⟩ := readLabel?_cases h
    · exact hc
    · have hcode : c ∈ code := (List.mem_append.mp hc).resolve_left fun hc => hnot c hc rfl
      have hvalue : ∀ n < 0x2D, Punycode.value? (Char.ofNat n) = none := by decide +kernel
      refine Punycode.mem_of_decode? hdecode hcode (hnot '-' (by simp [mark])) ?_
      rw [← Char.ofNat_toNat c]
      exact hvalue _ hlow
  have hascii : c.val < 0x80 := UInt32.lt_iff_toNat_lt.mpr (hlow.trans (by decide))
  unfold writeLabel
  split_ifs
  · exact hlabel
  · exact List.mem_append_right _ (Punycode.mem_encode_of_mem hlabel hascii)

/-- What is kept of a name and means nothing in punycode is found in its ASCII form. -/
lemma mem_of_ascii? (h : ascii? name = some out) (hc : c ∈ name) (hlow : c.toNat < 0x2D)
    (hkeep : treatment c = .keep) : c ∈ out := by
  obtain ⟨mapped, labels, hmapped, hlabels, -, rfl, -⟩ := ascii?_eq_some.mp h
  have hnormal : c ∈ normal mapped :=
    (mem_normal (by omega)).mpr (mem_of_mapChars? hmapped hc hkeep)
  rw [← @List.intercalate_splitOn _ (normal mapped) _ _ '.',
    List.mem_intercalate_singleton] at hnormal
  rcases hnormal with ⟨piece, hpiece, hc⟩ | ⟨rfl, -⟩
  · obtain ⟨label, hlabel, hread⟩ := (List.mapM_eq_some_iff.mp hlabels).exists_right piece hpiece
    exact List.mem_intercalate_singleton.mpr
      (.inl ⟨_, List.mem_map_of_mem hlabel, mem_writeLabel hread hc hlow⟩)
  · exact absurd hlow (by decide)

/-- **A name with a blank has no ASCII form.** -/
theorem ascii?_of_blank (hc : c ∈ name) (hblank : c.toNat ≤ 0x20) : ascii? name = none := by
  rw [Option.eq_none_iff_forall_ne_some]
  intro out hout
  have hmem := mem_of_ascii? hout hc (by omega) (treatment_of_blank hblank)
  obtain ⟨-, -, -, -, -, -, hforbidden⟩ := ascii?_eq_some.mp hout
  have hval : c.val ≤ 0x20 := UInt32.le_iff_toNat_le.mpr hblank
  refine List.any_eq_false.mp hforbidden c hmem ?_
  simp [forbidden, hval]

end Url.DomainName

end HostAgent
