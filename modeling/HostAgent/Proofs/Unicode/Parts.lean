import HostAgent.Unicode.Normal
import HostAgent.Proofs.Text.Lookups

/-!
# What characters are taken apart into

The facts about the tables that the composed normal form rests on.

* `parts_cases` — a character stays whole, or is taken apart into what stays whole.
* `parts_of_pair?` — what stands for a pair is taken apart into the parts of the first and the
  second behind them.
* `parts_of_lt`, `pair?_right_of_lt`, `pair?_left_of_lt`, `combiningClass_of_lt` — characters of
  ASCII are neither taken apart nor put together, and they are bases.
-/

namespace HostAgent.Unicode

open Text (placed Table)

variable {a b c p w : Char} {n : ℕ} {ns : List ℕ}

/-! ## The table of decompositions -/

/-- Whether a code point is that of a syllable of Hangul. -/
def isSyllable (n : ℕ) : Bool := 0xAC00 ≤ n && n ≤ 0xD7A3

/-- Whether a code point is that of a part of such syllables. -/
def isJamo (n : ℕ) : Bool := 0x1100 ≤ n && n ≤ 0x11FF

/-- The code points that have an entry. -/
def keys : List ℕ := decompositionEntries.map Prod.fst

/-- Numbers as the bits of one number. -/
def bits (ns : List ℕ) : ℕ :=
  ns.foldl (fun m n => m ||| 1 <<< n) 0

lemma testBit_bits (h : n ∈ ns) : (bits ns).testBit n = true := by
  have hfold (m : ℕ) (hm : n ∈ ns ∨ m.testBit n = true) :
      (ns.foldl (fun m n => m ||| 1 <<< n) m).testBit n = true := by
    clear h
    induction ns generalizing m with
    | nil => exact hm.resolve_left (by simp)
    | cons k ns ih =>
        refine ih _ ?_
        rw [Nat.testBit_or, Nat.one_shiftLeft, Bool.or_eq_true]
        rcases hm with hm | hm
        · rcases List.mem_cons.mp hm with rfl | hm
          · exact .inr (.inr Nat.testBit_two_pow_self)
          · exact .inl hm
        · exact .inr (.inl hm)
  exact hfold 0 (.inl h)

/-- What a code point can be that a character is taken apart into, given those that have an
entry. -/
def isWhole (taken n : ℕ) : Bool :=
  decide n.isValidChar && decide (0x3B ≤ n) && !isSyllable n && !taken.testBit n

/-- What an entry keeps to, given the code points that have one: characters outside of ASCII are
taken apart into whole ones, of which the last one, if it has company, is no letter of Latin. -/
def isSound (taken : ℕ) (e : ℕ × List ℕ) : Bool :=
  decide e.1.isValidChar && decide (0xC0 ≤ e.1) && !isSyllable e.1 && !isJamo e.1 &&
    e.2.all (isWhole taken) && !e.2.isEmpty && (e.2.tail.isEmpty || e.2.getLast?.all (0x300 ≤ ·))

set_option maxRecDepth 100000 in
lemma isSound_entries : decompositionEntries.all (isSound (bits keys)) = true := by
  decide +kernel

set_option maxRecDepth 100000 in
lemma gaps_entries : decompositionRows.flatten.all (·.head? != some 0) = true := by
  decide +kernel

/-- A code point of a character that stays whole. -/
structure Whole (n : ℕ) : Prop where
  valid : n.isValidChar
  not_syllable : isSyllable n = false
  no_entry : n ∉ keys

/-- What every entry keeps to. -/
structure Sound (n : ℕ) (ns : List ℕ) : Prop where
  valid : n.isValidChar
  ge : 0xC0 ≤ n
  not_syllable : isSyllable n = false
  not_jamo : isJamo n = false
  ne_nil : ns ≠ []
  whole : ∀ k ∈ ns, Whole k
  low : ∀ k ∈ ns, 0x3B ≤ k
  last : ∀ k ∈ ns.getLast?, ns.tail ≠ [] → 0x300 ≤ k

/-- **Every entry is sound.** -/
theorem sound_of_mem (h : (n, ns) ∈ decompositionEntries) : Sound n ns := by
  have hsound := List.all_eq_true.mp isSound_entries _ h
  simp only [isSound, Bool.and_eq_true, decide_eq_true_eq, Bool.not_eq_true', List.all_eq_true,
    isWhole, Bool.or_eq_true, List.isEmpty_iff] at hsound
  obtain ⟨⟨⟨⟨⟨⟨hvalid, hge⟩, hsyllable⟩, hjamo⟩, hwhole⟩, hne⟩, hlast⟩ := hsound
  refine ⟨hvalid, hge, hsyllable, hjamo, by simpa using hne, fun k hk => ?_, fun k hk => ?_,
    fun k hk htail => ?_⟩
  · obtain ⟨⟨⟨hk1, -⟩, hk2⟩, hk3⟩ := hwhole k hk
    exact ⟨hk1, hk2, fun hmem => by simp [testBit_bits hmem] at hk3⟩
  · exact (hwhole k hk).1.1.2
  · have hle := hlast.resolve_left htail
    rw [Option.mem_def.mp hk] at hle
    simpa using hle

/-- No two entries are for one character. -/
lemma pairwise_keys : (decompositionEntries.map Prod.fst).Pairwise (· < ·) :=
  Text.pairwise_lt_placed 0 fun r hr => by
    simpa using List.all_eq_true.mp gaps_entries r hr

/-! ## Taking apart -/

lemma toNat_ofNat (h : n.isValidChar) : (Char.ofNat n).toNat = n := by
  rw [Char.toNat_ofNat, if_pos h]

lemma parts_of_whole (h : Whole c.toNat) : parts c = [c] := by
  have hsyllable : ¬(0xAC00 ≤ c.toNat ∧ c.toNat ≤ 0xD7A3) := by
    simpa [isSyllable] using h.not_syllable
  rw [parts, if_neg hsyllable, decompositions,
    Table.at?_eq_none (pairwise_keys.imp le_of_lt) h.no_entry]

lemma parts_of_mem (h : (n, ns) ∈ decompositionEntries) :
    parts (Char.ofNat n) = ns.map Char.ofNat := by
  have hsound := sound_of_mem h
  have hsyllable : ¬(0xAC00 ≤ n ∧ n ≤ 0xD7A3) := by simpa [isSyllable] using hsound.not_syllable
  rw [parts, toNat_ofNat hsound.valid, if_neg hsyllable, decompositions,
    Table.at?_of_mem pairwise_keys h]

lemma whole_of_isJamo (h : isJamo n = true) : Whole n := by
  have hn : 0x1100 ≤ n ∧ n ≤ 0x11FF := by simpa [isJamo] using h
  refine ⟨.inl (by omega), by simp [isSyllable]; omega, fun hmem => ?_⟩
  obtain ⟨e, he, rfl⟩ := List.mem_map.mp hmem
  have hjamo := (@sound_of_mem e.1 e.2 he).not_jamo
  rw [h] at hjamo
  cases hjamo

lemma whole_of_lt (h : c.toNat < 0xC0) : Whole c.toNat := by
  refine ⟨.inl (by omega), by simp [isSyllable]; omega, fun hmem => ?_⟩
  obtain ⟨e, he, hkey⟩ := List.mem_map.mp hmem
  have hge := (@sound_of_mem e.1 e.2 he).ge
  omega

/-- **A character stays whole, or is taken apart into what stays whole.** -/
theorem parts_cases (c : Char) : Whole c.toNat ∧ parts c = [c] ∨
    ∃ ns, parts c = ns.map Char.ofNat ∧ ns ≠ [] ∧ ∀ n ∈ ns, Whole n ∧ 0x3B ≤ n := by
  by_cases hsyllable : isSyllable c.toNat = true
  · have hc : 0xAC00 ≤ c.toNat ∧ c.toNat ≤ 0xD7A3 := by simpa [isSyllable] using hsyllable
    refine .inr ⟨hangulParts c.toNat, by rw [parts, if_pos hc], ?_, fun n hn => ?_⟩
    · unfold hangulParts
      dsimp only
      split_ifs <;> simp
    · have hjamo : isJamo n = true := by
        rw [isJamo, Bool.and_eq_true, decide_eq_true_eq, decide_eq_true_eq]
        unfold hangulParts at hn
        dsimp only at hn
        split_ifs at hn with h0 <;> simp at hn <;> omega
      exact ⟨whole_of_isJamo hjamo, by simp [isJamo] at hjamo; omega⟩
  · by_cases hkey : c.toNat ∈ keys
    · obtain ⟨e, he, hkey⟩ := List.mem_map.mp hkey
      have hsound := @sound_of_mem e.1 e.2 he
      refine .inr ⟨e.2, ?_, hsound.ne_nil, fun n hn => ⟨hsound.whole n hn, hsound.low n hn⟩⟩
      rw [← parts_of_mem he, hkey, Char.ofNat_toNat]
    · have hwhole : Whole c.toNat := ⟨c.valid, by simpa using hsyllable, hkey⟩
      exact .inl ⟨hwhole, parts_of_whole hwhole⟩

lemma parts_ne_nil (c : Char) : parts c ≠ [] := by
  rcases parts_cases c with ⟨-, h⟩ | ⟨ns, h, hne, -⟩ <;> rw [h]
  · exact List.cons_ne_nil _ _
  · simpa using hne

/-- Parts are not taken apart any further. -/
lemma parts_of_mem_parts (h : p ∈ parts c) : parts p = [p] := by
  rcases parts_cases c with ⟨hwhole, hc⟩ | ⟨ns, hc, -, hns⟩ <;> rw [hc] at h
  · rw [List.mem_singleton.mp h, hc]
  · obtain ⟨n, hn, rfl⟩ := List.mem_map.mp h
    exact parts_of_whole (by rw [toNat_ofNat (hns n hn).1.valid]; exact (hns n hn).1)

lemma parts_of_lt (h : c.toNat < 0xC0) : parts c = [c] :=
  parts_of_whole (whole_of_lt h)

/-- A character below the letters is part of itself alone. -/
lemma eq_of_mem_parts (h : p ∈ parts c) (hp : p.toNat < 0x3B) : c = p := by
  rcases parts_cases c with ⟨-, hc⟩ | ⟨ns, hc, -, hns⟩ <;> rw [hc] at h
  · exact (List.mem_singleton.mp h).symm
  · obtain ⟨n, hn, rfl⟩ := List.mem_map.mp h
    rw [toNat_ofNat (hns n hn).1.valid] at hp
    exact absurd hp (not_lt.mpr (hns n hn).2)

/-! ## Putting together -/

/-- A pair that is put together by the table. -/
lemma exists_of_pair? (h : pair? a b = some w) :
    (∃ l v, l < 19 ∧ v < 21 ∧ a.toNat = 0x1100 + l ∧ b.toNat = 0x1161 + v ∧
        w = Char.ofNat (0xAC00 + (l * 21 + v) * 28)) ∨
      (∃ i t, i < 399 ∧ 0 < t ∧ t < 28 ∧ a.toNat = 0xAC00 + i * 28 ∧ b.toNat = 0x11A7 + t ∧
        w = Char.ofNat (0xAC00 + i * 28 + t)) ∨
      ∃ n, (n, (parts a ++ [b]).map Char.toNat) ∈ decompositionEntries ∧ w = Char.ofNat n := by
  unfold pair? at h
  dsimp only at h
  split_ifs at h with h1 h2
  · refine .inl ⟨a.toNat - 0x1100, b.toNat - 0x1161, by omega, by omega, by omega, by omega, ?_⟩
    exact (Option.some.inj h).symm
  · refine .inr (.inl ⟨(a.toNat - 0xAC00) / 28, b.toNat - 0x11A7, by omega, by omega, by omega,
      by omega, by omega, (Option.some.inj h).symm.trans (congrArg Char.ofNat ?_)⟩)
    omega
  · obtain ⟨e, he, rfl⟩ := Option.map_eq_some_iff.mp h
    have hfound := List.find?_some he
    rw [Bool.and_eq_true, beq_iff_eq] at hfound
    exact .inr (.inr ⟨e.1, hfound.1 ▸ List.mem_of_find?_eq_some he, rfl⟩)

lemma parts_of_syllable {i t : ℕ} (hi : i < 399) (ht : t < 28)
    (hc : c.toNat = 0xAC00 + i * 28 + t) :
    parts c = [Char.ofNat (0x1100 + i / 21), Char.ofNat (0x1161 + i % 21)] ++
      if t = 0 then [] else [Char.ofNat (0x11A7 + t)] := by
  have hplace : 0xAC00 + i * 28 + t - 0xAC00 = i * 28 + t := by omega
  have hlead : (i * 28 + t) / 588 = i / 21 := by omega
  have hvowel : (i * 28 + t) % 588 / 28 = i % 21 := by omega
  have htrail : (i * 28 + t) % 28 = t := by omega
  rw [parts, hc, if_pos (by omega), hangulParts]
  simp only [hplace, hlead, hvowel, htrail]
  split_ifs <;> rfl

/-- **What stands for a pair is taken apart into the parts of the first and the second behind
them.** -/
theorem parts_of_pair? (h : pair? a b = some w) : parts w = parts a ++ [b] := by
  rcases exists_of_pair? h with ⟨l, v, hl, hv, ha, hb, rfl⟩ | ⟨i, t, hi, ht0, ht, ha, hb, rfl⟩ |
    ⟨n, hn, rfl⟩
  · have hwhole : (Char.ofNat (0xAC00 + (l * 21 + v) * 28)).toNat
        = 0xAC00 + (l * 21 + v) * 28 + 0 := toNat_ofNat (.inl (by omega))
    have hlead : (l * 21 + v) / 21 = l := by omega
    have hvowel : (l * 21 + v) % 21 = v := by omega
    rw [parts_of_syllable (by omega) (by omega) hwhole, hlead, hvowel, ← ha, ← hb,
      parts_of_whole (c := a) (whole_of_isJamo (by simp [isJamo]; omega))]
    simp
  · rw [parts_of_syllable hi ht (toNat_ofNat (.inl (by omega))), if_neg ht0.ne',
      parts_of_syllable hi (by omega) (ha.trans (Nat.add_zero _).symm), ← hb]
    simp
  · rw [parts_of_mem hn, List.map_map]
    exact List.map_id'' (fun c => Char.ofNat_toNat c) _

/-- Nothing is put together with a character before the marks behind it. -/
lemma pair?_right_of_lt (h : b.toNat < 0x300) (a : Char) : pair? a b = none := by
  rw [Option.eq_none_iff_forall_ne_some]
  intro w hw
  rcases exists_of_pair? hw with ⟨l, v, -, -, -, hb, -⟩ | ⟨i, t, -, -, -, -, hb, -⟩ | ⟨n, hn, -⟩
  · omega
  · omega
  · have hle := (sound_of_mem hn).last b.toNat (by simp) ?_
    · omega
    · obtain ⟨c, cs, hcs⟩ := List.exists_cons_of_ne_nil (parts_ne_nil a)
      simp [hcs]

/-- Nothing is put together with a character below the letters in front. -/
lemma pair?_left_of_lt (h : a.toNat < 0x3B) (b : Char) : pair? a b = none := by
  rw [Option.eq_none_iff_forall_ne_some]
  intro w hw
  rcases exists_of_pair? hw with ⟨l, v, -, -, ha, -⟩ | ⟨i, t, -, -, -, ha, -⟩ | ⟨n, hn, -⟩
  · omega
  · omega
  · have hle := (sound_of_mem hn).low a.toNat (by simp [parts_of_lt (by omega : a.toNat < 0xC0)])
    omega

/-! ## Classes -/

/-- What comes before the marks is a base. -/
lemma combiningClass_of_lt (h : c.toNat < 0x300) : combiningClass c = 0 := by
  rw [combiningClass, classes, Text.below?_numbers]
  generalize c.toNat = n at h
  revert n
  decide +kernel

end HostAgent.Unicode
