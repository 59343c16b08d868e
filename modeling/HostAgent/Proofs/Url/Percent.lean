import HostAgent.Proofs.Text.Hex
import HostAgent.Url.Parser

/-!
# What percent encoding leaves alone

* `encode_encode` — what is encoded stays as it is when it is encoded again.
* `decode_encode` — a text and its encoded form stand for the same bytes.
* `isDot_encode`, `isDotDot_encode` — so a segment is a dot segment, encoded or not.
-/

namespace HostAgent

namespace Url.Percent

open Text.Hex (value? digits mem_digits value?_lt)

variable {p : Char → Bool} {c : Char} {cs t : List Char} {n : ℕ}

/-! ## Encoding again -/

/-- A set that holds nothing a percent form is written with. -/
def Sparing (p : Char → Bool) : Prop := ('%' :: digits).all (!p ·) = true

instance (p : Char → Bool) : Decidable (Sparing p) :=
  inferInstanceAs (Decidable (_ = true))

lemma sparing_inPath : Sparing inPath := by decide +kernel

lemma sparing_inUserInfo : Sparing inUserInfo := by decide +kernel

lemma sparing_inFragment : Sparing inFragment := by decide +kernel

lemma sparing_inWebQuery : Sparing inWebQuery := by decide +kernel

/-- A character that an encoded text may hold. -/
def Fits (p : Char → Bool) (c : Char) : Prop := c.val < 0x80 ∧ p c = false

@[simp]
lemma encode_nil : encode p [] = [] := rfl

lemma encode_cons : encode p (c :: cs) = encodeChar p c ++ encode p cs := rfl

lemma encode_append (xs ys : List Char) : encode p (xs ++ ys) = encode p xs ++ encode p ys :=
  List.flatMap_append

lemma encodeChar_of_fits (h : Fits p c) : encodeChar p c = [c] := by
  simp [encodeChar, h.1, h.2]

lemma encodeChar_of_not_fits (h : ¬Fits p c) :
    encodeChar p c = (String.utf8EncodeChar c).flatMap ofByte := by
  rw [encodeChar, if_neg]
  simpa [Fits] using h

lemma value?_digit (h : n < 16) : value? (digit n) = some n := by
  interval_cases n <;> rfl

lemma digit_mem (h : n < 16) : digit n ∈ digits :=
  mem_digits (by rw [value?_digit h]; rfl)

lemma Sparing.fits (hp : Sparing p) (h : c ∈ '%' :: digits) : Fits p c := by
  have hall : ('%' :: digits).all (·.val < 0x80) := by decide +kernel
  exact ⟨by simpa using List.all_eq_true.mp hall c h, by simpa using List.all_eq_true.mp hp c h⟩

/-- A byte is written with a percent sign and two digits. -/
lemma mem_ofByte {b : UInt8} (h : c ∈ ofByte b) : c = '%' ∨ c ∈ digits := by
  have hb := b.toNat_lt
  simp only [ofByte, List.mem_cons, List.not_mem_nil, or_false] at h
  rcases h with rfl | rfl | rfl
  · exact .inl rfl
  · exact .inr (digit_mem (by omega))
  · exact .inr (digit_mem (by omega))

/-- Everything in an encoded text may stand there. -/
theorem fits_of_mem_encode (hp : Sparing p) (h : c ∈ encode p cs) : Fits p c := by
  obtain ⟨d, -, hd⟩ := List.mem_flatMap.mp h
  by_cases hfits : Fits p d
  · rw [encodeChar_of_fits hfits, List.mem_singleton] at hd
    exact hd ▸ hfits
  · rw [encodeChar_of_not_fits hfits, List.mem_flatMap] at hd
    obtain ⟨b, -, hb⟩ := hd
    rcases mem_ofByte hb with rfl | hc
    · exact hp.fits List.mem_cons_self
    · exact hp.fits (List.mem_cons_of_mem _ hc)

lemma encode_of_fits (h : ∀ c ∈ cs, Fits p c) : encode p cs = cs := by
  induction cs with
  | nil => exact encode_nil
  | cons c cs ih =>
      rw [encode_cons, encodeChar_of_fits (h c (by simp)), ih fun d hd => h d (by simp [hd]),
        List.singleton_append]

/-- **What is encoded stays as it is when it is encoded again.** -/
theorem encode_encode (hp : Sparing p) (cs : List Char) :
    encode p (encode p cs) = encode p cs :=
  encode_of_fits fun _ h => fits_of_mem_encode hp h

lemma utf8EncodeChar_ne_nil (c : Char) : String.utf8EncodeChar c ≠ [] := by
  intro h
  have hlen := String.length_utf8EncodeChar c
  rw [h, List.length_nil] at hlen
  exact absurd c.utf8Size_pos (by omega)

/-- Every character is written somehow. -/
lemma encodeChar_ne_nil (p : Char → Bool) (c : Char) : encodeChar p c ≠ [] := by
  by_cases hfits : Fits p c
  · simp [encodeChar_of_fits hfits]
  · rw [encodeChar_of_not_fits hfits]
    obtain ⟨b, bs, hb⟩ := List.exists_cons_of_ne_nil (utf8EncodeChar_ne_nil c)
    simp [hb, ofByte]

@[simp]
lemma encode_eq_nil : encode p cs = [] ↔ cs = [] := by
  refine ⟨fun h => ?_, by rintro rfl; exact encode_nil⟩
  cases cs with
  | nil => rfl
  | cons c cs =>
      rw [encode_cons, List.append_eq_nil_iff] at h
      exact absurd h.1 (encodeChar_ne_nil p c)

/-- The written form of a character that has to be written otherwise ends in a digit. -/
lemma exists_encodeChar_eq_append (h : ¬Fits p c) :
    ∃ front, ∃ d ∈ digits, encodeChar p c = front ++ [d] := by
  rw [encodeChar_of_not_fits h]
  obtain ⟨bs, b, hb⟩ : ∃ bs b, String.utf8EncodeChar c = bs ++ [b] :=
    ⟨_, _, (List.dropLast_append_getLast (utf8EncodeChar_ne_nil c)).symm⟩
  have hlt := b.toNat_lt
  exact ⟨bs.flatMap ofByte ++ ['%', digit (b.toNat / 16)], digit (b.toNat % 16),
    digit_mem (by omega), by simp [hb, ofByte]⟩

/-- Slashes that stay are dropped from the end before encoding or after it. -/
theorem rdropWhile_encode (hslash : p '/' = false) (cs : List Char) :
    (encode p cs).rdropWhile (· == '/') = encode p (cs.rdropWhile (· == '/')) := by
  induction cs using List.reverseRecOn with
  | nil => rfl
  | append_singleton cs c ih =>
      have hsingle : encode p [c] = encodeChar p c := by
        rw [encode_cons, encode_nil, List.append_nil]
      rw [encode_append, hsingle]
      by_cases hc : c = '/'
      · subst hc
        rw [encodeChar_of_fits ⟨by decide, hslash⟩, List.rdropWhile_concat_pos _ _ _ (by simp),
          List.rdropWhile_concat_pos _ _ _ (by simp), ih]
      · rw [List.rdropWhile_concat_neg _ _ _ (by simpa using hc), encode_append, hsingle]
        by_cases hfits : Fits p c
        · rw [encodeChar_of_fits hfits, List.rdropWhile_concat_neg _ _ _ (by simpa using hc)]
        · obtain ⟨front, d, hd, hfront⟩ := exists_encodeChar_eq_append hfits
          have hdigit : d ≠ '/' := fun h => absurd (h ▸ hd) (by simp [digits])
          rw [hfront, ← List.append_assoc,
            List.rdropWhile_concat_neg _ _ _ (by simpa using hdigit)]

/-! ## What an encoded text stands for -/

/-- A byte in its percent form stands for itself. -/
lemma decode_ofByte (b : UInt8) (t : List Char) : decode (ofByte b ++ t) = b :: decode t := by
  have hb := b.toNat_lt
  have hhi := value?_digit (n := b.toNat / 16) (by omega)
  have hlo := value?_digit (n := b.toNat % 16) (by omega)
  simp only [ofByte, List.cons_append, List.nil_append, decode, hhi, hlo, List.cons.injEq,
    and_true]
  exact UInt8.toNat_inj.mp (by rw [UInt8.toNat_ofNat']; omega)

lemma decode_ofBytes (bs : List UInt8) (t : List Char) :
    decode (bs.flatMap ofByte ++ t) = bs ++ decode t := by
  induction bs with
  | nil => rfl
  | cons b bs ih => rw [List.flatMap_cons, List.append_assoc, decode_ofByte, ih, List.cons_append]

/-- Two digits lead a text. -/
def LedByDigits (t : List Char) : Prop :=
  ∃ a b r, t = a :: b :: r ∧ (value? a).isSome ∧ (value? b).isSome

lemma not_ledByDigits {a b : Char} {r : List Char}
    (h : ∀ hi lo, value? a = some hi → value? b = some lo → False) :
    ¬LedByDigits (a :: b :: r) := by
  rintro ⟨_, _, _, heq, ha, hb⟩
  cases heq
  obtain ⟨hi, hhi⟩ := Option.isSome_iff_exists.mp ha
  obtain ⟨lo, hlo⟩ := Option.isSome_iff_exists.mp hb
  exact h hi lo hhi hlo

lemma not_ledByDigits_of_short (h : ∀ a b r, t = a :: b :: r → False) : ¬LedByDigits t := by
  rintro ⟨a, b, r, rfl, -⟩
  exact h a b r rfl

/-- A percent sign without two digits behind it stands for itself. -/
lemma decode_percent (h : ¬LedByDigits t) : decode ('%' :: t) = 37 :: decode t := by
  match t with
  | [] => rfl
  | [a] =>
      rw [decode]
      · rfl
      · intro a' b r _ h
        simp at h
  | a :: b :: r =>
      rw [decode]
      split
      · next ha hb => exact absurd ⟨a, b, r, rfl, by simp [ha], by simp [hb]⟩ h
      · rfl

lemma decode_cons (h : c ≠ '%') : decode (c :: t) = String.utf8EncodeChar c ++ decode t := by
  rw [decode]
  rintro a b r hc -
  exact h hc

/-- A written form led by a digit is the digit. -/
lemma ledByDigits_of_encode (h : LedByDigits (encode p cs)) : LedByDigits cs := by
  -- what is written otherwise is led by a percent sign
  have hled : ∀ {c a : Char} {cs r : List Char}, encode p (c :: cs) = a :: r →
      (value? a).isSome → a = c ∧ encode p cs = r := by
    intro c a cs r heq ha
    by_cases hfits : Fits p c
    · rw [encode_cons, encodeChar_of_fits hfits, List.singleton_append, List.cons.injEq] at heq
      exact ⟨heq.1.symm, heq.2⟩
    · obtain ⟨b, bs, hb⟩ := List.exists_cons_of_ne_nil (utf8EncodeChar_ne_nil c)
      rw [encode_cons, encodeChar_of_not_fits hfits, hb, List.flatMap_cons, ofByte,
        List.cons_append, List.cons_append, List.cons.injEq] at heq
      rw [← heq.1] at ha
      exact absurd ha (by decide)
  obtain ⟨a, b, r, heq, ha, hb⟩ := h
  match cs, heq with
  | [], heq => exact absurd heq (by simp)
  | c :: [], heq => exact absurd (hled heq ha).2 (by simp)
  | c :: d :: cs, heq =>
      obtain ⟨hac, heq⟩ := hled heq ha
      obtain ⟨hbd, -⟩ := hled heq hb
      exact ⟨c, d, cs, rfl, hac ▸ ha, hbd ▸ hb⟩

/-- **A text and its encoded form stand for the same bytes.** -/
theorem decode_encode (hp : Sparing p) (cs : List Char) : decode (encode p cs) = decode cs := by
  have hpercent : encodeChar p '%' = ['%'] := encodeChar_of_fits (hp.fits List.mem_cons_self)
  induction cs using decode.induct with
  | case1 a b r hi lo ha hb ih =>
      have hfits : ∀ {c m}, value? c = some m → encodeChar p c = [c] := fun h =>
        encodeChar_of_fits (hp.fits (List.mem_cons_of_mem _ (mem_digits (by rw [h]; rfl))))
      simp only [encode_cons, hpercent, hfits ha, hfits hb, List.singleton_append, decode, ha, hb,
        ih]
  | case2 a b r hnot ih =>
      have hled : ¬LedByDigits (a :: b :: r) := not_ledByDigits hnot
      rw [encode_cons, hpercent, List.singleton_append, decode_percent hled,
        decode_percent fun h => hled (ledByDigits_of_encode h), ih]
  | case3 c r hshort ih =>
      rw [encode_cons]
      by_cases hc : c = '%'
      · subst hc
        have hled : ¬LedByDigits r := not_ledByDigits_of_short fun a b r' => hshort a b r' rfl
        rw [hpercent, List.singleton_append, decode_percent hled,
          decode_percent fun h => hled (ledByDigits_of_encode h), ih]
      · rw [decode_cons hc, ← ih]
        by_cases hfits : Fits p c
        · rw [encodeChar_of_fits hfits, List.singleton_append, decode_cons hc]
        · rw [encodeChar_of_not_fits hfits, decode_ofBytes]
  | case4 => rfl

/-- A character that is no digit parts what percent forms stand for. -/
theorem decode_append (hc : value? c = none) (cs t : List Char) :
    decode (cs ++ c :: t) = decode cs ++ decode (c :: t) := by
  have hled : ∀ {r : List Char}, ¬LedByDigits r → ¬LedByDigits (r ++ c :: t) := by
    rintro r h ⟨a, b, r', heq, ha, hb⟩
    match r, heq with
    | [], heq =>
        obtain rfl := (List.cons.inj heq).1
        simp [hc] at ha
    | [a'], heq =>
        obtain rfl := (List.cons.inj (List.cons.inj heq).2).1
        simp [hc] at hb
    | a' :: b' :: r, heq =>
        obtain ⟨rfl, rfl, -⟩ : a' = a ∧ b' = b ∧ r ++ c :: t = r' := by simpa using heq
        exact h ⟨a', b', r, rfl, ha, hb⟩
  induction cs using decode.induct with
  | case1 a b r hi lo ha hb ih =>
      simp only [List.cons_append, decode, ha, hb, ih]
  | case2 a b r hnot ih =>
      have hnot : ¬LedByDigits (a :: b :: r) := not_ledByDigits hnot
      rw [List.cons_append, decode_percent (hled hnot), ih, decode_percent hnot, List.cons_append]
  | case3 d r hshort ih =>
      by_cases hd : d = '%'
      · subst hd
        have hnot : ¬LedByDigits r := not_ledByDigits_of_short fun a b r' => hshort a b r' rfl
        rw [List.cons_append, decode_percent (hled hnot), ih, decode_percent hnot,
          List.cons_append]
      · rw [List.cons_append, decode_cons hd, ih, decode_cons hd, List.append_assoc]
  | case4 => rfl

/-- A text without percent signs stands for its own bytes. -/
lemma decode_of_not_mem (h : '%' ∉ cs) : decode cs = cs.flatMap String.utf8EncodeChar := by
  induction cs with
  | nil => rfl
  | cons c cs ih =>
      rw [List.mem_cons, not_or] at h
      rw [decode_cons (Ne.symm h.1), ih h.2, List.flatMap_cons]

end Url.Percent

/-! ## Dot segments -/

namespace Url

open Percent
open Text.Hex (value? value?_lt)

variable {p : Char → Bool} {cs : List Char} {bs : List UInt8}

/-- A full stop or its percent form. -/
inductive Stop : List Char → Prop where
  | plain : Stop ['.']
  | small : Stop ['%', '2', 'e']
  | capital : Stop ['%', '2', 'E']

lemma decode_of_stop {s : List Char} (h : Stop s) (t : List Char) :
    decode (s ++ t) = 46 :: decode t := by
  cases h <;> rfl

/-- The digits of the byte of a full stop. -/
lemma stop_of_values {a b : Char} {hi lo : ℕ} (ha : value? a = some hi) (hb : value? b = some lo)
    (h : UInt8.ofNat (16 * hi + lo) = 46) : Stop ['%', a, b] := by
  have hhi := value?_lt ha
  have hlo := value?_lt hb
  have hnat : (16 * hi + lo) % 256 = 46 := by simpa using congrArg UInt8.toNat h
  have htwo : Text.Hex.digits.all fun d => value? d != some 2 || d == '2' := by decide +kernel
  have hfourteen : Text.Hex.digits.all fun d =>
      value? d != some 14 || d == 'e' || d == 'E' := by decide +kernel
  obtain rfl : hi = 2 := by omega
  obtain rfl : lo = 14 := by omega
  have hda := List.all_eq_true.mp htwo a (Text.Hex.mem_digits (by rw [ha]; rfl))
  have hdb := List.all_eq_true.mp hfourteen b (Text.Hex.mem_digits (by rw [hb]; rfl))
  simp only [ha, hb, bne_self_eq_false, Bool.false_or, Bool.or_eq_true, beq_iff_eq] at hda hdb
  obtain rfl := hda
  rcases hdb with rfl | rfl
  · exact .small
  · exact .capital

/-- Of all characters only the full stop is written by its byte first. -/
lemma eq_stop_of_utf8 {c : Char} {bs ds : List UInt8}
    (h : String.utf8EncodeChar c ++ ds = 46 :: bs) : c = '.' ∧ ds = bs := by
  have hval : c.val.toNat < 0x110000 := by
    rcases c.valid with h | h <;> omega
  unfold String.utf8EncodeChar at h
  simp only at h
  split_ifs at h with h1 h2 h3
  all_goals simp only [List.cons_append, List.nil_append, List.cons.injEq] at h
  · refine ⟨Char.toNat_inj.mp ?_, h.2⟩
    have hnat := congrArg UInt8.toNat h.1
    simp only [UInt8.toNat_ofNat', UInt8.toNat_ofNat] at hnat
    change c.val.toNat = 46
    omega
  all_goals
    have hnat := congrArg UInt8.toNat h.1
    simp only [UInt8.toNat_ofNat', UInt8.toNat_ofNat] at hnat
    omega

/-- The first byte of a text is a full stop only if a full stop stands there. -/
lemma exists_stop_of_decode (h : decode cs = 46 :: bs) :
    ∃ s t, Stop s ∧ cs = s ++ t ∧ decode t = bs := by
  unfold decode at h
  split at h
  · next a b r =>
      split at h
      · next hi lo ha hb =>
          rw [List.cons.injEq] at h
          exact ⟨_, r, stop_of_values ha hb h.1, rfl, h.2⟩
      · exact absurd (List.cons.inj h).1 (by decide)
  · next c r _ =>
      obtain ⟨rfl, hbs⟩ := eq_stop_of_utf8 h
      exact ⟨_, r, .plain, rfl, hbs⟩
  · cases h

/-- Characters by their lower case forms. -/
lemma toLower_inv {c : Char} : (c.toLower = '.' → c = '.') ∧ (c.toLower = '%' → c = '%') ∧
    (c.toLower = '2' → c = '2') ∧ (c.toLower = 'e' → c = 'e' ∨ c = 'E') := by
  have hall : ∀ n < 128, let c := Char.ofNat n; (c.toLower = '.' → c = '.') ∧
      (c.toLower = '%' → c = '%') ∧ (c.toLower = '2' → c = '2') ∧
      (c.toLower = 'e' → c = 'e' ∨ c = 'E') := by decide +kernel
  by_cases hlt : c.toNat < 128
  · simpa using hall c.toNat hlt
  · have hself : c.toLower = c := by
      unfold Char.toLower
      refine dif_neg fun hupper => hlt ?_
      exact lt_of_le_of_lt (UInt32.le_iff_toNat_le.mp hupper.2) (by decide)
    rw [hself]
    exact ⟨id, id, id, .inl⟩

/-- The forms of a full stop by their lower case forms. -/
lemma stop_of_toLower {s : List Char}
    (h : s.map Char.toLower = ['.'] ∨ s.map Char.toLower = ['%', '2', 'e']) : Stop s := by
  rcases h with h | h
  · obtain ⟨a, rfl, ha⟩ := List.map_eq_singleton_iff.mp h
    obtain rfl := toLower_inv.1 ha
    exact .plain
  · simp only [List.map_eq_cons_iff, List.map_eq_nil_iff] at h
    obtain ⟨a, _, rfl, ha, b, _, rfl, hb, c, _, rfl, hc, rfl⟩ := h
    obtain rfl := toLower_inv.2.1 ha
    obtain rfl := toLower_inv.2.2.1 hb
    rcases toLower_inv.2.2.2 hc with rfl | rfl
    · exact .small
    · exact .capital

lemma toLower_of_stop {s : List Char} (h : Stop s) :
    s.map Char.toLower = ['.'] ∨ s.map Char.toLower = ['%', '2', 'e'] := by
  cases h with
  | plain => exact .inl rfl
  | small => exact .inr rfl
  | capital => exact .inr rfl

lemma decode_eq_nil (h : decode cs = []) : cs = [] := by
  unfold decode at h
  split at h
  · split at h <;> cases h
  · next c r _ => exact absurd (List.append_eq_nil_iff.mp h).1 (utf8EncodeChar_ne_nil c)
  · rfl

lemma isDot_iff : isDot cs = true ↔ decode cs = [46] := by
  have hforms : isDot cs = true ↔ Stop cs := by
    simp only [isDot, Bool.or_eq_true, beq_iff_eq]
    refine ⟨fun h => stop_of_toLower (h.imp_left fun h => by rw [h]; rfl), fun h => ?_⟩
    cases h with
    | plain => exact .inl rfl
    | small => exact .inr rfl
    | capital => exact .inr rfl
  rw [hforms]
  constructor
  · intro h
    simpa [decode] using decode_of_stop h []
  · intro h
    obtain ⟨s, t, hs, rfl, ht⟩ := exists_stop_of_decode h
    rwa [decode_eq_nil ht, List.append_nil]

lemma isDotDot_iff : isDotDot cs = true ↔ decode cs = [46, 46] := by
  have hforms : isDotDot cs = true ↔ ∃ s t, Stop s ∧ Stop t ∧ cs = s ++ t := by
    have happ : ∀ xs ys : List Char, cs.map Char.toLower = xs ++ ys ↔
        ∃ s t, cs = s ++ t ∧ s.map Char.toLower = xs ∧ t.map Char.toLower = ys := fun _ _ =>
      List.map_eq_append_iff
    simp only [isDotDot, Bool.or_eq_true, beq_iff_eq]
    constructor
    · rintro (((h | h) | h) | h)
      · obtain ⟨s, t, rfl, hs, ht⟩ := (happ ['.'] ['.']).mp h
        exact ⟨s, t, stop_of_toLower (.inl hs), stop_of_toLower (.inl ht), rfl⟩
      · obtain ⟨s, t, rfl, hs, ht⟩ := (happ ['%', '2', 'e'] ['.']).mp h
        exact ⟨s, t, stop_of_toLower (.inr hs), stop_of_toLower (.inl ht), rfl⟩
      · obtain ⟨s, t, rfl, hs, ht⟩ := (happ ['.'] ['%', '2', 'e']).mp h
        exact ⟨s, t, stop_of_toLower (.inl hs), stop_of_toLower (.inr ht), rfl⟩
      · obtain ⟨s, t, rfl, hs, ht⟩ := (happ ['%', '2', 'e'] ['%', '2', 'e']).mp h
        exact ⟨s, t, stop_of_toLower (.inr hs), stop_of_toLower (.inr ht), rfl⟩
    · rintro ⟨s, t, hs, ht, rfl⟩
      rcases toLower_of_stop hs with hs | hs <;> rcases toLower_of_stop ht with ht | ht <;>
        simp [hs, ht]
  rw [hforms]
  constructor
  · rintro ⟨s, t, hs, ht, rfl⟩
    have htail := decode_of_stop ht []
    rw [List.append_nil] at htail
    rw [decode_of_stop hs, htail]
    simp [decode]
  · intro h
    obtain ⟨s, t, hs, rfl, ht⟩ := exists_stop_of_decode h
    obtain ⟨t, r, htstop, rfl, hr⟩ := exists_stop_of_decode ht
    exact ⟨s, t, hs, htstop, by rw [decode_eq_nil hr, List.append_nil]⟩

/-- **A segment stands for its own place, encoded or not.** -/
theorem isDot_encode (hp : Sparing p) (cs : List Char) : isDot (encode p cs) = isDot cs := by
  rw [Bool.eq_iff_iff, isDot_iff, isDot_iff, decode_encode hp]

/-- **A segment stands for the place above, encoded or not.** -/
theorem isDotDot_encode (hp : Sparing p) (cs : List Char) :
    isDotDot (encode p cs) = isDotDot cs := by
  rw [Bool.eq_iff_iff, isDotDot_iff, isDotDot_iff, decode_encode hp]

end Url

end HostAgent
