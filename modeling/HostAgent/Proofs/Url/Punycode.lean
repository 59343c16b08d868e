import HostAgent.Proofs.Text.Lists
import HostAgent.Url.Punycode

/-!
# Punycode is read as it is written

The writer goes through the code points in ascending order and, for each, through the label; it
counts the places that the reader passes meanwhile.  At each step the reader is where the writer
was when it last wrote a number, less what the writer has counted since.

* `readNumber?_writeNumber` — a number is read as it is written.
* `Abreast`, `abreast_char` — where reader and writer stand; one character of the label.
* `decode?_encode` — a label with characters outside of ASCII is read as it is written.
* `mem_encode` — what a written form is made of.
-/

namespace HostAgent.Url.Punycode

variable {c : Char} {cs label xs ys text rest : List Char} {n k b m : ℕ} {w w' : Writer}

/-! ## Numbers -/

lemma threshold_pos (k b : ℕ) : 1 ≤ threshold k b := by
  unfold threshold
  split_ifs <;> omega

lemma threshold_le (k b : ℕ) : threshold k b ≤ 26 := by
  unfold threshold
  split_ifs <;> omega

/-- The digits. -/
def digits : List Char := (List.range 36).map digit

lemma digit_mem (h : n < 36) : digit n ∈ digits :=
  List.mem_map_of_mem (List.mem_range.mpr h)

lemma value?_digit (h : n < 36) : value? (digit n) = some n := by
  revert n
  decide +kernel

lemma writeNumber_ne_nil (n k b : ℕ) : writeNumber n k b ≠ [] := by
  rw [writeNumber]
  split_ifs <;> exact List.cons_ne_nil _ _

lemma mem_digits_of_mem_writeNumber (h : c ∈ writeNumber n k b) : c ∈ digits := by
  induction n, k using writeNumber.induct b with
  | case1 n k t hlt =>
      rw [writeNumber, if_pos hlt, List.mem_singleton] at h
      exact h ▸ digit_mem (hlt.trans_le ((threshold_le k b).trans (by decide)))
  | case2 n k t hge ih =>
      have ht := threshold_pos k b
      have ht' := threshold_le k b
      rw [writeNumber, if_neg hge] at h
      rcases List.mem_cons.mp h with rfl | h
      · have hmod := Nat.mod_lt (n - threshold k b) (show 36 - threshold k b > 0 by omega)
        exact digit_mem (by omega)
      · exact ih h

/-- **A number is read as it is written**, whatever has been read before and follows. -/
theorem readNumber?_writeNumber (n k b weight acc : ℕ) (rest : List Char) :
    readNumber? (writeNumber n k b ++ rest) k weight acc b = some (acc + n * weight, rest) := by
  induction n, k using writeNumber.induct b generalizing weight acc with
  | case1 n k t hlt =>
      have ht := threshold_le k b
      have hvalue : value? (digit n) = some n := value?_digit (by omega)
      rw [writeNumber, if_pos hlt, List.singleton_append, readNumber?, hvalue]
      exact if_pos hlt
  | case2 n k t hge ih =>
      have ht := threshold_pos k b
      have ht' := threshold_le k b
      set base := 36 - threshold k b with hbase
      have hmod := Nat.mod_lt (n - threshold k b) (show base > 0 by omega)
      have hvalue := @value?_digit (threshold k b + (n - threshold k b) % base) (by omega)
      have hdiv := Nat.mod_add_div' (n - threshold k b) base
      have hn : threshold k b + (n - threshold k b) % base
          + (n - threshold k b) / base * base = n := by omega
      rw [writeNumber, if_neg hge, List.cons_append, readNumber?, hvalue]
      dsimp only [Option.bind_eq_bind, Option.bind_some]
      have hsum (d q : ℕ) :
          acc + d * weight + q * (weight * base) = acc + (d + q * base) * weight := by ring
      rw [if_neg (by omega), ih, hsum, hn]

/-! ## Reader and writer -/

/-- What the reader keeps: the last code point and the place behind it, the bias, and the label so
far. -/
structure Reader where
  point : ℕ
  place : ℕ
  bias : ℕ
  label : List Char

/-- The label that the reader makes of what is left to read. -/
def Reader.read (r : Reader) (cs : List Char) : Option (List Char) :=
  readPoints? cs r.point r.place r.bias r.label

/-- One number read: the place it leads to, and the character that is put there. -/
lemma Reader.read_append (r : Reader) (delta m place : ℕ) (hm : m.isValidChar)
    (hplace : place < r.label.length + 1)
    (h : r.point * (r.label.length + 1) + (r.place + delta) = m * (r.label.length + 1) + place)
    (rest : List Char) : r.read (writeNumber delta 36 r.bias ++ rest) = Reader.read
      { point := m, place := place + 1,
        bias := adapt delta (r.label.length + 1) (r.place == 0),
        label := r.label.take place ++ Char.ofNat m :: r.label.drop place } rest := by
  set size := r.label.length + 1 with hsize
  have hnumber := readNumber?_writeNumber delta 36 r.bias 1 r.place rest
  rw [mul_one] at hnumber
  have hne : (writeNumber delta 36 r.bias ++ rest).isEmpty = false := by
    simp [writeNumber_ne_nil]
  -- the number leads from one code point and place to the other
  have hle : r.point ≤ m := by
    by_contra hlt
    have hmul : (m + 1) * size ≤ r.point * size := Nat.mul_le_mul_right _ (by omega)
    have hsucc : (m + 1) * size = m * size + size := Nat.succ_mul m size
    omega
  have hj : r.place + delta = (m - r.point) * size + place := by
    have hsub := Nat.sub_mul m r.point size
    have hmul : r.point * size ≤ m * size := Nat.mul_le_mul_right _ hle
    omega
  have hdiv : r.point + (r.place + delta) / size = m := by
    rw [hj, Nat.add_comm _ place, Nat.add_mul_div_right _ _ (by omega), Nat.div_eq_of_lt hplace]
    omega
  have hmod : (r.place + delta) % size = place := by
    rw [hj, Nat.add_comm _ place, Nat.add_mul_mod_self_right, Nat.mod_eq_of_lt hplace]
  rw [read, readPoints?, hne]
  simp only [Bool.false_eq_true, if_false]
  split
  · next hnone => rw [hnumber] at hnone; cases hnone
  · next j rest' hsome =>
    rw [hnumber] at hsome
    obtain ⟨rfl, rfl⟩ := Prod.mk.inj (Option.some.inj hsome)
    simp only [← hsize, hdiv, hmod, Nat.add_sub_cancel_left]
    rw [if_pos hm]
    rfl

/-- What the writer writes between two moments takes the reader from one place to another. -/
def Told (w w' : Writer) (r r' : Reader) : Prop :=
  ∃ text, text ⊆ digits ∧ w'.out = text.reverse ++ w.out ∧
    ∀ rest, r.read (text ++ rest) = r'.read rest

variable {r r' : Reader}

lemma told_nothing (h : w'.out = w.out) : Told w w' r r :=
  ⟨[], List.nil_subset _, h, fun _ => rfl⟩

lemma Told.trans {w'' : Writer} {r'' : Reader} (h : Told w w' r r') (h' : Told w' w'' r' r'') :
    Told w w'' r r'' := by
  obtain ⟨text, hdigits, hout, hread⟩ := h
  obtain ⟨text', hdigits', hout', hread'⟩ := h'
  refine ⟨text ++ text', List.append_subset.mpr ⟨hdigits, hdigits'⟩, ?_, fun rest => ?_⟩
  · rw [hout', hout, List.reverse_append, List.append_assoc]
  · rw [List.append_assoc, hread, hread']

/-- The writer after one character of a label, while it looks for one code point. -/
def Writer.char (basic m : ℕ) (w : Writer) (c : Char) : Writer :=
  if c.toNat < m then { w with delta := w.delta + 1 }
  else if c.toNat = m then
    { delta := 0
      bias := adapt w.delta (w.written + 1) (w.written == basic)
      written := w.written + 1
      out := (writeNumber w.delta 36 w.bias).reverse ++ w.out }
  else w

/-- The writer looks for a code point and is between two parts of the label.  The reader knows the
smaller ones everywhere and this one in the first part, and what the writer has counted leads it
there. -/
structure Abreast (basic m : ℕ) (xs ys : List Char) (w : Writer) (r : Reader) : Prop where
  label : r.label = xs.filter (·.toNat ≤ m) ++ ys.filter (·.toNat < m)
  written : w.written = r.label.length
  bias : w.bias = r.bias
  place : r.point * (r.label.length + 1) + (r.place + w.delta)
    = m * (r.label.length + 1) + (xs.filter (·.toNat ≤ m)).length
  first : (w.written == basic) = (r.place == 0)
  basic_le : basic ≤ w.written

/-- **One character of the label.** -/
theorem abreast_char {basic : ℕ} (h : Abreast basic m xs (c :: ys) w r) :
    ∃ r', Told w (w.char basic m c) r r' ∧
      Abreast basic m (xs ++ [c]) ys (w.char basic m c) r' := by
  rcases lt_trichotomy c.toNat m with hlt | rfl | hgt
  · have hchar : w.char basic m c = { w with delta := w.delta + 1 } := if_pos hlt
    rw [hchar]
    refine ⟨r, told_nothing rfl, ?_, h.written, h.bias, ?_, h.first, h.basic_le⟩
    · simpa [hlt, hlt.le] using h.label
    · have hplace := h.place
      simp only [List.filter_append, List.length_append, hlt.le, decide_true,
        List.filter_cons_of_pos, List.filter_nil, List.length_singleton]
      omega
  · have hchar : w.char basic c.toNat c =
        { delta := 0
          bias := adapt w.delta (w.written + 1) (w.written == basic)
          written := w.written + 1
          out := (writeNumber w.delta 36 w.bias).reverse ++ w.out } := by
      rw [Writer.char, if_neg (lt_irrefl _), if_pos rfl]
    set front := xs.filter (·.toNat ≤ c.toNat) with hfront
    set behind := ys.filter (·.toNat < c.toNat) with hbehind
    have hlabel : r.label = front ++ behind := by simpa [hbehind] using h.label
    have hread := r.read_append w.delta c.toNat front.length c.valid (by simp [hlabel]) h.place
    rw [hlabel, List.take_left, List.drop_left, Char.ofNat_toNat, ← hlabel, ← h.bias,
      ← h.written, ← h.first] at hread
    have hnew : (xs ++ [c]).filter (·.toNat ≤ c.toNat) = front ++ [c] := by simp [hfront]
    rw [hchar]
    refine ⟨_, ⟨writeNumber w.delta 36 w.bias, fun d => mem_digits_of_mem_writeNumber, rfl, hread⟩,
      ?_, ?_, rfl, ?_, ?_, h.basic_le.trans (Nat.le_succ _)⟩
    · rw [hnew, List.append_assoc]
      rfl
    · simp [h.written, hlabel, Nat.add_assoc]
    · rw [hnew]
      simp
    · have hle := h.basic_le
      simp
      omega
  · have hchar : w.char basic m c = w := by
      rw [Writer.char, if_neg hgt.not_gt, if_neg hgt.ne']
    rw [hchar]
    refine ⟨r, told_nothing rfl, ?_, h.written, h.bias, ?_, h.first, h.basic_le⟩
    · simpa [hgt.not_gt, hgt] using h.label
    · simpa [hgt] using h.place

/-- All of the label, for one code point. -/
lemma abreast_point {basic : ℕ} (h : Abreast basic m xs ys w r) :
    ∃ r', Told w (ys.foldl (Writer.char basic m) w) r r' ∧
      Abreast basic m (xs ++ ys) [] (ys.foldl (Writer.char basic m) w) r' := by
  induction ys generalizing xs w r with
  | nil => exact ⟨r, told_nothing rfl, by rwa [List.append_nil]⟩
  | cons c ys ih =>
      obtain ⟨r', htold, hnext⟩ := abreast_char h
      obtain ⟨r'', htold', hlast⟩ := ih hnext
      exact ⟨r'', htold.trans htold', by rwa [List.append_assoc, List.singleton_append] at hlast⟩

/-- From one code point on to a later one, with none of the label between them. -/
lemma Abreast.skip {basic : ℕ} (h : Abreast basic n [] label w r) (hle : n ≤ m)
    (hnone : ∀ c ∈ label, n ≤ c.toNat → m ≤ c.toNat) :
    Abreast basic m [] label { w with delta := w.delta + (m - n) * (w.written + 1) } r := by
  have hlabel : r.label = label.filter (·.toNat < m) := by
    rw [h.label, List.filter_nil, List.nil_append]
    refine List.filter_congr fun c hc => ?_
    have hc := hnone c hc
    rw [decide_eq_decide]
    omega
  refine ⟨by simpa using hlabel, h.written, h.bias, ?_, h.first, h.basic_le⟩
  have hplace := h.place
  have hsub := Nat.sub_mul m n (r.label.length + 1)
  have hmul : n * (r.label.length + 1) ≤ m * (r.label.length + 1) := Nat.mul_le_mul_right _ hle
  simp only [h.written, List.filter_nil, List.length_nil] at hplace ⊢
  omega

/-- Behind the last character. -/
lemma Abreast.done {basic : ℕ} (h : Abreast basic m label [] w r) :
    Abreast basic (m + 1) [] label { w with delta := w.delta + 1 } r := by
  have hlabel : r.label = label.filter (·.toNat ≤ m) := by simpa using h.label
  refine ⟨?_, h.written, h.bias, ?_, h.first, h.basic_le⟩
  · simpa [Nat.lt_succ_iff] using hlabel
  · have hplace := h.place
    have hsucc : (m + 1) * (r.label.length + 1) = m * (r.label.length + 1) + (r.label.length + 1) :=
      Nat.succ_mul _ _
    rw [← hlabel] at hplace
    simp only [List.filter_nil, List.length_nil]
    omega

/-! ## Labels -/

/-- The writer after one code point, with the next one. -/
def Writer.next (label : List Char) (basic : ℕ) (acc : Writer × ℕ) (m : ℕ) : Writer × ℕ :=
  let w := { acc.1 with delta := acc.1.delta + (m - acc.2) * (acc.1.written + 1) }
  let w := w.point label basic m
  ({ w with delta := w.delta + 1 }, m + 1)

/-- The code points outside of ASCII, in ascending order. -/
def points (label : List Char) : List ℕ :=
  ((label.filter (·.val ≥ 0x80)).map Char.toNat).mergeSort.eraseDups

/-- The ASCII characters. -/
def basics (label : List Char) : List Char := label.filter (·.val < 0x80)

/-- The writer before the first code point. -/
def Writer.start (label : List Char) : Writer where
  written := (basics label).length
  out := if (basics label).isEmpty then [] else '-' :: (basics label).reverse

lemma encode_eq (label : List Char) : encode label =
    ((points label).foldl (Writer.next label (basics label).length)
      (Writer.start label, 128)).1.out.reverse := rfl

/-- All code points of a label in ascending order. -/
lemma abreast_points {basic : ℕ} {ps : List ℕ} (h : Abreast basic n [] label w r)
    (hasc : ps.Pairwise (· < ·)) (hps : ∀ p ∈ ps, n ≤ p)
    (hall : ∀ c ∈ label, n ≤ c.toNat → c.toNat ∈ ps) : ∃ r', r'.label = label ∧
      Told w (ps.foldl (Writer.next label basic) (w, n)).1 r r' := by
  induction ps generalizing n w r with
  | nil =>
      refine ⟨r, ?_, told_nothing rfl⟩
      rw [h.label, List.filter_nil, List.nil_append, List.filter_eq_self]
      intro c hc
      by_contra hlt
      exact List.not_mem_nil (hall c hc (by simpa using hlt))
  | cons m ps ih =>
      obtain ⟨hm, hasc⟩ := List.pairwise_cons.mp hasc
      obtain ⟨hle, hps⟩ := List.forall_mem_cons.mp hps
      have hnone : ∀ c ∈ label, n ≤ c.toNat → m ≤ c.toNat := fun c hc hn => by
        rcases List.mem_cons.mp (hall c hc hn) with heq | hmem
        · exact heq.ge
        · exact (hm _ hmem).le
      obtain ⟨r', htold, hdone⟩ := abreast_point (h.skip hle hnone)
      obtain ⟨r'', hlabel, htold'⟩ := ih hdone.done hasc (fun p hp => hm p hp) fun c hc hlt => by
        rcases List.mem_cons.mp (hall c hc (by omega)) with heq | hmem
        · omega
        · exact hmem
      exact ⟨r'', hlabel, Told.trans htold htold'⟩

/-- A sorted list without what occurs again ascends. -/
lemma pairwise_eraseDups {ns : List ℕ} (h : ns.Pairwise (· ≤ ·)) :
    ns.eraseDups.Pairwise (· < ·) := by
  induction hlen : ns.length using Nat.strong_induction_on generalizing ns with
  | _ len ih =>
      cases ns with
      | nil => exact .nil
      | cons n ns =>
          obtain ⟨hn, hns⟩ := List.pairwise_cons.mp h
          have hshort := List.length_filter_le (fun b => !b == n) ns
          rw [List.eraseDups_cons]
          refine .cons (fun k hk => ?_) (ih _ (by rw [← hlen]; simp; omega) (hns.filter _) rfl)
          rw [List.mem_eraseDups, List.mem_filter] at hk
          exact lt_of_le_of_ne (hn k hk.1) (by rintro rfl; simp at hk)

lemma pairwise_points (label : List Char) : (points label).Pairwise (· < ·) := by
  refine pairwise_eraseDups (List.Pairwise.imp (fun h => by simpa using h)
    (List.pairwise_mergeSort ?_ ?_ _))
  · intro a b c hab hbc
    simp only [decide_eq_true_eq] at *
    omega
  · intro a b
    simp
    omega

lemma mem_points : n ∈ points label ↔ ∃ c ∈ label, 128 ≤ c.toNat ∧ c.toNat = n := by
  have hval (c : Char) : c.val ≥ 0x80 ↔ 128 ≤ c.toNat := by
    rw [ge_iff_le, UInt32.le_iff_toNat_le]
    rfl
  simp [points, List.mem_mergeSort, hval, and_assoc]

lemma val_lt_iff (c : Char) : c.val < 0x80 ↔ c.toNat < 128 := UInt32.lt_iff_toNat_lt

/-- **A written form** is the ASCII characters, a hyphen if there are any, and digits, from which
the label can be read. -/
theorem exists_encode (label : List Char) : ∃ text, text ⊆ digits ∧
    encode label = (if (basics label).isEmpty then [] else basics label ++ ['-']) ++ text ∧
    readPoints? text 128 0 72 (basics label) = some label := by
  have hbasics : basics label = label.filter (·.toNat < 128) :=
    List.filter_congr fun c _ => by rw [decide_eq_decide, val_lt_iff]
  have hstart : Abreast (basics label).length 128 [] label (Writer.start label)
      ⟨128, 0, 72, basics label⟩ :=
    ⟨by simpa using hbasics, rfl, rfl, by simp [Writer.start], by simp [Writer.start], le_rfl⟩
  obtain ⟨r, hlabel, text, hdigits, hout, hread⟩ := abreast_points hstart (pairwise_points label)
    (fun p hp => by obtain ⟨c, -, hc, rfl⟩ := mem_points.mp hp; exact hc)
    (fun c hc hlt => mem_points.mpr ⟨c, hc, hlt, rfl⟩)
  refine ⟨text, hdigits, ?_, ?_⟩
  · rw [encode_eq, hout, List.reverse_append, List.reverse_reverse, Writer.start]
    split_ifs <;> simp
  · have hend := hread []
    rw [List.append_nil] at hend
    refine hend.trans ?_
    rw [Reader.read, readPoints?, hlabel]
    rfl

lemma hyphen_not_mem_digits : '-' ∉ digits := by decide +kernel

/-- What follows the last hyphen. -/
lemma behind_hyphen {behind : List Char} (before : List Char) (h : '-' ∉ behind) :
    ((before ++ '-' :: behind).reverse.takeWhile (· != '-')).reverse = behind :=
  List.rtakeWhile_append_cons rfl fun c hc => by
    rw [bne_iff_ne]
    rintro rfl
    exact h hc

/-- The last hyphen parts the ASCII characters from the numbers, unless it comes first. -/
lemma decode?_of_hyphen {before behind : List Char} (h : '-' ∉ behind) :
    decode? (before ++ '-' :: behind) =
      if before.isEmpty then readPoints? ('-' :: behind) 128 0 72 []
      else if before.all (·.val < 0x80) then readPoints? behind 128 0 72 before else none := by
  have hlen : (before ++ '-' :: behind).length - behind.length - 1 = before.length := by
    simp
    omega
  have hne : ¬behind.length = (before ++ '-' :: behind).length := by
    simp
    omega
  simp only [decode?, behind_hyphen before h, hlen, if_neg hne, List.take_left]
  cases before <;> simp

/-- Without a hyphen there are numbers only. -/
lemma decode?_of_no_hyphen (h : '-' ∉ cs) : decode? cs = readPoints? cs 128 0 72 [] := by
  have hbehind : (cs.reverse.takeWhile (· != '-')).reverse = cs :=
    List.rtakeWhile_eq_self_iff.mpr fun c hc => by
      rw [bne_iff_ne]
      rintro rfl
      exact h hc
  simp only [decode?, hbehind, if_true, List.all_nil]

/-- **A label is read as it is written.** -/
theorem decode?_encode (label : List Char) : decode? (encode label) = some label := by
  obtain ⟨text, hdigits, hencode, hread⟩ := exists_encode label
  have htext : '-' ∉ text := fun hc => hyphen_not_mem_digits (hdigits hc)
  cases hempty : (basics label).isEmpty with
  | true =>
      rw [hempty, if_pos rfl, List.nil_append] at hencode
      rw [List.isEmpty_iff.mp hempty] at hread
      rw [hencode, decode?_of_no_hyphen htext, hread]
  | false =>
      have hbasics : (basics label).all (·.val < 0x80) = true :=
        List.all_eq_true.mpr fun c hc => (List.mem_filter.mp hc).2
      rw [hempty, if_neg Bool.false_ne_true, List.append_assoc, List.singleton_append] at hencode
      rw [hencode, decode?_of_hyphen htext, hempty, if_neg Bool.false_ne_true, if_pos hbasics,
        hread]

/-- What a written form is made of. -/
lemma mem_encode (h : c ∈ encode label) :
    c ∈ label ∧ c.val < 0x80 ∨ c = '-' ∨ c ∈ digits := by
  obtain ⟨text, hdigits, hencode, -⟩ := exists_encode label
  rw [hencode] at h
  rcases List.mem_append.mp h with h | h
  · split_ifs at h
    · cases h
    · rcases List.mem_append.mp h with h | h
      · exact .inl (by simpa [basics] using h)
      · exact .inr (.inl (List.mem_singleton.mp h))
  · exact .inr (.inr (hdigits h))

/-- ASCII characters are written as they are. -/
lemma mem_encode_of_mem (h : c ∈ label) (hc : c.val < 0x80) : c ∈ encode label := by
  obtain ⟨text, -, hencode, -⟩ := exists_encode label
  have hbasic : c ∈ basics label := List.mem_filter.mpr ⟨h, by simpa using hc⟩
  rw [hencode, if_neg (by simp [List.isEmpty_iff, List.ne_nil_of_mem hbasic])]
  simp [hbasic]

/-! ## What is read -/

/-- A number is read from digits. -/
lemma exists_of_readNumber? {weight acc : ℕ} (h : readNumber? cs k weight acc b = some (n, rest)) :
    ∃ text, cs = text ++ rest ∧ ∀ c ∈ text, (value? c).isSome := by
  induction cs generalizing k weight acc with
  | nil => cases h
  | cons c cs ih =>
      rw [readNumber?] at h
      cases hvalue : value? c with
      | none => simp [hvalue] at h
      | some d =>
          simp only [hvalue, Option.bind_eq_bind, Option.bind_some] at h
          split_ifs at h
          · obtain ⟨-, rfl⟩ := Prod.mk.inj (Option.some.inj h)
            exact ⟨[c], rfl, by simp [hvalue]⟩
          · obtain ⟨text, rfl, htext⟩ := ih h
            exact ⟨c :: text, rfl, List.forall_mem_cons.mpr ⟨by simp [hvalue], htext⟩⟩

/-- The characters so far stay, all else that is read are digits, and all else that they tell are
not before the code point. -/
lemma of_readPoints? {place : ℕ} (h : readPoints? cs n place b xs = some label) :
    xs ⊆ label ∧ (∀ c ∈ cs, (value? c).isSome) ∧ ∀ c ∈ label, c ∈ xs ∨ n ≤ c.toNat := by
  induction hlen : cs.length using Nat.strong_induction_on generalizing cs n place b xs with
  | _ len ih =>
      rw [readPoints?] at h
      split at h
      · next hempty =>
        obtain rfl := List.isEmpty_iff.mp hempty
        obtain rfl := Option.some.inj h
        exact ⟨List.Subset.refl _, nofun, fun c hc => .inl hc⟩
      · split at h
        · cases h
        · next j rest hnumber =>
          dsimp only at h
          split at h
          · next hm =>
            obtain ⟨text, rfl, htext⟩ := exists_of_readNumber? hnumber
            obtain ⟨hsubset, hrest, hfrom⟩ := ih _ (hlen ▸ length_readNumber? hnumber) h rfl
            set m := n + j / (xs.length + 1)
            set place := j % (xs.length + 1)
            have hxs (d : Char) : d ∈ xs.take place ++ Char.ofNat m :: xs.drop place ↔
                d = Char.ofNat m ∨ d ∈ xs := by
              rw [List.mem_append, List.mem_cons, or_left_comm, ← List.mem_append,
                List.take_append_drop]
            refine ⟨fun d hd => hsubset ((hxs d).mpr (.inr hd)),
              List.forall_mem_append.mpr ⟨htext, hrest⟩, fun d hd => ?_⟩
            have hle : n ≤ m := Nat.le_add_right _ _
            rcases hfrom d hd with hd | hd
            · rcases (hxs d).mp hd with rfl | hd
              · rw [Char.toNat_ofNat, if_pos hm]
                exact .inr hle
              · exact .inl hd
            · exact .inr (hle.trans hd)
          · cases h

/-- How a label has been read. -/
lemma exists_of_decode? (h : decode? cs = some label) : ∃ basic numbers,
    (∀ c, c ∈ cs → c = '-' ∨ c ∈ basic ∨ c ∈ numbers) ∧ basic ⊆ cs ∧
      readPoints? numbers 128 0 72 basic = some label := by
  by_cases hmem : '-' ∈ cs
  · obtain ⟨before, behind, rfl, hbehind⟩ := List.exists_append_cons_of_mem hmem
    rw [decode?_of_hyphen hbehind] at h
    split_ifs at h with hbefore
    · obtain rfl := List.isEmpty_iff.mp hbefore
      exact ⟨[], _, fun c hc => .inr (.inr hc), List.nil_subset _, h⟩
    · exact ⟨before, behind, fun c hc => by simpa [or_left_comm] using hc,
        List.subset_append_left _ _, h⟩
  · rw [decode?_of_no_hyphen hmem] at h
    exact ⟨[], cs, fun c hc => .inr (.inr hc), List.nil_subset _, h⟩

/-- **What is written is read as digits, or as it is.** -/
theorem mem_of_decode? (h : decode? cs = some label) (hc : c ∈ cs) (hhyphen : c ≠ '-')
    (hvalue : value? c = none) : c ∈ label := by
  obtain ⟨basic, numbers, hparts, -, hread⟩ := exists_of_decode? h
  obtain ⟨hsubset, hdigits, -⟩ := of_readPoints? hread
  rcases hparts c hc with rfl | hc | hc
  · exact absurd rfl hhyphen
  · exact hsubset hc
  · have hsome := hdigits c hc
    rw [hvalue] at hsome
    cases hsome

/-- **ASCII characters that are read have been written.** -/
theorem mem_of_mem_decode? (h : decode? cs = some label) (hc : c ∈ label) (hascii : c.toNat < 128) :
    c ∈ cs := by
  obtain ⟨basic, numbers, -, hbasic, hread⟩ := exists_of_decode? h
  obtain ⟨-, -, hfrom⟩ := of_readPoints? hread
  exact hbasic ((hfrom c hc).resolve_right (not_le.mpr hascii))

end HostAgent.Url.Punycode
