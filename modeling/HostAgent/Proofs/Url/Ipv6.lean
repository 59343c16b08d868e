import HostAgent.Proofs.Text.Lists
import HostAgent.Proofs.Url.Percent

/-!
# Addresses of sixteen bytes are read as they are written

* `eight_of_parse?` — what is read are eight groups of sixteen bits.
* `read?_groupsText`, `read?_append` — groups with colons between them, to the end or to a colon.
* `exists_zeroRun` — the run of zeros that is left out is one.
* `parse?_text` — an address is read as it is written.
-/

namespace HostAgent.Url.Ipv6

open Text (Hex.ofNat Hex.value? Hex.digit Hex.value?_digit Hex.value?_lt Hex.digits Hex.mem_digits)

variable {n k fuel : ℕ} {g g' : Groups} {cs t rest : List Char} {ds ns gs : List ℕ}

/-! ## Digits -/

/-- A number is written as the digits that make it up. -/
lemma exists_ofNat (hk : k ≠ 0) (hn : n < 16 ^ k) : ∃ ds, Hex.ofNat n = ds.map Hex.digit ∧
    ds ≠ [] ∧ ds.length ≤ k ∧ (∀ d ∈ ds, d < 16) ∧ ds.foldl (fun n d => 16 * n + d) 0 = n := by
  induction k generalizing n with
  | zero => exact absurd rfl hk
  | succ k ih =>
      rw [Hex.ofNat]
      split_ifs with hlt
      · exact ⟨[n], rfl, by simp, by simp, by simpa using hlt, by simp⟩
      · have hk0 : k ≠ 0 := by
          rintro rfl
          omega
        rw [pow_succ] at hn
        obtain ⟨ds, hds, hne, hlen, hall, hsum⟩ := ih hk0 (n := n / 16) (by omega)
        have hdigit : ∀ d ∈ [n % 16], d < 16 := by simpa using Nat.mod_lt n (by decide)
        refine ⟨ds ++ [n % 16], by simp [hds], by simp, by simpa using hlen,
          List.forall_mem_append.mpr ⟨hall, hdigit⟩, ?_⟩
        · rw [List.foldl_append, hsum]
          simp
          omega

/-- A character that ends a group. -/
def Ends (rest : List Char) : Prop := ∀ c ∈ rest.head?, Hex.value? c = none

lemma group_of_digits (hrest : Ends rest) (hlen : ds.length ≤ k) (hds : ∀ d ∈ ds, d < 16) :
    group k (ds.map Hex.digit ++ rest) = (ds, rest) := by
  induction ds generalizing k with
  | nil =>
      cases k with
      | zero => rfl
      | succ k =>
          cases rest with
          | nil => rfl
          | cons c rest => simp [group, hrest c (by simp)]
  | cons d ds ih =>
      obtain ⟨hd, hds⟩ := List.forall_mem_cons.mp hds
      cases k with
      | zero => simp at hlen
      | succ k =>
          rw [List.map_cons, List.cons_append, group, Hex.value?_digit hd]
          simp [ih (by simpa using hlen) hds]

lemma ends_colon (t : List Char) : Ends (':' :: t) := fun c hc => by
  obtain rfl : ':' = c := by simpa using hc
  rfl

/-- **A group is read as it is written.** -/
lemma group_ofNat (hn : n < 0x10000) (hrest : Ends rest) : ∃ ds,
    group 4 (Hex.ofNat n ++ rest) = (ds, rest) ∧ ds ≠ [] ∧
      ds.foldl (fun n d => 16 * n + d) 0 = n := by
  obtain ⟨ds, htext, hne, hlen, hds, hsum⟩ := @exists_ofNat n 4 (by decide) (by simpa using hn)
  exact ⟨ds, by rw [htext, group_of_digits hrest hlen hds], hne, hsum⟩

/-- A group starts with no colon. -/
lemma exists_cons_ofNat (n : ℕ) : ∃ c cs, Hex.ofNat n = c :: cs ∧ c ≠ ':' := by
  obtain ⟨k, hk⟩ : ∃ k, n < 16 ^ (k + 1) :=
    ⟨n, (Nat.lt_pow_self (by decide)).trans (Nat.pow_lt_pow_right (by decide) (Nat.lt_succ_self n))⟩
  obtain ⟨ds, htext, hne, -, hds, -⟩ := exists_ofNat (Nat.succ_ne_zero k) hk
  obtain ⟨d, ds, rfl⟩ := List.exists_cons_of_ne_nil hne
  refine ⟨_, _, htext, fun hcolon => ?_⟩
  have hvalue := Hex.value?_digit (hds d List.mem_cons_self)
  rw [hcolon] at hvalue
  cases hvalue

/-! ## Reading what is written -/

/-- The last group. -/
lemma read?_last (hn : n < 0x10000) (hg : g.taken < 8) (hfuel : fuel ≠ 0) :
    read? fuel (Hex.ofNat n) g = some { g with seen := g.seen ++ [n] } := by
  obtain ⟨fuel, rfl⟩ := Nat.exists_eq_succ_of_ne_zero hfuel
  obtain ⟨ds, hgroup, hne, hsum⟩ := @group_ofNat n [] hn nofun
  obtain ⟨c, cs, htext, hcolon⟩ := exists_cons_ofNat n
  rw [List.append_nil, htext] at hgroup
  rw [htext, read?, if_neg (by omega), if_neg hcolon]
  simp only [hgroup, hsum]

/-- A group with a colon behind it. -/
lemma read?_group (hn : n < 0x10000) (hg : g.taken < 8) (ht : t ≠ []) :
    read? (fuel + 1) (Hex.ofNat n ++ ':' :: t) g
      = read? fuel t { g with seen := g.seen ++ [n] } := by
  obtain ⟨ds, hgroup, hne, hsum⟩ := group_ofNat hn (ends_colon t)
  obtain ⟨c, cs, htext, hcolon⟩ := exists_cons_ofNat n
  obtain ⟨d, t, rfl⟩ := List.exists_cons_of_ne_nil ht
  rw [htext, List.cons_append] at hgroup
  rw [htext, List.cons_append, read?, if_neg (by omega), if_neg hcolon]
  simp only [hgroup, hsum]

/-- Groups with a colon behind each. -/
def colons (ns : List ℕ) : List Char := ns.flatMap fun n => Hex.ofNat n ++ [':']

lemma groupsText_concat (ns : List ℕ) (n : ℕ) :
    groupsText (ns ++ [n]) = colons ns ++ Hex.ofNat n := by
  induction ns with
  | nil => simp [groupsText, colons]
  | cons m ns ih =>
      obtain ⟨k, ks, hks⟩ := List.exists_cons_of_ne_nil (show ns ++ [n] ≠ [] by simp)
      rw [List.cons_append, hks, groupsText, List.map_cons, List.map_cons,
        List.intercalate_cons_cons, ← List.map_cons, ← hks, ← groupsText, ih]
      simp [colons]

lemma groupsText_append (hne : ns ≠ []) : groupsText ns ++ [':'] = colons ns := by
  obtain ⟨ns, n, rfl⟩ := (List.eq_nil_or_concat' ns).resolve_left hne
  rw [groupsText_concat]
  simp [colons]

lemma colons_cons (n : ℕ) (ns : List ℕ) : colons (n :: ns) = Hex.ofNat n ++ ':' :: colons ns := by
  simp [colons]

/-- Each group has a digit and a colon. -/
lemma length_le_colons (ns : List ℕ) : 2 * ns.length ≤ (colons ns).length := by
  induction ns with
  | nil => rfl
  | cons n ns ih =>
      obtain ⟨c, cs, htext, -⟩ := exists_cons_ofNat n
      simp only [colons_cons, htext, List.length_append, List.length_cons]
      omega

lemma length_le_groupsText (ns : List ℕ) : ns.length ≤ (groupsText ns).length := by
  by_cases hne : ns = []
  · subst hne
    rfl
  · have hle := length_le_colons ns
    rw [← groupsText_append hne, List.length_append, List.length_singleton] at hle
    have hpos := List.length_pos_iff.mpr hne
    omega

/-- The numbers that groups hold. -/
def Small (ns : List ℕ) : Prop := ∀ n ∈ ns, n < 0x10000

lemma taken_append (g : Groups) (ns : List ℕ) :
    ({ g with seen := g.seen ++ ns } : Groups).taken = g.taken + ns.length := by
  simp only [Groups.taken, List.length_append]
  omega

/-- **Groups with a colon behind each are read as they are written.** -/
lemma read?_colons (hns : Small ns) (hg : g.taken + ns.length ≤ 8) (ht : t ≠ []) :
    read? (ns.length + fuel) (colons ns ++ t) g
      = read? fuel t { g with seen := g.seen ++ ns } := by
  induction ns generalizing g with
  | nil => simp [colons]
  | cons n ns ih =>
      obtain ⟨hn, hns⟩ := List.forall_mem_cons.mp hns
      have hcons : colons (n :: ns) ++ t = Hex.ofNat n ++ ':' :: (colons ns ++ t) := by
        simp [colons]
      have hfuel : (n :: ns).length + fuel = ns.length + fuel + 1 := by
        simp
        omega
      rw [List.length_cons] at hg
      rw [hcons, hfuel, read?_group hn (by omega) (by simp [ht]),
        ih hns (by rw [taken_append]; simp; omega)]
      simp

/-- **Groups with colons between them are read as they are written.** -/
lemma read?_groupsText (hns : Small ns) (hg : g.taken + ns.length ≤ 8) (hfuel : ns.length ≤ fuel) :
    read? fuel (groupsText ns) g = some { g with seen := g.seen ++ ns } := by
  rcases List.eq_nil_or_concat' ns with rfl | ⟨ns, n, rfl⟩
  · rw [List.append_nil]
    cases fuel <;> rfl
  · obtain ⟨hns, hn⟩ := List.forall_mem_append.mp hns
    obtain ⟨c, cs, htext, -⟩ := exists_cons_ofNat n
    rw [List.length_append, List.length_singleton] at hg hfuel
    obtain ⟨fuel, rfl⟩ := Nat.exists_eq_add_of_le (Nat.le_of_succ_le hfuel)
    rw [groupsText_concat, read?_colons hns (by omega) (by simp [htext]),
      read?_last (hn n (by simp)) (by rw [taken_append]; omega) (by omega), List.append_assoc]

/-! ## What is read -/

lemma group_spec (k : ℕ) (cs : List Char) :
    (group k cs).1.length ≤ k ∧ ∀ d ∈ (group k cs).1, d < 16 := by
  induction k generalizing cs with
  | zero => simp [group]
  | succ k ih =>
      cases cs with
      | nil => simp [group]
      | cons c cs =>
          obtain ⟨hlen, hds⟩ := ih cs
          rw [group]
          cases hvalue : Hex.value? c with
          | none => simp
          | some d =>
              exact ⟨Nat.succ_le_succ hlen, List.forall_mem_cons.mpr ⟨Hex.value?_lt hvalue, hds⟩⟩

lemma foldl_lt (hds : ∀ d ∈ ds, d < 16) (n : ℕ) :
    ds.foldl (fun n d => 16 * n + d) n < (n + 1) * 16 ^ ds.length := by
  induction ds generalizing n with
  | nil => simp
  | cons d ds ih =>
      obtain ⟨hd, hds⟩ := List.forall_mem_cons.mp hds
      refine (ih hds _).trans_le ?_
      have hstep : 16 * n + d + 1 ≤ (n + 1) * 16 := by omega
      rw [List.length_cons, pow_succ, ← mul_assoc, mul_right_comm]
      exact Nat.mul_le_mul_right _ hstep

/-- A group is a number of sixteen bits. -/
lemma group_lt (cs : List Char) : (group 4 cs).1.foldl (fun n d => 16 * n + d) 0 < 0x10000 := by
  obtain ⟨hlen, hds⟩ := group_spec 4 cs
  calc (group 4 cs).1.foldl (fun n d => 16 * n + d) 0
      < (0 + 1) * 16 ^ (group 4 cs).1.length := foldl_lt hds 0
    _ ≤ (0 + 1) * 16 ^ 4 := Nat.mul_le_mul_left _ (Nat.pow_le_pow_right (by decide) hlen)

lemma byte?_lt {r : List Char} (h : byte? cs = some (n, r)) : n < 256 := by
  unfold byte? at h
  dsimp only at h
  split_ifs at h with hbad
  simp only [Bool.or_eq_true, decide_eq_true_eq, not_or] at hbad
  obtain ⟨rfl, -⟩ := Prod.mk.inj (Option.some.inj h)
  omega

/-- Four decimal numbers are two groups. -/
lemma dotted?_spec (h : dotted? cs = some ns) : ns.length = 2 ∧ Small ns := by
  have hnext {r r' : List Char} {n : ℕ} (h : dotted?.next? r = some (n, r')) : n < 256 := by
    unfold dotted?.next? at h
    split at h
    · exact byte?_lt h
    · cases h
  obtain ⟨⟨a, r⟩, ha, h⟩ := Option.bind_eq_some_iff.mp h
  obtain ⟨⟨b, r⟩, hb, h⟩ := Option.bind_eq_some_iff.mp h
  obtain ⟨⟨c, r⟩, hc, h⟩ := Option.bind_eq_some_iff.mp h
  obtain ⟨⟨d, r⟩, hd, h⟩ := Option.bind_eq_some_iff.mp h
  dsimp only at h
  split_ifs at h
  cases h
  have ha := byte?_lt ha
  have hb := hnext hb
  have hc := hnext hc
  have hd := hnext hd
  refine ⟨rfl, fun n hn => ?_⟩
  simp only [List.mem_cons, List.not_mem_nil, or_false] at hn
  omega

/-- What groups that have been read keep to. -/
structure Few (g : Groups) : Prop where
  small : Small g.seen
  taken_le : g.taken ≤ 8

lemma Few.append (h : Few g) (hns : Small ns) (hlen : g.taken + ns.length ≤ 8) :
    Few { g with seen := g.seen ++ ns } :=
  ⟨List.forall_mem_append.mpr ⟨h.small, hns⟩, by rwa [taken_append]⟩

/-- **Groups that are read are no more than eight, of sixteen bits each.** -/
lemma Few.read? (h : Few g) (hread : read? fuel cs g = some g') : Few g' := by
  induction fuel generalizing cs g with
  | zero =>
      cases cs with
      | nil => exact Option.some.inj hread ▸ h
      | cons c cs => cases hread
  | succ fuel ih =>
      cases cs with
      | nil => exact Option.some.inj hread ▸ h
      | cons c cs =>
          rw [Ipv6.read?] at hread
          split_ifs at hread with hfull hcolon hgap
          · have hgap : g.gap = none := by simpa using hgap
            have hopen : Few { g with gap := some g.seen.length } := ⟨h.small, by
              simp only [Groups.taken, hgap, Option.isSome_none, Option.isSome_some] at hfull ⊢
              simp at hfull ⊢
              omega⟩
            exact ih hopen hread
          · have hgroup : Few { g with
                seen := g.seen ++ [(group 4 (c :: cs)).1.foldl (fun n d => 16 * n + d) 0] } :=
              h.append (by simpa [Small] using group_lt (c :: cs)) (by simp; omega)
            dsimp only at hread
            split at hread
            · exact Option.some.inj hread ▸ hgroup
            · split_ifs at hread with hdotted
              obtain ⟨ns, hns, rfl⟩ := Option.map_eq_some_iff.mp hread
              obtain ⟨hlen, hsmall⟩ := dotted?_spec hns
              simp only [Bool.or_eq_true, decide_eq_true_eq, not_or] at hdotted
              exact h.append hsmall (by omega)
            · cases hread
            · exact ih hgroup hread
            · cases hread

/-- The address that groups make up. -/
def Groups.address? (g : Groups) : Option (List ℕ) :=
  match g.gap with
  | some k => some (g.seen.take k ++ List.replicate (8 - g.seen.length) 0 ++ g.seen.drop k)
  | none => if g.seen.length = 8 then some g.seen else none

lemma Few.address? (h : Few g) (haddress : g.address? = some gs) : gs.length = 8 ∧ Small gs := by
  have hle : g.seen.length ≤ 8 := (Nat.le_add_right _ _).trans h.taken_le
  unfold Groups.address? at haddress
  split at haddress
  · obtain rfl := Option.some.inj haddress
    refine ⟨?_, fun n hn => ?_⟩
    · simp only [List.length_append, List.length_replicate, List.length_take, List.length_drop]
      omega
    · rcases List.mem_append.mp hn with hn | hn
      · rcases List.mem_append.mp hn with hn | hn
        · exact h.small n (List.mem_of_mem_take hn)
        · rw [(List.mem_replicate.mp hn).2]
          decide
      · exact h.small n (List.mem_of_mem_drop hn)
  · split_ifs at haddress with hlen
    exact Option.some.inj haddress ▸ ⟨hlen, h.small⟩

lemma parse?_eq (cs : List Char) : ∃ t g, Few g ∧
    ∀ gs, parse? cs = some gs → (read? cs.length t g).bind Groups.address? = some gs := by
  unfold parse?
  split
  · next r => exact ⟨r, { gap := some 0 }, ⟨nofun, by decide⟩, fun gs h => h⟩
  · exact ⟨[], {}, ⟨nofun, by decide⟩, fun gs h => by cases h⟩
  · exact ⟨cs, {}, ⟨nofun, by decide⟩, fun gs h => h⟩

/-- **An address is eight groups of sixteen bits.** -/
theorem eight_of_parse? (h : parse? cs = some gs) : gs.length = 8 ∧ Small gs := by
  obtain ⟨t, g, hg, hread⟩ := parse?_eq cs
  obtain ⟨g', hg', haddress⟩ := Option.bind_eq_some_iff.mp (hread gs h)
  exact (hg.read? hg').address? haddress

/-! ## The run of zeros -/

/-- **The run that is left out is one of zeros.** -/
lemma exists_zeroRun (ns : List ℕ) (place : ℕ) : ∃ front behind,
    ns = front ++ List.replicate (zeroRun ns place).2 0 ++ behind ∧
      (zeroRun ns place).1 = place + front.length := by
  induction ns generalizing place with
  | nil => exact ⟨[], [], rfl, rfl⟩
  | cons n ns ih =>
      rw [zeroRun]
      split_ifs with hlonger
      · refine ⟨[], (n :: ns).dropWhile (· == 0), ?_, rfl⟩
        have hzeros : (n :: ns).takeWhile (· == 0)
            = List.replicate ((n :: ns).takeWhile (· == 0)).length 0 :=
          List.eq_replicate_of_mem fun m hm => by simpa using List.mem_takeWhile_imp hm
        rw [List.nil_append, ← hzeros, List.takeWhile_append_dropWhile]
      · obtain ⟨front, behind, hns, hstart⟩ := ih (place + 1)
        exact ⟨n :: front, behind, by simpa using hns, by rw [hstart]; simp; omega⟩

/-! ## The whole -/

lemma parse?_cons {c : Char} (h : c ≠ ':') (t : List Char) :
    parse? (c :: t) = (read? (c :: t).length (c :: t) {}).bind Groups.address? := by
  unfold parse?
  split
  · next heq => exact absurd (List.cons.inj heq).1 h
  · next heq => exact absurd (List.cons.inj heq).1 h
  · rfl

lemma parse?_colons (t : List Char) :
    parse? (':' :: ':' :: t) = (read? (t.length + 2) t { gap := some 0 }).bind Groups.address? :=
  rfl

/-- What starts with a group starts with no colon. -/
lemma parse?_ofNat (n : ℕ) (t : List Char) : parse? (Hex.ofNat n ++ t)
    = (read? (Hex.ofNat n ++ t).length (Hex.ofNat n ++ t) {}).bind Groups.address? := by
  obtain ⟨c, cs, htext, hcolon⟩ := exists_cons_ofNat n
  rw [htext, List.cons_append, parse?_cons hcolon]

/-- An address without a gap. -/
lemma parse?_groupsText (hns : Small ns) (hlen : ns.length = 8) :
    parse? (groupsText ns) = some ns := by
  have hread := @read?_groupsText (groupsText ns).length {} ns hns (by rw [hlen]; decide)
    (length_le_groupsText ns)
  obtain ⟨n, ks, rfl⟩ := List.exists_cons_of_length_pos (show 0 < ns.length by omega)
  obtain ⟨t, ht⟩ : ∃ t, groupsText (n :: ks) = Hex.ofNat n ++ t := by
    cases ks with
    | nil => exact ⟨[], by simp [groupsText]⟩
    | cons k ks => exact ⟨_, by
        rw [groupsText, List.map_cons, List.map_cons, List.intercalate_cons_cons,
          List.append_assoc]⟩
  rw [ht, parse?_ofNat, ← ht, hread, Option.bind_some, List.nil_append]
  exact if_pos hlen

/-- An address with a gap. -/
lemma parse?_gap {front behind : List ℕ} (hfront : Small front) (hbehind : Small behind)
    (hlen : front.length + behind.length ≤ 7) :
    parse? (groupsText front ++ [':', ':'] ++ groupsText behind) = some
      (front ++ List.replicate (8 - (front.length + behind.length)) 0 ++ behind) := by
  have haddress : Groups.address? { seen := front ++ behind, gap := some front.length } = some
      (front ++ List.replicate (8 - (front.length + behind.length)) 0 ++ behind) := by
    simp [Groups.address?]
  have hle := length_le_groupsText behind
  rw [← haddress]
  cases front with
  | nil =>
      have hread := @read?_groupsText ((groupsText behind).length + 2) { gap := some 0 } _ hbehind
        (by simp [Groups.taken] at hlen ⊢; omega) (by omega)
      have htext : groupsText [] ++ [':', ':'] ++ groupsText behind
          = ':' :: ':' :: groupsText behind := rfl
      rw [htext, parse?_colons, hread]
      rfl
  | cons n ks =>
      have htext : groupsText (n :: ks) ++ [':', ':'] ++ groupsText behind
          = colons (n :: ks) ++ ':' :: groupsText behind := by
        rw [← groupsText_append (List.cons_ne_nil n ks)]
        simp
      have hcons : colons (n :: ks) ++ ':' :: groupsText behind
          = Hex.ofNat n ++ (':' :: colons ks ++ ':' :: groupsText behind) := by
        rw [colons_cons]
        simp
      have hlong := length_le_colons (n :: ks)
      obtain ⟨fuel, hfuel⟩ : ∃ fuel, (colons (n :: ks) ++ ':' :: groupsText behind).length
          = (n :: ks).length + (fuel + 1) ∧ behind.length ≤ fuel := by
        refine ⟨(colons (n :: ks)).length - (n :: ks).length + (groupsText behind).length, ?_, ?_⟩
        · simp only [List.length_append, List.length_cons] at hlong ⊢
          omega
        · omega
      rw [htext, hcons, parse?_ofNat, ← hcons, hfuel.1, read?_colons hfront (by
        simp only [Groups.taken, List.length_cons, List.length_nil] at hlen ⊢
        simp
        omega) (List.cons_ne_nil _ _), read?, if_neg (by
        simp only [Groups.taken, List.length_cons, List.nil_append] at hlen ⊢
        simp
        omega), if_pos rfl]
      simp only [Option.isSome_none, Bool.false_eq_true, if_false, List.nil_append]
      rw [read?_groupsText hbehind (by
        simp only [Groups.taken, List.length_cons] at hlen ⊢
        simp
        omega) hfuel.2]
      rfl

/-- **An address is read as it is written.** -/
theorem parse?_text (hns : Small ns) (hlen : ns.length = 8) :
    parse? (text ns).toList = some ns := by
  obtain ⟨front, behind, hsplit, hstart⟩ := exists_zeroRun ns 0
  rw [text]
  generalize zeroRun ns 0 = run at hsplit hstart
  obtain ⟨start, size⟩ := run
  dsimp only at hsplit hstart ⊢
  rw [Nat.zero_add] at hstart
  subst hstart
  split_ifs with hsize
  · rw [String.toList_ofList, parse?_groupsText hns hlen]
  · have hlens : front.length + size + behind.length = 8 := by
      rw [← hlen, hsplit]
      simp [Nat.add_assoc]
    have htake : ns.take front.length = front := by rw [hsplit, List.append_assoc, List.take_left]
    have hdrop : ns.drop (front.length + size) = behind := by
      rw [hsplit, List.drop_left' (by rw [List.length_append, List.length_replicate])]
    have hzeros : 8 - (front.length + behind.length) = size := by omega
    rw [hsplit] at hns
    obtain ⟨hns, hbehind⟩ := List.forall_mem_append.mp hns
    rw [String.toList_ofList, htake, hdrop,
      parse?_gap (List.forall_mem_append.mp hns).1 hbehind (by omega), hzeros, hsplit]

/-- What an address is written with. -/
lemma mem_text {c : Char} (h : c ∈ (text ns).toList) : c = ':' ∨ c ∈ Hex.digits := by
  have hgroup {n : ℕ} (hc : c ∈ Hex.ofNat n) : c ∈ Hex.digits := by
    obtain ⟨ds, htext, -, -, hds, -⟩ := @exists_ofNat n (n + 1) (Nat.succ_ne_zero n)
      ((Nat.lt_pow_self (by decide)).trans (Nat.pow_lt_pow_right (by decide) (Nat.lt_succ_self n)))
    rw [htext] at hc
    obtain ⟨d, hd, rfl⟩ := List.mem_map.mp hc
    exact Hex.mem_digits (by rw [Hex.value?_digit (hds d hd)]; rfl)
  have hgroups {ns : List ℕ} (hc : c ∈ groupsText ns) : c = ':' ∨ c ∈ Hex.digits := by
    rcases List.mem_intercalate_singleton.mp hc with ⟨piece, hpiece, hc⟩ | ⟨rfl, -⟩
    · obtain ⟨n, -, rfl⟩ := List.mem_map.mp hpiece
      exact .inr (hgroup hc)
    · exact .inl rfl
  rw [text] at h
  dsimp only at h
  split_ifs at h <;> rw [String.toList_ofList] at h
  · exact hgroups h
  · rcases List.mem_append.mp h with h | h
    · rcases List.mem_append.mp h with h | h
      · exact hgroups h
      · exact .inl (by simpa using h)
    · exact hgroups h

end HostAgent.Url.Ipv6
