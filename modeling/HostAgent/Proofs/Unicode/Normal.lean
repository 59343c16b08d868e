import HostAgent.Proofs.Text.Lists
import HostAgent.Proofs.Unicode.Parts

/-!
# The composed normal form is one

* `Ordered`, `settle` — marks in the order of their classes, and how they get there.
* `Consumed`, `Consumed.step` — a text being put together stands, at each step, for what has been
  consumed: taken apart again and put in order, it is that.
* `normal_normal` — so bringing a text into the normal form again changes nothing.
* `normal_splitOn` — a full stop parts what is composed: each piece is brought into the normal form
  by itself.
-/

namespace HostAgent.Unicode

variable {c d x : Char} {cs ds rev xs ys : List Char} {s : Composing}

/-! ## The order of marks -/

/-- Characters put one by one into a reversed text. -/
def settle (rev cs : List Char) : List Char :=
  cs.foldl (fun rev c => insertMark c rev) rev

lemma order_eq (cs : List Char) : order cs = (settle [] cs).reverse := rfl

@[simp]
lemma settle_nil (rev : List Char) : settle rev [] = rev := rfl

@[simp]
lemma settle_cons (rev : List Char) (c : Char) (cs : List Char) :
    settle rev (c :: cs) = settle (insertMark c rev) cs := rfl

lemma settle_append (rev xs ys : List Char) : settle rev (xs ++ ys) = settle (settle rev xs) ys :=
  List.foldl_append

/-- A reversed text whose marks are in the order of their classes. -/
def Ordered (rev : List Char) : Prop :=
  rev.IsChain fun c d => 0 < combiningClass c → combiningClass d ≤ combiningClass c

lemma insertMark_perm (c : Char) (rev : List Char) : (insertMark c rev).Perm (c :: rev) := by
  induction rev with
  | nil => exact .refl _
  | cons d rev ih =>
      rw [insertMark]
      split_ifs
      · exact (ih.cons d).trans (.swap c d rev)
      · exact .refl _

lemma settle_perm (rev cs : List Char) : (settle rev cs).Perm (cs ++ rev) := by
  induction cs generalizing rev with
  | nil => exact .refl _
  | cons c cs ih =>
      exact (ih _).trans (((insertMark_perm c rev).append_left cs).trans List.perm_middle)

lemma order_perm (cs : List Char) : (order cs).Perm cs := by
  have h := settle_perm [] cs
  rw [List.append_nil] at h
  exact (List.reverse_perm _).trans h

/-- A mark that fits behind a text stays there. -/
lemma insertMark_of_ordered (h : Ordered (c :: rev)) : insertMark c rev = c :: rev := by
  cases rev with
  | nil => rfl
  | cons d rev =>
      have hle := (List.isChain_cons_cons.mp h).1
      rw [insertMark, if_neg]
      rintro ⟨hpos, hlt⟩
      exact absurd (hle hpos) (not_le.mpr hlt)

lemma ordered_insertMark (c : Char) (h : Ordered rev) : Ordered (insertMark c rev) := by
  induction rev with
  | nil => exact List.isChain_singleton c
  | cons d rev ih =>
      rw [insertMark]
      split_ifs with hlt
      · refine List.isChain_cons.mpr ⟨fun y hy hpos => ?_, ih h.tail⟩
        cases rev with
        | nil =>
            obtain rfl : c = y := by simpa [insertMark] using hy
            exact hlt.2.le
        | cons e rev =>
            rw [insertMark] at hy
            split_ifs at hy
            · obtain rfl : e = y := by simpa using hy
              exact (List.isChain_cons_cons.mp h).1 hpos
            · obtain rfl : c = y := by simpa using hy
              exact hlt.2.le
      · exact List.isChain_cons_cons.mpr ⟨fun hpos => not_lt.mp fun hcd => hlt ⟨hpos, hcd⟩, h⟩

lemma ordered_settle (cs : List Char) (h : Ordered rev) : Ordered (settle rev cs) := by
  induction cs generalizing rev with
  | nil => exact h
  | cons c cs ih => exact ih (ordered_insertMark c h)

/-- **Marks of different classes may come in either order.** -/
theorem insertMark_comm (hc : 0 < combiningClass d) (hcd : combiningClass d < combiningClass c)
    (rev : List Char) : insertMark d (insertMark c rev) = insertMark c (insertMark d rev) := by
  have hpos := hc.trans hcd
  induction rev with
  | nil => simp [insertMark, hc, hcd, hcd.not_gt]
  | cons e rev ih =>
      by_cases hce : combiningClass c < combiningClass e
      · have hde := hcd.trans hce
        simp only [insertMark, hc, hpos, hce, hde, and_self, if_true, ih]
      · by_cases hde : combiningClass d < combiningClass e <;>
          simp [insertMark, hc, hcd, hpos, hce, hde, hcd.not_gt]

/-- A mark may come after those of lower classes. -/
lemma settle_insertMark (hds : ∀ d ∈ ds, 0 < combiningClass d ∧ combiningClass d < combiningClass c)
    (rev : List Char) : settle (insertMark c rev) ds = insertMark c (settle rev ds) := by
  induction ds generalizing rev with
  | nil => rfl
  | cons d ds ih =>
      obtain ⟨⟨hpos, hlt⟩, hds⟩ := List.forall_mem_cons.mp hds
      rw [settle_cons, settle_cons, insertMark_comm hpos hlt, ih hds]

/-! ## Taking apart -/

lemma decompose_append (xs ys : List Char) :
    decompose (xs ++ ys) = decompose xs ++ decompose ys :=
  List.flatMap_append

lemma decompose_singleton (c : Char) : decompose [c] = parts c :=
  List.flatMap_singleton _ _

lemma decompose_of_forall (h : ∀ c ∈ cs, parts c = [c]) : decompose cs = cs := by
  induction cs with
  | nil => rfl
  | cons c cs ih =>
      obtain ⟨hc, hcs⟩ := List.forall_mem_cons.mp h
      rw [← List.singleton_append, decompose_append, decompose_singleton, hc, ih hcs]

/-! ## Putting together -/

/-- What one more character can do: it becomes part of the base, becomes the base, or stays behind
it. -/
lemma step_cases (s : Composing) (c : Char) :
    (∃ b w, s.base = some b ∧ pair? b c = some w ∧
        (∀ d ∈ s.behind.head?, combiningClass d < combiningClass c) ∧
        s.step c = { s with base := some w }) ∨
      (combiningClass c = 0 ∧ s.step c = { done := s.text, base := some c }) ∨
      (0 < combiningClass c ∧ s.step c = { s with behind := c :: s.behind }) := by
  unfold Composing.step
  dsimp only
  split
  · next w hw =>
    refine .inl ?_
    split_ifs at hw with hhidden
    obtain ⟨b, hb, hpair⟩ := Option.bind_eq_some_iff.mp hw
    refine ⟨b, w, hb, hpair, fun d hd => ?_, rfl⟩
    cases hbehind : s.behind with
    | nil => simp [hbehind] at hd
    | cons e behind =>
        obtain rfl : e = d := by simpa [hbehind] using hd
        simpa [hbehind] using hhidden
  · split_ifs with hc
    · exact .inr (.inl ⟨hc, rfl⟩)
    · exact .inr (.inr ⟨Nat.pos_of_ne_zero hc, rfl⟩)

/-- What is being put together stands for what has been consumed, last character first. -/
structure Consumed (s : Composing) (rev : List Char) : Prop where
  apart : settle [] (decompose s.text.reverse) = rev
  marks : ∀ d ∈ s.behind, 0 < combiningClass d
  whole : ∀ d ∈ s.behind, parts d = [d]
  /-- No mark has a higher class than the last one. -/
  highest : ∀ d ∈ s.behind, ∀ e ∈ s.behind.head?, combiningClass d ≤ combiningClass e
  /-- None has a higher class than what was consumed last. -/
  last : ∀ d ∈ s.behind, ∃ l ∈ rev.head?, combiningClass d ≤ combiningClass l

lemma consumed_start : Consumed {} [] :=
  ⟨rfl, nofun, nofun, nofun, nofun⟩

/-- What becomes part of the base can be taken apart from it again. -/
lemma Consumed.apart_of_pair? {b w : Char} (h : Consumed s rev) (hord : Ordered (c :: rev))
    (hb : s.base = some b) (hw : pair? b c = some w)
    (hlow : ∀ d ∈ s.behind, combiningClass d < combiningClass c) :
    settle [] (decompose ({ s with base := some w } : Composing).text.reverse) = c :: rev := by
  have hbehind : decompose s.behind.reverse = s.behind.reverse :=
    decompose_of_forall fun d hd => h.whole d (List.mem_reverse.mp hd)
  have hbefore : settle (settle [] (decompose s.done.reverse ++ parts b)) s.behind.reverse
      = rev := by
    rw [← h.apart, ← settle_append, ← decompose_singleton, ← decompose_append]
    simp only [Composing.text, hb, Option.toList_some, List.reverse_append, List.reverse_singleton,
      decompose_append, hbehind, List.append_assoc]
  have hmarks : ∀ d ∈ s.behind.reverse,
      0 < combiningClass d ∧ combiningClass d < combiningClass c :=
    fun d hd => ⟨h.marks d (List.mem_reverse.mp hd), hlow d (List.mem_reverse.mp hd)⟩
  calc settle [] (decompose ({ s with base := some w } : Composing).text.reverse)
      = settle [] ((decompose s.done.reverse ++ parts b) ++ [c] ++ s.behind.reverse) := by
        simp only [Composing.text, Option.toList_some, List.reverse_append,
          List.reverse_singleton, decompose_append, decompose_singleton, hbehind,
          parts_of_pair? hw, List.append_assoc]
    _ = insertMark c rev := by
        rw [settle_append, settle_append, settle_cons, settle_nil, settle_insertMark hmarks,
          hbefore]
    _ = c :: rev := insertMark_of_ordered hord

/-- **One more character.** -/
theorem Consumed.step (h : Consumed s rev) (hord : Ordered (c :: rev)) (hc : parts c = [c]) :
    Consumed (s.step c) (c :: rev) := by
  have happend : settle [] (decompose (c :: s.text).reverse) = c :: rev := by
    rw [List.reverse_cons, decompose_append, settle_append, h.apart, decompose_singleton, hc]
    exact insertMark_of_ordered hord
  rcases step_cases s c with ⟨b, w, hb, hw, hseen, hstep⟩ | ⟨h0, hstep⟩ | ⟨hpos, hstep⟩ <;>
    rw [hstep]
  · have hlow : ∀ d ∈ s.behind, combiningClass d < combiningClass c := fun d hd => by
      obtain ⟨e, behind, hbehind⟩ := List.exists_cons_of_ne_nil (List.ne_nil_of_mem hd)
      have he : e ∈ s.behind.head? := by simp [hbehind]
      exact (h.highest d hd e he).trans_lt (hseen e he)
    exact ⟨h.apart_of_pair? hord hb hw hlow, h.marks, h.whole, h.highest,
      fun d hd => ⟨c, rfl, (hlow d hd).le⟩⟩
  · exact ⟨happend, nofun, nofun, nofun, nofun⟩
  · have hhigh : ∀ d ∈ c :: s.behind, combiningClass d ≤ combiningClass c :=
      List.forall_mem_cons.mpr ⟨le_rfl, fun d hd => by
        obtain ⟨l, hl, hle⟩ := h.last d hd
        exact hle.trans ((List.isChain_cons.mp hord).1 l hl hpos)⟩
    exact ⟨happend, List.forall_mem_cons.mpr ⟨hpos, h.marks⟩,
      List.forall_mem_cons.mpr ⟨hc, h.whole⟩, fun d hd e he => Option.some.inj he ▸ hhigh d hd,
      fun d hd => ⟨c, rfl, hhigh d hd⟩⟩

/-- **What is put together can be taken apart again.** -/
theorem order_decompose_compose (hord : Ordered cs.reverse) (hwhole : ∀ c ∈ cs, parts c = [c]) :
    order (decompose (compose cs)) = cs := by
  have hconsumed : Consumed (cs.foldl Composing.step {}) cs.reverse := by
    induction cs using List.reverseRecOn with
    | nil => exact consumed_start
    | append_singleton cs c ih =>
        rw [List.reverse_append, List.reverse_singleton, List.singleton_append] at hord ⊢
        rw [List.foldl_append]
        exact (ih hord.tail fun d hd => hwhole d (List.mem_append_left _ hd)).step hord
          (hwhole c (by simp))
  rw [order_eq, compose, hconsumed.apart, List.reverse_reverse]

/-! ## The normal form -/

/-- A text of bases that nothing is put together with is put together as it is. -/
lemma compose_of_forall (h : ∀ c ∈ cs, c.toNat < 0x300) : compose cs = cs := by
  have htext : (cs.foldl Composing.step {}).text = cs.reverse := by
    induction cs using List.reverseRecOn with
    | nil => rfl
    | append_singleton cs c ih =>
        obtain ⟨hcs, hc⟩ := List.forall_mem_append.mp h
        have hc := hc c List.mem_cons_self
        rw [List.foldl_append, List.reverse_append, List.reverse_singleton, List.singleton_append,
          ← ih hcs]
        rcases step_cases (cs.foldl Composing.step {}) c with
          ⟨b, w, -, hw, -⟩ | ⟨-, hstep⟩ | ⟨h0, -⟩
        · rw [pair?_right_of_lt hc] at hw
          cases hw
        · exact congrArg Composing.text hstep
        · rw [combiningClass_of_lt hc] at h0
          exact absurd h0 (lt_irrefl 0)
  rw [compose, htext, List.reverse_reverse]

lemma order_of_forall (h : ∀ c ∈ cs, c.toNat < 0x300) : order cs = cs := by
  have hsettle : settle [] cs = cs.reverse := by
    induction cs using List.reverseRecOn with
    | nil => rfl
    | append_singleton cs c ih =>
        obtain ⟨hcs, hc⟩ := List.forall_mem_append.mp h
        rw [settle_append, ih hcs, List.reverse_append]
        refine insertMark_of_ordered (List.isChain_cons.mpr ⟨fun d _ hpos => ?_, ?_⟩)
        · rw [combiningClass_of_lt (hc c List.mem_cons_self)] at hpos
          exact absurd hpos (lt_irrefl 0)
        · rw [← ih hcs]
          exact ordered_settle _ List.isChain_nil
  rw [order_eq, hsettle, List.reverse_reverse]

/-- The short cut for texts of low characters makes no difference. -/
lemma normal_eq (cs : List Char) : normal cs = compose (order (decompose cs)) := by
  unfold normal
  split_ifs with hlow
  · have hcs : ∀ c ∈ cs, c.toNat < 0xC0 := by simpa [UInt32.lt_iff_toNat_lt] using hlow
    have hlt : ∀ c ∈ cs, c.toNat < 0x300 := fun c hc => (hcs c hc).trans (by decide)
    rw [decompose_of_forall fun c hc => parts_of_lt (hcs c hc), order_of_forall hlt,
      compose_of_forall hlt]
  · rfl

lemma whole_of_mem_order (h : c ∈ order (decompose cs)) : parts c = [c] := by
  obtain ⟨d, -, hc⟩ := List.mem_flatMap.mp ((order_perm _).mem_iff.mp h)
  exact parts_of_mem_parts hc

/-- Taken apart, the normal form is what the text itself is. -/
lemma order_decompose_normal (cs : List Char) :
    order (decompose (normal cs)) = order (decompose cs) := by
  rw [normal_eq]
  refine order_decompose_compose ?_ fun c => whole_of_mem_order
  rw [order_eq, List.reverse_reverse]
  exact ordered_settle _ List.isChain_nil

/-- **The normal form of a normal form is itself.** -/
theorem normal_normal (cs : List Char) : normal (normal cs) = normal cs := by
  rw [normal_eq (normal cs), order_decompose_normal, ← normal_eq]

/-- **Blanks, full stops and the like come from nowhere and are not lost.** -/
theorem mem_normal (h : c.toNat < 0x3B) : c ∈ normal cs ↔ c ∈ cs := by
  have hself : ∀ {ds : List Char}, c ∈ order (decompose ds) ↔ c ∈ ds := fun {ds} => by
    rw [(order_perm _).mem_iff, decompose, List.mem_flatMap]
    refine ⟨fun ⟨d, hd, hc⟩ => eq_of_mem_parts hc h ▸ hd, fun hc => ⟨c, hc, ?_⟩⟩
    rw [parts_of_lt (by omega)]
    exact List.mem_singleton_self c
  rw [← hself, order_decompose_normal, hself]

/-! ## What a full stop parts -/

/-- A base that nothing is put together with: what follows it does not depend on what precedes
it. -/
structure Barrier (x : Char) : Prop where
  whole : parts x = [x]
  base : combiningClass x = 0
  left : ∀ c, pair? x c = none
  right : ∀ b, pair? b x = none

lemma barrier_of_lt (h : x.toNat < 0x3B) : Barrier x :=
  ⟨parts_of_lt (by omega), combiningClass_of_lt (by omega), pair?_left_of_lt h,
    pair?_right_of_lt (by omega)⟩

lemma insertMark_append (hx : combiningClass x = 0) (c : Char) (xs rev : List Char) :
    insertMark c (xs ++ x :: rev) = insertMark c xs ++ x :: rev := by
  induction xs with
  | nil => simp [insertMark, hx]
  | cons d xs ih =>
      rw [List.cons_append, insertMark, insertMark, ih]
      split_ifs <;> rfl

lemma order_append (hx : Barrier x) (xs ys : List Char) :
    order (xs ++ x :: ys) = order xs ++ x :: order ys := by
  have hsettle (rev : List Char) : settle (rev ++ x :: settle [] xs) ys
      = settle rev ys ++ x :: settle [] xs := by
    induction ys generalizing rev with
    | nil => rfl
    | cons c ys ih => rw [settle_cons, insertMark_append hx.base, ih, settle_cons]
  have hbarrier : insertMark x (settle [] xs) = x :: settle [] xs := by
    cases settle [] xs <;> simp [insertMark, hx.base]
  rw [order_eq, settle_append, settle_cons, hbarrier, ← List.nil_append (x :: _), hsettle []]
  simp [order_eq]

/-- A text being put together behind a barrier, and the same text by itself. -/
inductive Onto (x : Char) (done : List Char) : Composing → Composing → Prop where
  /-- There is no base yet, and the barrier stands for one. -/
  | fresh (behind : List Char) : Onto x done ⟨done, some x, behind⟩ ⟨[], none, behind⟩
  /-- There is a base. -/
  | based (front : List Char) (b : Char) (behind : List Char) :
    Onto x done ⟨front ++ x :: done, some b, behind⟩ ⟨front, some b, behind⟩

lemma Onto.text_eq {done : List Char} {s s' : Composing} (h : Onto x done s s') :
    s.text = s'.text ++ x :: done := by
  cases h <;> simp [Composing.text]

lemma Onto.step (hx : Barrier x) {done : List Char} {s s' : Composing} (h : Onto x done s s')
    (c : Char) : Onto x done (s.step c) (s'.step c) := by
  have htext := h.text_eq
  cases h with
  | fresh behind =>
      have hleft (hidden : Bool) :
          (if hidden then none else (some x).bind (pair? · c)) = none := by simp [hx.left]
      have hnone (hidden : Bool) :
          (if hidden then none else (none : Option Char).bind (pair? · c)) = none := by simp
      simp only [Composing.step, hleft, hnone]
      split_ifs
      · rw [htext]
        exact .based _ c []
      · exact .fresh (c :: behind)
  | based front b behind =>
      simp only [Composing.step]
      split
      · exact .based front _ behind
      · split_ifs
        · rw [htext]
          exact .based _ c []
        · exact .based front b (c :: behind)

lemma compose_append (hx : Barrier x) (xs ys : List Char) :
    compose (xs ++ x :: ys) = compose xs ++ x :: compose ys := by
  set s := xs.foldl Composing.step {} with hs
  have hbarrier : s.step x = { done := s.text, base := some x } := by
    rcases step_cases s x with ⟨b, w, -, hw, -⟩ | ⟨-, hstep⟩ | ⟨h0, -⟩
    · rw [hx.right] at hw
      cases hw
    · exact hstep
    · rw [hx.base] at h0
      exact absurd h0 (lt_irrefl 0)
  have honto {t t' : Composing} (h : Onto x s.text t t') :
      Onto x s.text (ys.foldl Composing.step t) (ys.foldl Composing.step t') := by
    induction ys generalizing t t' with
    | nil => exact h
    | cons c ys ih => exact ih (h.step hx c)
  rw [compose, List.foldl_append, List.foldl_cons, ← hs, hbarrier, (honto (.fresh [])).text_eq]
  simp [compose, hs]

lemma normal_append (hx : Barrier x) (xs ys : List Char) :
    normal (xs ++ x :: ys) = normal xs ++ x :: normal ys := by
  simp only [normal_eq]
  rw [← List.singleton_append, decompose_append, decompose_append, decompose_singleton, hx.whole,
    List.singleton_append, order_append hx, compose_append hx]

/-- **Each piece between full stops is brought into the normal form by itself.** -/
theorem normal_splitOn (hx : x.toNat < 0x3B) (cs : List Char) :
    (normal cs).splitOn x = (cs.splitOn x).map normal := by
  have hjoin (ls : List (List Char)) :
      normal ([x].intercalate ls) = [x].intercalate (ls.map normal) := by
    induction ls with
    | nil => rfl
    | cons l ls ih =>
        cases ls with
        | nil => simp
        | cons l' ls =>
            rw [List.intercalate_cons_cons, List.append_assoc, List.singleton_append,
              normal_append (barrier_of_lt hx), ih]
            simp only [List.map_cons, List.intercalate_cons_cons, List.append_assoc,
              List.singleton_append]
  conv_lhs => rw [← @List.intercalate_splitOn _ cs _ _ x, hjoin]
  refine List.splitOn_intercalate x (fun l hl => ?_) (by simp)
  obtain ⟨piece, hpiece, rfl⟩ := List.mem_map.mp hl
  rw [mem_normal hx]
  exact List.not_mem_of_mem_splitOn hpiece

end HostAgent.Unicode
