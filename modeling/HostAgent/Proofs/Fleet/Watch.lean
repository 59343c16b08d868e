import HostAgent.Proofs.Fleet.Clock

/-!
# Somebody watches the head of the outbox

A courier takes the most urgent request, and if it is not due puts it back and waits for it.  A
request of a lower rank that is due may wait meanwhile: the order of the outbox is strict.  What is
kept is that nobody waits while the request at the head is due.

The argument goes along the line at the gate.  Whoever stands in it knows of the requests near the
front of the outbox, as far as they are not looked after by those who will look before it: the
couriers that are awake, and the couriers behind it, which came later and know more.

* `Phase.Watches` — what one who waits knows, given how many others will look.
* `Watchful` — the couriers take turns, and everybody in line watches.
* `Undisturbed`, `Watchful.run` — couriers that go on until they wait, one at a time and in any
  order, stay watchful, as long as nobody drops a request that has expired before it was due.
* `due_behind_early` — so when everybody waits and some courier is not in a call, the request at the
  head is not due; every request that is due has a lower rank.
-/

namespace HostAgent.Fleet

open Outbound (Request)

variable {carrier : Carrier} {f g : Fleet} {i j : ℕ} {p q : Phase} {r : Request} {now : Int}
  {others line : List ℕ} {s : ℕ} {v es : List Request}

/-! ## What one who waits knows -/

/-- What a courier in line knows of the requests in the outbox, if so many others will look before
it does.  One that is parked knows that there are no more requests than others; one on guard knows
that the request it waits for is one of the first. -/
def Phase.Watches (now : Int) (s : ℕ) (v : List Request) : Phase → Prop
  | .parked => v.length ≤ s
  | .guarding due => now < due → due ∈ (v.take (s + 1)).map (·.due)
  | _ => True

lemma Phase.Watches.mono (h : q.Watches now s v) {s' : ℕ} (hs : s ≤ s') :
    q.Watches now s' v := by
  cases q with
  | parked => exact Nat.le_trans h hs
  | guarding due =>
      intro hlt
      obtain ⟨e, he, hd⟩ := List.mem_map.mp (h hlt)
      exact List.mem_map.mpr ⟨e, List.take_subset_take_left v (Nat.succ_le_succ hs) he, hd⟩
  | _ => trivial

/-- A request more, a look more. -/
lemma Phase.Watches.place (h : q.Watches now s v) (r : Request) :
    q.Watches now (s + 1) (Outbox.place r v) := by
  cases q with
  | parked =>
      change (Outbox.place r v).length ≤ s + 1
      rw [(Outbox.place_perm r v).length_eq, List.length_cons]
      exact Nat.succ_le_succ h
  | guarding due =>
      intro hlt
      obtain ⟨e, he, hd⟩ := List.mem_map.mp (h hlt)
      exact List.mem_map.mpr ⟨e, Outbox.mem_take_place he, hd⟩
  | _ => trivial

/-- The request in the first place is put back. -/
lemma Phase.Watches.putBack (h : q.Watches now s (r :: es))
    (ho : (r :: es).Pairwise fun a c => c.precedes a = false) :
    q.Watches now s (Outbox.place r es) := by
  cases q with
  | parked =>
      change (Outbox.place r es).length ≤ s
      rw [(Outbox.place_perm r es).length_eq]
      exact h
  | guarding due => exact fun hlt => Outbox.due_mem_take_place ho (h hlt)
  | _ => trivial

/-- The request in the first place, which is due, leaves together with one who would have looked:
nobody who has not overslept waits for it. -/
lemma Phase.Watches.called (h : q.Watches now (s + 1) (r :: es)) (hd : r.due ≤ now) :
    q.Watches now s es := by
  cases q with
  | parked => exact Nat.le_of_succ_le_succ h
  | guarding due =>
      intro hlt
      have hmem := h hlt
      rw [List.take_succ_cons, List.map_cons, List.mem_cons] at hmem
      rcases hmem with rfl | hmem
      · omega
      · exact hmem
  | _ => trivial

/-! ## Couriers that take turns and watch -/

/-- The request in hand. -/
def Phase.hand : Phase → List Request
  | .holding r => [r]
  | _ => []

/-- What a courier in the middle of a turn knows of the outbox: there is room for the request in
its hand, which is still the most urgent one; or the one that it has put back is at the head. -/
def Phase.Fits (b : Outbox) : Phase → Prop
  | .holding r => b.hasRoom = true ∧ (r :: b.entries).Pairwise fun a c => c.precedes a = false
  | .enlisting due => ∃ e es, b.entries = e :: es ∧ e.due = due
  | .ended => False
  | _ => True

/-- The request in the hand of the courier whose turn it is. -/
def inHand (f : Fleet) : List Request :=
  f.awake.head?.elim [] fun i => (f.phase i).hand

/-- The requests in the order in which they will be looked at. -/
def view (f : Fleet) : List Request :=
  f.inHand ++ f.outbox.entries

/-- **Couriers that take turns and watch.** -/
structure Watchful (f : Fleet) : Prop where
  going : f.stopping = false
  turn : ∀ i, (f.phase i).midTurn = true → f.awake.head? = some i
  fits : ∀ i, (f.phase i).Fits f.outbox
  watch : ∀ front i behind, f.gate.line = front ++ i :: behind →
    (f.phase i).Watches f.now (f.awake.length + behind.length) f.view

lemma Phase.hand_of_not_midTurn (h : p.midTurn = false) : p.hand = [] := by
  cases p <;> simp_all [Phase.midTurn, Phase.hand]

lemma Phase.Fits.of_not_midTurn {b b' : Outbox} (h : p.Fits b) (hp : p.midTurn = false) :
    p.Fits b' := by
  cases p <;> simp_all [Phase.midTurn, Phase.Fits]

lemma view_of_awake (ha : f.awake = i :: others) :
    f.view = (f.phase i).hand ++ f.outbox.entries := by
  simp [view, inHand, ha]

lemma BetweenTurns.inHand_eq (h : BetweenTurns f) : f.inHand = [] := by
  rw [inHand]
  cases f.awake.head? with
  | none => rfl
  | some i => exact Phase.hand_of_not_midTurn (h i)

/-- While nobody is in the middle of a turn all requests are in the outbox. -/
lemma BetweenTurns.view_eq (h : BetweenTurns f) : f.view = f.outbox.entries := by
  rw [view, h.inHand_eq, List.nil_append]

/-- Only the courier at the head is in the middle of a turn. -/
lemma Watchful.not_midTurn (h : Watchful f) (ha : f.awake = i :: others) (hj : j ≠ i) :
    (f.phase j).midTurn = false := by
  by_contra hm
  have hhead := h.turn j (by simpa using hm)
  rw [ha, List.head?_cons, Option.some.injEq] at hhead
  exact hj hhead.symm

/-- The courier at the head goes on: everybody in line must still know enough. -/
lemma Watchful.goOn (h : Watchful f) (hs : Sound f) (ha : f.awake = i :: others)
    (hphase : ∀ j, g.phase j = if j = i then p else f.phase j)
    (hline : g.gate.line = f.gate.line) (hawake : g.awake = f.awake) (hnow : g.now = f.now)
    (hstop : g.stopping = f.stopping) (hfits : p.Fits g.outbox)
    (hview : ∀ q : Phase, ∀ s, q.Watches f.now s ((f.phase i).hand ++ f.outbox.entries) →
      q.Watches f.now s (p.hand ++ g.outbox.entries)) : Watchful g where
  going := hstop.trans h.going
  turn j hj := by
    by_cases hji : j = i
    · rw [hawake, ha, hji, List.head?_cons]
    · rw [hphase, if_neg hji, h.not_midTurn ha hji] at hj
      cases hj
  fits j := by
    rw [hphase]
    split_ifs with hji
    · exact hfits
    · exact (h.fits j).of_not_midTurn (h.not_midTurn ha hji)
  watch front j behind hl := by
    rw [hline] at hl
    have hw := h.watch front j behind hl
    have hji : j ≠ i := by
      rintro rfl
      have hj : j ∈ f.gate.line := by simp [hl]
      exact hs.not_mem_line_of_mem_awake (ha ▸ List.mem_cons_self) hj
    rw [view_of_awake ha] at hw
    rw [hphase, if_neg hji, hnow, hawake, view_of_awake (hawake.trans ha), hphase, if_pos rfl]
    exact hview _ _ hw

/-- The courier at the head ends its turn. -/
lemma Watchful.endTurn (h : Watchful f) (ha : f.awake = i :: others)
    (hphase : ∀ j, g.phase j = if j = i then p else f.phase j)
    (hawake : g.awake = others) (hnow : g.now = f.now) (hstop : g.stopping = f.stopping)
    (hp : p.midTurn = false) (hfits : p.Fits g.outbox)
    (hwatch : ∀ front j behind, g.gate.line = front ++ j :: behind →
      (g.phase j).Watches f.now (others.length + behind.length) g.outbox.entries) :
    Watchful g := by
  have hbetween : BetweenTurns g := by
    intro j
    rw [hphase]
    split_ifs with hji
    · exact hp
    · exact h.not_midTurn ha hji
  refine ⟨hstop.trans h.going, fun j hj => ?_, fun j => ?_, fun front j behind hl => ?_⟩
  · rw [hbetween j] at hj
    cases hj
  · rw [hphase]
    split_ifs with hji
    · exact hfits
    · exact (h.fits j).of_not_midTurn (h.not_midTurn ha hji)
  · rw [hbetween.view_eq, hawake, hnow]
    exact hwatch front j behind hl

/-- The courier at the head ends its turn in line: those who were there before it have one more
behind them and one less awake. -/
lemma Watchful.joinLine (h : Watchful f) (hs : Sound f) (ha : f.awake = i :: others)
    (hphase : ∀ j, g.phase j = if j = i then p else f.phase j)
    (hline : g.gate.line = f.gate.line ++ [i])
    (hawake : g.awake = others) (hnow : g.now = f.now) (hstop : g.stopping = f.stopping)
    (hp : p.inLine = true) (hentries : g.outbox.entries = f.outbox.entries)
    (hhand : (f.phase i).hand = []) (hwatch : p.Watches f.now 0 f.outbox.entries) :
    Watchful g := by
  have hp' : p.midTurn = false ∧ p.Fits g.outbox := by
    cases p <;> simp_all [Phase.inLine, Phase.midTurn, Phase.Fits]
  refine h.endTurn ha hphase hawake hnow hstop hp'.1 hp'.2 fun front j behind hl => ?_
  rw [hentries, hphase]
  rw [hline] at hl
  rcases List.eq_nil_or_concat behind with rfl | ⟨behind, k, rfl⟩
  · have hji : j = i := by
      have := congrArg List.getLast? hl
      simpa using this.symm
    rw [if_pos hji]
    exact hwatch.mono (Nat.zero_le _)
  · have hl' : f.gate.line = front ++ j :: behind := by
      rw [List.concat_eq_append, ← List.cons_append, ← List.append_assoc] at hl
      exact (List.append_inj' hl rfl).1
    have hji : j ≠ i := by
      rintro rfl
      have hj : j ∈ f.gate.line := by simp [hl']
      exact hs.not_mem_line_of_mem_awake (ha ▸ List.mem_cons_self) hj
    have hw := h.watch front j behind hl'
    rw [view_of_awake ha, hhand, List.nil_append] at hw
    rw [if_neg hji]
    refine hw.mono ?_
    simp [ha]
    omega

/-- One who waits goes on, behind those who are awake. -/
lemma Watchful.wake (h : Watchful f) (hi : i ∉ f.awake)
    (hphase : ∀ j, g.phase j = if j = i then p else f.phase j)
    (hawake : g.awake = f.awake ++ [i]) (hnow : g.now = f.now) (hstop : g.stopping = f.stopping)
    (hp : p.midTurn = false) (hfits : ∀ j, (g.phase j).Fits g.outbox)
    (hwatch : ∀ front j behind, g.gate.line = front ++ j :: behind → j ≠ i ∧
      (f.phase j).Watches f.now (f.awake.length + 1 + behind.length)
        (f.inHand ++ g.outbox.entries)) : Watchful g := by
  have hhand : g.inHand = f.inHand := by
    cases ha : f.awake with
    | nil => simp [inHand, hawake, ha, hphase, Phase.hand_of_not_midTurn hp]
    | cons k others =>
        have hki : k ≠ i := fun hk => hi (by simp [ha, hk])
        simp [inHand, hawake, ha, hphase, hki]
  refine ⟨hstop.trans h.going, fun j hj => ?_, hfits, fun front j behind hl => ?_⟩
  · rw [hphase] at hj
    split_ifs at hj
    · rw [hp] at hj
      cases hj
    · obtain ⟨others, ha⟩ := List.head?_eq_some_iff.mp (h.turn j hj)
      simp [hawake, ha]
  · obtain ⟨hji, hw⟩ := hwatch front j behind hl
    rw [view, hhand, hphase, if_neg hji, hnow, hawake, List.length_append, List.length_singleton]
    exact hw

/-- An insertion between turns.  Everybody in line has one request more in view, and one more who
will look before it, since the first in line goes on. -/
lemma Watchful.afterInsert (h : Watchful f) (hs : Sound f) (hb : BetweenTurns f) (r : Request) :
    Watchful (f.afterInsert (f.outbox.insert r)) := by
  have hfits (b : Outbox) (j : ℕ) : (f.phase j).Fits b := (h.fits j).of_not_midTurn (hb j)
  have hwatch := h.watch
  rw [hb.view_eq] at hwatch
  rcases f.afterInsert_cases (f.outbox.insert r) with ⟨hd, heq⟩ | ⟨-, hl, heq⟩ |
    ⟨k, line, hd, hl, heq⟩
  · rw [Outbox.insert_fst] at hd
    have hsame : (f.outbox.insert r).2.entries = f.outbox.entries := by
      simp [Outbox.insert_entries, hd]
    have hview : ({ f with outbox := (f.outbox.insert r).2 } : Fleet).view
        = (f.outbox.insert r).2.entries := BetweenTurns.view_eq (f := { f with outbox := _ }) hb
    rw [heq]
    refine ⟨h.going, h.turn, hfits _, fun front j behind hl => ?_⟩
    rw [hview, hsame]
    exact hwatch front j behind hl
  · rw [heq]
    refine ⟨h.going, h.turn, hfits _, fun front j behind hl' => ?_⟩
    simp [hl] at hl'
  · rw [Outbox.insert_fst] at hd
    have hplace : (f.outbox.insert r).2.entries = Outbox.place r f.outbox.entries := by
      simp [Outbox.insert_entries, hd]
    have hk : k ∈ f.gate.line := hl ▸ List.mem_cons_self
    have hnd := List.nodup_cons.mp (hl ▸ hs.line_nodup)
    have hphase : ∀ j, (f.afterInsert (f.outbox.insert r)).phase j
        = if j = k then .looking else f.phase j := fun j => by
      rw [heq]
      exact phase_wake (f := { f with outbox := _, gate := _ }) (hs.lt_of_mem_line hk)
    refine h.wake (fun ha => hs.not_mem_line_of_mem_awake ha hk) hphase (by rw [heq]; rfl)
      (by rw [heq]; rfl) (by rw [heq]; rfl) rfl (fun j => ?_) fun front j behind hl' => ?_
    · rw [hphase]
      split_ifs
      · trivial
      · exact hfits _ j
    · rw [heq] at hl' ⊢
      have hline : line = front ++ j :: behind := hl'
      refine ⟨ne_of_mem_of_not_mem (by simp [hline]) hnd.1, ?_⟩
      have hw := (hwatch (k :: front) j behind (by rw [hl, hline]; rfl)).place r
      rw [hb.inHand_eq, List.nil_append]
      change (f.phase j).Watches f.now _ (f.outbox.insert r).2.entries
      rw [hplace]
      exact hw.mono (by omega)

/-! ## Every motion -/

/-- Giving up a place in line brings everybody in front of it one place nearer to its end. -/
lemma split_of_filter {l front behind : List ℕ} (hl : l.Nodup)
    (h : l.filter (fun a => !(a == i)) = front ++ j :: behind) :
    j ≠ i ∧ ∃ front' behind', l = front' ++ j :: behind' ∧ behind'.length ≤ behind.length + 1 := by
  have hj : j ∈ l.filter (fun a => !(a == i)) := by simp [h]
  obtain ⟨front', rest, hl', -, hrest⟩ := List.filter_eq_append_iff.mp h
  obtain ⟨skipped, behind', rfl, -, -, rfl⟩ := List.filter_eq_cons_iff.mp hrest
  refine ⟨by simpa using (List.mem_filter.mp hj).2, front' ++ skipped, behind', by simp [hl'], ?_⟩
  have hnd : behind'.Nodup := by
    rw [hl', List.nodup_append] at hl
    exact (List.nodup_cons.mp (List.nodup_append.mp hl.2.1).2.1).2
  have herase : behind'.erase i = behind'.filter (fun a => !(a == i)) := hnd.erase_eq_filter i
  have hlen := List.length_erase (a := i) (l := behind')
  rw [← herase, hlen]
  split_ifs <;> omega

lemma Watchful.ring (h : Watchful f) (hs : Sound f) (i : ℕ) : Watchful (f.ring i) := by
  have hphase := phase_ring f i
  rw [ring_eq] at hphase ⊢
  have hna (hr : (f.phase i).runs = false) : i ∉ f.awake := fun ha => by
    simp [((hs.mem_awake i).mp ha).2] at hr
  have hfits : ∀ j, (if j = i then (f.phase i).rung else f.phase j).Fits f.outbox := by
    intro j
    split_ifs
    · have hi := h.fits i
      cases hp : f.phase i <;> simp_all [Phase.rung, Phase.Fits]
    · exact h.fits j
  cases hp : f.phase i with
  | guarding due =>
      rw [hp] at hphase hfits
      refine h.wake (hna (by simp [hp, Phase.runs])) hphase rfl rfl rfl rfl
        (fun j => by rw [hphase]; exact hfits j) fun front j behind hl => ?_
      obtain ⟨hji, front', behind', hl', hlen⟩ := split_of_filter hs.line_nodup hl
      exact ⟨hji, (h.watch front' j behind' hl').mono (by omega)⟩
  | calling c =>
      rw [hp] at hphase hfits
      refine h.wake (hna (by simp [hp, Phase.runs])) hphase rfl rfl rfl rfl
        (fun j => by rw [hphase]; exact hfits j) fun front j behind hl => ?_
      have hl' : f.gate.line = front ++ j :: behind := hl
      refine ⟨?_, (h.watch front j behind hl').mono (by omega)⟩
      rintro rfl
      have hline := (hs.mem_line j).mp (by simp [hl'])
      simp [hp, Phase.inLine] at hline
  | _ => exact h

/-- Time passes, and those who wait for something ahead wait for it still. -/
lemma Watchful.later (h : Watchful f) (t : Int) : Watchful (f.later t) where
  going := h.going
  turn := h.turn
  fits := h.fits
  watch front j behind hl := by
    have hw := h.watch front j behind hl
    change (f.phase j).Watches (max f.now t) _ f.view
    cases hp : f.phase j with
    | guarding due =>
        rw [hp] at hw
        exact fun hlt => hw (lt_of_le_of_lt (le_max_left _ _) hlt)
    | parked => rw [hp] at hw; exact hw
    | _ => trivial

/-- Whether a courier in this phase is about to drop a request that has expired before it was
due. -/
def Phase.dropsEarly (now : Int) : Phase → Bool
  | .holding r => r.isExpired now && !r.isDue now
  | _ => false

/-- **Every branch of an action** keeps the couriers watchful, unless it drops a request that has
expired before it was due, for which another courier may be waiting. -/
theorem Act.watchful (hact : Act carrier f i g) (h : Watchful f) (hs : Sound f)
    (ha : f.awake = i :: others)
    (hx : (f.phase i).dropsEarly f.now = false) : Watchful g := by
  have hi : i ∈ f.awake := ha ▸ List.mem_cons_self
  have hlt := hs.lt_of_mem_awake hi
  have hfits := h.fits i
  cases hact with
  | stop hp hstop => simp [h.going] at hstop
  | @take r b hp hstop ht =>
      have he := Outbox.entries_of_take? ht
      refine h.goOn (p := .holding r) hs ha
        (fun _ => phase_become (f := { f with outbox := b }) hlt)
        rfl rfl rfl rfl ⟨Outbox.hasRoom_of_take? ht, he ▸ f.outbox.ordered⟩
        fun q s hw => ?_
      rw [hp, he] at hw
      exact hw
  | relook hp hstop he hg =>
      have hl := hs.line_of_permit hg
      exact ⟨h.going, h.turn, h.fits, fun front j behind hl' => by simp [hl] at hl'⟩
  | park hp hstop he hg =>
      refine h.joinLine (p := .parked) hs ha (fun _ => phase_rest (f := { f with gate := _ }) hlt)
        rfl (by simp [rest, ha]) rfl rfl rfl rfl (by simp [hp, Phase.hand]) ?_
      simp [he, Phase.Watches]
  | @lapse r hp hex =>
      have hdue : r.due ≤ f.now := by simpa [hp, Phase.dropsEarly, hex, Request.isDue] using hx
      refine h.goOn (p := .looking) hs ha (fun _ => phase_tally_become hlt Tally.ignored) rfl rfl
        rfl rfl trivial fun q s hw => ?_
      rw [hp] at hw
      exact Phase.Watches.called (hw.mono (Nat.le_succ s)) hdue
  | @putBack r hp hex hd =>
      rw [hp] at hfits
      obtain ⟨hroom, hordered⟩ := hfits
      have hplace : (f.outbox.insert r).2.entries = Outbox.place r f.outbox.entries := by
        simp [Outbox.insert_entries, hroom]
      refine h.goOn (p := .enlisting r.due) hs ha
        (fun _ => phase_become (f := { f with outbox := _ }) hlt) rfl rfl rfl rfl ?_
        fun q s hw => ?_
      · obtain ⟨e, es, he, hdue⟩ := Outbox.head_place_of_ordered hordered
        exact ⟨e, es, hplace.trans he, hdue⟩
      · rw [hp] at hw
        change q.Watches f.now s (f.outbox.insert r).2.entries
        rw [hplace]
        exact Phase.Watches.putBack hw hordered
  | @call r hp hex hd he =>
      have hdue : r.due ≤ f.now := by simpa [Request.isDue] using hd
      have hphase : ∀ j, ({ f with attempts := attemptFor f r :: f.attempts }.rest i
          (.calling (callFor carrier f r))).phase j
            = if j = i then .calling (callFor carrier f r) else f.phase j :=
        fun j => phase_rest (f := { f with attempts := _ }) hlt
      refine h.endTurn ha hphase (by simp [rest, ha]) rfl rfl rfl trivial
        fun front j behind hl => ?_
      have hl' : f.gate.line = front ++ j :: behind := hl
      have hji : j ≠ i := by
        rintro rfl
        exact hs.not_mem_line_of_mem_awake hi (by simp [hl'])
      have hw := h.watch front j behind hl'
      rw [view_of_awake ha, hp, ha, List.length_cons, Nat.add_right_comm] at hw
      rw [hphase, if_neg hji]
      exact Phase.Watches.called hw hdue
  | @callAtOnce r hp hex hd he =>
      have hdue : r.due ≤ f.now := by simpa [Request.isDue] using hd
      refine h.goOn (p := .reporting (callFor carrier f r)) hs ha
        (fun _ => phase_become (f := { f with attempts := _ }) hlt) rfl rfl rfl rfl trivial
        fun q s hw => ?_
      rw [hp] at hw
      exact Phase.Watches.called (hw.mono (Nat.le_succ s)) hdue
  | @glance due hp hg =>
      have hl := hs.line_of_permit hg
      refine h.goOn (p := .looking) hs ha (fun _ => phase_become (f := { f with gate := _ }) hlt)
        rfl rfl rfl rfl trivial fun q s hw => ?_
      rw [hp] at hw
      exact hw
  | @guard due hp hg =>
      rw [hp] at hfits
      obtain ⟨e, es, he, hdue⟩ := hfits
      refine h.joinLine (p := .guarding due) hs ha
        (fun _ => phase_rest (f := { f with gate := _ }) hlt) rfl (by simp [rest, ha]) rfl rfl rfl
        rfl (by simp [hp, Phase.hand]) fun _ => ?_
      simp [he, hdue]
  | @succeed c late took hp hc =>
      refine h.goOn (p := .looking) hs ha
        (fun _ => phase_tally_become hlt fun t => t.success late took) rfl rfl rfl rfl trivial
        fun q s hw => ?_
      rw [hp] at hw
      exact hw
  | @retry c late took hp hc hr =>
      have hphase : ∀ j, ((f.modify i fun w => { w with
          tally := w.tally.failure late took }).become i .looking).phase j
            = if j = i then .looking else f.phase j :=
        fun j => phase_tally_become hlt fun t => t.failure late took
      have hturn := h.goOn hs ha hphase rfl rfl rfl rfl trivial fun q s hw => by
        rw [hp] at hw
        exact hw
      have hsound := (hs.tally i fun t => t.failure late took).become (p := .looking) hi rfl
      refine hturn.afterInsert hsound (fun j => ?_) (f.retried c.request)
      rw [hphase]
      split_ifs with hji
      · rfl
      · exact h.not_midTurn ha hji
  | @giveUp c late took hp hc hr =>
      refine h.goOn (p := .looking) hs ha
        (fun _ => phase_tally_become hlt fun t => (t.failure late took).ignored) rfl rfl rfl rfl
        trivial fun q s hw => ?_
      rw [hp] at hw
      exact hw

/-- Between turns it does not matter who is next. -/
lemma Watchful.first (h : Watchful f) (hb : BetweenTurns f) (hi : i ∈ f.awake) :
    Watchful (f.first i) where
  going := h.going
  turn j hj := by
    rw [show (f.first i).phase j = f.phase j from rfl, hb j] at hj
    cases hj
  fits := h.fits
  watch front j behind hl := by
    have hw := h.watch front j behind hl
    have hlen : (f.first i).awake.length = f.awake.length :=
      (List.perm_cons_erase hi).length_eq.symm
    have hview : (f.first i).view = f.view := by
      rw [hb.view_eq]
      exact BetweenTurns.view_eq (f := f.first i) hb
    rw [hlen, hview]
    exact hw

/-- The rule of couriers that go on until they wait, one at a time and in any order, are not told to
stop and share their outbox with nobody else, none of whom drops a request that has expired before
it was due. -/
def Undisturbed (f : Fleet) : Motion → Prop
  | .act i => Unbroken f (.act i) ∧ (f.phase i).dropsEarly f.now = false
  | .pop | .stop => False
  | m => Unbroken f m

instance (f : Fleet) : ∀ m, Decidable (f.Undisturbed m)
  | .act i =>
    inferInstanceAs (Decidable (Unbroken f (.act i) ∧ (f.phase i).dropsEarly f.now = false))
  | .pop | .stop => isFalse id
  | .offer r => inferInstanceAs (Decidable (Unbroken f (.offer r)))
  | .pass t => inferInstanceAs (Decidable (Unbroken f (.pass t)))
  | .ring i => inferInstanceAs (Decidable (Unbroken f (.ring i)))

lemma Watchful.move {m : Motion} (h : Watchful f) (hs : Sound f) (hm : Undisturbed f m) :
    Watchful (move carrier f m) := by
  cases m with
  | offer r => exact h.afterInsert hs hm (f.outbox.stamp r)
  | act i =>
      obtain ⟨hnext, hx⟩ := hm
      rw [Fleet.move]
      split_ifs with hi
      · -- Whoever acts is at the head, or may go there since nobody is in the middle of a turn.
        have hfirst : Watchful (f.first i) := by
          rcases hnext with hb | hhead
          · exact h.first hb hi
          · rwa [first_of_head hhead]
        exact (hs.act hi).watchful hfirst (hs.first hi) rfl hx
      · exact h
  | pass t => exact h.later t
  | ring i =>
      rw [Fleet.move]
      split_ifs
      · exact h.ring hs i
      · exact h
  | pop => exact hm.elim
  | stop => exact hm.elim

lemma watchful_start (capacity limit workers : ℕ) (timeout : Span) :
    Watchful (start (.empty capacity limit) {} workers timeout) where
  going := rfl
  turn i hi := by simp [Phase.midTurn] at hi
  fits i := by simp [Phase.Fits]
  watch front i behind hl := by simp [start] at hl

/-- **Couriers that are not disturbed stay watchful.** -/
theorem Watchful.run {ms : List Motion} (h : Watchful f) (hs : Sound f)
    (hms : Follows carrier Undisturbed f ms) : Watchful (run carrier f ms) :=
  (hms.induction (P := fun f => Watchful f ∧ Sound f) ⟨h, hs⟩ fun _ m hf hm =>
    ⟨hf.1.move hf.2 hm, hf.2.move m⟩).1

/-! ## Everybody waits -/

/-- Everybody waits, and for something that lies ahead. -/
def AtRest (f : Fleet) : Prop :=
  f.awake = [] ∧ ∀ i a, (f.phase i).alarm? = some a → f.now < a

instance (f : Fleet) : Decidable f.AtRest :=
  decidable_of_iff (f.awake = [] ∧ ∀ i < f.couriers.size, ∀ a ∈ (f.phase i).alarm?, f.now < a)
    (and_congr_right fun _ =>
      (forall_phase_iff (P := fun p => ∀ a ∈ p.alarm?, f.now < a) fun _ ha => nomatch ha).symm)

/-- Whether a courier in this phase is in a call. -/
def Phase.isCalling : Phase → Bool
  | .calling _ => true
  | _ => false

/-- **Somebody is on guard for the request at the head,** until the very moment at which it is due:
the last in line, who has nobody behind it. -/
lemma Watchful.exists_guarding (h : Watchful f) (hs : Sound f) (hrest : AtRest f)
    (hidle : ∃ i < f.couriers.size, (f.phase i).isCalling = false) :
    ∀ q ∈ f.outbox.entries.head?, ∃ i, f.phase i = .guarding q.due := by
  obtain ⟨i, hi, hcall⟩ := hidle
  have hline : i ∈ f.gate.line := by
    rw [hs.mem_line]
    have hruns := hs.not_runs hrest.1 hi
    have hfits := h.fits i
    cases hp : f.phase i <;> simp_all [Phase.runs, Phase.inLine, Phase.Fits, Phase.isCalling]
  obtain ⟨front, j, hl⟩ := (List.eq_nil_or_concat f.gate.line).resolve_left
    (List.ne_nil_of_mem hline)
  rw [List.concat_eq_append] at hl
  have hw := h.watch front j [] hl
  have hj : (f.phase j).inLine = true := (hs.mem_line j).mp (by simp [hl])
  have hview : f.view = f.outbox.entries := by simp [view, inHand, hrest.1]
  rw [hrest.1, hview] at hw
  intro q hq
  obtain ⟨qs, he⟩ := List.head?_eq_some_iff.mp hq
  cases hp : f.phase j with
  | parked =>
      rw [hp, he] at hw
      simp [Phase.Watches] at hw
  | guarding due =>
      have hahead : f.now < due := hrest.2 j due (by simp [hp, Phase.alarm?])
      rw [hp, he] at hw
      have hd : due = q.due := by simpa using hw hahead
      exact ⟨j, hd ▸ hp⟩
  | _ => simp [hp, Phase.inLine] at hj

lemma Watchful.head_not_due (h : Watchful f) (hs : Sound f) (hrest : AtRest f)
    (hidle : ∃ i < f.couriers.size, (f.phase i).isCalling = false) :
    ∀ q ∈ f.outbox.entries.head?, f.now < q.due := by
  intro q hq
  obtain ⟨i, hp⟩ := h.exists_guarding hs hrest hidle q hq
  exact hrest.2 i q.due (by simp [hp, Phase.alarm?])

/-- **A request that is due waits only for one of a higher rank that is not due.**  While everybody
waits and some courier is not in a call, the request at the head of the outbox is not due, so that
one which is due has a lower rank.  This holds for any number of couriers, any carrier and any run
in which each courier that goes on does so until it waits, in whatever order, and none drops a
request that has expired before it was due. -/
theorem due_behind_early (carrier : Carrier) (capacity limit workers : ℕ) (timeout : Span)
    (ms : List Motion)
    (hms : Follows carrier Undisturbed (start (.empty capacity limit) {} workers timeout) ms) :
    let f := run carrier (start (.empty capacity limit) {} workers timeout) ms
    AtRest f → (∃ i < f.couriers.size, (f.phase i).isCalling = false) →
      ∀ r ∈ f.outbox.entries, r.due ≤ f.now →
        ∃ q ∈ f.outbox.entries.head?, q.priority < r.priority ∧ f.now < q.due := by
  intro f hrest hidle r hr hdue
  have hs : Sound f := (sound_start (.empty capacity limit) workers timeout).run ms
  have hw : Watchful f :=
    (watchful_start capacity limit workers timeout).run (sound_start _ _ _) hms
  obtain ⟨q, qs, he⟩ := List.exists_cons_of_ne_nil (List.ne_nil_of_mem hr)
  have hq : f.now < q.due := hw.head_not_due hs hrest hidle q (by simp [he])
  refine ⟨q, by simp [he], ?_, hq⟩
  have hordered := f.outbox.ordered
  rw [he] at hr hordered
  rcases List.mem_cons.mp hr with rfl | hr
  · omega
  · have hrank : r.precedes q = false := (List.pairwise_cons.mp hordered).1 r hr
    rw [Bool.eq_false_iff, ne_eq, Request.precedes_iff] at hrank
    omega

/-- One courier, a request that is due in a minute, and one of a lower rank that is due now: the
courier looks twice, and then waits for the first. -/
def shadowed : List Motion :=
  [.offer { path := "/later", priority := 10, due := 60000 }, .offer { path := "/now", due := 0 },
    .act 0, .act 0, .act 0, .act 0, .act 0, .act 0]

/-- There the request that is due stands behind the other one. -/
theorem due_behind_early_shadowed :
    let f := run (fun _ _ => {}) (start (.empty 10 5) {} 1 (.seconds 5)) shadowed
    AtRest f ∧ ∃ r ∈ f.outbox.entries, r.path = "/now" ∧ r.due ≤ f.now ∧
      ∃ q ∈ f.outbox.entries.head?, q.priority < r.priority ∧ f.now < q.due := by
  intro f
  have hrest : AtRest f := by decide +kernel
  have hidle : ∃ i < f.couriers.size, (f.phase i).isCalling = false := by decide +kernel
  have hentry : ∃ r ∈ f.outbox.entries, r.path = "/now" ∧ r.due ≤ f.now := by decide +kernel
  obtain ⟨r, hr, hpath, hdue⟩ := hentry
  exact ⟨hrest, r, hr, hpath, hdue,
    due_behind_early _ 10 5 1 (.seconds 5) shadowed (by decide +kernel) hrest hidle r hr hdue⟩

/-- **Idle couriers do leave requests unsent that are due.**  First with two couriers of which none
is ever in a call: the request that is due has a lower rank than one that is not.  Then with one
that is due and at the head: the courier that waits, waits for a request that another has dropped
since, because it expired before it was due.  At last with couriers that are interrupted in the
middle of their turns: the second looks while the first has the most urgent request in hand, waits
for the next one, and is left alone with both when the first is called away. -/
theorem idle_while_due :
    (let orders : List Order := [.offer { path := "/later", priority := 10, due := 60000 },
        .offer { path := "/now", due := 0 }, .advance 1000]
      let f := orders.foldl (obey fun _ _ => {}) (start (.empty 10 5) {} 2 (.seconds 5))
      AtRest f ∧ (∃ i < f.couriers.size, (f.phase i).isCalling = false) ∧ f.attempts = [] ∧
        ∃ r ∈ f.outbox.entries, r.path = "/now" ∧ r.due ≤ f.now) ∧
    (let carrier : Carrier := fun path _ =>
        if path = "/busy" then { latency := 60 } else { latency := 1000000 }
      let orders : List Order := [.offer { path := "/busy", priority := 1, due := 0 },
        .offer { path := "/h0", priority := 10, due := 200, expiry := some 50 },
        .offer { path := "/x", priority := 20, due := 0 },
        .offer { path := "/h1", priority := 30, due := 100 }, .advance 150]
      let f := orders.foldl (obey carrier) (start (.empty 10 5) {} 2 (.seconds 1000))
      AtRest f ∧ (∃ i < f.couriers.size, (f.phase i).isCalling = false) ∧
        ∃ q ∈ f.outbox.entries.head?, q.path = "/h1" ∧ q.due ≤ f.now) ∧
    (let carrier : Carrier := fun _ _ => { latency := 1000000 }
      let f := start (.empty 10 5) {} 2 (.seconds 1000)
      let ms : List Motion := [.act 0, .act 1, .offer { path := "/h", priority := 10, due := 100 },
        .offer { path := "/x", priority := 20, due := 200 }, .act 0, .act 1, .act 0, .act 0, .act 1,
        .act 1, .offer { path := "/now", priority := 0, due := 0 }, .act 0, .act 0, .pass 150]
      let g := run carrier f ms
      Follows carrier Prompt f ms ∧ AtRest g ∧
        (∃ i < g.couriers.size, (g.phase i).isCalling = false) ∧
        ∃ q ∈ g.outbox.entries.head?, q.path = "/h" ∧ q.due ≤ g.now) := by
  refine ⟨?_, ?_, ?_⟩ <;> decide +kernel

end HostAgent.Fleet
