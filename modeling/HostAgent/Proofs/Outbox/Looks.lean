import HostAgent.Proofs.Outbox.Arrivals
import Mathlib.Data.List.Rotate

/-!
# Looks that come too early

Somebody takes the most urgent request, finds that it is not due and puts it back.  It comes in
again like any other, and so it stands behind those of its rank.

* `look` — one such look.
* `peers`, `others` — the requests of the rank that leaves first, and the rest.
  `peers_append_others` says that the outbox is the ones followed by the others.
* `entries_look` — a look sends the first of the peers behind the last and touches nobody else.
* `drained` — what leaves if requests are taken until none is left.
* `looks_keep_order_iff` — so many looks rotate the peers as often, lose nothing, and keep the
  order in which requests leave exactly if no peer differs from the first.
* `look_overtakes` — of two requests of one rank the later one leaves first after a look.
-/

namespace HostAgent

open Outbound (Request)

namespace Outbound.Request

/-- Whether two requests have the same rank. -/
def abreast (a b : Request) : Bool :=
  a.priority == b.priority && a.due == b.due

lemma abreast_iff {a b : Request} :
    a.abreast b = true ↔ a.priority = b.priority ∧ a.due = b.due := by
  simp [abreast]

lemma abreast_self (r : Request) : r.abreast r = true :=
  abreast_iff.mpr ⟨rfl, rfl⟩

/-- Of two requests one is more urgent, or they have the same rank. -/
lemma precedes_of_not_abreast {a b : Request} (hab : a.abreast b = false)
    (hba : b.precedes a = false) : a.precedes b = true := by
  rw [Bool.eq_false_iff, ne_eq, abreast_iff] at hab
  rw [Bool.eq_false_iff, ne_eq, precedes_iff] at hba
  rw [precedes_iff]
  omega

lemma not_precedes_of_abreast {a b : Request} (h : a.abreast b = true) : b.precedes a = false := by
  rw [abreast_iff] at h
  rw [Bool.eq_false_iff, ne_eq, precedes_iff]
  omega

end Outbound.Request

namespace Outbox

open Outbound.Request

variable {b : Outbox} {q r : Request} {es front back : List Request}

/-- The most urgent request is taken and put back. -/
def look (b : Outbox) : Outbox :=
  match b.take? with
  | some (r, rest) => (rest.insert r).2
  | none => b

/-- Whether a request has the rank that leaves first. -/
def leads (b : Outbox) (e : Request) : Bool :=
  b.entries.head?.any fun r => e.abreast r

/-- The requests of the rank that leaves first. -/
def peers (b : Outbox) : List Request :=
  b.entries.filter b.leads

/-- The requests of all other ranks. -/
def others (b : Outbox) : List Request :=
  b.entries.filter fun e => !b.leads e

/-- The requests in the order in which they leave if they are taken until none is left. -/
def drained (b : Outbox) : List Request :=
  handedOut (serve obey b (List.replicate (b.size + 1) .take)).1

lemma drained_eq (b : Outbox) : b.drained = b.entries := by
  rw [drained, serve_take, handedOut, List.filterMap_append, List.filterMap_map]
  simp [Reply.request?, Function.comp_def]

/-! ## The peers stand in front -/

/-- Where none is more urgent than a request, those of its rank come first. -/
lemma filter_abreast_append (ho : es.Pairwise fun a c => c.precedes a = false)
    (hr : ∀ e ∈ es, e.precedes r = false) :
    (es.filter (·.abreast r)) ++ (es.filter fun e => !e.abreast r) = es := by
  induction es with
  | nil => rfl
  | cons e es ih =>
      obtain ⟨he, hes⟩ := List.pairwise_cons.mp ho
      obtain ⟨her, hrest⟩ := List.forall_mem_cons.mp hr
      cases hrank : e.abreast r with
      | true => simpa [List.filter_cons, hrank] using ih hes hrest
      | false =>
          -- from the first one of another rank on nobody is of this rank
          have hlate : ∀ q ∈ es, q.abreast r = false := by
            intro q hq
            have hqe := he q hq
            rw [Bool.eq_false_iff, ne_eq, abreast_iff] at hrank ⊢
            rw [Bool.eq_false_iff, ne_eq, precedes_iff] at hqe her
            omega
          have hnone : es.filter (·.abreast r) = [] :=
            List.filter_eq_nil_iff.mpr fun q hq => by simp [hlate q hq]
          have hall : es.filter (fun e => !e.abreast r) = es :=
            List.filter_eq_self.mpr fun q hq => by simp [hlate q hq]
          simp [hrank, hnone, hall]

lemma leads_eq (he : b.entries = r :: es) : b.leads = fun e => e.abreast r := by
  funext e
  simp [leads, he]

lemma head_mem_peers (he : b.entries = r :: es) : r ∈ b.peers :=
  List.mem_filter.mpr ⟨by simp [he], by simp [leads_eq he, abreast_self]⟩

/-- **The outbox is the peers followed by the others.** -/
theorem peers_append_others (b : Outbox) : b.peers ++ b.others = b.entries := by
  rw [peers, others]
  cases he : b.entries with
  | nil => rfl
  | cons r es =>
      have ho := b.ordered
      rw [he] at ho
      rw [leads_eq he]
      refine filter_abreast_append ho (List.forall_mem_cons.mpr ⟨?_, (List.pairwise_cons.mp ho).1⟩)
      exact not_precedes_of_abreast (abreast_self r)

/-- A request is placed behind those that it does not precede and in front of the rest. -/
lemma place_append (hfront : ∀ e ∈ front, r.precedes e = false)
    (hback : ∀ e ∈ back, r.precedes e = true) :
    place r (front ++ back) = front ++ r :: back := by
  induction front with
  | nil =>
      cases back with
      | nil => rfl
      | cons e back => simp [place, hback e List.mem_cons_self]
  | cons e front ih =>
      obtain ⟨he, hfront⟩ := List.forall_mem_cons.mp hfront
      rw [List.cons_append, place, he, if_neg Bool.false_ne_true, ih hfront, List.cons_append]

/-! ## One look -/

lemma look_of_entries (he : b.entries = r :: es) :
    b.look = (b.tail.insert r).2 ∧ b.tail.hasRoom = true ∧ b.tail.entries = es := by
  have htail : b.tail.entries = es := congrArg List.tail he
  have htake : b.take? = some (r, b.tail) := take?_eq_some_iff.mpr ⟨rfl, by rw [he, htail]⟩
  exact ⟨by rw [look, htake], hasRoom_of_take? htake, htail⟩

/-- **A look sends the first of the peers behind the last.** -/
theorem entries_look (b : Outbox) : b.look.entries = b.peers.rotate 1 ++ b.others := by
  have hsplit := b.peers_append_others
  cases he : b.entries with
  | nil =>
      have htake : b.take? = none := take?_eq_none_iff.mpr he
      simp [look, htake, peers, others, he]
  | cons r es =>
      obtain ⟨hlook, hroom, htail⟩ := look_of_entries he
      have hself := abreast_self r
      have hpeers : b.peers = r :: es.filter (·.abreast r) := by
        rw [peers, leads_eq he, he, List.filter_cons, if_pos hself]
      have hothers : b.others = es.filter fun e => !e.abreast r := by
        simp [others, leads_eq he, he, hself]
      rw [hpeers, hothers, he, List.cons_append, List.cons.injEq] at hsplit
      have ho := b.ordered
      rw [he] at ho
      have hplace : place r es
          = es.filter (·.abreast r) ++ r :: es.filter fun e => !e.abreast r := by
        conv_lhs => rw [← hsplit.2]
        refine place_append (fun e hmem => ?_) fun e hmem => ?_
        · exact not_precedes_of_abreast (List.mem_filter.mp hmem).2
        · obtain ⟨hmem, hrank⟩ := List.mem_filter.mp hmem
          refine precedes_of_not_abreast ?_ ((List.pairwise_cons.mp ho).1 e hmem)
          rw [Bool.not_eq_true', Bool.eq_false_iff, ne_eq, abreast_iff] at hrank
          rw [Bool.eq_false_iff, ne_eq, abreast_iff]
          omega
      rw [hlook, insert_entries, if_pos hroom, htail, hplace, hpeers, hothers,
        List.rotate_cons_succ, List.rotate_zero, List.append_assoc, List.singleton_append]

lemma dropped_look (b : Outbox) : b.look.dropped = b.dropped := by
  cases he : b.entries with
  | nil => rw [look, take?_eq_none_iff.mpr he]
  | cons r es =>
      obtain ⟨hlook, hroom, -⟩ := look_of_entries he
      rw [hlook, insert_dropped, if_pos hroom]
      rfl

/-- A look does not change which rank leaves first. -/
lemma leads_look (b : Outbox) : b.look.leads = b.leads := by
  have hlook := b.entries_look
  cases he : b.entries with
  | nil => rw [look, take?_eq_none_iff.mpr he]
  | cons r es =>
      have hself := head_mem_peers he
      obtain ⟨q, qs, hq⟩ := List.exists_cons_of_ne_nil
        (List.ne_nil_of_mem (List.mem_rotate.mpr hself : r ∈ b.peers.rotate 1))
      have hqr : q.abreast r = true := by
        have hmem : q ∈ b.peers := List.mem_rotate.mp (hq ▸ List.mem_cons_self)
        simpa [leads, he] using (List.mem_filter.mp hmem).2
      rw [hq, List.cons_append] at hlook
      rw [leads_eq hlook, leads_eq he]
      funext e
      rw [abreast_iff] at hqr
      rw [abreast, abreast, hqr.1, hqr.2]

lemma peers_look (b : Outbox) : b.look.peers = b.peers.rotate 1 := by
  rw [peers, leads_look, entries_look, List.filter_append]
  have hpeers : (b.peers.rotate 1).filter b.leads = b.peers.rotate 1 :=
    List.filter_eq_self.mpr fun e he => (List.mem_filter.mp (List.mem_rotate.mp he)).2
  have hothers : b.others.filter b.leads = [] :=
    List.filter_eq_nil_iff.mpr fun e he => by simpa using (List.mem_filter.mp he).2
  rw [hpeers, hothers, List.append_nil]

lemma others_look (b : Outbox) : b.look.others = b.others := by
  have hlook := b.look.peers_append_others
  rw [entries_look, peers_look] at hlook
  exact List.append_cancel_left hlook

/-! ## Many looks -/

/-- So many looks rotate the peers as often. -/
lemma looks (b : Outbox) (k : ℕ) :
    (look^[k] b).peers = b.peers.rotate k ∧ (look^[k] b).others = b.others ∧
      (look^[k] b).dropped = b.dropped := by
  induction k with
  | zero => simp
  | succ k ih =>
      obtain ⟨hpeers, hothers, hdropped⟩ := ih
      rw [Function.iterate_succ_apply', peers_look, others_look, dropped_look, hpeers, hothers,
        hdropped, List.rotate_rotate]
      exact ⟨rfl, rfl, rfl⟩

/-- All peers are alike if they are like the one at the head. -/
lemma peers_alike_iff (b : Outbox) :
    (∃ a, b.peers = List.replicate b.peers.length a) ↔
      ∀ e ∈ b.peers, b.entries.head? = some e := by
  simp only [List.eq_replicate_iff, true_and]
  cases he : b.entries with
  | nil => simp [peers, he]
  | cons r es =>
      have hself := head_mem_peers he
      constructor
      · rintro ⟨a, ha⟩ e hmem
        rw [List.head?_cons, ha r hself, ha e hmem]
      · exact fun h => ⟨r, fun e hmem => (Option.some.inj (h e hmem)).symm⟩

/-- **Looks keep the order in which requests leave exactly if no request of the head's rank differs
from the one at the head.**  So many looks, each of which takes the most urgent request and puts it
back, refuse no request and rotate those of the head's rank as often; all others leave as before.
So the order stays the same, after one look or after any number of them, if and only if there is
only one request of that rank, or they are all alike. -/
theorem looks_keep_order_iff (b : Outbox) :
    (∀ k, (look^[k] b).drained = b.peers.rotate k ++ b.others ∧
      (look^[k] b).dropped = b.dropped) ∧
    (b.look.drained = b.drained ↔ ∀ e ∈ b.peers, b.entries.head? = some e) ∧
    ((∀ k, (look^[k] b).drained = b.drained) ↔ ∀ e ∈ b.peers, b.entries.head? = some e) := by
  have hrotate (k : ℕ) : (look^[k] b).drained = b.peers.rotate k ++ b.others := by
    obtain ⟨hpeers, hothers, -⟩ := b.looks k
    rw [drained_eq, ← peers_append_others, hpeers, hothers]
  have hkept (k : ℕ) : (look^[k] b).drained = b.drained ↔ b.peers.rotate k = b.peers := by
    rw [hrotate, drained_eq, ← peers_append_others, List.append_left_inj]
  refine ⟨fun k => ⟨hrotate k, (b.looks k).2.2⟩, ?_, ?_⟩
  · rw [← peers_alike_iff, ← List.rotate_one_eq_self_iff_eq_replicate]
    exact hkept 1
  · rw [← peers_alike_iff, ← List.rotate_eq_self_iff_eq_replicate]
    exact forall_congr' hkept

/-- **A look lets a later request overtake an earlier one of the same rank.**  Two requests come in
that are due at the same time.  Before the look they leave in the order in which they came, and
after it the other way round. -/
theorem look_overtakes :
    let b := (serve obey (.empty 10 5)
      [.offer { path := "/a", due := 1000 }, .offer { path := "/b", due := 1000 }]).2
    b.drained.map (·.path) = ["/a", "/b"] ∧ b.look.drained.map (·.path) = ["/b", "/a"] := by
  decide

end Outbox

end HostAgent
