import HostAgent.Proofs.Fleet.Custody
import HostAgent.Proofs.Fleet.Watch

/-!
# Somebody is on guard for the head of the outbox

As long as no request expires, a courier that takes one too early puts it back.  So whoever waits
for the request at the head has not been deceived about it, and there always is one who waits for
it, in whatever order the couriers that are awake take their turns.

* `Undivided` — the rule of couriers that go on until they wait, one at a time and in any order,
  and are given requests that do not expire.
* `Lasting` — none of the requests that a fleet holds expires.
* `Undivided.undisturbed` — under that rule nobody drops a request, and the couriers stay watchful.
* `head_is_guarded` — so when everybody waits and some courier is not in a call, one is on guard
  until the request at the head is due.
-/

namespace HostAgent.Fleet

open Outbound (Request)

variable {carrier : Carrier} {f : Fleet} {i : ℕ} {r : Request} {m : Motion}
  {es : List Event} {out new : Multiset Item}

/-! ## Undivided turns -/

/-- The rule of couriers that go on until they wait, one at a time and in any order.  They are given
requests that do not expire, share the outbox with nobody, and are not told to stop. -/
def Undivided (f : Fleet) : Motion → Prop
  | .offer r => r.expiry = none ∧ f.BetweenTurns
  | .act i => f.BetweenTurns ∨ f.awake.head? = some i
  | .pass t => f.QuietUntil t
  | .ring _ => True
  | .pop | .stop => False

instance (f : Fleet) : ∀ m, Decidable (f.Undivided m)
  | .offer r => inferInstanceAs (Decidable (r.expiry = none ∧ f.BetweenTurns))
  | .act i => inferInstanceAs (Decidable (f.BetweenTurns ∨ f.awake.head? = some i))
  | .pass t => inferInstanceAs (Decidable (f.QuietUntil t))
  | .ring _ => isTrue trivial
  | .pop | .stop => isFalse id

/-! ## Requests that do not expire -/

/-- None of the requests that a fleet holds expires. -/
def Lasting (f : Fleet) : Prop :=
  ∀ x ∈ f.items, x.request.expiry = none

/-- A request that comes in is a producer's. -/
lemma accepted_mem_news (h : .accepted r ∈ news carrier f m) :
    ∃ r', m = .offer r' ∧ r = f.outbox.stamp r' := by
  have hreport (p : Phase) : .accepted r ∉ report? carrier f p := fun hr => by
    have hcoming : r.id ∈ comings (report? carrier f p) :=
      Multiset.mem_coe.mpr (List.mem_filterMap.mpr ⟨_, hr, rfl⟩)
    rw [comings_report?] at hcoming
    exact Multiset.notMem_zero _ hcoming
  cases m with
  | offer r' =>
      simp only [news] at h
      split_ifs at h
      · exact ⟨r', rfl, by simpa using h⟩
      · simp at h
  | act i =>
      simp only [news] at h
      split_ifs at h
      · exact absurd h (hreport _)
      · simp at h
  | pop =>
      simp only [news] at h
      split at h <;> simp at h
  | _ => simp [news] at h

/-- Requests that do not expire become requests that do not expire. -/
lemma Trade.lasting (h : Trade carrier f es out new) (hout : ∀ x ∈ out, x.request.expiry = none)
    (hnews : ∀ r, .accepted r ∈ es → r.expiry = none) : ∀ x ∈ new, x.request.expiry = none := by
  cases h with
  | accept r hroom => simpa [Item.request] using hnews _ (List.mem_singleton_self _)
  | call hx hd => simpa [Item.request, callFor] using hout
  | requeue hp hc hr hroom => simpa [Item.request, retried] using hout
  | _ => simp

lemma Lasting.move (h : Lasting f) (hs : Sound f) (hm : Undivided f m) :
    Lasting (move carrier f m) := by
  obtain ⟨out, new, rest, htrade, hf, hg⟩ := move_trades carrier hs m
  have hold : ∀ x ∈ out + rest, x.request.expiry = none := hf ▸ h
  have hnews : ∀ r, .accepted r ∈ news carrier f m → r.expiry = none := by
    intro r hr
    obtain ⟨r', rfl, rfl⟩ := accepted_mem_news hr
    exact hm.1
  have hnew := htrade.lasting (fun x hx => hold x (Multiset.mem_add.mpr (.inl hx))) hnews
  intro x hx
  rw [hg, Multiset.mem_add] at hx
  exact hx.elim (hnew x) fun hx => hold x (Multiset.mem_add.mpr (.inr hx))

lemma Lasting.not_dropsEarly (h : Lasting f) (i : ℕ) :
    (f.phase i).dropsEarly f.now = false := by
  cases hp : f.phase i with
  | holding r =>
      have hi : i < f.couriers.size := lt_size_of_phase_ne (by simp [hp])
      have hexpiry : r.expiry = none :=
        h (.waiting r) (mem_items_of_phase hi (by simp [hp]))
      simp [Phase.dropsEarly, Request.isExpired, hexpiry]
  | _ => rfl

/-! ## Somebody is on guard -/

/-- With requests that do not expire nobody drops one. -/
lemma Undivided.undisturbed (h : Undivided f m) (hl : Lasting f) : Undisturbed f m := by
  cases m with
  | offer r => exact h.2
  | act i => exact ⟨h, hl.not_dropsEarly i⟩
  | _ => exact h

/-- **The head of the outbox is guarded.**  Whenever everybody waits for something ahead, some
courier is not in a call and the outbox is not empty, then the most urgent request is not due, and a
courier stands in line until the very moment at which it is.  This holds for any number of couriers,
any carrier, and every run in which each courier that goes on does so until it waits and the
requests do not expire. -/
theorem head_is_guarded (carrier : Carrier) (capacity limit workers : ℕ) (timeout : Span)
    (ms : List Motion)
    (hms : Follows carrier Undivided (start (.empty capacity limit) {} workers timeout) ms) :
    let f := run carrier (start (.empty capacity limit) {} workers timeout) ms
    AtRest f → (∃ i < f.couriers.size, (f.phase i).isCalling = false) →
      ∀ q ∈ f.outbox.entries.head?, f.now < q.due ∧
        ∃ i < f.couriers.size, f.phase i = .guarding q.due := by
  intro f hrest hidle q hq
  have hlasting : Lasting (start (.empty capacity limit) {} workers timeout) := by
    intro x hx
    rw [items_start] at hx
    cases Multiset.notMem_zero x hx
  obtain ⟨hw, hs, -⟩ : Watchful f ∧ Sound f ∧ Lasting f :=
    hms.induction (P := fun f => Watchful f ∧ Sound f ∧ Lasting f)
      ⟨watchful_start capacity limit workers timeout, sound_start _ _ _, hlasting⟩
      fun f m ⟨hw, hs, hl⟩ hm => ⟨hw.move hs (hm.undisturbed hl), hs.move m, hl.move hs hm⟩
  obtain ⟨i, hp⟩ := hw.exists_guarding hs hrest hidle q hq
  exact ⟨hrest.2 i q.due (by simp [hp, Phase.alarm?]), i, lt_size_of_phase_ne (by simp [hp]), hp⟩

/-- Two couriers and a request that is due in a minute: the second courier looks first, twice since
the request has left a permit, and after it the first one looks. -/
def crossed : List Motion :=
  .offer { path := "/later", due := 60000 } ::
    (List.replicate 6 (.act 1) ++ List.replicate 3 (.act 0))

/-- There somebody is on guard for that request. -/
theorem head_is_guarded_crossed :
    let f := run (fun _ _ => {}) (start (.empty 10 5) {} 2 (.seconds 5)) crossed
    AtRest f ∧ ∃ q ∈ f.outbox.entries.head?, q.path = "/later" ∧ f.now < q.due ∧
      ∃ i < f.couriers.size, f.phase i = .guarding q.due := by
  intro f
  have hrest : AtRest f := by decide +kernel
  have hidle : ∃ i < f.couriers.size, (f.phase i).isCalling = false := by decide +kernel
  have hhead : ∃ q ∈ f.outbox.entries.head?, q.path = "/later" := by decide +kernel
  obtain ⟨q, hq, hpath⟩ := hhead
  exact ⟨hrest, q, hq, hpath,
    head_is_guarded _ 10 5 2 (.seconds 5) crossed (by decide +kernel) hrest hidle q hq⟩

end HostAgent.Fleet
