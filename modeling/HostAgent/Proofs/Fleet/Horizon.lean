import HostAgent.Proofs.Fleet.Attempts
import HostAgent.Proofs.Fleet.Precedence

/-!
# The horizon

The clock of a fleet goes on for ever, while a real one has an end: points of time are seconds in a
signed register of 64 bits, and a request that fails cannot be due behind the last of them.  As long
as the clock has not gone a quarter of the way, this makes no difference, if requests do not come in
with most of their attempts used up.

* `OnClock` — no request that is about to go back is due behind the end of the clock.
* `Measured`, `Measured.run` — every request that a fleet holds has used up few attempts, or is due
  a very long time after the start.
* `Measured.onClock` — so a fleet stays on the clock.
-/

namespace HostAgent.Fleet

open Outbound (Request)

variable {carrier : Carrier} {f g : Fleet} {c : Call} {x : Item} {m : Motion}

/-- A request that is about to go back after a failure is due before the end of the clock. -/
def OnClock (f : Fleet) : Prop :=
  ∀ i c, f.phase i = .reporting c → 0 < c.request.retriesLeft - 1 →
    (f.retried c.request).due < 1000 * Word.half64

/-- At most sixty-one of the attempts that the limit allows are used up, or the request is not due
in the first quarter of the time. -/
def Item.Measured (limit : ℕ) (x : Item) : Prop :=
  limit ≤ x.request.retriesLeft + 61 ∨ 1000 * 2 ^ 61 ≤ x.request.due

/-- All requests that a fleet holds are measured, and those that are called were due. -/
structure Measured (f : Fleet) : Prop where
  now : 0 ≤ f.now
  items : ∀ x ∈ f.items, x.Measured f.outbox.retryLimit
  called : ∀ c, .called c ∈ f.items → c.request.due ≤ f.now

/-- **A failed request stays measured.**  Once sixty-two attempts are used up, it rests for longer
than the first quarter of the time. -/
lemma Measured.retried (h : Measured f) (hc : .called c ∈ f.items) :
    (Item.waiting (f.retried c.request)).Measured f.outbox.retryLimit := by
  have hnow := h.now
  have hrest := lt_retried_due f c.request
  change f.outbox.retryLimit ≤ c.request.retriesLeft - 1 + 61 ∨
    1000 * 2 ^ 61 ≤ (f.retried c.request).due
  rcases h.items _ hc with hleft | hfar
  · change f.outbox.retryLimit ≤ c.request.retriesLeft + 61 at hleft
    by_cases hlast : f.outbox.retryLimit ≤ c.request.retriesLeft - 1 + 61
    · exact .inl hlast
    · have hused : f.outbox.retryLimit - (c.request.retriesLeft - 1) = 62 := by omega
      refine .inr ?_
      change _ ≤ (Outbound.pause f.outbox.retryLimit (c.request.retriesLeft - 1)).after f.now
      rw [Outbound.pause_after (by omega), hused]
      omega
  · change 1000 * 2 ^ 61 ≤ c.request.due at hfar
    have hdue := h.called c hc
    exact .inr (by omega)

/-- Whatever a motion does with the items, they stay measured. -/
lemma Measured.trade {es : List Event} (h : Measured f) (htrades : Trades carrier f es g)
    (hnow : f.now ≤ g.now) (hlimit : g.outbox.retryLimit = f.outbox.retryLimit) : Measured g := by
  obtain ⟨out, new, rest, htrade, hf, hg⟩ := htrades
  have hout : ∀ x ∈ out, x ∈ f.items := fun x hx => hf ▸ Multiset.mem_add.mpr (.inl hx)
  have hrest : ∀ x ∈ rest, x ∈ f.items := fun x hx => hf ▸ Multiset.mem_add.mpr (.inr hx)
  have hnew : (∀ x ∈ new, x.Measured f.outbox.retryLimit) ∧
      ∀ c, .called c ∈ new → c.request.due ≤ f.now := by
    cases htrade with
    | accept r hroom => exact ⟨by simp [Item.Measured, Item.request, Outbox.stamp], by simp⟩
    | @call r hx hd =>
        have hr : (Item.waiting r).Measured f.outbox.retryLimit := h.items _ (hout _ (by simp))
        refine ⟨fun x hx => ?_, by simpa [callFor, Request.isDue] using hd⟩
        obtain rfl := Multiset.mem_singleton.mp hx
        exact hr
    | @requeue c i hp hc hr hroom => exact ⟨by simpa using h.retried (hout _ (by simp)), by simp⟩
    | _ => exact ⟨by simp, by simp⟩
  refine ⟨h.now.trans hnow, fun x hx => ?_, fun c hc => ?_⟩
  · rw [hlimit]
    exact (Multiset.mem_add.mp (hg ▸ hx)).elim (hnew.1 x) fun hx => h.items x (hrest x hx)
  · refine le_trans ?_ hnow
    exact (Multiset.mem_add.mp (hg ▸ hc)).elim (hnew.2 c) fun hc => h.called c (hrest _ hc)

/-- **Every run keeps the items measured.** -/
theorem Measured.run (carrier : Carrier) (h : Measured f) (hs : Sound f) (ms : List Motion) :
    Measured (run carrier f ms) := by
  induction ms generalizing f with
  | nil => exact h
  | cons m ms ih =>
      exact ih (h.trade (move_trades carrier hs m) (now_le_move carrier hs m)
        (limits_move carrier hs m).1) (hs.move m)

/-- **In the first quarter of the time a fleet stays on the clock.** -/
theorem Measured.onClock (h : Measured f) (hnow : f.now < 1000 * 2 ^ 61) : OnClock f := by
  intro i c hp hr
  have hc : .called c ∈ f.items :=
    mem_items_of_phase (i := i) (lt_size_of_phase_ne (by simp [hp])) (by simp [hp])
  have hdue := h.called c hc
  have hleft : f.outbox.retryLimit ≤ c.request.retriesLeft + 61 :=
    (h.items _ hc).resolve_right fun hfar => by
      change 1000 * 2 ^ 61 ≤ c.request.due at hfar
      omega
  have hused : f.outbox.retryLimit - (c.request.retriesLeft - 1) ≤ 62 := by omega
  have hpow : (2 : Int) ^ (f.outbox.retryLimit - (c.request.retriesLeft - 1)) ≤ 2 ^ 62 :=
    pow_le_pow_right₀ (by omega) hused
  change (Outbound.pause f.outbox.retryLimit (c.request.retriesLeft - 1)).after f.now < _
  rw [Outbound.pause_after (by omega), Word.half64]
  omega

end HostAgent.Fleet
