import HostAgent.Proofs.Text.Utf8
import HostAgent.Proofs.Url.Paths

/-!
# Segments without percent signs

A percent sign may be the first of a percent form, or stand for itself.  A text without one has one
reading only, so different texts stay different when they are encoded, and a dot segment is one or
two full stops.

* `encode_inj` — different texts are written differently.
* `isDot_iff_eq`, `isDotDot_iff_eq` — the dot segments.
* `enter_inj` — different segments leave different stacks.
* `pathText_splitPath` — a path is its segments, with a slash before each.
-/

namespace HostAgent.Url

open Percent

variable {p : Char → Bool} {cs s t : List Char} {rev : List (List Char)}

/-- Texts without percent signs that stand for the same bytes are equal. -/
lemma decode_inj (hs : '%' ∉ s) (ht : '%' ∉ t) : decode s = decode t ↔ s = t := by
  rw [decode_of_not_mem hs, decode_of_not_mem ht]
  exact Text.flatMap_utf8_injective.eq_iff

/-- **Texts without percent signs are written differently.** -/
theorem encode_inj (hp : Sparing p) (hs : '%' ∉ s) (ht : '%' ∉ t) :
    encode p s = encode p t ↔ s = t := by
  refine ⟨fun h => (decode_inj hs ht).mp ?_, fun h => by rw [h]⟩
  rw [← decode_encode hp s, h, decode_encode hp]

/-- The segment that stands for its own place. -/
lemma isDot_iff_eq (h : '%' ∉ s) : isDot s = true ↔ s = ['.'] := by
  rw [isDot_iff, ← decode_inj h (t := ['.']) (by decide)]
  rfl

/-- The segment that stands for the place above. -/
lemma isDotDot_iff_eq (h : '%' ∉ s) : isDotDot s = true ↔ s = ['.', '.'] := by
  rw [isDotDot_iff, ← decode_inj h (t := ['.', '.']) (by decide)]
  rfl

/-- All other segments stand for themselves. -/
lemma settled_iff (h : '%' ∉ s) : Settled s ↔ s ≠ ['.', '.'] ∧ s ≠ ['.'] := by
  rw [ne_eq, ne_eq, ← isDotDot_iff_eq h, ← isDot_iff_eq h, Bool.not_eq_true, Bool.not_eq_true]
  exact ⟨fun h => ⟨h.notAbove, h.notHere⟩, fun h => ⟨h.1, h.2⟩⟩

/-- The three heights that a stack can have after one more segment. -/
lemma length_enter (hpercent : '%' ∉ s) : (enter rev s).length =
    if s = ['.', '.'] then rev.length - 1 else if s = ['.'] then rev.length
      else rev.length + 1 := by
  simp only [enter, isDotDot_iff_eq hpercent, isDot_iff_eq hpercent]
  split_ifs <;> simp

/-- **Different segments leave different stacks**, also when these are encoded. -/
theorem enter_inj (hrev : rev ≠ []) (hs : '%' ∉ s) (ht : '%' ∉ t)
    (h : (enter rev s).map (encode inPath) = (enter rev t).map (encode inPath)) : s = t := by
  have hpos : 0 < rev.length := List.length_pos_iff.mpr hrev
  have hlength := congrArg List.length h
  rw [List.length_map, List.length_map, length_enter hs, length_enter ht] at hlength
  by_cases hsettled : Settled s ∧ Settled t
  · rw [enter_of_settled hsettled.1, enter_of_settled hsettled.2, List.map_cons, List.map_cons,
      List.cons.injEq] at h
    exact (encode_inj sparing_inPath hs ht).mp h.1
  · -- a dot segment is told from the others by the height of the stack
    rw [settled_iff hs, settled_iff ht] at hsettled
    split_ifs at hlength <;> first | omega | simp_all

/-- A path is its segments, with a slash before each. -/
lemma pathText_splitPath (h : '\\' ∉ cs) : pathText (splitPath .web cs) = '/' :: cs := by
  rw [splitPath_web]
  induction cs with
  | nil => rfl
  | cons c cs ih =>
      rw [List.mem_cons, not_or] at h
      obtain ⟨s, segs, hsplit⟩ := List.exists_cons_of_ne_nil (List.splitOnP_ne_nil isSlash cs)
      have htail := ih h.2
      rw [hsplit] at htail
      rw [List.splitOnP_cons_eq_if_modifyHead, hsplit]
      split_ifs with hc
      · obtain rfl : c = '/' := by simpa [isSlash, Ne.symm h.1] using hc
        exact congrArg ('/' :: ·) htail
      · exact congrArg (fun cs => '/' :: c :: cs) (List.cons.inj htail).2

end HostAgent.Url
