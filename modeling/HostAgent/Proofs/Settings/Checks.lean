import HostAgent.Settings.Validation
import Mathlib.Tactic

/-!
# What the check of settings says

* `check_eq_ok_iff` — settings pass the check if each of their three parts does.
* `retryLimit_of_check`, `path_of_check` — what is known of the parts then.
-/

namespace HostAgent.Settings

variable {s : Settings}

/-- Settings pass the check if each of their parts does. -/
lemma check_eq_ok_iff : s.check = .ok () ↔
    s.server.problem? = none ∧ s.delivery.problem? = none ∧ s.control.problem? = none := by
  unfold check problem?
  cases s.server.problem? <;> cases s.delivery.problem? <;> cases s.control.problem? <;> simp

/-- A request may be attempted at least once and at most thirty times. -/
lemma retryLimit_of_check (h : s.check = .ok ()) :
    1 ≤ s.delivery.retryLimit ∧ s.delivery.retryLimit ≤ 30 := by
  have hdelivery := (check_eq_ok_iff.mp h).2.1
  unfold Delivery.problem? at hdelivery
  split_ifs at hdelivery with _ _ _ hlimit
  omega

/-- The path of the backhaul starts with a slash. -/
lemma path_of_check (h : s.check = .ok ()) : s.control.path.toList.head? = some '/' := by
  have hcontrol := (check_eq_ok_iff.mp h).2.2
  unfold Control.problem? at hcontrol
  split_ifs at hcontrol with hpath
  exact not_not.mp hpath

end HostAgent.Settings
