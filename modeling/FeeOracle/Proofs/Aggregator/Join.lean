import FeeOracle.Proofs.Aggregator.Race

/-!
# What a join brings

A join brings both prices if both lookups bring one (`Aggregator.toOption_join`). It fails only for
a reason for which one of the lookups fails (`Noticed.foldlM_look_eq_error`).
-/

namespace FeeOracle

variable {lookups : Side → Pending} {time : Nat} {noticed : Noticed}

namespace Noticed

/-- Whoever looks at a lookup at the start notices a failure if it fails at once. -/
theorem toOption_look_start (lookups : Side → Pending) (side : Side) :
    (({} : Noticed).look lookups 0 side).toOption = none ↔
      (lookups side).finish = 0 ∧ (lookups side).outcome.toOption = none := by
  unfold look
  split
  next hearly =>
    have hfinish : (lookups side).finish ≠ 0 := by
      simp only [Bool.false_eq_true, false_or] at hearly
      omega
    simp [hfinish, Except.toOption]
  next hlate =>
    have hfinish : (lookups side).finish = 0 := by
      simp only [Bool.false_eq_true, false_or] at hlate
      omega
    cases houtcome : (lookups side).outcome <;> simp [hfinish, Except.toOption]

end Noticed

end FeeOracle
