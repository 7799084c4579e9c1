import Mathlib.Algebra.Order.Group.Int
import Mathlib.Algebra.Ring.Int.Defs
import Mathlib.Data.Int.Order.Basic
import Mathlib.Tactic.Ring

/-!
# Periods

Events that are due at the values of a grid, an interval apart.  When the
clock has reached the value that is due, the next one is the first value of the
grid that is later than the clock.
-/

namespace KafkaToNexus.Foundations.Periods

/-- The number of intervals to the first value after the clock. -/
def periods (interval due now : Int) : Int :=
  (now - due) / interval + 1

/-- The value that is due next. -/
def nextDue (interval due now : Int) : Int :=
  if due ≤ now then due + periods interval due now * interval else due

variable {interval due now : Int}

theorem nextDue_of_le (reached : due ≤ now) :
    nextDue interval due now = due + periods interval due now * interval :=
  if_pos reached

theorem nextDue_of_lt (early : now < due) : nextDue interval due now = due :=
  if_neg (not_le.mpr early)

/-- It is later than the clock. -/
theorem lt_nextDue (positive : 0 < interval) :
    now < nextDue interval due now := by
  by_cases reached : due ≤ now
  · rw [nextDue_of_le reached, periods]
    have upper := Int.lt_ediv_add_one_mul_self (now - due) positive
    omega
  · rw [nextDue, if_neg reached]
    omega

/-- It is at most an interval later. -/
theorem nextDue_le (reached : due ≤ now) (positive : 0 < interval) :
    nextDue interval due now ≤ now + interval := by
  have lower := Int.ediv_mul_le (now - due) (ne_of_gt positive)
  have product :
      periods interval due now * interval =
        (now - due) / interval * interval + interval := by
    rw [periods]
    ring
  rw [nextDue_of_le reached, product]
  omega

theorem periods_pos (reached : due ≤ now) (positive : 0 < interval) :
    0 < periods interval due now := by
  have notNegative :=
    Int.ediv_nonneg (sub_nonneg.mpr reached) (le_of_lt positive)
  rw [periods]
  omega

theorem le_nextDue (positive : 0 < interval) :
    due ≤ nextDue interval due now := by
  by_cases reached : due ≤ now
  · have later := @lt_nextDue interval due now positive
    omega
  · rw [nextDue, if_neg reached]

/-- It is on the grid. -/
theorem nextDue_grid {first index : Int}
    (grid : due = first + index * interval) :
    ∃ next, nextDue interval due now = first + next * interval := by
  by_cases reached : due ≤ now
  · refine ⟨index + periods interval due now, ?_⟩
    rw [nextDue_of_le reached]
    nth_rewrite 1 [grid]
    ring
  · refine ⟨index, ?_⟩
    rw [nextDue, if_neg reached, grid]

/-- A value of the grid later than the clock is not in the clock's period. -/
theorem period_le {first index current : Int} (positive : 0 < interval)
    (inPeriod : first + index * interval ≤ now)
    (later : now < first + current * interval) :
    first + (index + 1) * interval ≤ first + current * interval := by
  have below : index * interval < current * interval := by omega
  have less : index < current :=
    Int.lt_of_mul_lt_mul_right below (le_of_lt positive)
  have next : (index + 1) * interval ≤ current * interval :=
    Int.mul_le_mul_of_nonneg_right less (le_of_lt positive)
  omega

end KafkaToNexus.Foundations.Periods
