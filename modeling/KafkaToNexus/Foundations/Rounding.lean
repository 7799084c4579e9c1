import Mathlib.Algebra.Order.Field.Rat
import Mathlib.Data.Rat.Floor
import Mathlib.Tactic.Linarith

/-!
# Rounding of rationals

A half is rounded away from zero.  A value below a half is not rounded up to a
positive integer, and otherwise a multiple of a value is rounded to more than
the integer part of the value.
-/

namespace KafkaToNexus.Foundations

/-- The nearest integer, with halves rounded away from zero. -/
def roundAway (value : ℚ) : Int :=
  if 0 ≤ value then ⌊value + 1 / 2⌋ else ⌈value - 1 / 2⌉

theorem roundAway_nonpos {value : ℚ} (small : value < 1 / 2) :
    roundAway value ≤ 0 := by
  rw [roundAway]
  split_ifs with nonneg
  · have below : ⌊value + 1 / 2⌋ < 1 := by
      rw [Int.floor_lt]
      push_cast
      linarith
    omega
  · rw [Int.ceil_le]
    push_cast
    linarith

/-- A multiple of a value exceeds its integer part. -/
theorem floor_lt_roundAway
    {value scale : ℚ} (large : 1 / 2 ≤ scale * value) (twice : 2 ≤ scale) :
    ⌊value⌋ < roundAway (scale * value) := by
  have nonneg : 0 ≤ scale * value := by linarith
  have positive : 0 < value := by
    by_contra negative
    have bound : scale * value ≤ 0 :=
      mul_nonpos_of_nonneg_of_nonpos (by linarith) (not_lt.mp negative)
    linarith
  rw [roundAway, if_pos nonneg, ← Int.add_one_le_iff, Int.le_floor]
  push_cast
  have part := Int.floor_le value
  by_cases below : value < 1
  · have none_ : ⌊value⌋ = 0 := by
      rw [Int.floor_eq_zero_iff]
      exact ⟨positive.le, below⟩
    rw [none_]
    push_cast
    linarith
  · have double : 2 * value ≤ scale * value :=
      mul_le_mul_of_nonneg_right twice positive.le
    linarith [not_lt.mp below]

end KafkaToNexus.Foundations
