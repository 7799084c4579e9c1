import Mathlib.Algebra.Group.Int.Defs
import Mathlib.Algebra.Group.Nat.Defs
import Mathlib.Data.Int.Order.Basic

/-!
# Signed machine words

A signed machine word of `width` bits holds the integers of `InRange width`.
Arithmetic on such words is arithmetic on integers followed by `wrap`, which
takes the representative of the result modulo `2 ^ width` that lies in range.
The results of this module say when `wrap` can be ignored, and that cutting a
word down to a coarser unit keeps the order.
-/

namespace KafkaToNexus.Foundations.SignedWord

/-- The integers that a signed word of `width` bits can hold. -/
def InRange (width : Nat) (value : Int) : Prop :=
  -(2 ^ width : Int) ≤ 2 * value ∧ 2 * value < 2 ^ width

instance (width : Nat) (value : Int) : Decidable (InRange width value) :=
  inferInstanceAs (Decidable (_ ∧ _))

/-- Reduce an integer to the word that represents it modulo `2 ^ width`. -/
def wrap (width : Nat) (value : Int) : Int :=
  value.bmod (2 ^ width)

/-- The reduction gives a word. -/
theorem inRange_wrap (width : Nat) (value : Int) :
    InRange width (wrap width value) := by
  have positive : 0 < 2 ^ width := Nat.two_pow_pos width
  have modulus : ((2 ^ width : Nat) : Int) = 2 ^ width := by simp
  have lower := Int.le_bmod (x := value) positive
  have upper := Int.bmod_lt (x := value) positive
  unfold wrap
  constructor
  · omega
  · omega

/-- A result that fits the word is not changed by the reduction. -/
theorem wrap_of_inRange
    {width : Nat} {value : Int}
    (fits : InRange width value) :
    wrap width value = value := by
  obtain ⟨lower, upper⟩ := fits
  have modulus : ((2 ^ width : Nat) : Int) = 2 ^ width := by simp
  unfold wrap
  apply Int.bmod_eq_of_le_mul_two
  · omega
  · omega

/-- Cut a value down to a whole number of units, rounding towards zero. -/
def truncateTo (unit value : Int) : Int :=
  value.tdiv unit * unit

/-- Truncation keeps the order of the values it is applied to. -/
theorem truncateTo_le_truncateTo
    {unit lower upper : Int}
    (positive : 0 < unit) (ordered : lower ≤ upper) :
    truncateTo unit lower ≤ truncateTo unit upper :=
  Int.mul_le_mul_of_nonneg_right
    (Int.tdiv_le_tdiv positive ordered) (Int.le_of_lt positive)

end KafkaToNexus.Foundations.SignedWord
