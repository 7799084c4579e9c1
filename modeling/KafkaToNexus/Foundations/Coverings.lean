import Mathlib.Algebra.BigOperators.Group.Finset.Piecewise
import Mathlib.Algebra.GroupWithZero.Nat
import Mathlib.Algebra.Order.BigOperators.Group.Finset

/-!
# Lists of sets that cover a set

The members of a list of finite subsets are counted together by counting, for
each element of the whole set, the members it is in.  Members that do not meet
hold together no more elements than the whole set, and as many exactly when
each element is in one of them.
-/

namespace KafkaToNexus.Foundations.Coverings

variable {Element : Type*} [DecidableEq Element]
  {pieces : List (Finset Element)} {whole : Finset Element}

/-- The number of members of a list that an element is in. -/
def count (pieces : List (Finset Element)) (element : Element) : Nat :=
  pieces.countP fun piece => decide (element ∈ piece)

theorem count_cons {piece : Finset Element} {element : Element} :
    count (piece :: pieces) element =
      count pieces element + if element ∈ piece then 1 else 0 := by
  rw [count, count, List.countP_cons]
  simp only [decide_eq_true_eq]

/-- The elements of the members are counted one by one. -/
theorem sum_card (inside : ∀ piece ∈ pieces, piece ⊆ whole) :
    (pieces.map Finset.card).sum = ∑ element ∈ whole, count pieces element := by
  induction pieces with
  | nil =>
      rw [List.map_nil, List.sum_nil]
      exact Finset.sum_const_zero.symm
  | cons piece pieces induction =>
      have own :
          ∑ element ∈ whole, (if element ∈ piece then 1 else 0) =
            piece.card := by
        rw [← Finset.card_filter, Finset.filter_mem_eq_inter,
          Finset.inter_eq_right.mpr (inside piece List.mem_cons_self)]
      have others :=
        induction fun other member =>
          inside other (List.mem_cons_of_mem _ member)
      simp only [count_cons, Finset.sum_add_distrib]
      rw [List.map_cons, List.sum_cons, others, own, Nat.add_comm]

/-- An element is in at most one of the members of a list that do not meet. -/
theorem count_le_one (apart : pieces.Pairwise Disjoint) (element : Element) :
    count pieces element ≤ 1 := by
  induction pieces with
  | nil => exact Nat.zero_le 1
  | cons piece pieces induction =>
      rcases List.pairwise_cons.mp apart with ⟨fromPiece, rest⟩
      rw [count_cons]
      split
      · rename_i member
        have none : count pieces element = 0 := by
          rw [count, List.countP_eq_zero]
          intro other present
          rw [decide_eq_true_iff]
          exact Finset.disjoint_left.mp (fromPiece other present) member
        rw [none]
      · exact induction rest

/-- Members that do not meet hold no more elements than the whole set. -/
theorem sum_card_le
    (apart : pieces.Pairwise Disjoint)
    (inside : ∀ piece ∈ pieces, piece ⊆ whole) :
    (pieces.map Finset.card).sum ≤ whole.card := by
  rw [sum_card inside, Finset.card_eq_sum_ones]
  exact Finset.sum_le_sum fun element _ => count_le_one apart element

/-- They hold as many exactly when each element is in one of them. -/
theorem sum_card_eq_iff
    (apart : pieces.Pairwise Disjoint)
    (inside : ∀ piece ∈ pieces, piece ⊆ whole) :
    (pieces.map Finset.card).sum = whole.card ↔
      ∀ element ∈ whole, count pieces element = 1 := by
  rw [sum_card inside, Finset.card_eq_sum_ones]
  exact Finset.sum_eq_sum_iff_of_le fun element _ => count_le_one apart element

end KafkaToNexus.Foundations.Coverings
