import Mathlib.Algebra.Order.Group.Nat
import Mathlib.Data.List.Induction

/-!
# Marks in a growing sequence

A sequence grows by blocks of given sizes.  A block whose end is more than an
interval behind the last mark sets a mark at its last position.  The mark of an
empty block would have no position; if there is none, the marks increase.
-/

namespace KafkaToNexus.Foundations

/-- How long a sequence is, and where it is marked. -/
structure Marks where
  total : Nat := 0
  /-- The position of the last mark, which is zero in the beginning. -/
  last : Nat := 0
  positions : List (Option Nat) := []

namespace Marks

/-- The last position of a block. -/
def endOf (start size : Nat) : Option Nat :=
  if size = 0 then none else some (start + size - 1)

/-- The end of the next block is more than the interval behind the last mark. -/
def Exceeds (interval : Nat) (marks : Marks) (size : Nat) : Prop :=
  marks.last + interval < marks.total + size

instance (interval : Nat) (marks : Marks) (size : Nat) :
    Decidable (marks.Exceeds interval size) :=
  inferInstanceAs (Decidable (_ < _))

def add (interval : Nat) (marks : Marks) (size : Nat) : Marks :=
  if marks.Exceeds interval size then
    { total := marks.total + size
      last := marks.total + size - 1
      positions := marks.positions ++ [endOf marks.total size] }
  else
    { marks with total := marks.total + size }

/-- The marks of a sequence of blocks. -/
def ofSizes (interval : Nat) (sizes : List Nat) : Marks :=
  sizes.foldl (add interval) {}

variable {interval size : Nat} {sizes : List Nat} {marks : Marks}

@[simp]
theorem ofSizes_nil : ofSizes interval [] = {} :=
  rfl

@[simp]
theorem ofSizes_concat :
    ofSizes interval (sizes ++ [size]) =
      (ofSizes interval sizes).add interval size := by
  simp only [ofSizes, List.foldl_append, List.foldl_cons, List.foldl_nil]

@[simp]
theorem total_add : (marks.add interval size).total = marks.total + size := by
  simp only [add]
  split_ifs <;> rfl

theorem add_of_exceeds (exceeds : marks.Exceeds interval size) :
    marks.add interval size =
      { total := marks.total + size
        last := marks.total + size - 1
        positions := marks.positions ++ [endOf marks.total size] } :=
  if_pos exceeds

theorem add_of_not_exceeds (exceeds : ¬marks.Exceeds interval size) :
    marks.add interval size = { marks with total := marks.total + size } :=
  if_neg exceeds

theorem endOf_eq_some_iff {start position : Nat} :
    endOf start size = some position ↔ start + size = position + 1 ∧ 0 < size := by
  simp only [endOf]
  split_ifs with empty
  · constructor
    · intro none_
      cases none_
    · rintro ⟨_, some_⟩
      exact absurd empty (Nat.ne_of_gt some_)
  · rw [Option.some_inj]
    omega

theorem mem_positions_add
    {mark : Option Nat} (member : mark ∈ marks.positions) :
    mark ∈ (marks.add interval size).positions := by
  simp only [add]
  split_ifs
  · exact List.mem_append_left _ member
  · exact member

/-- A block that is due sets a mark, which stays. -/
theorem endOf_mem_positions
    {before after : List Nat}
    (due : (ofSizes interval before).Exceeds interval size) :
    endOf (ofSizes interval before).total size ∈
      (ofSizes interval (before ++ size :: after)).positions := by
  induction after using List.reverseRecOn with
  | nil =>
      rw [ofSizes_concat, add_of_exceeds due]
      exact List.mem_append_right _ (List.mem_singleton_self _)
  | append_singleton after last induction =>
      rw [← List.cons_append, ← List.append_assoc, ofSizes_concat]
      exact mem_positions_add induction

/-- All marks are inside the sequence. -/
theorem lt_total_of_mem
    {position : Nat}
    (member : some position ∈ (ofSizes interval sizes).positions) :
    position < (ofSizes interval sizes).total := by
  induction sizes using List.reverseRecOn with
  | nil => cases member
  | append_singleton sizes size induction =>
      rw [ofSizes_concat] at member ⊢
      rw [total_add]
      by_cases exceeds : (ofSizes interval sizes).Exceeds interval size
      · rw [add_of_exceeds exceeds] at member
        rcases List.mem_append.mp member with earlier | new
        · exact Nat.lt_add_right size (induction earlier)
        · have here := endOf_eq_some_iff.mp (List.mem_singleton.mp new).symm
          omega
      · rw [add_of_not_exceeds exceeds] at member
        exact Nat.lt_add_right size (induction member)

/-- Marks that all have a position increase. -/
theorem pairwise_of_positions
    {positions : List Nat}
    (all : positions.map some = (ofSizes interval sizes).positions) :
    positions.Pairwise (· < ·) := by
  induction sizes using List.reverseRecOn generalizing positions with
  | nil =>
      rw [List.map_eq_nil_iff.mp all]
      exact List.Pairwise.nil
  | append_singleton sizes size induction =>
      rw [ofSizes_concat] at all
      by_cases exceeds : (ofSizes interval sizes).Exceeds interval size
      · rw [add_of_exceeds exceeds] at all
        rcases List.map_eq_append_iff.mp all with
          ⟨earlier, new, rfl, before, here⟩
        rcases List.map_eq_singleton_iff.mp here with ⟨position, rfl, ends⟩
        rw [List.pairwise_append]
        refine ⟨induction before, List.pairwise_singleton _ _, ?_⟩
        intro mark member other single
        rw [List.mem_singleton.mp single]
        have inside : mark < (ofSizes interval sizes).total := by
          apply lt_total_of_mem
          rw [← before]
          exact List.mem_map_of_mem member
        have end_ := endOf_eq_some_iff.mp ends.symm
        omega
      · rw [add_of_not_exceeds exceeds] at all
        exact induction all

end Marks

end KafkaToNexus.Foundations
