import Mathlib.Algebra.GroupWithZero.Nat
import Mathlib.Algebra.Order.BigOperators.Group.List
import Mathlib.Algebra.Order.Group.Nat
import Mathlib.Data.List.Induction

/-!
# Where blocks start

Blocks of given sizes lie one after the other.  Each starts where those before
it end.  All starts are below a bound exactly when the last one is, which is
the sum of all sizes but the last.
-/

namespace KafkaToNexus.Foundations

/-- The starts of blocks, the first of which starts at zero. -/
def starts (sizes : List Nat) : List Nat :=
  (List.range sizes.length).map fun count => (sizes.take count).sum

variable {sizes : List Nat}

/-- One more block starts where all others end. -/
theorem starts_concat (size : Nat) :
    starts (sizes ++ [size]) = starts sizes ++ [sizes.sum] := by
  have length : (sizes ++ [size]).length = sizes.length + 1 :=
    List.length_append
  rw [starts, length, List.range_succ, List.map_append]
  congr 1
  · apply List.map_congr_left
    intro count member
    rw [List.take_append_of_le_length (Nat.le_of_lt (List.mem_range.mp member))]
  · rw [List.map_singleton, List.take_left]

/-- The sum of the first sizes grows with their number. -/
theorem sum_take_le {count bound : Nat} (fewer : count ≤ bound) :
    (sizes.take count).sum ≤ (sizes.take bound).sum := by
  rw [← List.take_append_drop count (sizes.take bound), List.take_take,
    Nat.min_eq_left fewer, List.sum_append]
  exact Nat.le_add_right _ _

theorem le_of_mem_starts {start : Nat} (member : start ∈ starts sizes) :
    start ≤ sizes.dropLast.sum := by
  rcases List.mem_map.mp member with ⟨count, inside, rfl⟩
  rw [List.dropLast_eq_take]
  exact sum_take_le (Nat.le_sub_one_of_lt (List.mem_range.mp inside))

/-- The last block starts at the sum of the others. -/
theorem sum_dropLast_mem_starts (some_ : sizes ≠ []) :
    sizes.dropLast.sum ∈ starts sizes := by
  rw [starts, List.dropLast_eq_take]
  apply List.mem_map_of_mem (f := fun count => (sizes.take count).sum)
  rw [List.mem_range]
  exact Nat.sub_one_lt (mt List.length_eq_zero_iff.mp some_)

theorem forall_starts_lt_iff {bound : Nat} (positive : 0 < bound) :
    (∀ start ∈ starts sizes, start < bound) ↔ sizes.dropLast.sum < bound := by
  constructor
  · intro below
    rcases List.eq_nil_or_concat sizes with rfl | ⟨rest, last, rfl⟩
    · exact positive
    · exact below _ (sum_dropLast_mem_starts (by simp))
  · intro below start member
    exact Nat.lt_of_le_of_lt (le_of_mem_starts member) below

/-- The first of some blocks start where they start without the others. -/
theorem starts_mono {others : List Nat} (first : sizes <+: others) :
    starts sizes <+: starts others := by
  rcases first with ⟨rest, rfl⟩
  induction rest using List.reverseRecOn with
  | nil => exact ⟨[], by rw [List.append_nil, List.append_nil]⟩
  | append_singleton rest size induction =>
      rw [← List.append_assoc, starts_concat]
      exact induction.trans (List.prefix_append _ _)

/-- Sums that agree over the first elements agree for each element. -/
theorem forall_prefix_sum_eq_iff {Block : Type*} (blocks : List Block)
    (size other : Block → Nat) :
    (∀ taken, taken <+: blocks → (taken.map size).sum = (taken.map other).sum) ↔
      ∀ block ∈ blocks, size block = other block := by
  constructor
  · intro agree block member
    rcases List.append_of_mem member with ⟨before, after, rfl⟩
    have without := agree before (List.prefix_append _ _)
    have with_ := agree (before ++ [block]) ⟨after, by simp⟩
    simp only [List.map_append, List.sum_append, List.map_singleton,
      List.sum_singleton] at with_
    omega
  · intro same taken first
    congr 1
    apply List.map_congr_left
    exact fun block member => same block (first.subset member)

/-- A change of the sizes that keeps those below a bound. -/
theorem starts_map_of_lt {bound : Nat} (change : Nat → Nat)
    (keeps : ∀ size < bound, change size = size)
    (below : sizes.dropLast.sum < bound) :
    starts (sizes.map change) = starts sizes := by
  rw [starts, starts, List.length_map]
  apply List.map_congr_left
  intro count member
  have start : (sizes.take count).sum < bound :=
    Nat.lt_of_le_of_lt (le_of_mem_starts (List.mem_map_of_mem member)) below
  have same : (sizes.take count).map change = (sizes.take count).map id := by
    apply List.map_congr_left
    intro size earlier
    exact keeps size
      (Nat.lt_of_le_of_lt (List.le_sum_of_mem earlier) start)
  rw [← List.map_take, same, List.map_id]

/-! ## What holds of each block and its start -/

variable {Block : Type*}

/-- Each block is in a relation with its start; the first start is given. -/
def EachFrom (size : Block → Nat) (holds : Nat → Block → Prop) :
    Nat → List Block → Prop
  | _, [] => True
  | start, block :: rest =>
      holds start block ∧ EachFrom size holds (start + size block) rest

/-- A block starts where the blocks before it end. -/
theorem eachFrom_iff
    {size : Block → Nat} {holds : Nat → Block → Prop} {start : Nat}
    {blocks : List Block} :
    EachFrom size holds start blocks ↔
      ∀ before block after, blocks = before ++ block :: after →
        holds (start + (before.map size).sum) block := by
  induction blocks generalizing start with
  | nil =>
      constructor
      · intro _ before block after split
        exact absurd split.symm (by simp)
      · exact fun _ => trivial
  | cons first rest induction =>
      rw [EachFrom, induction]
      constructor
      · rintro ⟨own, others⟩ before block after split
        rcases before with _ | ⟨_, before⟩
        · cases split
          exact own
        · cases split
          have later := others before block after rfl
          rw [Nat.add_assoc] at later
          rw [List.map_cons, List.sum_cons]
          exact later
      · intro all
        constructor
        · exact all [] first rest rfl
        · intro before block after split
          have later :=
            all (first :: before) block after (congrArg (first :: ·) split)
          rw [List.map_cons, List.sum_cons, ← Nat.add_assoc] at later
          exact later

/-- The elements of a block are behind those of the blocks before it. -/
theorem getElem?_flatMap_of_split
    {Element : Type*} (elements : Block → List Element)
    (before after : List Block) {block : Block} {place : Nat}
    (inside : place < (elements block).length) :
    ((before ++ block :: after).flatMap elements)[
        (before.map fun block => (elements block).length).sum + place]? =
      (elements block)[place]? := by
  rw [List.flatMap_append, List.flatMap_cons, ← List.length_flatMap,
    List.getElem?_append_right (Nat.le_add_right _ _),
    Nat.add_sub_cancel_left, List.getElem?_append_left inside]

end KafkaToNexus.Foundations
