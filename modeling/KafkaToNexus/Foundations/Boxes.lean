import Mathlib.Algebra.BigOperators.Group.List.Basic
import Mathlib.Data.Finset.Prod
import Mathlib.Order.Interval.Finset.Nat

/-!
# Boxes of cells in an array of any rank

A cell of an array is given by the list of its indices.  A box is given by the
lists of its offsets and of its sizes; its cells are numbered in row-major
order.  Two boxes share a cell exactly when their ranges share an index in each
dimension.
-/

namespace KafkaToNexus.Foundations.Boxes

/-- The row-major position of a cell in a box, if it is one of its cells. -/
def position : List Nat → List Nat → List Nat → Option Nat
  | [], [], [] => some 0
  | offset :: offsets, size :: sizes, index :: indices =>
      if offset ≤ index ∧ index < offset + size then
        (position offsets sizes indices).map
          fun rest => (index - offset) * sizes.prod + rest
      else
        none
  | _, _, _ => none

/-- The cells of a box. -/
def cells : List Nat → List Nat → Finset (List Nat)
  | [], [] => {[]}
  | offset :: offsets, size :: sizes =>
      (Finset.Ico offset (offset + size) ×ˢ cells offsets sizes).image
        fun cell => cell.1 :: cell.2
  | _, _ => ∅

/-- The box lies in an array with the given dimensions. -/
def Inside : List Nat → List Nat → List Nat → Prop
  | [], [], [] => True
  | offset :: offsets, size :: sizes, dim :: dims =>
      offset + size ≤ dim ∧ Inside offsets sizes dims
  | _, _, _ => False

instance decidableInside :
    ∀ offsets sizes dims, Decidable (Inside offsets sizes dims)
  | [], [], [] => .isTrue trivial
  | _ :: offsets, _ :: sizes, _ :: dims =>
      have := decidableInside offsets sizes dims
      inferInstanceAs (Decidable (_ ∧ _))
  | [], [], _ :: _ => .isFalse id
  | [], _ :: _, _ => .isFalse id
  | _ :: _, [], _ => .isFalse id
  | _ :: _, _ :: _, [] => .isFalse id

variable {offsets sizes dims cell : List Nat}

theorem Inside.lengths (inside : Inside offsets sizes dims) :
    offsets.length = dims.length ∧ sizes.length = dims.length := by
  induction offsets, sizes, dims using Inside.induct with
  | case1 => exact ⟨rfl, rfl⟩
  | case2 offset offsets size sizes dim dims induction =>
      rcases induction inside.2 with ⟨first, second⟩
      exact ⟨congrArg (· + 1) first, congrArg (· + 1) second⟩
  | case3 => exact absurd inside (by simp_all [Inside])

/-- A box of full rank lies in an array when none of its ends is outside. -/
theorem inside_iff
    (offsetRank : offsets.length = dims.length)
    (sizeRank : sizes.length = dims.length) :
    Inside offsets sizes dims ↔
      ∀ range ∈ (offsets.zip sizes).zip dims,
        range.1.1 + range.1.2 ≤ range.2 := by
  induction dims generalizing offsets sizes with
  | nil =>
      rw [List.length_nil, List.length_eq_zero_iff] at offsetRank sizeRank
      rw [offsetRank, sizeRank]
      exact ⟨fun _ _ => nofun, fun _ => trivial⟩
  | cons dim dims induction =>
      rcases offsets with _ | ⟨offset, offsets⟩
      · cases offsetRank
      rcases sizes with _ | ⟨size, sizes⟩
      · cases sizeRank
      rw [List.zip_cons_cons, List.zip_cons_cons, List.forall_mem_cons,
        ← induction (Nat.succ.inj offsetRank) (Nat.succ.inj sizeRank)]
      exact Iff.rfl

/-- A box of full rank has as many cells as the product of its sizes. -/
theorem card_cells (rank : offsets.length = sizes.length) :
    (cells offsets sizes).card = sizes.prod := by
  induction offsets generalizing sizes with
  | nil =>
      cases sizes with
      | nil => rfl
      | cons size sizes => cases rank
  | cons offset offsets induction =>
      cases sizes with
      | nil => cases rank
      | cons size sizes =>
          have injective :
              Function.Injective
                fun cell : Nat × List Nat => cell.1 :: cell.2 := by
            rintro ⟨first, rest⟩ ⟨other, others⟩ same
            cases same
            rfl
          rw [cells, Finset.card_image_of_injective _ injective,
            Finset.card_product, Nat.card_Ico, List.prod_cons,
            induction (Nat.succ.inj rank), Nat.add_sub_cancel_left]

theorem mem_cells_cons {offset size index : Nat} {indices : List Nat} :
    index :: indices ∈ cells (offset :: offsets) (size :: sizes) ↔
      (offset ≤ index ∧ index < offset + size) ∧
        indices ∈ cells offsets sizes := by
  simp [cells]

theorem nil_not_mem_cells {offset size : Nat} :
    [] ∉ cells (offset :: offsets) (size :: sizes) := by
  simp [cells]

/-- The cells of a box are those that have a position. -/
theorem mem_cells : cell ∈ cells offsets sizes ↔
    (position offsets sizes cell).isSome := by
  induction offsets, sizes, cell using position.induct with
  | case1 => simp [cells, position]
  | case2 offset offsets size sizes index indices inside induction =>
      simp [cells, position, inside, induction]
  | case3 offset offsets size sizes index indices outside =>
      simp only [cells, position, if_neg outside, Finset.mem_image,
        Finset.mem_product, Finset.mem_Ico, Option.isSome_none,
        Bool.false_eq_true, iff_false]
      rintro ⟨_, ⟨range, _⟩, ⟨⟩⟩
      exact outside range
  | case4 offsets sizes cell notEmpty notCons =>
      cases offsets <;> cases sizes <;> cases cell <;>
        first
        | exact (notCons _ _ _ _ _ _ rfl rfl rfl).elim
        | simp_all [cells, position]

/-- A box inside an array consists of cells of the array. -/
theorem cells_subset (inside : Inside offsets sizes dims) :
    cells offsets sizes ⊆ cells (dims.map fun _ => 0) dims := by
  induction offsets, sizes, dims using Inside.induct with
  | case1 => exact Finset.Subset.refl _
  | case2 offset offsets size sizes dim dims induction =>
      rcases inside with ⟨fits, rest⟩
      intro cell member
      simp only [cells, List.map_cons, Finset.mem_image, Finset.mem_product,
        Finset.mem_Ico] at member ⊢
      rcases member with ⟨⟨index, indices⟩, ⟨⟨_, last⟩, others⟩, same⟩
      refine ⟨⟨index, indices⟩, ⟨⟨Nat.zero_le _, ?_⟩, ?_⟩, same⟩
      · have bound : index < offset + size := last
        omega
      · exact induction rest others
  | case3 => exact absurd inside (by simp_all [Inside])

/-- Boxes share a cell exactly when they share an index in each dimension. -/
theorem exists_shared_iff
    {others otherSizes : List Nat}
    (rank : offsets.length = sizes.length)
    (otherRank : others.length = offsets.length)
    (otherSizeRank : otherSizes.length = offsets.length) :
    (∃ cell, cell ∈ cells offsets sizes ∧ cell ∈ cells others otherSizes) ↔
      ∀ ranges ∈ (offsets.zip sizes).zip (others.zip otherSizes),
        ∃ index,
          (ranges.1.1 ≤ index ∧ index < ranges.1.1 + ranges.1.2) ∧
            ranges.2.1 ≤ index ∧ index < ranges.2.1 + ranges.2.2 := by
  induction offsets generalizing sizes others otherSizes with
  | nil =>
      rw [List.length_nil, List.length_eq_zero_iff] at otherRank otherSizeRank
      rw [List.length_nil, eq_comm, List.length_eq_zero_iff] at rank
      rw [rank, otherRank, otherSizeRank]
      refine ⟨fun _ _ => nofun, fun _ => ⟨[], ?_, ?_⟩⟩ <;>
        exact Finset.mem_singleton_self _
  | cons offset offsets induction =>
      rcases sizes with _ | ⟨size, sizes⟩
      · cases rank
      rcases others with _ | ⟨other, others⟩
      · cases otherRank
      rcases otherSizes with _ | ⟨otherSize, otherSizes⟩
      · cases otherSizeRank
      rw [List.zip_cons_cons, List.zip_cons_cons, List.zip_cons_cons,
        List.forall_mem_cons,
        ← induction (Nat.succ.inj rank) (Nat.succ.inj otherRank)
          (Nat.succ.inj otherSizeRank)]
      constructor
      · rintro ⟨cell, inside, inOther⟩
        rcases cell with _ | ⟨index, indices⟩
        · exact absurd inside nil_not_mem_cells
        · rw [mem_cells_cons] at inside inOther
          exact ⟨⟨index, inside.1, inOther.1⟩,
            ⟨indices, inside.2, inOther.2⟩⟩
      · rintro ⟨⟨index, inside, inOther⟩, indices, insides, inOthers⟩
        exact ⟨index :: indices, mem_cells_cons.mpr ⟨inside, insides⟩,
          mem_cells_cons.mpr ⟨inOther, inOthers⟩⟩

/-! ## Positions in a box at the origin -/

/-- A box lies in an array that is large enough in each dimension. -/
theorem inside_zipWith_max_left
    (rank : sizes.length = dims.length) :
    Inside (sizes.map fun _ => 0) sizes (List.zipWith max sizes dims) := by
  induction sizes generalizing dims with
  | nil =>
      cases dims with
      | nil => exact trivial
      | cons dim dims => cases rank
  | cons size sizes induction =>
      cases dims with
      | nil => cases rank
      | cons dim dims =>
          constructor
          · rw [Nat.zero_add]
            exact Nat.le_max_left size dim
          · exact induction (Nat.succ.inj rank)

theorem inside_zipWith_max_right
    (rank : sizes.length = dims.length) :
    Inside (sizes.map fun _ => 0) sizes (List.zipWith max dims sizes) := by
  rw [List.zipWith_comm_of_comm Nat.max_comm]
  exact inside_zipWith_max_left rank

/-- What is not in an array is not in a box inside of the array. -/
theorem position_eq_none_of_inside
    (inside : Inside offsets sizes dims)
    (outside : position (dims.map fun _ => 0) dims cell = none) :
    position offsets sizes cell = none := by
  rw [← Option.not_isSome_iff_eq_none, ← mem_cells] at outside ⊢
  exact fun member => outside (cells_subset inside member)

/-- Positions are numbered from zero on. -/
theorem position_lt
    {place : Nat} (there : position offsets sizes cell = some place) :
    place < sizes.prod := by
  induction offsets, sizes, cell using position.induct generalizing place with
  | case1 =>
      cases there
      exact Nat.one_pos
  | case2 offset offsets size sizes index indices inside induction =>
      rw [position, if_pos inside] at there
      rcases Option.map_eq_some_iff.mp there with ⟨rest, later, rfl⟩
      have below := induction later
      rw [List.prod_cons]
      calc
        (index - offset) * sizes.prod + rest
            < (index - offset) * sizes.prod + sizes.prod :=
          Nat.add_lt_add_left below _
        _ = (index - offset + 1) * sizes.prod := (Nat.succ_mul _ _).symm
        _ ≤ size * sizes.prod := by
          apply Nat.mul_le_mul_right
          omega
  | case3 offset offsets size sizes index indices outside =>
      rw [position, if_neg outside] at there
      cases there
  | case4 offsets sizes cell notEmpty notCons =>
      have nothing : position offsets sizes cell = none := by
        cases offsets <;> cases sizes <;> cases cell <;>
          first
          | exact (notCons _ _ _ _ _ _ rfl rfl rfl).elim
          | exact absurd rfl (notEmpty rfl rfl)
          | rfl
      rw [nothing] at there
      cases there

/-- A cell of an array is in one of its rows. -/
theorem position_array_isSome_iff {rows row : Nat} {indices : List Nat} :
    (position ((rows :: dims).map fun _ => 0) (rows :: dims)
        (row :: indices)).isSome ↔
      row < rows ∧
        (position (dims.map fun _ => 0) dims indices).isSome := by
  rw [← mem_cells, ← mem_cells, List.map_cons, mem_cells_cons, Nat.zero_add]
  simp only [Nat.zero_le, true_and]

/-- The rows of an array follow one another. -/
theorem position_array_cons {rows row : Nat}
    (below : row < rows) (indices : List Nat) :
    position ((rows :: dims).map fun _ => 0) (rows :: dims)
        (row :: indices) =
      (position (dims.map fun _ => 0) dims indices).map
        fun rest => row * dims.prod + rest := by
  have inside : 0 ≤ row ∧ row < 0 + rows :=
    ⟨Nat.zero_le row, (Nat.zero_add rows).symm ▸ below⟩
  rw [List.map_cons, position, if_pos inside, Nat.sub_zero]

theorem position_array_eq_some_iff {rows place : Nat} :
    position ((rows :: dims).map fun _ => 0) (rows :: dims) cell =
        some place ↔
      ∃ row indices rest,
        cell = row :: indices ∧ row < rows ∧
          position (dims.map fun _ => 0) dims indices = some rest ∧
            place = row * dims.prod + rest := by
  constructor
  · intro there
    rcases cell with _ | ⟨row, indices⟩
    · cases there
    · by_cases inside : 0 ≤ row ∧ row < 0 + rows
      · rw [List.map_cons, position, if_pos inside] at there
        rcases Option.map_eq_some_iff.mp there with ⟨rest, later, rfl⟩
        refine ⟨row, indices, rest, rfl, ?_, later, ?_⟩
        · exact Nat.zero_add rows ▸ inside.2
        · rw [Nat.sub_zero]
      · rw [List.map_cons, position, if_neg inside] at there
        cases there
  · rintro ⟨row, indices, rest, rfl, below, later, rfl⟩
    rw [position_array_cons below, later, Option.map_some]

/-- Different cells of an array have different positions. -/
theorem position_array_injective
    {other : List Nat} {place : Nat}
    (there : position (dims.map fun _ => 0) dims cell = some place)
    (also : position (dims.map fun _ => 0) dims other = some place) :
    cell = other := by
  induction dims generalizing cell other place with
  | nil =>
      cases cell with
      | nil =>
          cases other with
          | nil => rfl
          | cons index indices => cases also
      | cons index indices => cases there
  | cons rows dims induction =>
      rcases position_array_eq_some_iff.mp there with
        ⟨row, indices, rest, rfl, _, later, same⟩
      rcases position_array_eq_some_iff.mp also with
        ⟨row', indices', rest', rfl, _, later', same'⟩
      have below := position_lt later
      have below' := position_lt later'
      have positive : 0 < dims.prod := Nat.zero_lt_of_lt below
      have rows_ : row = row' := by
        calc
          row = (rest + row * dims.prod) / dims.prod := by
            rw [Nat.add_mul_div_right _ _ positive,
              Nat.div_eq_of_lt below, Nat.zero_add]
          _ = (rest' + row' * dims.prod) / dims.prod := by
            rw [Nat.add_comm rest, ← same, same', Nat.add_comm]
          _ = row' := by
            rw [Nat.add_mul_div_right _ _ positive,
              Nat.div_eq_of_lt below', Nat.zero_add]
      subst rows_
      have rests : rest = rest' :=
        Nat.add_left_cancel (same.symm.trans same')
      subst rests
      rw [induction later later']

/-- Every number below the number of cells is the position of a cell. -/
theorem exists_position_array
    {place : Nat} (below : place < dims.prod) :
    ∃ cell, position (dims.map fun _ => 0) dims cell = some place := by
  induction dims generalizing place with
  | nil =>
      rw [List.prod_nil, Nat.lt_one_iff] at below
      exact ⟨[], congrArg some below.symm⟩
  | cons rows dims induction =>
      rw [List.prod_cons] at below
      have positive : 0 < dims.prod := by
        apply Nat.pos_of_ne_zero
        intro zero
        rw [zero, Nat.mul_zero] at below
        exact Nat.not_lt_zero place below
      rcases induction (Nat.mod_lt place positive) with ⟨indices, later⟩
      refine ⟨place / dims.prod :: indices, ?_⟩
      apply position_array_eq_some_iff.mpr
      refine ⟨_, _, _, rfl, ?_, later, ?_⟩
      · exact Nat.div_lt_of_lt_mul (Nat.mul_comm rows _ ▸ below)
      · rw [Nat.mul_comm, Nat.div_add_mod]

/-- The cells of an array have its rank and no index outside. -/
theorem position_array_isSome_iff_inside :
    (position (dims.map fun _ => 0) dims cell).isSome ↔
      cell.length = dims.length ∧
        ∀ range ∈ cell.zip dims, range.1 < range.2 := by
  induction dims generalizing cell with
  | nil =>
      cases cell with
      | nil => simp [position]
      | cons index indices => simp [position]
  | cons rows dims induction =>
      cases cell with
      | nil => simp [position]
      | cons row indices =>
          rw [position_array_isSome_iff, induction, List.zip_cons_cons,
            List.forall_mem_cons, List.length_cons, List.length_cons,
            Nat.succ_inj]
          exact and_left_comm

/-- A row of a box is a box of one dimension less. -/
theorem position_row (row : Nat) (index : Nat) (indices : List Nat) :
    position (row :: offsets) (1 :: sizes) (index :: indices) =
      if index = row then position offsets sizes indices else none := by
  by_cases here : index = row
  · have inside : row ≤ index ∧ index < row + 1 := by omega
    rw [position, if_pos inside, if_pos here, here, Nat.sub_self]
    simp only [Nat.zero_mul, Nat.zero_add]
    exact Option.map_id'
  · have outside : ¬(row ≤ index ∧ index < row + 1) := by omega
    rw [position, if_neg outside, if_neg here]

end KafkaToNexus.Foundations.Boxes
