import KafkaToNexus.MultiVector
import Mathlib.Algebra.BigOperators.Ring.List
import Mathlib.Data.Set.Function

/-!
# Indexing in row-major order

A vector with several dimensions is meant to keep its elements in row-major
order: each position that is in range has an element of its own, any other
position is refused, and an assignment is seen only where it was made.

The product of the dimensions that have been passed is kept in an `int`.  It
is multiplied with the index in the next dimension, so that it does no harm to
be wrong in front of a dimension with one index only.  In front of any other
dimension it has to be below `2 ^ 31`.
-/

namespace KafkaToNexus

open Foundations
open NeXusDataset

namespace MultiVector

variable {T : Type} {vector : MultiVector T} {dims pos other : Shape}
  {place : Nat}

/-- Store a value through the reference that `at` returns. -/
def assign (vector : MultiVector T) (index : Shape) (value : T) :
    ArrayCode (MultiVector T) := do
  let place ← vector.at_ index
  pure { vector with data := vector.data.set place value }

/-- Load a value through the reference that `at` returns. -/
def read (vector : MultiVector T) (index : Shape) : ArrayCode T := do
  let place ← vector.at_ index
  Checked.deref .outsideOfData vector.data[place]?

/-- There are as many elements as the dimensions ask for. -/
structure HasShape (vector : MultiVector T) (dims : Shape) : Prop where
  dimensions : vector.dimensions = dims
  size :
    ∃ size, extentToSize dims = pure size ∧
      vector.data.length = size.toNat

/-- A position with an index below the extent in each dimension. -/
def PositionInRange (dims pos : Shape) : Prop :=
  pos.length = dims.length ∧ ∀ range ∈ pos.zip dims, range.1 < range.2

/-- The vectors of a shape keep their elements in row-major order. -/
structure IndexesRowMajor (dims : Shape) : Prop where
  /-- The positions in range are numbered without a gap. -/
  bijection :
    ∃ size, extentToSize dims = pure size ∧
      Set.BijOn (fun pos => (posToIndex dims pos).toNat)
        {pos | PositionInRange dims pos} (Set.Iio size.toNat)
  /-- The number of a position is its row-major position. -/
  rowMajor :
    ∀ pos, PositionInRange dims pos →
      Boxes.position (dims.map fun _ => 0) dims pos =
        some (posToIndex dims pos).toNat
  /-- A new vector has the elements that its shape asks for. -/
  creates :
    ∀ {T : Type} [Inhabited T],
      ∃ vector : MultiVector T, create dims = pure vector ∧
        vector.HasShape dims
  /-- Exactly the positions that are not in range are refused. -/
  refuses :
    ∀ {T : Type} {vector : MultiVector T}, vector.HasShape dims →
      ∀ pos,
        (∃ what, vector.at_ pos = throw (.outOfRange what)) ↔
          pos.length ≠ dims.length ∨
            ∃ range ∈ pos.zip dims, ¬ range.1 < range.2
  /-- No element outside of the vector is referred to. -/
  inside :
    ∀ {T : Type} {vector : MultiVector T}, vector.HasShape dims →
      ∀ pos, Checked.Defined (vector.at_ pos)
  /-- An assignment is seen at its own position and at no other. -/
  assigns :
    ∀ {T : Type} {vector : MultiVector T}, vector.HasShape dims →
      ∀ pos, PositionInRange dims pos → ∀ value : T,
        ∃ written, vector.assign pos value = pure written ∧
          written.HasShape dims ∧
            ∀ other, PositionInRange dims other →
              ∃ old, vector.read other = pure old ∧
                written.read other =
                  pure (if pos = other then value else old)

/-! ## Shapes -/

theorem hasShape_iff
    (ranked : dims ≠ []) (small : dims.prod < 2 ^ 64) :
    vector.HasShape dims ↔
      vector.dimensions = dims ∧ vector.data.length = dims.prod := by
  rcases dims with _ | ⟨extent, rest⟩
  · exact absurd rfl ranked
  rcases extentToSize_cons extent rest with ⟨size, computed, product⟩
  rw [Nat.mod_eq_of_lt small] at product
  constructor
  · rintro ⟨dimensions, size', computed', length⟩
    have same : size = size' := by
      rw [computed] at computed'
      exact Checked.returns_pure_iff.mp computed'
    refine ⟨dimensions, ?_⟩
    rw [length, ← same, product]
  · rintro ⟨dimensions, length⟩
    exact ⟨dimensions, size, computed, length.trans product.symm⟩

/-- A new vector has the shape that it is created for. -/
theorem exists_create
    [Inhabited T] (ranked : dims ≠ []) (small : dims.prod < 2 ^ 64) :
    ∃ vector : MultiVector T, create dims = pure vector ∧
      vector.HasShape dims := by
  refine ⟨_, create_eq ranked small, ?_⟩
  apply (hasShape_iff ranked small).mpr
  exact ⟨rfl, List.length_replicate⟩

theorem positionInRange_iff :
    PositionInRange dims pos ↔
      (Boxes.position (dims.map fun _ => 0) dims pos).isSome :=
  Boxes.position_array_isSome_iff_inside.symm

theorem not_positionInRange_iff :
    ¬ PositionInRange dims pos ↔
      pos.length ≠ dims.length ∨
        ∃ range ∈ pos.zip dims, ¬ range.1 < range.2 := by
  rw [PositionInRange, not_and_or]
  push Not
  rfl

/-! ## Where the number is the row-major position -/

/-- Some extent is zero, or all rows that are passed are short. -/
def RowsFitInt (dims : Shape) : Prop :=
  0 ∈ dims ∨ ShortRows dims

instance : DecidablePred RowsFitInt :=
  fun dims => inferInstanceAs (Decidable (0 ∈ dims ∨ ShortRows dims))

theorem position_of_rowsFitInt
    (small : dims.prod < 2 ^ 64) (fits : RowsFitInt dims)
    (inRange : PositionInRange dims pos) :
    Boxes.position (dims.map fun _ => 0) dims pos =
      some (posToIndex dims pos).toNat := by
  rcases Option.isSome_iff_exists.mp (positionInRange_iff.mp inRange)
    with ⟨place, there⟩
  rcases fits with empty | short
  · have below : place < dims.prod := Boxes.position_lt there
    rw [List.prod_eq_zero empty] at below
    exact absurd below (Nat.not_lt_zero place)
  · rw [there, toNat_posToIndex_of_shortRows there small short]

theorem posToIndex_origin (dims : Shape) :
    posToIndex dims (dims.map fun _ => 0) = 0 := by
  induction dims with
  | nil => rfl
  | cons extent dims induction =>
      rw [List.map_cons, posToIndex_cons (List.length_map _), induction,
        UInt64.zero_add]
      exact UInt64.mul_zero

/-- One step along the first dimension passes a whole row. -/
theorem posToIndex_step (extent : Nat) (dims : Shape) :
    posToIndex (extent :: dims) (1 :: dims.map fun _ => 0) =
      (elementsPerRow (dims.reverse.map UInt64.ofNat)).toInt64.toUInt64 := by
  rw [posToIndex_cons (List.length_map _), posToIndex_origin, UInt64.zero_add]
  exact UInt64.mul_one _

theorem position_origin (nonempty : 0 ∉ dims) :
    Boxes.position (dims.map fun _ => 0) dims (dims.map fun _ => 0) =
      some 0 := by
  induction dims with
  | nil => rfl
  | cons extent dims induction =>
      rw [List.mem_cons, not_or] at nonempty
      have positive : 0 < extent := Nat.pos_of_ne_zero (Ne.symm nonempty.1)
      show Boxes.position _ _ (0 :: _) = _
      rw [Boxes.position_array_cons positive, induction nonempty.2,
        Option.map_some, Nat.zero_mul]

/-- The `int` is right in front of a dimension with a second index. -/
theorem prod_lt_of_toNat_rowProduct
    {extent : Nat} (several : 2 ≤ extent)
    (small : extent * dims.prod < 2 ^ 64)
    (right :
      (elementsPerRow (dims.reverse.map UInt64.ofNat)).toInt64.toUInt64.toNat =
        dims.prod) :
    dims.prod < 2 ^ 31 := by
  have half : 2 * dims.prod ≤ extent * dims.prod :=
    Nat.mul_le_mul_right _ several
  rw [toNat_rowProduct] at right
  split_ifs at right with narrow
  · omega
  · omega

/-- Numbers in row-major order are only found with short rows. -/
theorem shortRows_of_rowMajor
    (nonempty : 0 ∉ dims) (small : dims.prod < 2 ^ 64)
    (rowMajor :
      ∀ pos place,
        Boxes.position (dims.map fun _ => 0) dims pos = some place →
          (posToIndex dims pos).toNat = place) :
    ShortRows dims := by
  induction dims with
  | nil => exact trivial
  | cons extent dims induction =>
      rw [List.mem_cons, not_or] at nonempty
      rw [List.prod_cons] at small
      have positive : 0 < extent := Nat.pos_of_ne_zero (Ne.symm nonempty.1)
      have fewer : dims.prod ≤ extent * dims.prod :=
        Nat.le_mul_of_pos_left _ positive
      constructor
      · intro several
        have there :
            Boxes.position ((extent :: dims).map fun _ => 0) (extent :: dims)
              (1 :: dims.map fun _ => 0) = some dims.prod := by
          rw [Boxes.position_array_cons several, position_origin nonempty.2,
            Option.map_some, Nat.one_mul, Nat.add_zero]
        have right := rowMajor _ _ there
        rw [posToIndex_step] at right
        exact prod_lt_of_toNat_rowProduct several small right
      · apply induction nonempty.2 (fewer.trans_lt small)
        intro pos place there
        have first :
            Boxes.position ((extent :: dims).map fun _ => 0) (extent :: dims)
              (0 :: pos) = some place := by
          rw [Boxes.position_array_cons positive, there, Option.map_some,
            Nat.zero_mul, Nat.zero_add]
        have rank : pos.length = dims.length :=
          (Boxes.position_array_isSome_iff_inside.mp
            (Option.isSome_of_eq_some there)).1
        have same := rowMajor _ _ first
        rw [posToIndex_cons rank] at same
        rw [← same]
        show _ = (_ + _ * (0 : UInt64)).toNat
        rw [UInt64.mul_zero, UInt64.add_zero]

/-! ## References -/

theorem HasShape.at_of_position
    (shape : vector.HasShape dims)
    (ranked : dims ≠ []) (small : dims.prod < 2 ^ 64)
    (there :
      Boxes.position (dims.map fun _ => 0) dims pos =
        some (posToIndex dims pos).toNat) :
    vector.at_ pos = pure (posToIndex dims pos).toNat := by
  rcases (hasShape_iff ranked small).mp shape with ⟨rfl, whole⟩
  exact MultiVector.at_of_position whole there rfl

/-- Positions out of range are refused, whatever the shape. -/
theorem HasShape.at_of_not_inRange
    (shape : vector.HasShape dims) (outside : ¬ PositionInRange dims pos) :
    ∃ what, vector.at_ pos = throw (.outOfRange what) := by
  rcases shape with ⟨rfl, _⟩
  apply at_of_none
  rwa [positionInRange_iff, Option.not_isSome_iff_eq_none] at outside

theorem HasShape.assign_shape
    {written : MultiVector T} {value : T}
    (shape : vector.HasShape dims)
    (assigned : vector.assign pos value = pure written) :
    written.HasShape dims := by
  rcases Checked.returns_bind_iff.mp
      (show Checked.Returns (vector.assign pos value) written from
        assigned ▸ Checked.returns_pure_iff.mpr rfl)
    with ⟨place, _, made⟩
  rw [Checked.returns_pure_iff] at made
  subst made
  rcases shape with ⟨dimensions, size, computed, length⟩
  constructor
  · exact dimensions
  · exact ⟨size, computed, (List.length_set).trans length⟩

/-- An assignment through one reference as it is seen through another. -/
theorem read_assign
    (found : vector.at_ pos = pure place)
    {otherPlace : Nat}
    (otherFound : vector.at_ other = pure otherPlace)
    (there : otherPlace < vector.data.length) (value : T) :
    ∃ written, vector.assign pos value = pure written ∧
      vector.read other = pure vector.data[otherPlace] ∧
        written.read other =
          pure
            (if place = otherPlace then value
            else vector.data[otherPlace]) := by
  refine ⟨_, by rw [assign, found, pure_bind], ?_, ?_⟩
  · rw [read, otherFound, pure_bind, List.getElem?_eq_getElem there,
      Checked.deref]
  · have same :
        at_ { vector with data := vector.data.set place value } other =
          pure otherPlace := by
      rw [← otherFound, at_, at_, List.length_set]
    rw [read, same, pure_bind, List.getElem?_set]
    split_ifs with one inside
    · rfl
    · exact absurd (one ▸ there) inside
    · rw [List.getElem?_eq_getElem there, Checked.deref]

section RowMajor

variable
  (rowMajor :
    ∀ pos, PositionInRange dims pos →
      Boxes.position (dims.map fun _ => 0) dims pos =
        some (posToIndex dims pos).toNat)

include rowMajor

/-- Two positions with the same number are one position. -/
theorem posToIndex_inj
    (inRange : PositionInRange dims pos)
    (otherInRange : PositionInRange dims other) :
    (posToIndex dims pos).toNat = (posToIndex dims other).toNat ↔
      pos = other := by
  constructor
  · intro same
    apply Boxes.position_array_injective (rowMajor pos inRange)
    rw [rowMajor other otherInRange, same]
  · rintro rfl
    rfl

/-- The positions in range are numbered up to the product of the extents. -/
theorem bijOn_posToIndex :
    Set.BijOn (fun pos => (posToIndex dims pos).toNat)
      {pos | PositionInRange dims pos} (Set.Iio dims.prod) := by
  refine ⟨?_, ?_, ?_⟩
  · intro pos inRange
    exact Boxes.position_lt (rowMajor pos inRange)
  · intro pos inRange other otherInRange same
    exact (posToIndex_inj rowMajor inRange otherInRange).mp same
  · intro place below
    rcases Boxes.exists_position_array below with ⟨pos, there⟩
    have inRange : PositionInRange dims pos :=
      positionInRange_iff.mpr (Option.isSome_of_eq_some there)
    have same := (rowMajor pos inRange).symm.trans there
    exact ⟨pos, inRange, Option.some.inj same⟩

/-- An assignment is seen at its own position only. -/
theorem HasShape.assign_of_rowMajor
    (shape : vector.HasShape dims)
    (ranked : dims ≠ []) (small : dims.prod < 2 ^ 64)
    (inRange : PositionInRange dims pos) (value : T) :
    ∃ written, vector.assign pos value = pure written ∧
      written.HasShape dims ∧
        ∀ other, PositionInRange dims other →
          ∃ old, vector.read other = pure old ∧
            written.read other = pure (if pos = other then value else old) := by
  have found := shape.at_of_position ranked small (rowMajor pos inRange)
  have whole := ((hasShape_iff ranked small).mp shape).2
  have assigned :
      vector.assign pos value =
        pure
          { vector with
            data := vector.data.set (posToIndex dims pos).toNat value } := by
    rw [assign, found, pure_bind]
  refine ⟨_, assigned, shape.assign_shape assigned, ?_⟩
  intro other otherInRange
  have otherFound :=
    shape.at_of_position ranked small (rowMajor other otherInRange)
  have there : (posToIndex dims other).toNat < vector.data.length :=
    whole ▸ Boxes.position_lt (rowMajor other otherInRange)
  rcases read_assign found otherFound there value with
    ⟨written, same, before, after⟩
  rw [assigned] at same
  cases same
  refine ⟨_, before, ?_⟩
  rw [after,
    if_congr (posToIndex_inj rowMajor inRange otherInRange) rfl rfl]

/-- Numbers in row-major order give every position an element of its own. -/
theorem indexesRowMajor_of_rowMajor
    (ranked : dims ≠ []) (small : dims.prod < 2 ^ 64) :
    IndexesRowMajor dims := by
  constructor
  case bijection =>
    rcases List.exists_cons_of_ne_nil ranked with ⟨extent, rest, rfl⟩
    rcases extentToSize_cons extent rest with ⟨size, computed, product⟩
    rw [Nat.mod_eq_of_lt small] at product
    refine ⟨size, computed, ?_⟩
    rw [product]
    exact bijOn_posToIndex rowMajor
  case rowMajor => exact rowMajor
  case creates =>
    intro T _
    exact exists_create ranked small
  case refuses =>
    intro T vector shape pos
    rw [← not_positionInRange_iff]
    constructor
    · rintro ⟨what, refused⟩ inRange
      rw [shape.at_of_position ranked small (rowMajor pos inRange)] at refused
      cases refused
    · exact shape.at_of_not_inRange
  case inside =>
    intro T vector shape pos
    by_cases inRange : PositionInRange dims pos
    · rw [shape.at_of_position ranked small (rowMajor pos inRange)]
      exact Checked.defined_pure
    · rcases shape.at_of_not_inRange inRange with ⟨what, refused⟩
      rw [refused]
      exact Checked.defined_throw
  case assigns =>
    intro T vector shape pos inRange value
    exact shape.assign_of_rowMajor rowMajor ranked small inRange value

end RowMajor

/-- Exactly the shapes whose rows fit an `int` are indexed as they should. -/
theorem indexesRowMajor_iff
    (ranked : dims ≠ []) (small : dims.prod < 2 ^ 64) :
    IndexesRowMajor dims ↔ RowsFitInt dims := by
  constructor
  · intro indexes
    by_cases empty : 0 ∈ dims
    · exact .inl empty
    · refine .inr (shortRows_of_rowMajor empty small ?_)
      intro pos place there
      have inRange : PositionInRange dims pos :=
        positionInRange_iff.mpr (Option.isSome_of_eq_some there)
      exact Option.some.inj ((indexes.rowMajor pos inRange).symm.trans there)
  · intro fits
    apply indexesRowMajor_of_rowMajor _ ranked small
    intro pos inRange
    exact position_of_rowsFitInt small fits inRange

theorem indexesRowMajor_cube : IndexesRowMajor [3, 4, 5] :=
  (indexesRowMajor_iff (by decide) (by decide)).mpr (by decide)

/--
The elements of the second half are taken for those of the first, which are
`2 ^ 32` elements away.
-/
theorem not_indexesRowMajor_long_rows :
    ¬ IndexesRowMajor [2, 65536, 65536] := by
  intro indexes
  have inRange : PositionInRange [2, 65536, 65536] [1, 0, 0] := by
    refine ⟨rfl, ?_⟩
    decide
  have there := indexes.rowMajor _ inRange
  have zero : posToIndex [2, 65536, 65536] [1, 0, 0] = 0 := by decide
  rw [zero] at there
  revert there
  decide

end MultiVector

end KafkaToNexus
