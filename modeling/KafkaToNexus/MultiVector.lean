import KafkaToNexus.Foundations.Boxes
import KafkaToNexus.Foundations.Checked
import KafkaToNexus.NeXusDataset.ChunkLayout

/-!
# Vectors with several dimensions

The elements of an array of any rank are kept in one vector.  An element is
found by its index in each dimension: the function that computes where it is
goes through the dimensions from the last to the first, with the product of
those it has passed in an `int`.  As long as there are fewer than `2 ^ 31`
elements, this is the row-major position.
-/

namespace KafkaToNexus

open Foundations
open NeXusDataset

abbrev Shape := List Nat

/-- What the language gives no meaning to. -/
inductive ArrayUndefined where
  | outsideOfData
  | outsideOfPosition
deriving DecidableEq, Repr

/-- An index that is out of range, or what the JSON library throws. -/
inductive ArrayException where
  | outOfRange (what : String)
  | conversion
deriving DecidableEq, Repr

abbrev ArrayCode := Checked ArrayUndefined ArrayException

/-- Access to a vector with `at`. -/
def atElement (elements : Shape) (index : Nat) : ArrayCode Nat :=
  match elements[index]? with
  | some element => pure element
  | none => throw (.outOfRange "vector::_M_range_check")

/-- The product of the extents in 64 bits. -/
def extentToSize (extent : Shape) : ArrayCode UInt64 := do
  let first ← atElement extent 0
  pure
    (extent.tail.foldl (fun product next => product * UInt64.ofNat next)
      (UInt64.ofNat first))

/-- What an index adds, by the product of the dimensions before its own. -/
def addIndex (dimensions : List UInt64) (returnIndex : UInt64)
    (entry : Nat × Nat) : UInt64 :=
  returnIndex +
    (elementsPerRow (dimensions.take entry.2)).toInt64.toUInt64 *
      UInt64.ofNat entry.1

/-- The position of an element, counted from the last dimension on. -/
def posToIndex (dimensions pos : Shape) : UInt64 :=
  pos.reverse.zipIdx.foldl
    (addIndex (dimensions.reverse.map UInt64.ofNat)) 0

structure MultiVector (T : Type) where
  data : List T
  dimensions : Shape
deriving DecidableEq, Repr

namespace MultiVector

variable {T : Type}

def create [Inhabited T] (extent : Shape) : ArrayCode (MultiVector T) := do
  let size ← extentToSize extent
  pure
    { data := List.replicate size.toNat default
      dimensions := extent }

/-- The place of the element that `at` returns a reference to. -/
def at_ (vector : MultiVector T) (index : Shape) : ArrayCode Nat :=
  if index.length ≠ vector.dimensions.length then
    throw (.outOfRange "Number of dimensions is not equal.")
  else if
      (index.zip vector.dimensions).any fun range => range.2 ≤ range.1 then
    throw (.outOfRange "Outside of range.")
  else
    let place := (posToIndex vector.dimensions index).toNat
    if place < vector.data.length then pure place
    else Checked.undefined .outsideOfData

end MultiVector

/-! ## Sizes and positions -/

variable {dims indices : Shape}

theorem extentToSize_cons (extent : Nat) (dims : Shape) :
    ∃ size : UInt64, extentToSize (extent :: dims) = pure size ∧
      size.toNat = (extent :: dims).prod % 2 ^ 64 := by
  refine ⟨_, rfl, ?_⟩
  suffices all :
      ∀ product : UInt64,
        (dims.foldl (fun product next => product * UInt64.ofNat next)
          product).toNat = product.toNat * dims.prod % 2 ^ 64 by
    show (dims.foldl _ (UInt64.ofNat extent)).toNat = _
    rw [all, UInt64.toNat_ofNat', List.prod_cons, Nat.mod_mul_mod]
  induction dims with
  | nil =>
      intro product
      rw [List.prod_nil, Nat.mul_one, Nat.mod_eq_of_lt product.toNat_lt]
      rfl
  | cons next dims induction =>
      intro product
      rw [List.foldl_cons, induction, UInt64.toNat_mul,
        UInt64.toNat_ofNat', List.prod_cons, Nat.mod_mul_mod, Nat.mul_assoc,
        ← Nat.mul_mod_mod, Nat.mod_mul_mod, Nat.mul_mod_mod]

theorem addIndex_append
    {dimensions : List UInt64} (returnIndex : UInt64) {entry : Nat × Nat}
    (inside : entry.2 ≤ dimensions.length) (more : List UInt64) :
    addIndex (dimensions ++ more) returnIndex entry =
      addIndex dimensions returnIndex entry := by
  rw [addIndex, addIndex, List.take_append_of_le_length inside]

/-- The first dimension is the last to be counted. -/
theorem posToIndex_cons
    (rank : indices.length = dims.length) (rows row : Nat) :
    posToIndex (rows :: dims) (row :: indices) =
      posToIndex dims indices +
        (elementsPerRow (dims.reverse.map UInt64.ofNat)).toInt64.toUInt64 *
          UInt64.ofNat row := by
  have long :
      indices.reverse.length = (dims.reverse.map UInt64.ofNat).length := by
    rw [List.length_reverse, List.length_map, List.length_reverse, rank]
  have others :
      indices.reverse.zipIdx.foldl
          (addIndex
            (dims.reverse.map UInt64.ofNat ++ [UInt64.ofNat rows])) 0 =
        posToIndex dims indices := by
    apply List.foldl_ext
    rintro returnIndex ⟨index, place⟩ member
    apply addIndex_append
    rw [← long]
    exact (List.snd_lt_of_mem_zipIdx member).le
  rw [posToIndex, List.reverse_cons, List.reverse_cons, List.map_append,
    List.map_singleton, List.zipIdx_append, List.foldl_append, others]
  show addIndex _ _ (row, 0 + indices.reverse.length) = _
  rw [Nat.zero_add, addIndex_append _ (Nat.le_of_eq long), addIndex,
    List.take_of_length_le (Nat.le_of_eq long.symm)]

theorem prod_toNat_ofNat (extents : Shape) :
    ((extents.map UInt64.ofNat).map UInt64.toNat).prod % 2 ^ 32 =
      extents.prod % 2 ^ 32 := by
  induction extents with
  | nil => rfl
  | cons extent extents induction =>
      rw [List.map_cons, List.map_cons, List.prod_cons, List.prod_cons,
        Nat.mul_mod, induction, UInt64.toNat_ofNat',
        Nat.mod_mod_of_dvd _ (by decide), ← Nat.mul_mod]

/--
Each dimension along which one can move has fewer than `2 ^ 31` elements
between two neighbours.
-/
def ShortRows : Shape → Prop
  | [] => True
  | extent :: dims => (2 ≤ extent → dims.prod < 2 ^ 31) ∧ ShortRows dims

instance decidableShortRows : ∀ dims, Decidable (ShortRows dims)
  | [] => .isTrue trivial
  | _ :: dims =>
      have := decidableShortRows dims
      inferInstanceAs (Decidable (_ ∧ _))

theorem shortRows_of_prod_lt
    (positive : 0 < dims.prod) (small : dims.prod < 2 ^ 31) :
    ShortRows dims := by
  induction dims with
  | nil => exact trivial
  | cons extent dims induction =>
      rw [List.prod_cons] at positive small
      have fewer : dims.prod ≤ extent * dims.prod :=
        Nat.le_mul_of_pos_left _ (Nat.pos_of_mul_pos_right positive)
      constructor
      · intro several
        exact fewer.trans_lt small
      · exact
          induction (Nat.pos_of_mul_pos_left positive)
            (fewer.trans_lt small)

/-- What an `int` makes of the number of elements in a row. -/
theorem toNat_rowProduct (dims : Shape) :
    (elementsPerRow (dims.reverse.map UInt64.ofNat)).toInt64.toUInt64.toNat =
      if dims.prod % 2 ^ 32 < 2 ^ 31 then dims.prod % 2 ^ 32
      else 2 ^ 64 - 2 ^ 32 + dims.prod % 2 ^ 32 := by
  rw [toNat_signExtended, toNat_elementsPerRow, prod_toNat_ofNat,
    List.prod_reverse]

/-- With short rows this is the row-major position. -/
theorem toNat_posToIndex_of_shortRows
    {place : Nat}
    (there : Boxes.position (dims.map fun _ => 0) dims indices = some place)
    (small : dims.prod < 2 ^ 64) (short : ShortRows dims) :
    (posToIndex dims indices).toNat = place := by
  induction dims generalizing indices place with
  | nil =>
      cases indices with
      | nil =>
          cases there
          rfl
      | cons index indices => cases there
  | cons rows dims induction =>
      rcases Boxes.position_array_eq_some_iff.mp there with
        ⟨row, indices, rest, rfl, below, later, rfl⟩
      have rank :=
        (Boxes.position_array_isSome_iff_inside.mp
          (Option.isSome_of_eq_some later)).1
      have whole := Boxes.position_lt there
      have first : rest < dims.prod := Boxes.position_lt later
      rw [List.prod_cons] at small whole
      have fewer : dims.prod ≤ rows * dims.prod :=
        Nat.le_mul_of_pos_left _ (Nat.zero_lt_of_lt below)
      have row_ : rows ≤ rows * dims.prod :=
        Nat.le_mul_of_pos_right _ (Nat.zero_lt_of_lt first)
      have rest_ : (posToIndex dims indices).toNat = rest :=
        induction later (fewer.trans_lt small) short.2
      rw [posToIndex_cons rank, UInt64.toNat_add, UInt64.toNat_mul, rest_,
        UInt64.toNat_ofNat', Nat.mod_eq_of_lt (show row < 2 ^ 64 by omega),
        toNat_rowProduct]
      rcases Nat.eq_zero_or_pos row with rfl | positive
      · rw [Nat.mul_zero, Nat.zero_mul, Nat.zero_mod, Nat.add_zero,
          Nat.zero_add]
        exact Nat.mod_eq_of_lt (by omega)
      · have narrow : dims.prod < 2 ^ 31 := short.1 (by omega)
        rw [Nat.mod_eq_of_lt (show dims.prod < 2 ^ 32 by omega),
          if_pos narrow, Nat.mul_comm, Nat.add_comm]
        omega

/-- Below `2 ^ 31` elements this is the row-major position. -/
theorem toNat_posToIndex
    {place : Nat}
    (there : Boxes.position (dims.map fun _ => 0) dims indices = some place)
    (small : dims.prod < 2 ^ 31) :
    (posToIndex dims indices).toNat = place := by
  have positive : 0 < dims.prod :=
    Nat.zero_lt_of_lt (Boxes.position_lt there)
  apply toNat_posToIndex_of_shortRows there
  · omega
  · exact shortRows_of_prod_lt positive small

/-! ## References to elements -/

namespace MultiVector

variable {T : Type} {vector : MultiVector T} {place : Nat}

/-- An element that is there is found. -/
theorem at_of_position
    (whole : vector.data.length = vector.dimensions.prod)
    (there :
      Boxes.position (vector.dimensions.map fun _ => 0) vector.dimensions
        indices = some place)
    (index : (posToIndex vector.dimensions indices).toNat = place) :
    vector.at_ indices = pure place := by
  rcases
      Boxes.position_array_isSome_iff_inside.mp
        (Option.isSome_of_eq_some there)
    with ⟨rank, inside⟩
  have notOutside :
      ¬(indices.zip vector.dimensions).any
        (fun range => decide (range.2 ≤ range.1)) := by
    rw [List.any_eq_true]
    rintro ⟨range, member, outside⟩
    exact
      absurd (of_decide_eq_true outside) (not_le.mpr (inside range member))
  have found :
      (posToIndex vector.dimensions indices).toNat < vector.data.length := by
    rw [index, whole]
    exact Boxes.position_lt there
  rw [at_, if_neg (not_not_intro rank), if_neg notOutside]
  show (if (posToIndex vector.dimensions indices).toNat < _ then _ else _) = _
  rw [if_pos found, index]

/-- Any other index throws. -/
theorem at_of_none
    (nothing :
      Boxes.position (vector.dimensions.map fun _ => 0) vector.dimensions
        indices = none) :
    ∃ what, vector.at_ indices = throw (.outOfRange what) := by
  by_cases rank : indices.length = vector.dimensions.length
  · have outside :
        (indices.zip vector.dimensions).any
          (fun range => decide (range.2 ≤ range.1)) := by
      by_contra inside
      rw [← Option.not_isSome_iff_eq_none,
        Boxes.position_array_isSome_iff_inside] at nothing
      apply nothing
      refine ⟨rank, ?_⟩
      intro range member
      rw [← not_le]
      intro beyond
      apply inside
      rw [List.any_eq_true]
      exact ⟨range, member, decide_eq_true beyond⟩
    refine ⟨"Outside of range.", ?_⟩
    rw [at_, if_neg (not_not_intro rank), if_pos outside]
  · refine ⟨"Number of dimensions is not equal.", ?_⟩
    rw [at_, if_pos rank]

/-- A new vector has as many default elements as its dimensions have. -/
theorem create_eq
    [Inhabited T] (ranked : dims ≠ []) (small : dims.prod < 2 ^ 64) :
    (create dims : ArrayCode (MultiVector T)) =
      pure
        { data := List.replicate dims.prod default
          dimensions := dims } := by
  rcases dims with _ | ⟨extent, dims⟩
  · exact absurd rfl ranked
  rcases extentToSize_cons extent dims with ⟨size, computed, same⟩
  rw [Nat.mod_eq_of_lt small] at same
  rw [create, computed, pure_bind, same]

end MultiVector

end KafkaToNexus
