import KafkaToNexus.Foundations.Writes
import KafkaToNexus.HDFOperations.JsonArrays
import Mathlib.Algebra.BigOperators.Ring.List

/-!
# The padded array of a JSON array

All leaves of an array have a place as soon as no dimension is zero.  The places
are different, since no leaf is below another one and positions in row-major
order are different for different indices.  A leaf of an array with a dimension
of zero has no place, and to store it throws.
-/

namespace KafkaToNexus.HDFOperations

open Foundations

variable {Real T : Type}

/--
The leaves are at their paths, extended with zeros; no two of them at the same
place; and there is the default everywhere else.  A rectangular array is the
list of its leaves from left to right.
-/
structure IsPaddedArray [Inhabited T]
    (jsonElementConverter : JsonValue Real → Option T)
    (value : JsonValue Real) (dims : Shape) (result : MultiVector T) :
    Prop where
  dimensions : result.dimensions = dims
  size : result.data.length = dims.prod
  leaves :
    ∀ path leaf, value.IsLeaf path leaf →
      ∃ place element,
        result.at_ (JsonValue.extendPath dims.length path) = pure place ∧
          jsonElementConverter leaf = some element ∧
            result.data[place]? = some element
  distinct :
    ∀ path leaf other otherLeaf, value.IsLeaf path leaf →
      value.IsLeaf other otherLeaf → path ≠ other →
        result.at_ (JsonValue.extendPath dims.length path) ≠
          result.at_ (JsonValue.extendPath dims.length other)
  padding :
    ∀ place, place < result.data.length →
      (∀ path leaf, value.IsLeaf path leaf →
        result.at_ (JsonValue.extendPath dims.length path) ≠ pure place) →
      result.data[place]? = some default
  flattening :
    value.Rectangular →
      result.data.map some =
        value.leaves.map (fun leaf => jsonElementConverter leaf.2)

/-- Where a leaf has its place, and what is written there. -/
def writeOf [Inhabited T] (jsonElementConverter : JsonValue Real → Option T)
    (dims : Shape) (leaf : List Nat × JsonValue Real) : Nat × T :=
  ((Boxes.position (dims.map fun _ => 0) dims
    (JsonValue.extendPath dims.length leaf.1)).getD 0,
    (jsonElementConverter leaf.2).getD default)

/-- Every leaf has a place in the array. -/
def Placed (dims : Shape) (value : JsonValue Real) : Prop :=
  ∀ path leaf, value.IsLeaf path leaf →
    path.length ≤ dims.length ∧
      (Boxes.position (dims.map fun _ => 0) dims
        (JsonValue.extendPath dims.length path)).isSome

section Storing

variable [Inhabited T] {jsonElementConverter : JsonValue Real → Option T}
  {items : List (JsonValue Real)} {value : JsonValue Real} {dims : Shape}

theorem foldlM_storeLeaf
    {leaves : List (List Nat × JsonValue Real)} {data : List T}
    (convertible :
      ∀ leaf ∈ leaves, (jsonElementConverter leaf.2).isSome)
    (placed :
      ∀ leaf ∈ leaves,
        (Boxes.position (dims.map fun _ => 0) dims
          (JsonValue.extendPath dims.length leaf.1)).isSome)
    (whole : data.length = dims.prod) (small : dims.prod < 2 ^ 31) :
    leaves.foldlM (storeLeaf jsonElementConverter dims.length [])
        { data, dimensions := dims } =
      pure
        { data :=
            Writes.writeAll (leaves.map (writeOf jsonElementConverter dims))
              data
          dimensions := dims } := by
  induction leaves generalizing data with
  | nil => rfl
  | cons leaf leaves induction =>
      rw [List.forall_mem_cons] at convertible placed
      rcases Option.isSome_iff_exists.mp convertible.1 with
        ⟨element, converted⟩
      rcases Option.isSome_iff_exists.mp placed.1 with ⟨place, there⟩
      have stored :
          storeLeaf jsonElementConverter dims.length []
              { data, dimensions := dims } leaf =
            pure
              { data := data.set place element
                dimensions := dims } := by
        have found :
            MultiVector.at_ { data, dimensions := dims }
                (JsonValue.extendPath dims.length leaf.1) =
              pure place :=
          MultiVector.at_of_position whole there (toNat_posToIndex there small)
        simp only [storeLeaf, storeElement, converted, List.nil_append,
          found, pure_bind]
      have still : (data.set place element).length = dims.prod := by
        rw [List.length_set, whole]
      have write :
          writeOf jsonElementConverter dims leaf = (place, element) := by
        rw [writeOf, there, converted]
        rfl
      rw [List.foldlM_cons, stored, pure_bind,
        induction convertible.2 placed.2 still, List.map_cons, write]
      rfl

/-- Two leaves are not in one place. -/
theorem Placed.path_eq
    {path other : List Nat} {leaf otherLeaf : JsonValue Real} {place : Nat}
    (placed : Placed dims value)
    (isLeaf : value.IsLeaf path leaf)
    (otherIsLeaf : value.IsLeaf other otherLeaf)
    (there :
      Boxes.position (dims.map fun _ => 0) dims
        (JsonValue.extendPath dims.length path) = some place)
    (otherThere :
      Boxes.position (dims.map fun _ => 0) dims
        (JsonValue.extendPath dims.length other) = some place) :
    path = other :=
  JsonValue.extendPath_injective isLeaf otherIsLeaf
    (placed path leaf isLeaf).1 (placed other otherLeaf otherIsLeaf).1
    (Boxes.position_array_injective there otherThere)

theorem writeOf_fst
    (leaf : List Nat × JsonValue Real) {place : Nat}
    (there :
      Boxes.position (dims.map fun _ => 0) dims
        (JsonValue.extendPath dims.length leaf.1) = some place) :
    (writeOf jsonElementConverter dims leaf).1 = place :=
  congrArg (fun position => position.getD 0) there

theorem writeOf_snd
    (leaf : List Nat × JsonValue Real) {element : T}
    (converted : jsonElementConverter leaf.2 = some element) :
    (writeOf jsonElementConverter dims leaf).2 = element :=
  congrArg (fun element => element.getD default) converted

/-- The place of a leaf has the value of the leaf. -/
theorem Placed.getElem?_writeAll
    {path : List Nat} {leaf : JsonValue Real} {place : Nat} {element : T}
    {data : List T}
    (placed : Placed dims value) (whole : data.length = dims.prod)
    (isLeaf : value.IsLeaf path leaf)
    (there :
      Boxes.position (dims.map fun _ => 0) dims
        (JsonValue.extendPath dims.length path) = some place)
    (converted : jsonElementConverter leaf = some element) :
    (Writes.writeAll (value.leaves.map (writeOf jsonElementConverter dims))
      data)[place]? = some element := by
  apply Writes.getElem?_writeAll_of_touched
  · rw [whole]
    exact Boxes.position_lt there
  · refine ⟨writeOf jsonElementConverter dims (path, leaf), ?_, ?_⟩
    · exact List.mem_map_of_mem (JsonValue.mem_leaves_iff.mpr isLeaf)
    · exact writeOf_fst (path, leaf) there
  · intro write member same
    rcases List.mem_map.mp member with ⟨⟨other, otherLeaf⟩, also, rfl⟩
    have otherIsLeaf := JsonValue.mem_leaves_iff.mp also
    rcases Option.isSome_iff_exists.mp
        (placed other otherLeaf otherIsLeaf).2 with
      ⟨otherPlace, otherThere⟩
    rw [writeOf_fst (other, otherLeaf) otherThere] at same
    subst same
    obtain rfl := placed.path_eq isLeaf otherIsLeaf there otherThere
    obtain rfl : leaf = otherLeaf :=
      Option.some.inj (isLeaf.1.symm.trans otherIsLeaf.1)
    exact writeOf_snd (path, leaf) converted

/-- The leaves of a rectangular array have the rank of the array. -/
theorem length_path_of_rectangular
    {path : List Nat} {leaf : JsonValue Real}
    (greatest :
      GreatestOfEach dims (fun depth => {length | value.HasArray depth length}))
    (placed : Placed dims value) (rectangular : value.Rectangular)
    (isLeaf : value.IsLeaf path leaf) :
    path.length = dims.length := by
  apply Nat.le_antisymm (placed path leaf isLeaf).1
  rcases List.eq_nil_or_concat' dims with rfl | ⟨others, last, rfl⟩
  · exact Nat.zero_le _
  · have array :=
      (greatest.greatest others.length last List.getElem?_concat_length).1
    rw [List.length_append, List.length_singleton]
    exact rectangular.depths path leaf others.length last isLeaf array

theorem boundedBy_of_greatest
    (greatest :
      GreatestOfEach dims
        (fun depth => {length | value.HasArray depth length})) :
    JsonValue.BoundedBy dims value := by
  intro depth length array
  have there := List.getElem?_eq_getElem (greatest.lt_length array)
  exact ⟨_, there, (greatest.greatest depth _ there).2 array⟩

/-- In a rectangular array the places are in order. -/
theorem places_of_rectangular
    (greatest :
      GreatestOfEach dims (fun depth => {length | value.HasArray depth length}))
    (placed : Placed dims value) (rectangular : value.Rectangular) :
    (value.leaves.map (writeOf jsonElementConverter dims)).map Prod.fst =
      List.range dims.prod := by
  have ranked (path : List Nat) (leaf : JsonValue Real)
      (isLeaf : value.IsLeaf path leaf) : path.length = dims.length :=
    length_path_of_rectangular greatest placed rectangular isLeaf
  have arrays (depth length : Nat) (array : value.HasArray depth length) :
      dims[depth]? = some length := by
    have there := List.getElem?_eq_getElem (greatest.lt_length array)
    rw [there,
      rectangular.lengths depth _ length
        (greatest.greatest depth _ there).1 array]
  have positions := JsonValue.positions_leaves arrays ranked
  have places :=
    congrArg (List.map fun position => position.getD 0) positions
  rw [List.map_map, List.map_map] at places
  rw [List.map_map]
  calc
    _ = value.leaves.map
          ((fun position => position.getD 0) ∘ fun leaf =>
            Boxes.position (dims.map fun _ => 0) dims leaf.1) := by
      apply List.map_congr_left
      rintro ⟨path, leaf⟩ member
      have full :=
        ranked path leaf (JsonValue.mem_leaves_iff.mp member)
      have same : JsonValue.extendPath dims.length path = path := by
        rw [JsonValue.extendPath, full, Nat.sub_self]
        exact List.append_nil path
      show (Boxes.position _ dims _).getD 0 = _
      rw [same]
      rfl
    _ = List.range dims.prod := by
      rw [places]
      exact List.map_id _

/-- The array after every leaf has been stored. -/
def paddedArray (jsonElementConverter : JsonValue Real → Option T)
    (dims : Shape) (value : JsonValue Real) : MultiVector T :=
  { data :=
      Writes.writeAll (value.leaves.map (writeOf jsonElementConverter dims))
        (List.replicate dims.prod default)
    dimensions := dims }

theorem length_paddedArray :
    (paddedArray jsonElementConverter dims value).data.length =
      dims.prod := by
  rw [paddedArray, Writes.length_writeAll, List.length_replicate]

theorem at_paddedArray
    {path : List Nat} {place : Nat} (small : dims.prod < 2 ^ 31)
    (there :
      Boxes.position (dims.map fun _ => 0) dims
        (JsonValue.extendPath dims.length path) = some place) :
    (paddedArray jsonElementConverter dims value).at_
        (JsonValue.extendPath dims.length path) =
      pure place :=
  MultiVector.at_of_position length_paddedArray there
    (toNat_posToIndex there small)

/-- What no leaf is written to is still the default. -/
theorem Placed.getElem?_paddedArray
    {place : Nat} (placed : Placed dims value) (small : dims.prod < 2 ^ 31)
    (inside : place < dims.prod)
    (elsewhere :
      ∀ path leaf, value.IsLeaf path leaf →
        (paddedArray jsonElementConverter dims value).at_
          (JsonValue.extendPath dims.length path) ≠ pure place) :
    (paddedArray jsonElementConverter dims value).data[place]? =
      some default := by
  have untouched :
      ∀ write ∈ value.leaves.map (writeOf jsonElementConverter dims),
        write.1 ≠ place := by
    intro write member same
    rcases List.mem_map.mp member with ⟨⟨path, leaf⟩, also, rfl⟩
    have isLeaf := JsonValue.mem_leaves_iff.mp also
    rcases Option.isSome_iff_exists.mp (placed path leaf isLeaf).2 with
      ⟨other, there⟩
    rw [writeOf_fst (path, leaf) there] at same
    subst same
    exact elsewhere path leaf isLeaf (at_paddedArray small there)
  show (Writes.writeAll _ _)[place]? = _
  rw [Writes.getElem?_writeAll_of_untouched untouched,
    List.getElem?_replicate_of_lt inside]

/-- The elements of a rectangular array are its leaves in order. -/
theorem data_of_rectangular
    (greatest :
      GreatestOfEach dims (fun depth => {length | value.HasArray depth length}))
    (convertible :
      ∀ path leaf, value.IsLeaf path leaf →
        (jsonElementConverter leaf).isSome)
    (placed : Placed dims value) (rectangular : value.Rectangular) :
    (paddedArray jsonElementConverter dims value).data.map some =
      value.leaves.map (fun leaf => jsonElementConverter leaf.2) := by
  have places :=
    @places_of_rectangular Real T _ jsonElementConverter value dims greatest
      placed rectangular
  have long :
      (List.replicate dims.prod (default : T)).length = dims.prod :=
    List.length_replicate
  rw [← long] at places
  rw [paddedArray, Writes.writeAll_of_range places, List.map_map,
    List.map_map]
  apply List.map_congr_left
  rintro ⟨path, leaf⟩ member
  have isLeaf := JsonValue.mem_leaves_iff.mp member
  rcases Option.isSome_iff_exists.mp (convertible path leaf isLeaf) with
    ⟨element, converted⟩
  show some (writeOf _ _ (path, leaf)).2 = jsonElementConverter leaf
  rw [writeOf_snd (path, leaf) converted, converted]

theorem isPaddedArray
    (greatest :
      GreatestOfEach dims (fun depth => {length | value.HasArray depth length}))
    (convertible :
      ∀ path leaf, value.IsLeaf path leaf →
        (jsonElementConverter leaf).isSome)
    (placed : Placed dims value) (small : dims.prod < 2 ^ 31) :
    IsPaddedArray jsonElementConverter value dims
      (paddedArray jsonElementConverter dims value) := by
  constructor
  · rfl
  · exact length_paddedArray
  · intro path leaf isLeaf
    rcases Option.isSome_iff_exists.mp (placed path leaf isLeaf).2 with
      ⟨place, there⟩
    rcases Option.isSome_iff_exists.mp (convertible path leaf isLeaf) with
      ⟨element, converted⟩
    refine ⟨place, element, at_paddedArray small there, converted, ?_⟩
    exact
      placed.getElem?_writeAll List.length_replicate isLeaf there converted
  · intro path leaf other otherLeaf isLeaf otherIsLeaf different same
    rcases Option.isSome_iff_exists.mp (placed path leaf isLeaf).2 with
      ⟨place, there⟩
    rcases Option.isSome_iff_exists.mp
        (placed other otherLeaf otherIsLeaf).2 with
      ⟨otherPlace, otherThere⟩
    rw [at_paddedArray small there, at_paddedArray small otherThere] at same
    obtain rfl : place = otherPlace :=
      Except.ok.inj (Except.ok.inj same)
    exact
      different (placed.path_eq isLeaf otherIsLeaf there otherThere)
  · intro place inside elsewhere
    rw [length_paddedArray] at inside
    exact placed.getElem?_paddedArray small inside elsewhere
  · exact data_of_rectangular greatest convertible placed

/-! ## When storing throws -/

omit [Inhabited T] in
/-- A leaf has no place in an array without elements. -/
theorem storeLeaf_of_zero
    {leaf : List Nat × JsonValue Real} {data : List T}
    (zero : 0 ∈ dims)
    (convertible : (jsonElementConverter leaf.2).isSome) :
    ∃ what,
      storeLeaf jsonElementConverter dims.length []
          { data, dimensions := dims } leaf =
        throw (.outOfRange what) := by
  rcases Option.isSome_iff_exists.mp convertible with ⟨element, converted⟩
  have nothing :
      Boxes.position (dims.map fun _ => 0) dims
        (JsonValue.extendPath dims.length leaf.1) = none := by
    rw [Option.eq_none_iff_forall_ne_some]
    intro place there
    have below := Boxes.position_lt there
    rw [List.prod_eq_zero zero] at below
    exact Nat.not_lt_zero place below
  have outside :
      ∃ what,
        MultiVector.at_ { data, dimensions := dims }
            (JsonValue.extendPath dims.length leaf.1) =
          throw (.outOfRange what) :=
    MultiVector.at_of_none nothing
  rcases outside with ⟨what, threw⟩
  refine ⟨what, ?_⟩
  simp only [storeLeaf, storeElement, converted, List.nil_append, threw]
  rfl

/-- The leaves are stored in an array of defaults. -/
theorem jsonArrayToMultiArray_eq
    (determined : determineArrayDimensions (.array items) = pure dims)
    (greatest :
      GreatestOfEach dims
        (fun depth =>
          {length | (JsonValue.array items).HasArray depth length}))
    (small : dims.prod < 2 ^ 31) :
    jsonArrayToMultiArray jsonElementConverter (.array items) =
      (JsonValue.array items).leaves.foldlM
        (storeLeaf jsonElementConverter dims.length [])
        { data := List.replicate dims.prod default, dimensions := dims } := by
  have outer : (JsonValue.array items).HasArray 0 items.length :=
    JsonValue.hasArray_zero_iff.mpr rfl
  have inside : 0 < dims.length := greatest.lt_length outer
  have ranked : dims ≠ [] := List.ne_nil_of_length_pos inside
  have fits : ∀ item ∈ items, Fits dims.length (0 + 1) item := by
    intro item member further length array
    have nested : (JsonValue.array items).HasArray (further + 1) length :=
      JsonValue.hasArray_succ_iff.mpr ⟨item, member, array⟩
    have room := greatest.lt_length nested
    omega
  have start :
      List.replicate dims.length 0 =
        JsonValue.extendPath dims.length ([] ++ [0]) := by
    rw [extendPath_zero inside]
    rfl
  have created := @MultiVector.create_eq dims T _ ranked (by omega)
  rw [jsonArrayToMultiArray, determined, pure_bind, created, pure_bind,
    start]
  exact
    populateMultiVector_eq (fun item _ => storesLeaves item) fits 0 _

/-- An array whose leaves have places is padded. -/
theorem jsonArrayToMultiArray_of_placed
    (determined : determineArrayDimensions (.array items) = pure dims)
    (greatest :
      GreatestOfEach dims
        (fun depth =>
          {length | (JsonValue.array items).HasArray depth length}))
    (convertible :
      ∀ path leaf, (JsonValue.array items).IsLeaf path leaf →
        (jsonElementConverter leaf).isSome)
    (placed : Placed dims (.array items)) (small : dims.prod < 2 ^ 31) :
    jsonArrayToMultiArray jsonElementConverter (.array items) =
      pure (paddedArray jsonElementConverter dims (.array items)) := by
  rw [jsonArrayToMultiArray_eq determined greatest small]
  apply foldlM_storeLeaf _ _ List.length_replicate small
  · intro leaf member
    exact convertible leaf.1 leaf.2 (JsonValue.mem_leaves_iff.mp member)
  · intro leaf member
    exact (placed leaf.1 leaf.2 (JsonValue.mem_leaves_iff.mp member)).2

/-- The first leaf throws if a dimension is zero. -/
theorem jsonArrayToMultiArray_of_zero
    {path : List Nat} {leaf : JsonValue Real}
    (determined : determineArrayDimensions (.array items) = pure dims)
    (greatest :
      GreatestOfEach dims
        (fun depth =>
          {length | (JsonValue.array items).HasArray depth length}))
    (convertible :
      ∀ path leaf, (JsonValue.array items).IsLeaf path leaf →
        (jsonElementConverter leaf).isSome)
    (isLeaf : (JsonValue.array items).IsLeaf path leaf) (zero : 0 ∈ dims)
    (small : dims.prod < 2 ^ 31) :
    ∃ what,
      jsonArrayToMultiArray jsonElementConverter (.array items) =
        throw (.outOfRange what) := by
  have member := JsonValue.mem_leaves_iff.mpr isLeaf
  rw [jsonArrayToMultiArray_eq determined greatest small]
  cases listed : (JsonValue.array items).leaves with
  | nil =>
      rw [listed] at member
      cases member
  | cons first others =>
      have firstIsLeaf : (JsonValue.array items).IsLeaf first.1 first.2 := by
        rw [← JsonValue.mem_leaves_iff, listed]
        exact List.mem_cons_self
      rcases
          storeLeaf_of_zero zero (convertible first.1 first.2 firstIsLeaf)
        with ⟨what, threw⟩
      refine ⟨what, ?_⟩
      rw [List.foldlM_cons, threw]
      rfl

end Storing

/--
An array becomes an array with the greatest lengths as its dimensions.  It throws
when there is a leaf, but a dimension is zero, and otherwise is padded.
-/
theorem json_array_padded
    [Inhabited T] (jsonElementConverter : JsonValue Real → Option T)
    (items : List (JsonValue Real))
    (convertible :
      ∀ path leaf, (JsonValue.array items).IsLeaf path leaf →
        (jsonElementConverter leaf).isSome) :
    ∃ dims : Shape,
      determineArrayDimensions (.array items) = pure dims ∧
      GreatestOfEach dims
        (fun depth =>
          {length | (JsonValue.array items).HasArray depth length}) ∧
      (dims.prod < 2 ^ 31 →
        ((∃ what,
          jsonArrayToMultiArray jsonElementConverter (.array items) =
            throw (.outOfRange what)) ↔
          (∃ path leaf, (JsonValue.array items).IsLeaf path leaf) ∧
            0 ∈ dims) ∧
        (¬((∃ path leaf, (JsonValue.array items).IsLeaf path leaf) ∧
            0 ∈ dims) →
          ∃ result,
            jsonArrayToMultiArray jsonElementConverter (.array items) =
              pure result ∧
            IsPaddedArray jsonElementConverter (.array items) dims
              result)) := by
  rcases determineArrayDimensions_eq items with
    ⟨dims, determined, greatest⟩
  refine ⟨dims, determined, greatest, ?_⟩
  intro small
  have returns
      (fine :
        ¬((∃ path leaf, (JsonValue.array items).IsLeaf path leaf) ∧
          0 ∈ dims)) :
      ∃ result,
        jsonArrayToMultiArray jsonElementConverter (.array items) =
          pure result ∧
        IsPaddedArray jsonElementConverter (.array items) dims result := by
    have placed : Placed dims (.array items) := by
      intro path leaf isLeaf
      apply isLeaf.position_isSome (boundedBy_of_greatest greatest)
      intro size member
      apply Nat.pos_of_ne_zero
      rintro rfl
      exact fine ⟨⟨path, leaf, isLeaf⟩, member⟩
    exact
      ⟨_,
        jsonArrayToMultiArray_of_placed determined greatest convertible
          placed small,
        isPaddedArray greatest convertible placed small⟩
  refine ⟨⟨?_, ?_⟩, returns⟩
  · rintro ⟨what, threw⟩
    by_contra fine
    rcases returns fine with ⟨result, returned, _⟩
    rw [threw] at returned
    cases Except.ok.inj returned
  · rintro ⟨⟨path, leaf, isLeaf⟩, zero⟩
    exact
      jsonArrayToMultiArray_of_zero determined greatest convertible isLeaf
        zero small

/-- The number `1` before the array of `2` and `3`. -/
def mixedArray : List (JsonValue Unit) :=
  [.unsigned 1, .array [.unsigned 2, .unsigned 3]]

def unsignedOf : JsonValue Unit → Option UInt64
  | .unsigned value => some value
  | _ => none

/-- It is padded to two rows of two numbers. -/
theorem json_array_padded_mixed :
    ∃ result,
      jsonArrayToMultiArray unsignedOf (.array mixedArray) = pure result ∧
      IsPaddedArray unsignedOf (.array mixedArray) [2, 2] result := by
  have convertible (path : List Nat) (leaf : JsonValue Unit)
      (isLeaf : (JsonValue.array mixedArray).IsLeaf path leaf) :
      (unsignedOf leaf).isSome := by
    have member := JsonValue.mem_leaves_iff.mpr isLeaf
    have all :
        ∀ leaf ∈ (JsonValue.array mixedArray).leaves,
          (unsignedOf leaf.2).isSome := by
      decide
    exact all (path, leaf) member
  rcases json_array_padded unsignedOf mixedArray convertible with
    ⟨dims, determined, _, outcome⟩
  have expected :
      determineArrayDimensions (.array mixedArray) = pure [2, 2] := rfl
  obtain rfl : [2, 2] = dims :=
    Except.ok.inj (Except.ok.inj (expected.symm.trans determined))
  apply (outcome (by decide)).2
  rintro ⟨_, zero⟩
  exact absurd zero (by decide)

end KafkaToNexus.HDFOperations
