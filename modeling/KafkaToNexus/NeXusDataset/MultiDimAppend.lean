import KafkaToNexus.Foundations.GrowingArray
import KafkaToNexus.Foundations.Mealy
import KafkaToNexus.Foundations.Throwing
import KafkaToNexus.NeXusDataset.ExtensibleDataset
import Mathlib.Order.Bounds.Defs

/-!
# Appending arrays of several dimensions

The dataset in the file is one array, whose first index is that of the row.
Appending an array extends it by a row, and in the other dimensions as far as
the array needs, and writes the array to the beginning of the new row.  What
was written before stays in its cells, so that the dataset is a list of rows
with zeros around what was written to each.
-/

namespace KafkaToNexus.NeXusDataset.MultiDimDatasetBase

open KafkaToNexus.Foundations

inductive AppendFailure where
  | runtimeError (what : String)
  | hdf5Error
  /-- A dataset without dimensions has no first extent. -/
  | outOfBounds
deriving DecidableEq, Repr

/-- A call of `appendArray`. -/
structure NewArray (Element : Type*) where
  newData : List Element
  shape : List Nat

/--
The dataset has a row for each of some arrays and is as large as the largest
of them; each array is in its row, in row-major order, and the other cells are
filled.
-/
structure HoldsArrays {Element : Type*} [Inhabited Element]
    (shape : List Nat) (arrays : List (NewArray Element))
    (dataset : GrowingArray Element) : Prop where
  extent :
    ∃ dims, dataset.extent = arrays.length :: dims ∧
      dims.length = shape.length ∧
      ∀ (dim largest : Nat), dims[dim]? = some largest →
        IsGreatest
          {extent | shape[dim]? = some extent ∨
            ∃ new ∈ arrays, new.shape[dim]? = some extent}
          largest
  rows :
    ∀ before new after, arrays = before ++ new :: after →
      ∀ index place,
        Boxes.position (new.shape.map fun _ => 0) new.shape index =
            some place →
          new.newData[place]? = some (dataset.cells (before.length :: index))
  others :
    ∀ row index,
      (∀ before new after, arrays = before ++ new :: after →
          row = before.length →
            Boxes.position (new.shape.map fun _ => 0) new.shape index =
              none) →
        dataset.cells (row :: index) = default

/--
Calls with another rank throw and change nothing; all others return, and their
arrays are in the dataset.
-/
structure AppendsArrays {Element : Type*} [Inhabited Element]
    (shape : List Nat) (calls : List (NewArray Element))
    (run :
      List (NewArray Element) →
        GrowingArray Element × List (Option AppendFailure)) : Prop where
  refused :
    ∀ before new after, calls = before ++ new :: after →
      new.shape.length ≠ shape.length →
        run (before ++ [new]) =
          ((run before).1,
            (run before).2 ++
              [some
                (.runtimeError
                  "Rank (dimensions) of data to be written is wrong.")])
  returned :
    ∀ before new after, calls = before ++ new :: after →
      new.shape.length = shape.length →
        (run (before ++ [new])).2 = (run before).2 ++ [none]
  holds :
    HoldsArrays shape
      (calls.filter fun new => new.shape.length = shape.length) (run calls).1

variable {Element : Type*} [Inhabited Element]

/-- The dataset that the constructor creates for a shape. -/
def created (shape : List Nat) : GrowingArray Element :=
  .filled (0 :: shape)

/-- Each extent that is less than that of the new data is set to it. -/
def extend (currentExtent shape : List Nat) : List Nat :=
  List.zipWith
    (fun current size => if current < size then size else current)
    currentExtent shape

def appendArray (array : NewArray Element) :
    Throwing (GrowingArray Element) AppendFailure :=
  fun dataset =>
    match dataset.extent with
    | [] => (dataset, some .outOfBounds)
    | rows :: dims =>
        let origin := rows :: dims.map fun _ => 0
        let currentExtent := (rows + 1) :: dims
        let shape := 1 :: array.shape
        if shape.length ≠ currentExtent.length then
          (dataset,
            some
              (.runtimeError
                "Rank (dimensions) of data to be written is wrong."))
        else
          let extended :=
            dataset.resize ((rows + 1) :: extend dims array.shape)
          match extended.writeBox origin shape array.newData with
          | some written => (written, none)
          | none => (extended, some .hdf5Error)

/-! ## The dataset as a list of rows -/

/-- An array in the file holds the rows of a dataset, with zeros around. -/
structure Represents (array : GrowingArray Element)
    (dataset : MultiDimDataset Element) : Prop where
  extent : array.extent = dataset.rows.length :: dataset.dims
  cells :
    ∀ row index,
      array.cells (row :: index) =
        (dataset.rows[row]?.elim default fun content => content index)
  zeros :
    ∀ content ∈ dataset.rows, ∀ index,
      Boxes.position (dataset.dims.map fun _ => 0) dataset.dims index = none →
        content index = default

theorem represents_create (shape : List Nat) :
    Represents (created shape : GrowingArray Element)
      { dims := shape } := by
  constructor
  · rfl
  · exact fun row index => rfl
  · exact fun content member => absurd member List.not_mem_nil

theorem extend_eq (dims shape : List Nat) :
    extend dims shape = List.zipWith max dims shape := by
  apply congrArg fun largest => List.zipWith largest dims shape
  ext current size
  split_ifs with larger
  · exact (Nat.max_eq_right larger.le).symm
  · exact (Nat.max_eq_left (not_lt.mp larger)).symm

variable {array : GrowingArray Element} {dataset : MultiDimDataset Element}
  {new : NewArray Element}

/-- An array of another rank is refused. -/
theorem appendArray_of_rank_ne
    (represents : Represents array dataset)
    (rank : new.shape.length ≠ dataset.dims.length) :
    appendArray new array =
      (array,
        some
          (.runtimeError
            "Rank (dimensions) of data to be written is wrong.")) := by
  have longer :
      (1 :: new.shape).length ≠
        ((dataset.rows.length + 1) :: dataset.dims).length :=
    fun same => rank (Nat.succ.inj same)
  simp only [appendArray, represents.extent]
  rw [if_pos longer]

/-- Outside of its shape an array is zero. -/
theorem rowOf_of_outside
    {newData : List Element} {shape index : List Nat}
    (outside : Boxes.position (shape.map fun _ => 0) shape index = none) :
    MultiDimDataset.rowOf newData shape index = default := by
  rw [MultiDimDataset.rowOf, outside]

/-- The old cells of an extended dataset, and the new ones. -/
theorem Represents.cells_resize
    (represents : Represents array dataset)
    {shape : List Nat} (rank : shape.length = dataset.dims.length)
    (row : Nat) (index : List Nat) :
    (array.resize
          ((dataset.rows.length + 1) ::
            List.zipWith max dataset.dims shape)).cells (row :: index) =
      (dataset.rows[row]?.elim default fun content => content index) := by
  have larger :
      Boxes.Inside (array.extent.map fun _ => 0) array.extent
        ((dataset.rows.length + 1) ::
          List.zipWith max dataset.dims shape) := by
    rw [represents.extent]
    constructor
    · rw [Nat.zero_add]
      exact Nat.le_succ _
    · exact Boxes.inside_zipWith_max_left rank.symm
  by_cases there :
      (Boxes.position (array.extent.map fun _ => 0) array.extent
        (row :: index)).isSome
  · rw [GrowingArray.cells_resize_of_inside larger there,
      represents.cells]
  · have gone := Option.not_isSome_iff_eq_none.mp there
    rw [represents.extent, Boxes.position_array_isSome_iff, not_and] at there
    rw [GrowingArray.cells_resize_of_outside gone]
    cases found : dataset.rows[row]? with
    | none => rfl
    | some content =>
        have inside := (List.getElem?_eq_some_iff.mp found).1
        have outside := Option.not_isSome_iff_eq_none.mp (there inside)
        exact
          (represents.zeros content (List.mem_of_getElem? found) index
            outside).symm

/-- An array of the right rank becomes the next row. -/
theorem appendArray_of_rank
    (represents : Represents array dataset)
    (rank : new.shape.length = dataset.dims.length)
    (full : new.newData.length = new.shape.prod) :
    ∃ written,
      appendArray new array = (written, none) ∧
        Represents written
          { dims := List.zipWith max dataset.dims new.shape
            rows :=
              dataset.rows ++
                [MultiDimDataset.rowOf new.newData new.shape] } := by
  have sameZeros :
      (dataset.dims.map fun _ => 0) = new.shape.map fun _ => 0 := by
    rw [List.map_const', List.map_const', rank]
  have sameLength :
      ¬(1 :: new.shape).length ≠
        ((dataset.rows.length + 1) :: dataset.dims).length :=
    not_not.mpr (congrArg (· + 1) rank)
  have inside :
      Boxes.Inside
        (dataset.rows.length :: new.shape.map fun _ => 0)
        (1 :: new.shape)
        (array.resize
          ((dataset.rows.length + 1) ::
            List.zipWith max dataset.dims new.shape)).extent :=
    ⟨Nat.le_refl _, Boxes.inside_zipWith_max_right rank⟩
  have whole : new.newData.length = (1 :: new.shape).prod := by
    rw [List.prod_cons, Nat.one_mul]
    exact full
  simp only [appendArray, represents.extent]
  rw [if_neg sameLength, extend_eq, sameZeros,
    GrowingArray.writeBox_of_inside inside whole]
  refine ⟨_, rfl, ?_⟩
  constructor
  · show _ = (dataset.rows ++ [_]).length :: _
    rw [List.length_append]
    rfl
  · intro row index
    simp only [Boxes.position_row, represents.cells_resize rank]
    by_cases last : row = dataset.rows.length
    · rw [last, if_pos rfl, List.getElem?_concat_length,
        List.getElem?_eq_none (Nat.le_refl _)]
      rfl
    · rw [if_neg last]
      rcases Nat.lt_or_gt_of_ne last with earlier | later
      · rw [List.getElem?_append_left earlier]
      · have outside :
            (dataset.rows ++
              [MultiDimDataset.rowOf new.newData new.shape]).length ≤
              row := by
          rw [List.length_append]
          exact later
        rw [List.getElem?_eq_none outside,
          List.getElem?_eq_none (Nat.le_of_lt later)]
  · intro content member index outside
    rcases List.mem_append.mp member with earlier | single
    · apply represents.zeros content earlier
      exact
        Boxes.position_eq_none_of_inside
          (Boxes.inside_zipWith_max_left rank.symm) outside
    · rw [List.mem_singleton.mp single]
      apply rowOf_of_outside
      exact
        Boxes.position_eq_none_of_inside
          (Boxes.inside_zipWith_max_right rank) outside

/-! ## Many arrays -/

/-- The rows of some arrays, and their largest extents. -/
def ofArrays (shape : List Nat) (arrays : List (NewArray Element)) :
    MultiDimDataset Element :=
  { dims :=
      arrays.foldl (fun dims new => List.zipWith max dims new.shape) shape
    rows :=
      arrays.map fun new => MultiDimDataset.rowOf new.newData new.shape }

variable {shape : List Nat} {arrays calls : List (NewArray Element)}

theorem ofArrays_concat :
    ofArrays shape (arrays ++ [new]) =
      { dims := List.zipWith max (ofArrays shape arrays).dims new.shape
        rows :=
          (ofArrays shape arrays).rows ++
            [MultiDimDataset.rowOf new.newData new.shape] } := by
  simp only [ofArrays, List.foldl_append, List.foldl_cons, List.foldl_nil,
    List.map_append, List.map_cons, List.map_nil]

theorem length_dims_ofArrays
    (rank : ∀ new ∈ arrays, new.shape.length = shape.length) :
    (ofArrays shape arrays).dims.length = shape.length := by
  induction arrays using List.reverseRecOn with
  | nil => rfl
  | append_singleton arrays new induction =>
      have own := rank new (List.mem_append_right _ (List.mem_singleton_self _))
      have others :=
        induction fun new member => rank new (List.mem_append_left _ member)
      rw [ofArrays_concat, List.length_zipWith, own, others, Nat.min_self]

/-- Each extent is the largest one. -/
theorem isGreatest_ofArrays
    (rank : ∀ new ∈ arrays, new.shape.length = shape.length)
    {dim largest : Nat}
    (there : (ofArrays shape arrays).dims[dim]? = some largest) :
    IsGreatest
      {extent | shape[dim]? = some extent ∨
        ∃ new ∈ arrays, new.shape[dim]? = some extent}
      largest := by
  induction arrays using List.reverseRecOn generalizing largest with
  | nil =>
      constructor
      · exact Or.inl there
      · rintro extent (same | ⟨new, member, _⟩)
        · exact (Option.some.inj (same.symm.trans there)).le
        · exact absurd member List.not_mem_nil
  | append_singleton arrays new induction =>
      rw [ofArrays_concat, List.getElem?_zipWith_eq_some] at there
      rcases there with ⟨earlier, own, before, here, rfl⟩
      rcases induction
          (fun new member => rank new (List.mem_append_left _ member))
          before with
        ⟨member, bound⟩
      constructor
      · rcases le_total earlier own with least | least
        · rw [max_eq_right least]
          exact
            Or.inr
              ⟨new, List.mem_append_right _ (List.mem_singleton_self _), here⟩
        · rw [max_eq_left least]
          rcases member with initial | ⟨other, among, found⟩
          · exact Or.inl initial
          · exact Or.inr ⟨other, List.mem_append_left _ among, found⟩
      · rintro extent (initial | ⟨other, among, found⟩)
        · exact (bound (Or.inl initial)).trans (le_max_left _ _)
        · rcases List.mem_append.mp among with old | single
          · exact
              (bound (Or.inr ⟨other, old, found⟩)).trans (le_max_left _ _)
          · rw [List.mem_singleton.mp single, here] at found
            rw [← Option.some.inj found]
            exact le_max_right _ _

/-- What represents the rows of some arrays holds the arrays. -/
theorem Represents.holdsArrays
    (represents : Represents array (ofArrays shape arrays))
    (rank : ∀ new ∈ arrays, new.shape.length = shape.length)
    (full : ∀ new ∈ arrays, new.newData.length = new.shape.prod) :
    HoldsArrays shape arrays array := by
  constructor
  · refine ⟨(ofArrays shape arrays).dims, ?_, length_dims_ofArrays rank, ?_⟩
    · rw [represents.extent, ofArrays, List.length_map]
    · intro dim largest there
      exact isGreatest_ofArrays rank there
  · rintro before new after rfl index place there
    have row :
        (ofArrays shape (before ++ new :: after)).rows[before.length]? =
          some (MultiDimDataset.rowOf new.newData new.shape) := by
      rw [ofArrays, List.getElem?_map,
        List.getElem?_append_right (Nat.le_refl _), Nat.sub_self]
      rfl
    have inside : place < new.newData.length := by
      rw [full new (List.mem_append_right _ List.mem_cons_self)]
      exact Boxes.position_lt there
    rw [represents.cells, row, Option.elim_some, MultiDimDataset.rowOf,
      there, List.getElem?_eq_getElem inside]
    simp only [List.getD_eq_getElem?_getD, List.getElem?_eq_getElem inside,
      Option.getD_some]
  · intro row index outside
    rw [represents.cells, ofArrays, List.getElem?_map]
    cases found : arrays[row]? with
    | none => rfl
    | some new =>
        rcases List.getElem?_eq_some_iff.mp found with ⟨inside, rfl⟩
        apply rowOf_of_outside
        apply outside (arrays.take row) _ (arrays.drop (row + 1))
        · rw [← List.drop_eq_getElem_cons inside, List.take_append_drop]
        · rw [List.length_take, Nat.min_eq_left inside.le]

/-- After any calls the file represents the rows of those that returned. -/
theorem represents_run
    (shape : List Nat)
    (full : ∀ new ∈ calls, new.newData.length = new.shape.prod) :
    Represents
      (Mealy.run (Throwing.call appendArray) (created shape)
        calls).1
      (ofArrays shape
        (calls.filter fun new => new.shape.length = shape.length)) := by
  induction calls using List.reverseRecOn with
  | nil => exact represents_create shape
  | append_singleton calls new induction =>
      have represents :=
        induction fun new member => full new (List.mem_append_left _ member)
      have length :
          (ofArrays shape
            (calls.filter fun new =>
              new.shape.length = shape.length)).dims.length =
            shape.length := by
        apply length_dims_ofArrays
        intro new member
        exact of_decide_eq_true (List.mem_filter.mp member).2
      rw [Mealy.run_concat, Throwing.call, List.filter_append]
      by_cases rank : new.shape.length = shape.length
      · rcases appendArray_of_rank represents (rank.trans length.symm)
            (full new
              (List.mem_append_right _ (List.mem_singleton_self _))) with
          ⟨written, returned, next⟩
        rw [returned, List.filter_singleton, decide_eq_true rank, cond_true,
          ofArrays_concat]
        exact next
      · rw [appendArray_of_rank_ne represents
            (fun same => rank (same.trans length)),
          List.filter_singleton, decide_eq_false rank, cond_false,
          List.append_nil]
        exact represents

/--
After any calls the dataset holds the arrays of those with its rank, in one row
each; the others throw and change nothing.
-/
theorem appends_arrays
    (shape : List Nat) (calls : List (NewArray Element))
    (full : ∀ new ∈ calls, new.newData.length = new.shape.prod) :
    AppendsArrays shape calls
      (Mealy.run (Throwing.call appendArray) (created shape)) := by
  have fullBefore {before after : List (NewArray Element)}
      {new : NewArray Element} (split : calls = before ++ new :: after) :
      (∀ other ∈ before, other.newData.length = other.shape.prod) ∧
        new.newData.length = new.shape.prod := by
    rw [split] at full
    constructor
    · exact fun other member => full other (List.mem_append_left _ member)
    · exact full new (List.mem_append_right _ List.mem_cons_self)
  have rank (before : List (NewArray Element)) :
      ∀ new ∈ before.filter fun new => new.shape.length = shape.length,
        new.shape.length = shape.length :=
    fun new member => of_decide_eq_true (List.mem_filter.mp member).2
  constructor
  · intro before new after split other
    have represents := represents_run shape (fullBefore split).1
    rw [Mealy.run_concat, Throwing.call,
      appendArray_of_rank_ne represents]
    rw [length_dims_ofArrays (rank before)]
    exact other
  · intro before new after split same
    have represents := represents_run shape (fullBefore split).1
    have own :
        new.shape.length =
          (ofArrays shape
            (before.filter fun new =>
              new.shape.length = shape.length)).dims.length := by
      rw [length_dims_ofArrays (rank before)]
      exact same
    rcases appendArray_of_rank represents own (fullBefore split).2 with
      ⟨written, returned, _⟩
    rw [Mealy.run_concat, Throwing.call, returned]
  · apply (represents_run shape full).holdsArrays (rank calls)
    intro new member
    exact full new (List.mem_filter.mp member).1

/-- Three arrays, of which one has another rank and one is larger. -/
theorem holds_larger_array :
    AppendsArrays [2, 2]
      [(⟨[1, 2], [1, 2]⟩ : NewArray Nat), ⟨[3], [1]⟩,
        ⟨[4, 5, 6, 7, 8, 9], [2, 3]⟩]
      (Mealy.run (Throwing.call appendArray) (created [2, 2])) := by
  apply appends_arrays
  decide

end KafkaToNexus.NeXusDataset.MultiDimDatasetBase
