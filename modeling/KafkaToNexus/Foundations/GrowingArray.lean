import KafkaToNexus.Foundations.Boxes

/-!
# Arrays that grow

An array of some extents holds an element in each of its cells.  When its
extents change, what is in both the old and the new extents stays in its cell,
and the other cells are filled.  A write changes the cells of a box, in
row-major order, and is refused if the box is not inside of the array or the
data do not fill it.
-/

namespace KafkaToNexus.Foundations

structure GrowingArray (Element : Type*) where
  extent : List Nat
  cells : List Nat → Element

namespace GrowingArray

variable {Element : Type*} [Inhabited Element]

/-- A new array. -/
def filled (extent : List Nat) : GrowingArray Element :=
  { extent, cells := fun _ => default }

/-- The extents are set. -/
def resize (extent : List Nat) (array : GrowingArray Element) :
    GrowingArray Element :=
  { extent
    cells := fun index =>
      if (Boxes.position (array.extent.map fun _ => 0) array.extent
            index).isSome ∧
          (Boxes.position (extent.map fun _ => 0) extent index).isSome then
        array.cells index
      else
        default }

/-- Write to the box with some offsets and sizes. -/
def writeBox (offsets sizes : List Nat) (newData : List Element)
    (array : GrowingArray Element) : Option (GrowingArray Element) :=
  if Boxes.Inside offsets sizes array.extent ∧
      newData.length = sizes.prod then
    some
      { array with
        cells := fun index =>
          match Boxes.position offsets sizes index with
          | some place => newData.getD place default
          | none => array.cells index }
  else
    none

variable {array : GrowingArray Element} {extent offsets sizes : List Nat}
  {newData : List Element} {index : List Nat}

/-- In a larger array the old cells are as they were. -/
theorem cells_resize_of_inside
    (larger :
      Boxes.Inside (array.extent.map fun _ => 0) array.extent extent)
    (there :
      (Boxes.position (array.extent.map fun _ => 0) array.extent
        index).isSome) :
    (array.resize extent).cells index = array.cells index := by
  have kept :
      (Boxes.position (extent.map fun _ => 0) extent index).isSome := by
    by_contra gone
    rw [Option.not_isSome_iff_eq_none] at gone
    rw [Boxes.position_eq_none_of_inside larger gone] at there
    cases there
  exact if_pos ⟨there, kept⟩

/-- The other cells are filled. -/
theorem cells_resize_of_outside
    (outside :
      Boxes.position (array.extent.map fun _ => 0) array.extent index =
        none) :
    (array.resize extent).cells index = default := by
  apply if_neg
  rintro ⟨there, _⟩
  rw [outside] at there
  cases there

theorem writeBox_of_inside
    (inside : Boxes.Inside offsets sizes array.extent)
    (full : newData.length = sizes.prod) :
    array.writeBox offsets sizes newData =
      some
        { array with
          cells := fun index =>
            match Boxes.position offsets sizes index with
            | some place => newData.getD place default
            | none => array.cells index } :=
  if_pos ⟨inside, full⟩

end GrowingArray

end KafkaToNexus.Foundations
