import KafkaToNexus.Foundations.Boxes
import Mathlib.Data.Rat.Floor

/-!
# Datasets that grow

An extensible dataset is a vector in the file, to the end of which arrays and
single elements are written.  Where the next write goes is counted apart from
the extent in the file, so that the two agree only if the dataset was created
or opened as what it is.

A dataset of more dimensions grows by one row for each array, and its other
dimensions grow with the arrays.  HDF5 fills new cells with the default value
of their type.
-/

namespace KafkaToNexus.NeXusDataset

open KafkaToNexus.Foundations

variable {Element : Type*} [Inhabited Element]

/-- HDF5 stores the largest value in the place of one that does not fit. -/
def clipToUInt32 (value : UInt64) : UInt32 :=
  if value.toNat < 2 ^ 32 then value.toUInt32 else .ofNat (2 ^ 32 - 1)

theorem toNat_clipToUInt32 (value : UInt64) :
    (clipToUInt32 value).toNat = min value.toNat (2 ^ 32 - 1) := by
  unfold clipToUInt32
  split
  · rename_i small
    rw [UInt64.toNat_toUInt32, Nat.mod_eq_of_lt small]
    omega
  · rename_i large
    rw [show (UInt32.ofNat (2 ^ 32 - 1)).toNat = 2 ^ 32 - 1 from rfl]
    omega

/-- A position of 32 bits is stored as it is. -/
theorem toNat_clip_of_lt {position : Nat} (narrow : position < 2 ^ 32) :
    (clipToUInt32 (.ofNat position)).toNat = position := by
  rw [toNat_clipToUInt32, UInt64.toNat_ofNat']
  omega

/-- A negative value that does not fit is stored as zero. -/
def clipToUInt64 (value : Int64) : UInt64 :=
  if 0 ≤ value then value.toUInt64 else 0

theorem toNat_clipToUInt64 (value : Int64) :
    ((clipToUInt64 value).toNat : Int) = max value.toInt 0 := by
  unfold clipToUInt64
  split
  · rename_i positive
    rw [Int64.toNat_toUInt64_of_le positive,
      ← Int64.toInt_eq_toNatClampNeg positive]
    exact (max_eq_left (Int64.le_iff_toInt_le.mp positive)).symm
  · rename_i negative
    rw [Int64.le_iff_toInt_le] at negative
    exact (max_eq_right (Int.le_of_not_le negative)).symm

/-- The same for values of 32 bits. -/
def clipInt32ToUInt32 (value : Int32) : UInt32 :=
  if 0 ≤ value then value.toUInt32 else 0

theorem toNat_clipInt32ToUInt32 (value : Int32) :
    ((clipInt32ToUInt32 value).toNat : Int) = max value.toInt 0 := by
  unfold clipInt32ToUInt32
  split
  · rename_i positive
    rw [Int32.toNat_toUInt32_of_le positive,
      ← Int32.toInt_eq_toNatClampNeg positive]
    exact (max_eq_left (Int32.le_iff_toInt_le.mp positive)).symm
  · rename_i negative
    rw [Int32.le_iff_toInt_le] at negative
    exact (max_eq_right (Int.le_of_not_le negative)).symm

/-- A double is cut to an integer; what does not fit is stored as before. -/
def clipRatToUInt64 (value : ℚ) : UInt64 :=
  .ofNat (min ⌊value⌋.toNat (2 ^ 64 - 1))

theorem toNat_clipRatToUInt64 (value : ℚ) :
    (clipRatToUInt64 value).toNat = min ⌊value⌋.toNat (2 ^ 64 - 1) := by
  rw [clipRatToUInt64, UInt64.toNat_ofNat']
  omega

/-! ## Vectors -/

structure ExtensibleDataset (Element : Type*) where
  /-- The content in the file. -/
  elements : List Element := []
  /-- Where the next write goes. -/
  nrOfElements : Nat := 0
deriving DecidableEq, Repr

namespace ExtensibleDataset

/-- A dataset that is opened as what it is. -/
def opened (elements : List Element) : ExtensibleDataset Element :=
  { elements, nrOfElements := elements.length }

/-- A dataset that is opened as an object of the base class. -/
def openedAsBase (elements : List Element) : ExtensibleDataset Element :=
  { elements }

/-- Write to a selection that starts at an offset. -/
def writeAt (offset : Nat) (newData elements : List Element) : List Element :=
  elements.take offset ++ newData ++ elements.drop (offset + newData.length)

/-- The extent is set; new cells are filled. -/
def resize (size : Nat) (elements : List Element) : List Element :=
  elements.take size ++ List.replicate (size - elements.length) default

/-- `appendArray` of a container: the extent grows by its size. -/
def appendArray (dataset : ExtensibleDataset Element)
    (newData : List Element) : ExtensibleDataset Element :=
  { elements :=
      writeAt dataset.nrOfElements newData
        (resize (dataset.elements.length + newData.length) dataset.elements)
    nrOfElements := dataset.nrOfElements + newData.length }

def appendElement (dataset : ExtensibleDataset Element)
    (newElement : Element) : ExtensibleDataset Element :=
  appendArray dataset [newElement]

/-- `appendArray` of an array adapter: the extent is where the write ends. -/
def appendArrayAdapter (dataset : ExtensibleDataset Element)
    (newData : List Element) : ExtensibleDataset Element :=
  if newData.length = 0 then dataset
  else
    { elements :=
        writeAt dataset.nrOfElements newData
          (resize (dataset.nrOfElements + newData.length) dataset.elements)
      nrOfElements := dataset.nrOfElements + newData.length }

/-- The next write goes to the end. -/
def AtEnd (dataset : ExtensibleDataset Element) : Prop :=
  dataset.nrOfElements = dataset.elements.length

variable {dataset : ExtensibleDataset Element}

omit [Inhabited Element] in
theorem atEnd_create : ({} : ExtensibleDataset Element).AtEnd :=
  rfl

theorem writeAt_resize (newData elements : List Element) :
    writeAt elements.length newData
        (resize (elements.length + newData.length) elements) =
      elements ++ newData := by
  have filled :
      resize (elements.length + newData.length) elements =
        elements ++ List.replicate newData.length default := by
    rw [resize, List.take_of_length_le (Nat.le_add_right _ _),
      Nat.add_sub_cancel_left]
  rw [writeAt, filled, List.take_left, List.drop_eq_nil_of_le,
    List.append_nil]
  rw [List.length_append, List.length_replicate]

theorem elements_appendArray (atEnd : dataset.AtEnd) (newData : List Element) :
    (dataset.appendArray newData).elements = dataset.elements ++ newData := by
  rw [appendArray, atEnd]
  exact writeAt_resize newData dataset.elements

theorem AtEnd.appendArray (atEnd : dataset.AtEnd) (newData : List Element) :
    (dataset.appendArray newData).AtEnd := by
  rw [AtEnd, elements_appendArray atEnd, List.length_append, ← atEnd]
  rfl

theorem elements_appendElement (atEnd : dataset.AtEnd) (newElement : Element) :
    (dataset.appendElement newElement).elements =
      dataset.elements ++ [newElement] :=
  elements_appendArray atEnd [newElement]

theorem AtEnd.appendElement (atEnd : dataset.AtEnd) (newElement : Element) :
    (dataset.appendElement newElement).AtEnd :=
  atEnd.appendArray [newElement]

/-- At the end both ways to append an array are the same. -/
theorem appendArrayAdapter_eq
    (atEnd : dataset.AtEnd) (newData : List Element) :
    dataset.appendArrayAdapter newData = dataset.appendArray newData := by
  unfold appendArrayAdapter
  split
  · rename_i empty
    have nothing : newData = [] := List.length_eq_zero_iff.mp empty
    have same := elements_appendArray atEnd newData
    rw [nothing, List.append_nil] at same
    rw [nothing]
    cases dataset
    exact congrArg₂ ExtensibleDataset.mk same.symm rfl
  · rw [ExtensibleDataset.appendArray, atEnd]

theorem elements_appendArrayAdapter
    (atEnd : dataset.AtEnd) (newData : List Element) :
    (dataset.appendArrayAdapter newData).elements =
      dataset.elements ++ newData := by
  rw [appendArrayAdapter_eq atEnd, elements_appendArray atEnd]

theorem AtEnd.appendArrayAdapter
    (atEnd : dataset.AtEnd) (newData : List Element) :
    (dataset.appendArrayAdapter newData).AtEnd := by
  rw [appendArrayAdapter_eq atEnd]
  exact atEnd.appendArray newData

end ExtensibleDataset

/-! ## Rows of arrays -/

/-- A dataset whose rows are arrays, by the indices of their cells. -/
structure MultiDimDataset (Element : Type*) where
  /-- The extents of a row. -/
  dims : List Nat
  rows : List (List Nat → Element) := []

namespace MultiDimDataset

/-- The row that an array of a given shape is written to. -/
def rowOf (newData : List Element) (shape : List Nat) : List Nat → Element :=
  fun index =>
    match Boxes.position (shape.map fun _ => 0) shape index with
    | some place => newData.getD place default
    | none => default

/-- Append a row; the extents grow to hold the array. -/
def appendArray (dataset : MultiDimDataset Element) (newData : List Element)
    (shape : List Nat) : Except String (MultiDimDataset Element) :=
  if shape.length ≠ dataset.dims.length then
    .error "Rank (dimensions) of data to be written is wrong."
  else
    .ok
      { dims := List.zipWith max dataset.dims shape
        rows := dataset.rows ++ [rowOf newData shape] }

variable {dataset next : MultiDimDataset Element}

theorem appendArray_of_rank
    {shape : List Nat}
    (rank : shape.length = dataset.dims.length) (newData : List Element) :
    dataset.appendArray newData shape =
      .ok
        { dims := List.zipWith max dataset.dims shape
          rows := dataset.rows ++ [rowOf newData shape] } := by
  rw [appendArray, if_neg (not_not.mpr rank)]

end MultiDimDataset

end KafkaToNexus.NeXusDataset
