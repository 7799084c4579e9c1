import KafkaToNexus.Foundations.Boxes

/-!
# Slices and records of histograms

The messages about one histogram each bring a slice of it.  A record keeps the
slices that have come and counts their items.  Two slices overlap when their
ranges meet in every dimension; the ends of the ranges are computed in 32 bits.
-/

namespace KafkaToNexus.WriterModule.Hs00

open KafkaToNexus.Foundations

/-- The exceptions that leave a call of `write`. -/
inductive WriteFailure where
  | writerException (what : String)
  | runtimeError (what : String)
  /-- Thrown by `at` of a vector. -/
  | outOfRange
  /-- An operation of the HDF5 library fails. -/
  | hdf5
deriving DecidableEq, Repr

structure Slice where
  offsets : List UInt32
  sizes : List UInt32
deriving DecidableEq, Repr

namespace Slice

/-- The ranges of two slices in one dimension, each an offset and a size. -/
def rangesMeet (own other : UInt32 × UInt32) : Bool :=
  if other.1 ≤ own.1 then other.1 + other.2 > own.1
  else other.1 < own.1 + own.2

def doesOverlap (slice other : Slice) : Except WriteFailure Bool :=
  if slice.offsets.length ≠ slice.sizes.length then
    .error (.runtimeError "Incompatible Slice shape")
  else if other.offsets.length ≠ slice.offsets.length then
    .error (.runtimeError "Incompatible Slice shape")
  else if other.sizes.length ≠ slice.sizes.length then
    .error (.runtimeError "Incompatible Slice shape")
  else
    let ranges :=
      (slice.offsets.zip slice.sizes).zip (other.offsets.zip other.sizes)
    let overlappingDims := ranges.countP fun range => rangesMeet range.1 range.2
    .ok (overlappingDims = slice.offsets.length)

end Slice

structure HistogramRecord where
  hdfIndex : Nat
  slices : List Slice := []
  itemsWritten : Nat := 0
  totalItems : Nat
  /-- The number of slices that were written, a history variable. -/
  accepted : Nat := 0
deriving DecidableEq, Repr

namespace HistogramRecord

def create (hdfIndex totalItems : Nat) : HistogramRecord :=
  { hdfIndex, totalItems }

/-- The loop of `hasEmptySlice`. -/
def noneOverlaps : List Slice → Slice → Except WriteFailure Bool
  | [], _ => .ok true
  | own :: rest, slice =>
      match own.doesOverlap slice with
      | .error failure => .error failure
      | .ok true => .ok false
      | .ok false => noneOverlaps rest slice

def hasEmptySlice (record : HistogramRecord) (slice : Slice) :
    Except WriteFailure Bool :=
  noneOverlaps record.slices slice

def addSlice (record : HistogramRecord) (slice : Slice) : HistogramRecord :=
  { record with slices := record.slices ++ [slice] }

def addToItemsWritten (record : HistogramRecord) (written : Nat) :
    HistogramRecord :=
  { record with
    itemsWritten := (record.itemsWritten + written) % 2 ^ 64
    accepted := record.accepted + 1 }

def isFull (record : HistogramRecord) : Bool :=
  record.itemsWritten = record.totalItems

end HistogramRecord

theorem Slice.doesOverlap_error
    {slice other : Slice} {failure : WriteFailure}
    (threw : slice.doesOverlap other = .error failure) :
    failure = .runtimeError "Incompatible Slice shape" := by
  unfold doesOverlap at threw
  split at threw
  · cases threw
    rfl
  · split at threw
    · cases threw
      rfl
    · split at threw
      · cases threw
        rfl
      · cases threw

namespace HistogramRecord

/-- Only slices of different ranks make the comparison throw. -/
theorem noneOverlaps_error
    {slices : List Slice} {slice : Slice} {failure : WriteFailure}
    (threw : noneOverlaps slices slice = .error failure) :
    failure = .runtimeError "Incompatible Slice shape" := by
  induction slices with
  | nil => cases threw
  | cons own rest induction =>
      rw [noneOverlaps] at threw
      split at threw
      · rename_i overlaps
        cases threw
        exact Slice.doesOverlap_error overlaps
      · cases threw
      · exact induction threw

/-- No slice overlaps when all have been compared. -/
theorem noneOverlaps_true
    {slices : List Slice} {slice : Slice}
    (empty : noneOverlaps slices slice = .ok true) :
    ∀ own ∈ slices, own.doesOverlap slice = .ok false := by
  induction slices with
  | nil => exact fun _ => nofun
  | cons own rest induction =>
      rw [noneOverlaps] at empty
      split at empty
      · cases empty
      · cases empty
      · rename_i apart
        intro other member
        rcases List.mem_cons.mp member with rfl | later
        · exact apart
        · exact induction empty other later

/-- A slice is compared with all of them when none overlaps. -/
theorem noneOverlaps_of_apart
    {slices : List Slice} {slice : Slice}
    (apart : ∀ own ∈ slices, own.doesOverlap slice = .ok false) :
    noneOverlaps slices slice = .ok true := by
  induction slices with
  | nil => rfl
  | cons own rest induction =>
      rw [noneOverlaps, apart own List.mem_cons_self]
      exact induction fun other member =>
        apart other (List.mem_cons_of_mem _ member)

end HistogramRecord

/-! ## What the overlaps say about cells -/

namespace Slice

/-- The cells of a slice. -/
def cells (slice : Slice) : Finset (List Nat) :=
  Boxes.cells (slice.offsets.map UInt32.toNat) (slice.sizes.map UInt32.toNat)

/-- The number of cells of a slice. -/
def volume (slice : Slice) : Nat :=
  (slice.sizes.map UInt32.toNat).prod

/-- The slice lies in an array with the given dimensions. -/
def Inside (slice : Slice) (dims : List Nat) : Prop :=
  Boxes.Inside (slice.offsets.map UInt32.toNat)
    (slice.sizes.map UInt32.toNat) dims

instance (slice : Slice) (dims : List Nat) : Decidable (slice.Inside dims) :=
  Boxes.decidableInside _ _ _

variable {slice other : Slice} {dims : List Nat}

theorem Inside.lengths (inside : slice.Inside dims) :
    slice.offsets.length = dims.length ∧ slice.sizes.length = dims.length := by
  have lengths := Boxes.Inside.lengths inside
  simp only [List.length_map] at lengths
  exact lengths

theorem card_cells (rank : slice.offsets.length = slice.sizes.length) :
    slice.cells.card = slice.volume := by
  apply Boxes.card_cells
  simp only [List.length_map, rank]

/-- Ranges that share an index meet, unless the end of one wraps round. -/
theorem rangesMeet_of_shared
    {first second : UInt32 × UInt32} {index : Nat}
    (firstEnd : first.1.toNat + first.2.toNat < 2 ^ 32)
    (secondEnd : second.1.toNat + second.2.toNat < 2 ^ 32)
    (inFirst : first.1.toNat ≤ index ∧ index < first.1.toNat + first.2.toNat)
    (inSecond :
      second.1.toNat ≤ index ∧ index < second.1.toNat + second.2.toNat) :
    rangesMeet first second = true := by
  unfold rangesMeet
  split
  · rw [decide_eq_true_iff, gt_iff_lt, UInt32.lt_iff_toNat_lt,
      UInt32.toNat_add, Nat.mod_eq_of_lt secondEnd]
    exact Nat.lt_of_le_of_lt inFirst.1 inSecond.2
  · rw [decide_eq_true_iff, UInt32.lt_iff_toNat_lt, UInt32.toNat_add,
      Nat.mod_eq_of_lt firstEnd]
    exact Nat.lt_of_le_of_lt inSecond.1 inFirst.2

/-- The ends of the ranges can be computed in 32 bits. -/
def EndsFit (offsets sizes : List UInt32) : Prop :=
  ∀ range ∈ offsets.zip sizes, range.1.toNat + range.2.toNat < 2 ^ 32

theorem endsFit_of_inside
    {offsets sizes : List UInt32}
    (inside :
      Boxes.Inside (offsets.map UInt32.toNat) (sizes.map UInt32.toNat) dims)
    (small : ∀ dim ∈ dims, dim < 2 ^ 32) :
    EndsFit offsets sizes := by
  induction dims generalizing offsets sizes with
  | nil =>
      rcases offsets with _ | ⟨offset, offsets⟩
      · exact fun _ member => absurd member List.not_mem_nil
      · exact absurd inside (by rcases sizes with _ | _ <;> simp [Boxes.Inside])
  | cons dim dims induction =>
      rcases offsets with _ | ⟨offset, offsets⟩
      · exact fun _ member => absurd member List.not_mem_nil
      · rcases sizes with _ | ⟨size, sizes⟩
        · exact fun _ member => absurd member List.not_mem_nil
        · rcases inside with ⟨fits, rest⟩
          intro range member
          rw [List.zip_cons_cons] at member
          rcases List.mem_cons.mp member with rfl | later
          · exact Nat.lt_of_le_of_lt fits (small dim List.mem_cons_self)
          · exact induction rest
              (fun other present => small other (List.mem_cons_of_mem _ present))
              range later

/-- The slices have an offset and a size in the same dimensions. -/
structure SameRank (slice other : Slice) : Prop where
  sizes : slice.offsets.length = slice.sizes.length
  others : other.offsets.length = slice.offsets.length
  otherSizes : other.sizes.length = slice.sizes.length

theorem sameRank_of_inside
    (inside : slice.Inside dims) (otherInside : other.Inside dims) :
    SameRank slice other := by
  rcases inside.lengths with ⟨offsets, sizes⟩
  rcases otherInside.lengths with ⟨otherOffsets, otherSizes⟩
  exact ⟨offsets.trans sizes.symm, otherOffsets.trans offsets.symm,
    otherSizes.trans sizes.symm⟩

/-- The ranges of two slices, dimension by dimension. -/
def ranges (slice other : Slice) :
    List ((UInt32 × UInt32) × (UInt32 × UInt32)) :=
  (slice.offsets.zip slice.sizes).zip (other.offsets.zip other.sizes)

theorem SameRank.length_ranges (same : SameRank slice other) :
    (ranges slice other).length = slice.offsets.length := by
  have sizes := same.sizes
  have others := same.others
  have otherSizes := same.otherSizes
  simp only [ranges, List.length_zip]
  omega

/-- Slices of one rank overlap when their ranges meet in every dimension. -/
theorem SameRank.doesOverlap_iff (same : SameRank slice other) :
    slice.doesOverlap other = .ok true ↔
      ∀ range ∈ ranges slice other, rangesMeet range.1 range.2 = true := by
  have overlap :
      slice.doesOverlap other =
        .ok (((ranges slice other).countP
          fun range => rangesMeet range.1 range.2) =
            (ranges slice other).length) := by
    rw [doesOverlap, if_neg (not_not.mpr same.sizes),
      if_neg (not_not.mpr same.others), if_neg (not_not.mpr same.otherSizes),
      same.length_ranges]
    rfl
  rw [overlap, Except.ok.injEq, decide_eq_true_iff, List.countP_eq_length]

theorem SameRank.doesOverlap_ok (same : SameRank slice other) :
    ∃ overlaps, slice.doesOverlap other = .ok overlaps := by
  rw [doesOverlap, if_neg (not_not.mpr same.sizes),
    if_neg (not_not.mpr same.others), if_neg (not_not.mpr same.otherSizes)]
  exact ⟨_, rfl⟩

/-- An index is in a range. -/
def InRange (range : UInt32 × UInt32) (index : Nat) : Prop :=
  range.1.toNat ≤ index ∧ index < range.1.toNat + range.2.toNat

/-- Slices share a cell when they share an index in every dimension. -/
theorem SameRank.exists_shared_iff (same : SameRank slice other) :
    (∃ cell, cell ∈ slice.cells ∧ cell ∈ other.cells) ↔
      ∀ range ∈ ranges slice other,
        ∃ index, InRange range.1 index ∧ InRange range.2 index := by
  have shared :=
    @Boxes.exists_shared_iff (slice.offsets.map UInt32.toNat)
      (slice.sizes.map UInt32.toNat) (other.offsets.map UInt32.toNat)
      (other.sizes.map UInt32.toNat)
      (by rw [List.length_map, List.length_map, same.sizes])
      (by rw [List.length_map, List.length_map, same.others])
      (by rw [List.length_map, List.length_map, same.otherSizes, same.sizes])
  rw [cells, cells, shared, List.zip_map, List.zip_map, List.zip_map,
    List.forall_mem_map]
  rfl

theorem endsFit_of_ranges
    (ends : EndsFit slice.offsets slice.sizes)
    (otherEnds : EndsFit other.offsets other.sizes) :
    ∀ range ∈ ranges slice other,
      range.1.1.toNat + range.1.2.toNat < 2 ^ 32 ∧
        range.2.1.toNat + range.2.2.toNat < 2 ^ 32 := by
  intro range member
  rcases List.of_mem_zip member with ⟨own, others⟩
  exact ⟨ends range.1 own, otherEnds range.2 others⟩

/-- Slices inside an array that share a cell overlap. -/
theorem doesOverlap_of_shared
    {cell : List Nat}
    (small : ∀ dim ∈ dims, dim < 2 ^ 32)
    (inside : slice.Inside dims) (otherInside : other.Inside dims)
    (shared : cell ∈ slice.cells) (present : cell ∈ other.cells) :
    slice.doesOverlap other = .ok true := by
  have same := sameRank_of_inside inside otherInside
  have indices := same.exists_shared_iff.mp ⟨cell, shared, present⟩
  have ends :=
    endsFit_of_ranges (endsFit_of_inside inside small)
      (endsFit_of_inside otherInside small)
  rw [same.doesOverlap_iff]
  intro range member
  rcases indices range member with ⟨index, inFirst, inSecond⟩
  exact rangesMeet_of_shared (ends range member).1 (ends range member).2
    inFirst inSecond

/-- The slice has an index in every dimension. -/
def Positive (slice : Slice) : Prop :=
  ∀ size ∈ slice.sizes, 0 < size

/-- Ranges that meet and are not empty share the larger of their offsets. -/
theorem shared_of_rangesMeet
    {first second : UInt32 × UInt32}
    (firstEnd : first.1.toNat + first.2.toNat < 2 ^ 32)
    (secondEnd : second.1.toNat + second.2.toNat < 2 ^ 32)
    (firstPositive : 0 < first.2) (secondPositive : 0 < second.2)
    (meets : rangesMeet first second = true) :
    ∃ index, InRange first index ∧ InRange second index := by
  rw [UInt32.lt_iff_toNat_lt] at firstPositive secondPositive
  have firstSize : 0 < first.2.toNat := firstPositive
  have secondSize : 0 < second.2.toNat := secondPositive
  unfold rangesMeet at meets
  split at meets
  · rename_i starts
    rw [decide_eq_true_iff, gt_iff_lt, UInt32.lt_iff_toNat_lt,
      UInt32.toNat_add, Nat.mod_eq_of_lt secondEnd] at meets
    rw [UInt32.le_iff_toNat_le] at starts
    refine ⟨first.1.toNat, ⟨Nat.le_refl _, ?_⟩, starts, meets⟩
    omega
  · rename_i starts
    rw [decide_eq_true_iff, UInt32.lt_iff_toNat_lt, UInt32.toNat_add,
      Nat.mod_eq_of_lt firstEnd] at meets
    rw [UInt32.le_iff_toNat_le] at starts
    refine ⟨second.1.toNat, ⟨?_, meets⟩, Nat.le_refl _, ?_⟩ <;> omega

/-- The overlap of slices that are not empty is an intersection of boxes. -/
theorem doesOverlap_iff_shared
    (small : ∀ dim ∈ dims, dim < 2 ^ 32)
    (inside : slice.Inside dims) (otherInside : other.Inside dims)
    (positive : slice.Positive) (otherPositive : other.Positive) :
    slice.doesOverlap other = .ok true ↔
      ¬Disjoint slice.cells other.cells := by
  have same := sameRank_of_inside inside otherInside
  rw [Finset.not_disjoint_iff]
  constructor
  · intro overlaps
    rw [same.doesOverlap_iff] at overlaps
    rw [same.exists_shared_iff]
    intro range member
    have ends :=
      endsFit_of_ranges (endsFit_of_inside inside small)
        (endsFit_of_inside otherInside small) range member
    rcases List.of_mem_zip member with ⟨own, others⟩
    exact shared_of_rangesMeet ends.1 ends.2
      (positive _ (List.of_mem_zip own).2)
      (otherPositive _ (List.of_mem_zip others).2) (overlaps range member)
  · rintro ⟨cell, shared, present⟩
    exact doesOverlap_of_shared small inside otherInside shared present

end Slice

end KafkaToNexus.WriterModule.Hs00
