import Mathlib.Algebra.Order.Group.Nat
import Mathlib.Algebra.Order.BigOperators.Group.List
import KafkaToNexus.Foundations.Coverings
import KafkaToNexus.WriterModule.Hs00.RowAllocation

/-!
# The items of a record

The slices of a record do not overlap.  Those that were written lie inside the
histogram, so that the record never counts more items than the histogram has
cells, and a record that is full stays full.
-/

namespace KafkaToNexus.WriterModule.Hs00

open KafkaToNexus.Foundations

/-! ## Sizes in 64 bits -/

/-- A product that is reduced in every step is the reduced product. -/
theorem foldl_mul_mod (modulus start : Nat) (factors : List Nat) :
    factors.foldl (fun size factor => size * factor % modulus)
        (start % modulus) =
      start * factors.prod % modulus := by
  induction factors generalizing start with
  | nil => rw [List.foldl_nil, List.prod_nil, Nat.mul_one]
  | cons factor factors induction =>
      rw [List.foldl_cons, Nat.mod_mul_mod, induction, List.prod_cons,
        Nat.mul_assoc]

theorem expectedLinearDataSize_eq (offsets sizes : List UInt32) :
    WriterTyped.expectedLinearDataSize sizes =
      Slice.volume ⟨offsets, sizes⟩ % 2 ^ 64 := by
  have product := foldl_mul_mod (2 ^ 64) 1 (sizes.map UInt32.toNat)
  rw [List.foldl_map, Nat.one_mul] at product
  exact product

theorem Shape.getTotalItems_eq
    (shape : Shape) (ranked : shape.sizes ≠ []) :
    shape.getTotalItems = shape.sizes.prod := by
  have product := foldl_mul_mod (2 ^ 64) 1 shape.sizes
  have small : shape.sizes.prod < 2 ^ 64 :=
    Nat.lt_trans shape.chunk (by decide)
  rw [Nat.one_mul, Nat.mod_eq_of_lt small] at product
  have filled : ¬shape.sizes.isEmpty = true :=
    fun empty => ranked (List.isEmpty_iff.mp empty)
  rw [Shape.getTotalItems, if_neg filled]
  exact product

theorem Shape.getTotalItems_nil
    (shape : Shape) (unranked : shape.sizes = []) :
    shape.getTotalItems = 0 := by
  rw [Shape.getTotalItems, unranked]
  rfl

theorem le_prod_of_mem {sizes : List Nat} {size : Nat}
    (positive : ∀ size ∈ sizes, 0 < size) (member : size ∈ sizes) :
    size ≤ sizes.prod := by
  induction sizes with
  | nil => cases member
  | cons first rest induction =>
      have restPositive : ∀ size ∈ rest, 0 < size :=
        fun size later => positive size (List.mem_cons_of_mem _ later)
      rw [List.prod_cons]
      rcases List.mem_cons.mp member with rfl | later
      · exact Nat.le_mul_of_pos_right _
          (List.prod_pos_iff_forall_pos_nat.mpr restPositive)
      · exact Nat.le_trans (induction restPositive later)
          (Nat.le_mul_of_pos_left _ (positive first List.mem_cons_self))

/-- Every dimension of a histogram fits in 32 bits. -/
theorem Shape.dim_lt (shape : Shape) :
    ∀ size ∈ shape.sizes, size < 2 ^ 32 :=
  fun _ member =>
    Nat.lt_of_le_of_lt (le_prod_of_mem shape.positive member) shape.chunk

/-! ## Slices that can be written -/

/-- The slice has an offset and a size for each dimension. -/
structure Slice.Ranked (slice : Slice) (shape : Shape) : Prop where
  offsets : slice.offsets.length = shape.sizes.length
  sizes : slice.sizes.length = shape.sizes.length

variable {shape : Shape} {slice other : Slice}

theorem Slice.Ranked.card (ranked : slice.Ranked shape) :
    slice.cells.card = slice.volume :=
  Slice.card_cells (ranked.offsets.trans ranked.sizes.symm)

/-- The cells of a slice that can be written are cells of the histogram. -/
theorem cells_subset_of_canSelect
    (ranked : slice.Ranked shape) (can : shape.canSelect slice = true) :
    slice.cells ⊆
      Boxes.cells (shape.sizes.map fun _ => 0) shape.sizes := by
  rcases Bool.or_eq_true_iff.mp can with empty | inside
  · have none_ : slice.cells = ∅ := by
      rw [← Finset.card_eq_zero, ranked.card]
      exact of_decide_eq_true empty
    rw [none_]
    exact Finset.empty_subset _
  · exact Boxes.cells_subset (of_decide_eq_true inside)

/-- Slices that do not overlap share no cell. -/
theorem disjoint_of_not_doesOverlap
    (ranked : slice.Ranked shape) (otherRanked : other.Ranked shape)
    (can : shape.canSelect slice = true)
    (otherCan : shape.canSelect other = true)
    (apart : slice.doesOverlap other = .ok false) :
    Disjoint slice.cells other.cells := by
  rw [Finset.disjoint_left]
  intro cell shared present
  have nonempty {one : Slice} (oneRanked : one.Ranked shape)
      (member : cell ∈ one.cells) (oneCan : shape.canSelect one = true) :
      one.Inside shape.sizes := by
    rcases Bool.or_eq_true_iff.mp oneCan with empty | inside
    · have zero := of_decide_eq_true empty
      rw [← oneRanked.card, Finset.card_eq_zero] at zero
      rw [zero] at member
      exact absurd member (Finset.notMem_empty cell)
    · exact of_decide_eq_true inside
  have overlap :=
    Slice.doesOverlap_of_shared shape.dim_lt (nonempty ranked shared can)
      (nonempty otherRanked present otherCan) shared present
  rw [apart] at overlap
  cases overlap

/-- The slices that could be written hold no more than the histogram. -/
theorem sum_volume_le
    {slices : List Slice}
    (ranked : ∀ slice ∈ slices, slice.Ranked shape)
    (apart :
      slices.Pairwise fun slice other => slice.doesOverlap other = .ok false) :
    ((slices.filter shape.canSelect).map Slice.volume).sum ≤
      shape.sizes.prod := by
  have boxes :
      (slices.filter shape.canSelect).map Slice.volume =
        ((slices.filter shape.canSelect).map Slice.cells).map Finset.card := by
    rw [List.map_map]
    apply List.map_congr_left
    intro slice member
    exact (ranked slice (List.mem_of_mem_filter member)).card.symm
  have whole :
      (Boxes.cells (shape.sizes.map fun _ => 0) shape.sizes).card =
        shape.sizes.prod :=
    Boxes.card_cells (List.length_map _)
  rw [boxes, ← whole]
  apply Coverings.sum_card_le
  · rw [List.pairwise_map]
    apply (apart.filter _).imp_of_mem
    intro slice other member otherMember separate
    rw [List.mem_filter] at member otherMember
    exact disjoint_of_not_doesOverlap (ranked slice member.1)
      (ranked other otherMember.1) member.2 otherMember.2 separate
  · intro box member
    rcases List.mem_map.mp member with ⟨slice, chosen, rfl⟩
    rw [List.mem_filter] at chosen
    exact cells_subset_of_canSelect (ranked slice chosen.1) chosen.2

/-! ## Records whose slices were counted -/

/-- The record has counted the slices that could be written. -/
structure HistogramRecord.Counted (record : HistogramRecord) (shape : Shape) :
    Prop where
  total : record.totalItems = shape.getTotalItems
  ranked : ∀ slice ∈ record.slices, slice.Ranked shape
  apart :
    record.slices.Pairwise fun slice other =>
      slice.doesOverlap other = .ok false
  items :
    record.itemsWritten =
      ((record.slices.filter shape.canSelect).map Slice.volume).sum
  accepted :
    record.accepted = (record.slices.filter shape.canSelect).length

variable {record : HistogramRecord}

theorem counted_create (shape : Shape) (hdfIndex : Nat) :
    (HistogramRecord.create hdfIndex shape.getTotalItems).Counted shape :=
  ⟨rfl, fun _ => nofun, List.Pairwise.nil, rfl, rfl⟩

theorem apart_append
    (counted : record.Counted shape)
    (free : record.hasEmptySlice slice = .ok true) :
    (record.slices ++ [slice]).Pairwise fun slice other =>
      slice.doesOverlap other = .ok false := by
  rw [List.pairwise_append]
  refine ⟨counted.apart, List.pairwise_singleton _ _, ?_⟩
  intro own member other last
  rw [List.mem_singleton.mp last]
  exact HistogramRecord.noneOverlaps_true free own member

theorem ranked_append
    (counted : record.Counted shape) (ranked : slice.Ranked shape) :
    ∀ own ∈ record.slices ++ [slice], own.Ranked shape := by
  intro own member
  rcases List.mem_append.mp member with old | new
  · exact counted.ranked own old
  · rw [List.mem_singleton.mp new]
    exact ranked

/-- A slice that cannot be written is kept but not counted. -/
theorem HistogramRecord.Counted.addSlice
    (counted : record.Counted shape)
    (ranked : slice.Ranked shape)
    (free : record.hasEmptySlice slice = .ok true)
    (cannot : shape.canSelect slice = false) :
    (record.addSlice slice).Counted shape := by
  have same :
      (record.slices ++ [slice]).filter shape.canSelect =
        record.slices.filter shape.canSelect := by
    rw [List.filter_append, List.filter_singleton, cannot]
    exact List.append_nil _
  constructor
  · exact counted.total
  · exact ranked_append counted ranked
  · exact apart_append counted free
  · rw [HistogramRecord.addSlice, same]
    exact counted.items
  · rw [HistogramRecord.addSlice, same]
    exact counted.accepted

/-- A slice that can be written is counted. -/
theorem HistogramRecord.Counted.write
    {written : Nat}
    (counted : record.Counted shape)
    (ranked : slice.Ranked shape)
    (free : record.hasEmptySlice slice = .ok true)
    (can : shape.canSelect slice = true)
    (all : written = slice.volume) :
    ((record.addSlice slice).addToItemsWritten written).Counted shape ∧
      ((record.addSlice slice).addToItemsWritten written).itemsWritten =
        record.itemsWritten + slice.volume := by
  have more :
      (record.slices ++ [slice]).filter shape.canSelect =
        record.slices.filter shape.canSelect ++ [slice] := by
    rw [List.filter_append, List.filter_singleton, can]
    rfl
  have bound :=
    sum_volume_le (ranked_append counted ranked) (apart_append counted free)
  rw [more, List.map_append, List.sum_append, ← counted.items] at bound
  have sum : record.itemsWritten + slice.volume < 2 ^ 64 := by
    have volume : ([slice].map Slice.volume).sum = slice.volume := by
      rw [List.map_singleton, List.sum_singleton]
    have chunk := shape.chunk
    omega
  have items :
      ((record.addSlice slice).addToItemsWritten written).itemsWritten =
        record.itemsWritten + slice.volume := by
    rw [all]
    exact Nat.mod_eq_of_lt sum
  refine ⟨⟨counted.total, ranked_append counted ranked,
    apart_append counted free, ?_, ?_⟩, items⟩
  · rw [items]
    show _ = (((record.slices ++ [slice]).filter _).map Slice.volume).sum
    rw [more, List.map_append, List.sum_append, ← counted.items,
      List.map_singleton, List.sum_singleton]
  · show record.accepted + 1 = ((record.slices ++ [slice]).filter _).length
    rw [more, List.length_append, counted.accepted]
    rfl

/-- Without dimensions a record is never full once a slice was written. -/
theorem HistogramRecord.Counted.not_full_of_unranked
    (counted : record.Counted shape)
    (before : 0 < record.accepted)
    (unranked : shape.sizes = []) :
    record.isFull = false := by
  rw [counted.accepted, List.length_pos_iff_exists_mem] at before
  rcases before with ⟨slice, member⟩
  have volume : slice.volume = 1 := by
    have sizes :=
      (counted.ranked slice (List.mem_of_mem_filter member)).sizes
    rw [unranked, List.length_nil, List.length_eq_zero_iff] at sizes
    rw [Slice.volume, sizes]
    rfl
  have items : 1 ≤ record.itemsWritten := by
    rw [counted.items, ← volume]
    exact List.le_sum_of_mem (List.mem_map_of_mem member)
  rw [HistogramRecord.isFull, decide_eq_false_iff_not, counted.total,
    shape.getTotalItems_nil unranked]
  omega

/-- A full record that a slice was written of stays full. -/
theorem HistogramRecord.Counted.stays_full
    {written : Nat}
    (counted : record.Counted shape)
    (ranked : slice.Ranked shape)
    (free : record.hasEmptySlice slice = .ok true)
    (can : shape.canSelect slice = true)
    (all : written = slice.volume)
    (before : 0 < record.accepted)
    (full : record.isFull = true) :
    ((record.addSlice slice).addToItemsWritten written).isFull = true := by
  rcases counted.write ranked free can all with ⟨after, items⟩
  have total : record.itemsWritten = shape.getTotalItems :=
    (of_decide_eq_true full).trans counted.total
  have bound := sum_volume_le after.ranked after.apart
  rw [← after.items, items, total] at bound
  rw [HistogramRecord.isFull, decide_eq_true_iff, items, total]
  show _ = record.totalItems
  rw [counted.total]
  by_cases unranked : shape.sizes = []
  · rw [counted.not_full_of_unranked before unranked] at full
    cases full
  · rw [shape.getTotalItems_eq unranked] at bound ⊢
    omega

end KafkaToNexus.WriterModule.Hs00
