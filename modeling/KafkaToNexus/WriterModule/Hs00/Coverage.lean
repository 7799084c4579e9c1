import KafkaToNexus.WriterModule.Hs00.CommittedSlices

/-!
# Full records cover their histograms

A record is full when as many items were written as the histogram has cells.
Slices that are not empty overlap exactly when they share a cell, so that the
items of the accepted ones are distinct cells, and the record is full exactly
when every cell is in one of them.
-/

namespace KafkaToNexus.WriterModule.Hs00

open KafkaToNexus.Foundations

/-- The items of a histogram whose dimensions have the given sizes. -/
def getTotalItems (sizes : List Nat) : Nat :=
  if sizes.isEmpty then 0
  else sizes.foldl (fun items size => items * size % 2 ^ 64) 1

theorem getTotalItems_eq_sizes (shape : Shape) :
    shape.getTotalItems = getTotalItems shape.sizes :=
  rfl

/-- A histogram whose cells can be counted in 64 bits. -/
structure Histogram where
  sizes : List Nat
  ranked : sizes ≠ []
  positive : ∀ size ∈ sizes, 0 < size
  narrow : ∀ size ∈ sizes, size < 2 ^ 32
  few : sizes.prod < 2 ^ 64

namespace Histogram

def cells (histogram : Histogram) : Finset (List Nat) :=
  Boxes.cells (histogram.sizes.map fun _ => 0) histogram.sizes

/-- A slice inside a histogram with an index in every dimension. -/
structure Part (histogram : Histogram) where
  slice : Slice
  inside : slice.Inside histogram.sizes
  positive : slice.Positive

variable {histogram : Histogram}

theorem card_cells : histogram.cells.card = histogram.sizes.prod :=
  Boxes.card_cells (List.length_map _)

theorem getTotalItems_eq : getTotalItems histogram.sizes = histogram.sizes.prod := by
  have product := foldl_mul_mod (2 ^ 64) 1 histogram.sizes
  rw [Nat.one_mul, Nat.mod_eq_of_lt histogram.few] at product
  have filled : ¬histogram.sizes.isEmpty = true :=
    fun empty => histogram.ranked (List.isEmpty_iff.mp empty)
  rw [getTotalItems, if_neg filled]
  exact product

end Histogram

namespace HistogramRecord

/--
What a call of `write` does with a slice of the record, if it can be written;
the output is the slice, if it was accepted.
-/
def offer (record : HistogramRecord) (slice : Slice) :
    HistogramRecord × List Slice :=
  match record.hasEmptySlice slice with
  | .ok true =>
      ((record.addSlice slice).addToItemsWritten
        (WriterTyped.expectedLinearDataSize slice.sizes), [slice])
  | _ => (record, [])

def offerPart {histogram : Histogram} (record : HistogramRecord)
    (part : histogram.Part) : HistogramRecord × List Slice :=
  record.offer part.slice

/-- The accepted slices do not meet, and all their cells were counted. -/
structure Tiled (histogram : Histogram) (record : HistogramRecord) : Prop where
  total : record.totalItems = getTotalItems histogram.sizes
  inside : ∀ slice ∈ record.slices, slice.Inside histogram.sizes
  positive : ∀ slice ∈ record.slices, slice.Positive
  apart : (record.slices.map Slice.cells).Pairwise Disjoint
  items : record.itemsWritten = (record.slices.map Slice.volume).sum

variable {histogram : Histogram} {record : HistogramRecord}

theorem tiled_create (hdfIndex : Nat) :
    (create hdfIndex (getTotalItems histogram.sizes)).Tiled histogram :=
  ⟨rfl, fun _ => nofun, fun _ => nofun, List.Pairwise.nil, rfl⟩

/-- The cells of the accepted slices are cells of the histogram. -/
theorem Tiled.subset (tiled : record.Tiled histogram) :
    ∀ box ∈ record.slices.map Slice.cells, box ⊆ histogram.cells := by
  intro box member
  rcases List.mem_map.mp member with ⟨slice, accepted, rfl⟩
  exact Boxes.cells_subset (tiled.inside slice accepted)

theorem volume_eq_card {slice : Slice} (inside : slice.Inside histogram.sizes) :
    slice.volume = slice.cells.card := by
  rcases inside.lengths with ⟨offsets, sizes⟩
  exact (Slice.card_cells (offsets.trans sizes.symm)).symm

theorem sum_volume_eq
    {slices : List Slice}
    (inside : ∀ slice ∈ slices, slice.Inside histogram.sizes) :
    (slices.map Slice.volume).sum =
      ((slices.map Slice.cells).map Finset.card).sum := by
  rw [List.map_map]
  apply congrArg List.sum
  apply List.map_congr_left
  exact fun slice member => volume_eq_card (inside slice member)

/-- A slice is free exactly when it shares no cell with an accepted one. -/
theorem Tiled.hasEmptySlice_iff
    (tiled : record.Tiled histogram) (part : histogram.Part) :
    record.hasEmptySlice part.slice = .ok true ↔
      ∀ own ∈ record.slices, Disjoint own.cells part.slice.cells := by
  have overlaps (own : Slice) (member : own ∈ record.slices) :
      own.doesOverlap part.slice = .ok true ↔
        ¬Disjoint own.cells part.slice.cells :=
    Slice.doesOverlap_iff_shared histogram.narrow (tiled.inside own member)
      part.inside (tiled.positive own member) part.positive
  constructor
  · intro free own member
    have apart := noneOverlaps_true free own member
    by_contra meets
    rw [(overlaps own member).mpr meets] at apart
    cases apart
  · intro disjoint
    apply noneOverlaps_of_apart
    intro own member
    rcases (Slice.sameRank_of_inside (tiled.inside own member)
      part.inside).doesOverlap_ok with ⟨result, compared⟩
    cases result with
    | false => exact compared
    | true =>
        exact absurd (disjoint own member) ((overlaps own member).mp compared)

/-- What is accepted is counted, cell by cell. -/
theorem Tiled.accept
    (tiled : record.Tiled histogram) (part : histogram.Part)
    (free : record.hasEmptySlice part.slice = .ok true) :
    ((record.addSlice part.slice).addToItemsWritten
      (WriterTyped.expectedLinearDataSize part.slice.sizes)).Tiled
        histogram := by
  have inside :
      ∀ slice ∈ record.slices ++ [part.slice],
        slice.Inside histogram.sizes := by
    rw [List.forall_mem_append, List.forall_mem_singleton]
    exact ⟨tiled.inside, part.inside⟩
  have apart :
      ((record.slices ++ [part.slice]).map Slice.cells).Pairwise
        Disjoint := by
    rw [List.map_append, List.pairwise_append]
    refine ⟨tiled.apart, List.pairwise_singleton _ _, ?_⟩
    rw [List.forall_mem_map]
    intro own member box last
    rw [List.mem_singleton.mp last]
    exact (tiled.hasEmptySlice_iff part).mp free own member
  have subset :
      ∀ box ∈ (record.slices ++ [part.slice]).map Slice.cells,
        box ⊆ histogram.cells := by
    rw [List.forall_mem_map]
    exact fun slice member => Boxes.cells_subset (inside slice member)
  have bound := Coverings.sum_card_le apart subset
  rw [← sum_volume_eq inside, Histogram.card_cells, List.map_append,
    List.sum_append, ← tiled.items, List.map_singleton,
    List.sum_singleton] at bound
  have few := histogram.few
  constructor
  · exact tiled.total
  · exact inside
  · rw [addToItemsWritten, addSlice, List.forall_mem_append,
      List.forall_mem_singleton]
    exact ⟨tiled.positive, part.positive⟩
  · exact apart
  · show (record.itemsWritten + _) % 2 ^ 64 =
      ((record.slices ++ [part.slice]).map Slice.volume).sum
    rw [expectedLinearDataSize_eq part.slice.offsets, Nat.add_mod_mod,
      List.map_append, List.sum_append, ← tiled.items, List.map_singleton,
      List.sum_singleton]
    exact Nat.mod_eq_of_lt (Nat.lt_of_le_of_lt bound few)

theorem Tiled.offer
    (tiled : record.Tiled histogram) (part : histogram.Part) :
    (record.offer part.slice).1.Tiled histogram := by
  unfold HistogramRecord.offer
  split
  · rename_i free
    exact tiled.accept part free
  · exact tiled

/-- The record keeps the slices that it accepts. -/
theorem slices_offer (slice : Slice) :
    (record.offer slice).1.slices =
      record.slices ++ (record.offer slice).2 := by
  unfold HistogramRecord.offer
  split
  · rfl
  · exact (List.append_nil _).symm

/-- A record is full exactly when each cell is in one of its slices. -/
theorem Tiled.isFull_iff (tiled : record.Tiled histogram) :
    record.isFull = true ↔
      ∀ cell ∈ histogram.cells,
        Coverings.count (record.slices.map Slice.cells) cell = 1 := by
  rw [← Coverings.sum_card_eq_iff tiled.apart tiled.subset,
    ← sum_volume_eq tiled.inside, ← tiled.items, Histogram.card_cells,
    ← Histogram.getTotalItems_eq, ← tiled.total, isFull, decide_eq_true_iff]

/--
After any slices were offered, the next one is accepted exactly when it shares
no cell with the accepted ones, and the record is full exactly when every cell
of the histogram is in exactly one of them.
-/
theorem full_iff_covered
    (histogram : Histogram) (hdfIndex : Nat)
    (offered : List histogram.Part) :
    let run :=
      Mealy.run offerPart (create hdfIndex (getTotalItems histogram.sizes))
        offered
    (∀ next : histogram.Part,
      (run.1.offerPart next).2 = [next.slice] ↔
        ∀ own ∈ run.2, Disjoint own.cells next.slice.cells) ∧
      (run.1.isFull = true ↔
        ∀ cell ∈ histogram.cells,
          (run.2.countP fun own => decide (cell ∈ own.cells)) = 1) := by
  intro run
  have invariant : run.1.Tiled histogram ∧ run.1.slices = run.2 := by
    apply Mealy.run_induction fun _ accepted record =>
      Tiled histogram record ∧ record.slices = accepted
    · exact ⟨tiled_create hdfIndex, rfl⟩
    · rintro _ accepted record part ⟨tiled, same⟩
      refine ⟨tiled.offer part, ?_⟩
      rw [← same]
      exact slices_offer part.slice
  rcases invariant with ⟨tiled, same⟩
  constructor
  · intro next
    rw [← same, ← tiled.hasEmptySlice_iff next, offerPart, offer]
    split
    · rename_i free
      exact ⟨fun _ => free, fun _ => rfl⟩
    · rename_i refused
      exact ⟨nofun, fun free => absurd free refused⟩
  · rw [tiled.isFull_iff, same]
    apply forall₂_congr
    intro cell _
    rw [Coverings.count, List.countP_map]
    rfl

/-- Two rows of three cells. -/
def sampleHistogram : Histogram where
  sizes := [2, 3]
  ranked := by decide
  positive := by decide
  narrow := by decide
  few := by decide

/-- One of the rows. -/
def sampleRow (row : Fin 2) : sampleHistogram.Part where
  slice := ⟨[row.val.toUInt32, 0], [1, 3]⟩
  inside := by revert row; decide
  positive :=
    List.forall_mem_cons.mpr
      ⟨by decide, List.forall_mem_singleton.mpr (by decide)⟩

/-- The second row is accepted after the first one, and fills the record. -/
theorem full_iff_covered_sample :
    let offered := [sampleRow 0]
    let full := [sampleRow 0, sampleRow 1]
    let record := create 0 (getTotalItems sampleHistogram.sizes)
    ((Mealy.run offerPart record offered).1.offerPart (sampleRow 1)).2 =
        [(sampleRow 1).slice] ∧
      (Mealy.run offerPart record offered).1.isFull = false ∧
      ∀ cell ∈ sampleHistogram.cells,
        ((Mealy.run offerPart record full).2.countP
          fun own => decide (cell ∈ own.cells)) = 1 :=
  ⟨((full_iff_covered sampleHistogram 0 [sampleRow 0]).1 (sampleRow 1)).mpr
      (by decide),
    by decide,
    (full_iff_covered sampleHistogram 0 [sampleRow 0, sampleRow 1]).2.mp
      (by decide)⟩

end HistogramRecord

/-! ## The calls that offer slices -/

namespace WriterTyped

variable {Data Error : Type*} [Zero Data] [Zero Error]
  {writer : WriterTyped Data Error} {message : EventHistogram Data Error}

/-- The slice of a message. -/
def ownSlice (message : EventHistogram Data Error) : Slice :=
  let shape := message.currentShape.getD []
  ⟨message.offsets shape, shape⟩

/-- A message with a timestamp passes the checks, and its slice is inside. -/
def OffersInside (timestamp : Nat) (writer : WriterTyped Data Error)
    (message : EventHistogram Data Error) : Prop :=
  ∃ checked, writer.accept message = .ok checked ∧
    checked.timestamp = timestamp ∧
    checked.slice.Inside writer.shape.sizes

omit [Zero Data] [Zero Error] in
theorem ownSlice_of_accept
    {checked : CheckedHistogram Data Error}
    (passed : writer.accept message = .ok checked) :
    checked.slice = ownSlice message := by
  have admitted := accept_admitted passed
  rw [ownSlice, admitted.shape, Option.getD_some,
    ← (theOffsets_ok admitted.offsets).1]

/-- A call offers the slice of its message to the record. -/
theorem Consistent.recordFor_faithfulCall
    {timestamp : Nat}
    (consistent : Consistent writer)
    (offers : OffersInside timestamp writer message) :
    (writer.faithfulCall message).1.recordFor timestamp =
      ((writer.recordFor timestamp).offer (ownSlice message)).1 := by
  rcases offers with ⟨checked, passed, rfl, inside⟩
  rcases consistent.prepared checked.timestamp with ⟨record, prepared⟩
  have own : record = writer.recordFor checked.timestamp := by
    have found :
        ((writer.see checked.timestamp).ensureRecord
            checked.timestamp).histogramRecords.find checked.timestamp =
          some (writer.recordFor checked.timestamp) :=
      (consistent.allocated.see checked.timestamp).find_ensureRecord
    rw [prepared.found] at found
    exact Option.some.inj found
  have effect :
      SliceEffect ((writer.see checked.timestamp).ensureRecord
          checked.timestamp) checked record
        (writer.faithfulCall message).1 := by
    rw [WriterTyped.faithfulCall, WriterTyped.call, write, passed]
    exact sliceEffect prepared.consistent.allocated prepared.found
  rw [← ownSlice_of_accept passed, ← own]
  generalize (writer.faithfulCall message).1 = next at effect ⊢
  cases effect with
  | rejected overlaps =>
      rw [recordFor, prepared.found, HistogramRecord.offer]
      split
      · rename_i free
        exact absurd free overlaps
      · rfl
  | notSelected free cannot =>
      rw [Shape.canSelect, prepared.shape, decide_eq_true inside,
        Bool.or_true] at cannot
      cases cannot
  | written free can written =>
      rw [recordFor, written.records, OrderedMap.find_modify_self,
        prepared.found, HistogramRecord.offer, free,
        (accept_ok passed).2]
      rfl

/--
The record of a timestamp that all messages have is the one that results from
offering it their slices.
-/
theorem recordFor_of_messages
    (shape : Shape) (dataType errorType : ArrayType) (timestamp : Nat)
    (messages : List (EventHistogram Data Error))
    (inside :
      Mealy.Admissible faithfulCall (OffersInside timestamp)
        (opened shape dataType errorType) messages) :
    (Mealy.run faithfulCall (opened shape dataType errorType)
        messages).1.recordFor timestamp =
      (Mealy.run HistogramRecord.offer
        (.create 0 (getTotalItems shape.sizes))
        (messages.map ownSlice)).1 := by
  have invariant :=
    Mealy.run_induction_of_admissible
      (fun messages _ writer =>
        Consistent writer ∧
          writer.recordFor timestamp =
            (Mealy.run HistogramRecord.offer
              (.create 0 (getTotalItems shape.sizes))
              (messages.map ownSlice)).1)
      ⟨consistent_opened shape dataType errorType,
        congrArg (HistogramRecord.create 0) (getTotalItems_eq_sizes shape)⟩
      (by
        rintro messages _ writer message ⟨consistent, same⟩ offers
        refine ⟨consistent.faithfulCall message, ?_⟩
        rw [consistent.recordFor_faithfulCall offers, same, List.map_append,
          List.map_singleton, Mealy.run_concat])
      inside
  exact invariant.2

theorem shape_faithfulCall (message : EventHistogram Data Error) :
    (writer.faithfulCall message).1.shape = writer.shape := by
  rw [faithfulCall, WriterTyped.call, write]
  split
  · rfl
  · rename_i checked _
    exact (sameRows_pieces {} checked _).shape.trans
      (shape_ensureRecord checked.timestamp)

/-- The slices of such messages are inside the histogram. -/
theorem ownSlice_inside
    {shape : Shape} {sizes : List Nat} (same : shape.sizes = sizes)
    {dataType errorType : ArrayType} {timestamp : Nat}
    {messages : List (EventHistogram Data Error)}
    (inside :
      Mealy.Admissible faithfulCall (OffersInside timestamp)
        (opened shape dataType errorType) messages) :
    ∀ message ∈ messages, (ownSlice message).Inside sizes := by
  subst same
  have invariant :=
    Mealy.run_induction_of_admissible
      (fun messages _ writer =>
        writer.shape = shape ∧
          ∀ message ∈ messages, (ownSlice message).Inside shape.sizes)
      ⟨rfl, fun _ member => absurd member List.not_mem_nil⟩
      (by
        rintro messages _ writer message ⟨same, before⟩
          ⟨checked, passed, _, own⟩
        refine ⟨(shape_faithfulCall message).trans same, ?_⟩
        rw [List.forall_mem_append, List.forall_mem_singleton,
          ← ownSlice_of_accept passed, ← same]
        exact ⟨same ▸ before, own⟩)
      inside
  exact invariant.2

/-- The parts of a histogram that messages offer, none of them empty. -/
def partsOf (histogram : Histogram)
    (messages : List (EventHistogram Data Error))
    (inside :
      ∀ message ∈ messages, (ownSlice message).Inside histogram.sizes)
    (positive : ∀ message ∈ messages, (ownSlice message).Positive) :
    List histogram.Part :=
  messages.attach.map fun message =>
    ⟨ownSlice message.1, inside message.1 message.2,
      positive message.1 message.2⟩

/--
The record of messages that offer parts of a histogram, none of them empty,
is the one that results from offering it these parts.
-/
theorem recordFor_of_parts
    (histogram : Histogram) (shape : Shape)
    (same : shape.sizes = histogram.sizes)
    (dataType errorType : ArrayType) (timestamp : Nat)
    (messages : List (EventHistogram Data Error))
    (admissible :
      Mealy.Admissible faithfulCall (OffersInside timestamp)
        (opened shape dataType errorType) messages)
    (positive : ∀ message ∈ messages, (ownSlice message).Positive) :
    (Mealy.run faithfulCall (opened shape dataType errorType)
        messages).1.recordFor timestamp =
      (Mealy.run HistogramRecord.offerPart
        (.create 0 (getTotalItems histogram.sizes))
        (partsOf histogram messages
          (ownSlice_inside same admissible) positive)).1 := by
  have offered (record : HistogramRecord) (parts : List histogram.Part) :
      (Mealy.run HistogramRecord.offerPart record parts).1 =
        (Mealy.run HistogramRecord.offer record
          (parts.map fun part => part.slice)).1 :=
    congrArg Prod.fst
      (Mealy.run_project id (fun part : histogram.Part => part.slice)
        (fun _ _ => rfl) record parts)
  have slices :
      (partsOf histogram messages (ownSlice_inside same admissible)
          positive).map (fun part => part.slice) =
        messages.map ownSlice := by
    rw [partsOf, List.map_map]
    change messages.attach.map (fun message => ownSlice message.1) = _
    exact List.attach_map_val
  rw [offered, slices, ← same]
  exact recordFor_of_messages shape dataType errorType timestamp messages
    admissible

end WriterTyped

end KafkaToNexus.WriterModule.Hs00
