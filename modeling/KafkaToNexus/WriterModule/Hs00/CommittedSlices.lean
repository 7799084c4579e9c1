import KafkaToNexus.WriterModule.Hs00.CallEffect

/-!
# What a call commits

A call that throws should leave the records, the largest timestamp and the
extents of the datasets as they were, and a slice that is kept should lie
inside the histogram.  The checks look at the sums of the offsets and sizes in
32 bits, and only if the message has an offset for each size.  What passes them
is kept in the record before HDF5 selects the cells.
-/

namespace KafkaToNexus.WriterModule.Hs00

open KafkaToNexus.Foundations

/-- The offsets of a slice, zero unless there is one for each size. -/
def EventHistogram.offsets {Data Error : Type*}
    (message : EventHistogram Data Error) (shape : List UInt32) :
    List UInt32 :=
  match message.offset with
  | some offsets =>
      if offsets.length = shape.length then offsets
      else List.replicate shape.length 0
  | none => List.replicate shape.length 0

/-- The extents of the datasets that grow. -/
structure Extents where
  histograms : Nat
  errors : Nat
  timestamps : Nat
  info : Nat
  infoTimestamp : Nat
deriving DecidableEq, Repr

namespace WriterTyped

variable {Data Error : Type*}

def extents (writer : WriterTyped Data Error) : Extents where
  histograms := writer.histograms.length
  errors := writer.errors.length
  timestamps := writer.timestamps.length
  info := writer.info.length
  infoTimestamp := writer.infoTimestamp.length

/-- The slices of the record with a timestamp. -/
def slicesOf (writer : WriterTyped Data Error) (timestamp : Nat) : List Slice :=
  match writer.histogramRecords.find timestamp with
  | some record => record.slices
  | none => []

/-- The record that a message with a timestamp finds or gets. -/
def recordFor (writer : WriterTyped Data Error) (timestamp : Nat) :
    HistogramRecord :=
  (writer.histogramRecords.find timestamp).getD
    (.create (writer.rowFor timestamp) writer.shape.getTotalItems)

/-- Nothing that a call commits has changed. -/
structure SameCommitted (writer next : WriterTyped Data Error) : Prop where
  records : next.histogramRecords = writer.histogramRecords
  largest : next.largestTimestampSeen = writer.largestTimestampSeen
  extents : next.extents = writer.extents

/--
The slice is that of the message and lies inside the histogram, and the arrays
have an element for each of its cells.
-/
structure Fits (sizes : List Nat) (message : EventHistogram Data Error)
    (slice : Slice) : Prop where
  own :
    ∃ shape, message.currentShape = some shape ∧
      slice = ⟨message.offsets shape, shape⟩
  inside : slice.Inside sizes
  data :
    ∃ data, message.data = some (some data) ∧ data.length = slice.volume
  errors :
    ∀ errors, message.errors = some (some errors) →
      errors.length = slice.volume

/-- A call validates its message before it commits anything. -/
structure ValidatesFirst [Zero Data] [Zero Error]
    (writer : WriterTyped Data Error)
    (input : HdfOutcomes × EventHistogram Data Error) : Prop where
  thrown :
    (write input.1 input.2 writer).2 ≠ none →
      SameCommitted writer (write input.1 input.2 writer).1
  added :
    ∀ timestamp slice,
      (write input.1 input.2 writer).1.slicesOf timestamp =
        writer.slicesOf timestamp ++ [slice] →
      Fits writer.shape.sizes input.2 slice

/-! ## Messages that are harmless -/

/--
The checks miss that a slice is not inside the histogram: the message has not
an offset for each size, or the sum of one with its size wraps round.
-/
def Escapes (sizes : List Nat) (message : EventHistogram Data Error) : Prop :=
  ∃ shape, message.currentShape = some shape ∧
    if message.offset.map List.length = some shape.length then
      ∃ range ∈ (message.offsets shape).zip shape,
        2 ^ 32 ≤ range.1.toNat + range.2.toNat
    else
      ∃ extent ∈ shape.zip sizes, extent.2 < extent.1.toNat

/-- The operations of HDF5 that a call carries out for a slice succeed. -/
structure Suffice (outcomes : HdfOutcomes)
    (checked : CheckedHistogram Data Error) (counted : HistogramRecord) :
    Prop where
  histograms : outcomes.writeHistograms = true
  errors : checked.errors.isSome = true → outcomes.writeErrors = true
  readTimestamps : outcomes.readTimestamps = true
  writeTimestamps : outcomes.writeTimestamps = true
  info :
    checked.info.isSome = true →
      outcomes.writeInfo = true ∧ outcomes.writeInfoTimestamp = true
  latest : counted.isFull = true → outcomes.copyLatest = true

/--
A message whose slice is not refused does not escape the checks, and HDF5 does
not fail.
-/
def Harmless (writer : WriterTyped Data Error)
    (input : HdfOutcomes × EventHistogram Data Error) : Prop :=
  ∀ checked, writer.accept input.2 = .ok checked →
    (writer.recordFor checked.timestamp).hasEmptySlice checked.slice =
      .ok true →
    ¬Escapes writer.shape.sizes input.2 ∧
      Suffice input.1 checked
        (countSlice checked (writer.recordFor checked.timestamp))

/-! ## What the checks say about a slice -/

section Checks

variable {writer : WriterTyped Data Error}
  {message : EventHistogram Data Error}
  {checked : CheckedHistogram Data Error}

theorem theOffsets_ok
    {sizes : List Nat} {shape offsets : List UInt32}
    (found : theOffsets sizes shape message.offset = .ok offsets) :
    offsets = message.offsets shape ∧
      (message.offset.map List.length = some shape.length →
        ∀ range ∈ (offsets.zip shape).zip sizes,
          (range.1.1 + range.1.2).toNat ≤ range.2) := by
  unfold theOffsets at found
  unfold EventHistogram.offsets
  cases given : message.offset with
  | none =>
      rw [given] at found
      cases found
      exact ⟨rfl, fun lengths => nomatch lengths⟩
  | some values =>
      rw [given] at found
      dsimp only at found ⊢
      split at found
      · rename_i lengths
        split at found
        · cases found
        · rename_i consistent
          cases found
          rw [if_pos lengths]
          refine ⟨rfl, fun _ range member => ?_⟩
          rw [List.any_eq_true] at consistent
          apply Nat.le_of_not_lt
          intro outside
          exact consistent ⟨range, member, decide_eq_true outside⟩
      · rename_i lengths
        cases found
        rw [if_neg lengths]
        refine ⟨rfl, fun same => ?_⟩
        exact absurd (Option.some.inj same) lengths

/-- What an admitted message consists of. -/
structure Admitted (writer : WriterTyped Data Error)
    (message : EventHistogram Data Error)
    (checked : CheckedHistogram Data Error) : Prop where
  shape : message.currentShape = some checked.slice.sizes
  rank : checked.slice.sizes.length = writer.shape.sizes.length
  offsets :
    theOffsets writer.shape.sizes checked.slice.sizes message.offset =
      .ok checked.slice.offsets
  data : message.data = some (some checked.data)
  errors : checked.errors = message.errors.getD none
  errorCount :
    ∀ errors, checked.errors = some errors →
      errors.length = checked.data.length

theorem checkArrays_ok
    {data : List Data} {errors : Option (List Error)}
    (passed : writer.checkArrays message = .ok (data, errors)) :
    message.data = some (some data) ∧ errors = message.errors.getD none := by
  unfold checkArrays at passed
  split at passed
  · cases passed
  split at passed
  · cases passed
  split at passed
  · cases passed
  · cases passed
  rename_i values given
  split at passed
  · rename_i absent
    cases passed
    rw [given, absent]
    exact ⟨rfl, rfl⟩
  · rename_i present
    split at passed
    · cases passed
    · cases passed
      rw [given, present]
      exact ⟨rfl, rfl⟩

theorem accept_admitted (passed : writer.accept message = .ok checked) :
    Admitted writer message checked := by
  unfold accept at passed
  split at passed
  · cases passed
  rename_i data errors arrays
  rcases checkArrays_ok arrays with ⟨sameData, sameErrors⟩
  split at passed
  · cases passed
  rename_i slice shaped
  dsimp only at passed
  split at passed
  · cases passed
  cases passed
  unfold checkShape at shaped
  split at shaped
  · cases shaped
  rename_i shape given
  split at shaped
  · cases shaped
  rename_i rank
  split at shaped
  · cases shaped
  rename_i offsets found
  split at shaped
  · cases shaped
  rename_i sized
  split at shaped
  · cases shaped
  rename_i errorsSized
  cases shaped
  refine ⟨given, not_not.mp rank, found, sameData, sameErrors, ?_⟩
  intro values same
  subst same
  rw [Option.any_some, decide_eq_true_iff, not_not] at errorsSized
  exact errorsSized.symm.trans (not_not.mp sized)

theorem Admitted.ranked (admitted : Admitted writer message checked) :
    checked.slice.Ranked writer.shape :=
  ⟨(theOffsets_length admitted.offsets).trans admitted.rank, admitted.rank⟩

/-- A slice of full rank is inside when none of its ends is outside. -/
theorem inside_iff
    {slice : Slice} {shape : Shape} (ranked : slice.Ranked shape) :
    slice.Inside shape.sizes ↔
      ∀ range ∈ (slice.offsets.zip slice.sizes).zip shape.sizes,
        range.1.1.toNat + range.1.2.toNat ≤ range.2 := by
  have ends :=
    @Boxes.inside_iff (slice.offsets.map UInt32.toNat)
      (slice.sizes.map UInt32.toNat) shape.sizes
      (by rw [List.length_map, ranked.offsets])
      (by rw [List.length_map, ranked.sizes])
  rw [Slice.Inside, ends, List.zip_map, List.zip_map_left, List.forall_mem_map]
  rfl

theorem zip_zeros (sizes : List UInt32) :
    (List.replicate sizes.length 0).zip sizes =
      sizes.map fun size => ((0 : UInt32), size) := by
  induction sizes with
  | nil => rfl
  | cons size sizes induction =>
      rw [List.length_cons, List.replicate_succ, List.zip_cons_cons,
        induction, List.map_cons]

/-- The checks miss exactly the slices that are not inside the histogram. -/
theorem Admitted.escapes_iff (admitted : Admitted writer message checked) :
    Escapes writer.shape.sizes message ↔
      ¬checked.slice.Inside writer.shape.sizes := by
  rcases theOffsets_ok admitted.offsets with ⟨offsets, checkedSums⟩
  have escapes :
      Escapes writer.shape.sizes message ↔
        if message.offset.map List.length =
            some checked.slice.sizes.length then
          ∃ range ∈ checked.slice.offsets.zip checked.slice.sizes,
            2 ^ 32 ≤ range.1.toNat + range.2.toNat
        else
          ∃ extent ∈ checked.slice.sizes.zip writer.shape.sizes,
            extent.2 < extent.1.toNat := by
    rw [Escapes, admitted.shape, offsets]
    constructor
    · rintro ⟨_, ⟨⟩, escapes⟩
      exact escapes
    · exact fun escapes => ⟨_, rfl, escapes⟩
  rw [escapes]
  split
  · rename_i lengths
    constructor
    · rintro ⟨range, member, wraps⟩ inside
      exact absurd
        (Slice.endsFit_of_inside inside writer.shape.dim_lt range member)
        (Nat.not_lt.mpr wraps)
    · intro outside
      by_contra fits
      apply outside
      rw [inside_iff admitted.ranked]
      intro range member
      have ends :
          range.1.1.toNat + range.1.2.toNat < 2 ^ 32 := by
        apply Nat.lt_of_not_le
        intro wraps
        exact fits ⟨range.1, (List.of_mem_zip member).1, wraps⟩
      have sum := checkedSums lengths range member
      rw [UInt32.toNat_add, Nat.mod_eq_of_lt ends] at sum
      exact sum
  · rename_i lengths
    have zeros :
        checked.slice.offsets =
          List.replicate checked.slice.sizes.length 0 := by
      rw [offsets, EventHistogram.offsets]
      cases given : message.offset with
      | none => rfl
      | some values =>
          rw [given] at lengths
          exact if_neg fun same => lengths (congrArg some same)
    have fromZero :
        checked.slice.Inside writer.shape.sizes ↔
          ∀ extent ∈ checked.slice.sizes.zip writer.shape.sizes,
            extent.1.toNat ≤ extent.2 := by
      rw [inside_iff admitted.ranked, zeros, zip_zeros, List.zip_map_left,
        List.forall_mem_map]
      apply forall₂_congr
      intro extent _
      show 0 + extent.1.toNat ≤ extent.2 ↔ extent.1.toNat ≤ extent.2
      rw [Nat.zero_add]
    rw [fromZero, not_forall]
    apply exists_congr
    intro extent
    rw [Classical.not_imp, Nat.not_le]

end Checks

/-! ## The record of a message -/

section Ready

variable [Zero Data] [Zero Error] {writer : WriterTyped Data Error}
  {timestamp other : Nat}

omit [Zero Data] [Zero Error] in
theorem slicesOf_recordFor :
    (writer.recordFor timestamp).slices = writer.slicesOf timestamp := by
  rw [recordFor, slicesOf]
  cases writer.histogramRecords.find timestamp <;> rfl

/-- A message without a record gets one beside records that are there. -/
theorem Allocated.records_ensureRecord
    (allocated : Allocated writer)
    (new : writer.histogramRecords.find timestamp = none) :
    ∃ kept, kept ⊆ writer.histogramRecords ∧
      OrderedMap.find kept timestamp = none ∧
      (writer.ensureRecord timestamp).histogramRecords =
        OrderedMap.insert timestamp (writer.recordFor timestamp) kept := by
  rcases Nat.lt_or_ge writer.histogramRecords.length maxNumberHistoric
    with room | full
  · refine ⟨_, List.Subset.refl _, new, ?_⟩
    rw [WriterTyped.ensureRecord, recordFor, rowFor, new,
      Option.isSome_none, if_neg Bool.false_ne_true, if_neg (Nat.not_le.mpr room)]
    dsimp only
    rw [if_neg (Nat.not_le.mpr room)]
    rfl
  · cases records : writer.histogramRecords with
    | nil =>
        rw [records] at full
        exact absurd full (by decide)
    | cons oldest rest =>
        rcases allocated.reusedRow new full records with ⟨next, newInRest, _⟩
        refine ⟨rest, List.subset_cons_self _ _, newInRest, ?_⟩
        rw [next, recordFor, rowFor, new]
        dsimp only
        rw [if_pos full, records]
        rfl

theorem ensureRecord_of_find
    {record : HistogramRecord}
    (found : writer.histogramRecords.find timestamp = some record) :
    writer.ensureRecord timestamp = writer := by
  rw [ensureRecord, found, Option.isSome_some, if_pos rfl]

/-- A message finds its record, or gets a new one. -/
theorem Allocated.find_ensureRecord (allocated : Allocated writer) :
    (writer.ensureRecord timestamp).histogramRecords.find timestamp =
      some (writer.recordFor timestamp) := by
  cases found : writer.histogramRecords.find timestamp with
  | some record =>
      rw [ensureRecord_of_find found, recordFor, found]
      rfl
  | none =>
      rcases allocated.records_ensureRecord found with
        ⟨kept, _, newInKept, records⟩
      rw [records]
      exact OrderedMap.find_insert_self newInKept

/-- A record with another timestamp keeps its slices, or is evicted. -/
theorem Allocated.slicesOf_ensureRecord
    (allocated : Allocated writer) (differs : other ≠ timestamp) :
    (writer.ensureRecord timestamp).slicesOf other = writer.slicesOf other ∨
      (writer.ensureRecord timestamp).slicesOf other = [] := by
  cases found : writer.histogramRecords.find timestamp with
  | some record =>
      rw [ensureRecord_of_find found]
      exact Or.inl rfl
  | none =>
      rcases allocated.records_ensureRecord found with
        ⟨kept, subset, newInKept, records⟩
      rw [slicesOf, records, OrderedMap.find_insert_of_ne differs]
      cases present : OrderedMap.find kept other with
      | none => exact Or.inr rfl
      | some record =>
          apply Or.inl
          have same :=
            allocated.sorted.find_of_mem
              (subset (OrderedMap.mem_of_find present))
          rw [slicesOf, same]

/-! ## The largest timestamp -/

/-- The largest timestamp that was seen is not less than any record has. -/
def SeenAll (writer : WriterTyped Data Error) : Prop :=
  ∀ row ∈ writer.rows, row.1 ≤ writer.largestTimestampSeen

omit [Zero Data] [Zero Error] in
theorem SeenAll.see (seen : SeenAll writer) (timestamp : Nat) :
    SeenAll (writer.see timestamp) := by
  intro row member
  have before : row.1 ≤ writer.largestTimestampSeen := seen row member
  show row.1 ≤ if _ < timestamp then timestamp else _
  split <;> omega

theorem SeenAll.ensureRecord
    (allocated : Allocated writer) (seen : SeenAll writer)
    (own : timestamp ≤ writer.largestTimestampSeen) :
    SeenAll (writer.ensureRecord timestamp) := by
  cases found : writer.histogramRecords.find timestamp with
  | some record =>
      rw [ensureRecord_of_find found]
      exact seen
  | none =>
      rcases allocated.records_ensureRecord found with
        ⟨kept, subset, _, records⟩
      intro row member
      rw [rows, records] at member
      rw [largest_ensureRecord]
      rcases List.mem_map.mp member with ⟨entry, present, rfl⟩
      rcases OrderedMap.mem_insert.mp present with rfl | old
      · exact own
      · exact seen _ (List.mem_map_of_mem (subset old))

theorem SeenAll.call
    (allocated : Allocated writer) (seen : SeenAll writer)
    (input : HdfOutcomes × EventHistogram Data Error) :
    SeenAll (writer.call input).1 := by
  unfold WriterTyped.call write
  dsimp only
  cases writer.accept input.2 with
  | error failure => exact seen
  | ok checked =>
      have own :
          checked.timestamp ≤
            (writer.see checked.timestamp).largestTimestampSeen := by
        show _ ≤ if _ < checked.timestamp then checked.timestamp else _
        split <;> omega
      have ready :=
        (seen.see checked.timestamp).ensureRecord
          (allocated.see checked.timestamp) own
      have same :=
        sameRows_pieces input.1 checked
          ((writer.see checked.timestamp).ensureRecord checked.timestamp)
      intro row member
      rw [same.rows] at member
      rw [same.largest]
      exact ready row member

/-- A message whose record is there leaves the writer as it is at first. -/
theorem SeenAll.ready_of_find
    {record : HistogramRecord} (seen : SeenAll writer)
    (found : writer.histogramRecords.find timestamp = some record) :
    (writer.see timestamp).ensureRecord timestamp = writer := by
  have row : (timestamp, record.hdfIndex) ∈ writer.rows :=
    List.mem_map_of_mem (OrderedMap.mem_of_find found)
  have same : writer.see timestamp = writer := by
    rw [WriterTyped.see, if_neg (Nat.not_lt.mpr (seen _ row))]
  rw [same]
  exact ensureRecord_of_find found

end Ready

/-! ## The pieces of a call -/

section Pieces

variable [Zero Data] [Zero Error] {outcomes : HdfOutcomes}
  {checked : CheckedHistogram Data Error} {writer : WriterTyped Data Error}
  {record : HistogramRecord}

omit [Zero Data] [Zero Error] in
theorem slicesOf_changeRecord
    (change : HistogramRecord → HistogramRecord)
    (same : ∀ record : HistogramRecord, (change record).slices = record.slices)
    (timestamp other : Nat) :
    (writer.changeRecord timestamp change).slicesOf other =
      writer.slicesOf other := by
  rw [slicesOf, slicesOf, changeRecord]
  by_cases own : other = timestamp
  · subst own
    rw [OrderedMap.find_modify_self]
    cases writer.histogramRecords.find other with
    | none => rfl
    | some record => exact same record
  · rw [OrderedMap.find_modify_of_ne own]

/-- Once a slice is claimed no piece changes what slices there are. -/
theorem slicesOf_pieces_of_free
    (found : writer.histogramRecords.find checked.timestamp = some record)
    (free : record.hasEmptySlice checked.slice = .ok true) :
    (Throwing.inOrder (pieces outcomes checked) writer).1.slicesOf
        checked.timestamp =
      record.slices ++ [checked.slice] := by
  apply Throwing.inOrder_cons_keeps fun next : WriterTyped Data Error =>
    next.slicesOf checked.timestamp = record.slices ++ [checked.slice]
  · intro piece member next same
    rw [← same]
    simp only [List.mem_cons, List.not_mem_nil, or_false] at member
    rcases member with rfl | rfl | rfl | rfl | rfl | rfl
    · rw [slicesOf, slicesOf, records_writeHistograms]
    · rw [slicesOf, slicesOf, records_writeErrors]
    · exact slicesOf_changeRecord (·.addToItemsWritten checked.data.length)
        (fun _ => rfl) _ _
    · rw [slicesOf, slicesOf, records_writeTimestamps]
    · rw [slicesOf, slicesOf, records_writeInfo]
    · rw [slicesOf, slicesOf, records_copyLatest]
  · rw [claimSlice, record_of_find found, free]
    show (writer.changeRecord _ _).slicesOf _ = _
    rw [slicesOf, find_changed found]
    rfl

omit [Zero Error] in
theorem writeHistograms_returns_iff :
    (writeHistograms outcomes checked writer).2 = none ↔
      outcomes.writeHistograms = true ∧
        writer.shape.canSelect checked.slice = true := by
  rw [← Bool.and_eq_true]
  unfold writeHistograms
  split
  · rename_i succeeds
    exact ⟨fun _ => succeeds, fun _ => rfl⟩
  · rename_i fails
    exact ⟨nofun, fun succeeds => absurd succeeds fails⟩

omit [Zero Data] in
theorem writeErrors_returns_iff
    (can : writer.shape.canSelect checked.slice = true) :
    (writeErrors outcomes checked writer).2 = none ↔
      (checked.errors.isSome = true → outcomes.writeErrors = true) := by
  unfold writeErrors
  cases checked.errors with
  | none => exact
        ⟨fun _ some_ => absurd some_ Bool.false_ne_true, fun _ => rfl⟩
  | some errors =>
      dsimp only
      rw [can, Bool.and_true]
      cases outcomes.writeErrors with
      | true => exact ⟨fun _ _ => rfl, fun _ => rfl⟩
      | false =>
          exact
            ⟨fun returned => absurd returned (Option.some_ne_none _),
              fun succeeds => absurd (succeeds rfl) Bool.false_ne_true⟩

omit [Zero Data] [Zero Error] in
theorem writeTimestamps_returns_iff
    (allocated : Allocated writer)
    (found :
      writer.histogramRecords.find checked.timestamp = some record) :
    (writeTimestamps outcomes checked writer).2 = none ↔
      outcomes.readTimestamps = true ∧ outcomes.writeTimestamps = true := by
  rw [writeTimestamps, allocated.newTimestamps found]
  cases outcomes.readTimestamps <;> cases outcomes.writeTimestamps <;> simp

omit [Zero Data] [Zero Error] in
theorem writeInfo_returns_iff :
    (writeInfo outcomes checked writer).2 = none ↔
      (checked.info.isSome = true →
        outcomes.writeInfo = true ∧
          outcomes.writeInfoTimestamp = true) := by
  unfold writeInfo
  cases checked.info with
  | none => exact
        ⟨fun _ some_ => absurd some_ Bool.false_ne_true, fun _ => rfl⟩
  | some text =>
      dsimp only
      cases outcomes.writeInfo <;> cases outcomes.writeInfoTimestamp <;> simp

omit [Zero Error] in
theorem copyLatest_returns_iff
    (found :
      writer.histogramRecords.find checked.timestamp = some record) :
    (copyLatest outcomes checked writer).2 = none ↔
      (record.isFull = true → outcomes.copyLatest = true) := by
  unfold copyLatest
  rw [record_of_find found]
  dsimp only
  cases record.isFull with
  | false => exact
        ⟨fun _ some_ => absurd some_ Bool.false_ne_true, fun _ => rfl⟩
  | true =>
      cases outcomes.copyLatest with
      | true => exact ⟨fun _ _ => rfl, fun _ => rfl⟩
      | false =>
          exact
            ⟨fun returned => absurd returned (Option.some_ne_none _),
              fun succeeds => absurd (succeeds rfl) Bool.false_ne_true⟩

/--
The work on a claimed slice returns when its cells can be selected and no
operation fails.
-/
theorem pieces_return_iff
    (allocated : Allocated writer)
    (found : writer.histogramRecords.find checked.timestamp = some record)
    (free : record.hasEmptySlice checked.slice = .ok true) :
    (Throwing.inOrder (pieces outcomes checked) writer).2 = none ↔
      writer.shape.canSelect checked.slice = true ∧
        Suffice outcomes checked (countSlice checked record) := by
  let claimed :=
    writer.changeRecord checked.timestamp (·.addSlice checked.slice)
  let written := (writeHistograms outcomes checked claimed).1
  let withErrors := (writeErrors outcomes checked written).1
  let counted := (countItems checked withErrors).1
  let entered := (writeTimestamps outcomes checked counted).1
  let informed := (writeInfo outcomes checked entered).1
  have claim : claimSlice checked writer = (claimed, none) := by
    rw [claimSlice, record_of_find found, free]
  have writtenShape : written.shape = writer.shape :=
    (sameRows_writeHistograms outcomes checked claimed).shape
  have foundCounted :
      counted.histogramRecords.find checked.timestamp =
        some (countSlice checked record) := by
    apply find_changed
    rw [records_writeErrors, records_writeHistograms]
    exact find_changed found _
  have allocatedCounted : Allocated counted := by
    apply allocated.of_sameRows
    apply (sameRows_changeRecord (·.addSlice checked.slice)
      fun _ => rfl).trans
    apply (sameRows_writeHistograms outcomes checked claimed).trans
    apply (sameRows_writeErrors outcomes checked written).trans
    exact sameRows_changeRecord _ fun _ => rfl
  have foundInformed :
      informed.histogramRecords.find checked.timestamp =
        some (countSlice checked record) := by
    rw [records_writeInfo, records_writeTimestamps]
    exact foundCounted
  have others (can : writer.shape.canSelect checked.slice = true) :
      (Throwing.inOrder
        [writeErrors outcomes checked, countItems checked,
          writeTimestamps outcomes checked, writeInfo outcomes checked,
          copyLatest outcomes checked] written).2 = none ↔
        (checked.errors.isSome = true → outcomes.writeErrors = true) ∧
          (outcomes.readTimestamps = true ∧
            outcomes.writeTimestamps = true) ∧
          (checked.info.isSome = true →
            outcomes.writeInfo = true ∧
              outcomes.writeInfoTimestamp = true) ∧
          ((countSlice checked record).isFull = true →
            outcomes.copyLatest = true) := by
    rw [Throwing.inOrder_cons_returns,
      writeErrors_returns_iff (by rw [writtenShape]; exact can),
      Throwing.inOrder_of_none rfl, Throwing.inOrder_cons_returns,
      writeTimestamps_returns_iff allocatedCounted foundCounted,
      Throwing.inOrder_cons_returns, writeInfo_returns_iff,
      Throwing.inOrder_cons_returns, copyLatest_returns_iff foundInformed]
    exact Iff.of_eq (by simp only [Throwing.inOrder, and_true])
  rw [pieces, Throwing.inOrder_of_returned claim,
    Throwing.inOrder_cons_returns, writeHistograms_returns_iff]
  show (_ ∧ writer.shape.canSelect _ = true) ∧
    (Throwing.inOrder _ written).2 = none ↔ _
  constructor
  · rintro ⟨⟨histograms, can⟩, rest⟩
    rcases (others can).mp rest with ⟨errors, ⟨read, wrote⟩, info, latest⟩
    exact ⟨can, histograms, errors, read, wrote, info, latest⟩
  · rintro ⟨can, suffice_⟩
    refine ⟨⟨suffice_.histograms, can⟩, (others can).mpr ?_⟩
    exact ⟨suffice_.errors,
      ⟨suffice_.readTimestamps, suffice_.writeTimestamps⟩, suffice_.info,
      suffice_.latest⟩

end Pieces

/-! ## Calls -/

section Calls

variable [Zero Data] [Zero Error] {writer : WriterTyped Data Error}
  {message : EventHistogram Data Error}
  {checked : CheckedHistogram Data Error}

omit [Zero Data] [Zero Error] in
/-- A slice inside the histogram has the arrays that the checks ask for. -/
theorem fits_of_inside
    (passed : writer.accept message = .ok checked)
    (inside : checked.slice.Inside writer.shape.sizes) :
    Fits writer.shape.sizes message checked.slice := by
  have admitted := accept_admitted passed
  have can : writer.shape.canSelect checked.slice = true := by
    rw [Shape.canSelect, decide_eq_true inside, Bool.or_true]
  have count := length_eq_volume passed can
  constructor
  · refine ⟨_, admitted.shape, ?_⟩
    rw [← (theOffsets_ok admitted.offsets).1]
  · exact inside
  · exact ⟨_, admitted.data, count⟩
  · intro errors given
    rw [← count]
    apply admitted.errorCount
    rw [admitted.errors, given]
    rfl

omit [Zero Data] [Zero Error] in
/-- A slice is refused only when there is one in the record. -/
theorem find_of_refused
    {timestamp : Nat} {slice : Slice}
    (refused :
      (writer.recordFor timestamp).hasEmptySlice slice ≠ .ok true) :
    ∃ record, writer.histogramRecords.find timestamp = some record := by
  cases found : writer.histogramRecords.find timestamp with
  | some record => exact ⟨record, rfl⟩
  | none =>
      rw [recordFor, found] at refused
      exact absurd rfl refused

/-- A call that keeps no slice and leaves what it commits validates first. -/
theorem validatesFirst_of_same
    {input : HdfOutcomes × EventHistogram Data Error}
    (same : (write input.1 input.2 writer).1 = writer) :
    ValidatesFirst writer input := by
  constructor
  · intro _
    rw [same]
    exact ⟨rfl, rfl, rfl⟩
  · intro timestamp slice added
    rw [same, List.self_eq_append_right] at added
    exact nomatch added

/-- The work on a slice that is refused changes nothing. -/
theorem pieces_of_refused
    {outcomes : HdfOutcomes} {record : HistogramRecord}
    (found : writer.histogramRecords.find checked.timestamp = some record)
    (refused : record.hasEmptySlice checked.slice ≠ .ok true) :
    (Throwing.inOrder (pieces outcomes checked) writer).1 = writer := by
  have claim :
      ∃ failure, claimSlice checked writer = (writer, some failure) := by
    rw [claimSlice, record_of_find found]
    cases free : record.hasEmptySlice checked.slice with
    | error failure => exact ⟨_, rfl⟩
    | ok empty =>
        cases empty with
        | false => exact ⟨_, rfl⟩
        | true => exact absurd free refused
  rcases claim with ⟨failure, threw⟩
  rw [pieces, Throwing.inOrder_of_threw threw]

/-- Only the record of the message gets a slice. -/
theorem Allocated.timestamp_of_added
    {outcomes : HdfOutcomes} {timestamp : Nat} {slice : Slice}
    (allocated : Allocated writer)
    (added :
      (Throwing.inOrder (pieces outcomes checked)
          ((writer.see checked.timestamp).ensureRecord
            checked.timestamp)).1.slicesOf timestamp =
        writer.slicesOf timestamp ++ [slice]) :
    timestamp = checked.timestamp := by
  by_contra differs
  rw [slicesOf, find_pieces_of_ne outcomes checked differs] at added
  have kept :=
    (allocated.see checked.timestamp).slicesOf_ensureRecord differs
  have lengths := congrArg List.length added
  rw [List.length_append, List.length_singleton] at lengths
  rcases kept with same | evicted
  · have count := congrArg List.length same
    have before :
        ((writer.see checked.timestamp).slicesOf timestamp).length =
          (writer.slicesOf timestamp).length := rfl
    exact absurd (lengths.symm.trans (count.trans before)) (by omega)
  · have count := congrArg List.length evicted
    exact absurd (lengths.symm.trans count) (Nat.succ_ne_zero _)

theorem shape_ensureRecord (timestamp : Nat) :
    (writer.ensureRecord timestamp).shape = writer.shape := by
  unfold ensureRecord
  split
  · rfl
  · split
    · split <;> rfl
    · rfl

/-- A slice that is not refused has to be inside, and HDF5 not to fail. -/
theorem Allocated.validatesFirst_iff_of_free
    {input : HdfOutcomes × EventHistogram Data Error}
    (allocated : Allocated writer)
    (passed : writer.accept input.2 = .ok checked)
    (free :
      (writer.recordFor checked.timestamp).hasEmptySlice checked.slice =
        .ok true) :
    ValidatesFirst writer input ↔
      ¬Escapes writer.shape.sizes input.2 ∧
        Suffice input.1 checked
          (countSlice checked (writer.recordFor checked.timestamp)) := by
  let ready := (writer.see checked.timestamp).ensureRecord checked.timestamp
  have readyShape : ready.shape = writer.shape := shape_ensureRecord _
  have found :
      ready.histogramRecords.find checked.timestamp =
        some (writer.recordFor checked.timestamp) :=
    (allocated.see checked.timestamp).find_ensureRecord
  have ran :
      write input.1 input.2 writer =
        Throwing.inOrder (pieces input.1 checked) ready := by
    rw [write, passed]
  have kept :
      (write input.1 input.2 writer).1.slicesOf checked.timestamp =
        writer.slicesOf checked.timestamp ++ [checked.slice] := by
    rw [ran, slicesOf_pieces_of_free found free, slicesOf_recordFor]
  have returns :
      (write input.1 input.2 writer).2 = none ↔
        writer.shape.canSelect checked.slice = true ∧
          Suffice input.1 checked
            (countSlice checked (writer.recordFor checked.timestamp)) := by
    rw [ran, pieces_return_iff (allocated.prepared checked.timestamp).1 found
      free, readyShape]
  rw [(accept_admitted passed).escapes_iff, not_not]
  constructor
  · intro valid
    constructor
    · exact (valid.added _ _ kept).inside
    · apply (returns.mp _).2
      by_contra threw
      have same := (valid.thrown threw).records
      rw [slicesOf, same] at kept
      exact List.cons_ne_nil _ _ (List.self_eq_append_right.mp kept)
  · rintro ⟨inside, suffice_⟩
    have can : writer.shape.canSelect checked.slice = true := by
      rw [Shape.canSelect, decide_eq_true inside, Bool.or_true]
    constructor
    · exact fun threw => absurd (returns.mpr ⟨can, suffice_⟩) threw
    · intro timestamp slice added
      have own : timestamp = checked.timestamp := by
        rw [ran] at added
        exact allocated.timestamp_of_added added
      rw [own, kept] at added
      have same := List.append_cancel_left added
      rw [← List.singleton_inj.mp same]
      exact fits_of_inside passed inside

/-- A call whose slice is refused changes nothing. -/
theorem SeenAll.write_of_refused
    {input : HdfOutcomes × EventHistogram Data Error}
    (seen : SeenAll writer)
    (passed : writer.accept input.2 = .ok checked)
    (refused :
      (writer.recordFor checked.timestamp).hasEmptySlice checked.slice ≠
        .ok true) :
    (write input.1 input.2 writer).1 = writer := by
  rcases find_of_refused refused with ⟨record, present⟩
  rw [recordFor, present] at refused
  rw [write, passed]
  dsimp only
  rw [seen.ready_of_find present, pieces_of_refused present refused]

/-- A call validates its message first exactly when it is harmless. -/
theorem Allocated.validatesFirst_iff
    (allocated : Allocated writer) (seen : SeenAll writer)
    (input : HdfOutcomes × EventHistogram Data Error) :
    ValidatesFirst writer input ↔ Harmless writer input := by
  cases passed : writer.accept input.2 with
  | error failure =>
      have same : (write input.1 input.2 writer).1 = writer := by
        rw [write, passed]
      constructor
      · intro _ checked admitted
        rw [passed] at admitted
        cases admitted
      · exact fun _ => validatesFirst_of_same same
  | ok checked =>
      constructor
      · intro valid other admitted free
        rw [passed] at admitted
        cases admitted
        exact (allocated.validatesFirst_iff_of_free passed free).mp valid
      · intro harmless
        by_cases free :
            (writer.recordFor checked.timestamp).hasEmptySlice
                checked.slice =
              .ok true
        · exact (allocated.validatesFirst_iff_of_free passed free).mpr
            (harmless checked passed free)
        · exact validatesFirst_of_same (seen.write_of_refused passed free)

/--
In every state that calls can lead to, the next call validates its message
before it commits anything exactly when it is harmless.
-/
theorem validates_first_iff
    (shape : Shape) (dataType errorType : ArrayType)
    (history : List (HdfOutcomes × EventHistogram Data Error))
    (input : HdfOutcomes × EventHistogram Data Error) :
    let writer := (Mealy.run call (opened shape dataType errorType) history).1
    ValidatesFirst writer input ↔ Harmless writer input := by
  intro writer
  have invariant : Allocated writer ∧ SeenAll writer := by
    apply Mealy.run_induction fun _ _ writer =>
      Allocated writer ∧ SeenAll writer
    · exact ⟨allocated_opened shape dataType errorType, fun _ => nofun⟩
    · rintro _ _ writer input ⟨allocated, seen⟩
      exact ⟨allocated.call input, seen.call allocated input⟩
  exact invariant.1.validatesFirst_iff invariant.2 input

/-- Three values for a histogram of two cells, without offsets. -/
def overhangingSlice : EventHistogram Nat Nat where
  timestamp := 1
  dataType := .arrayUInt
  data := some (some [7, 7, 7])
  currentShape := some [3]

/-- The call throws once the record and its row are there. -/
theorem overhanging_slice_is_kept :
    ¬ValidatesFirst
        (opened ⟨[2], by decide, by decide⟩ .arrayUInt .arrayUInt)
        ({}, overhangingSlice) := by
  intro valid
  have same := (valid.thrown (by decide)).records
  exact absurd same (by decide)

end Calls

end WriterTyped

end KafkaToNexus.WriterModule.Hs00
