import KafkaToNexus.Foundations.Mealy
import KafkaToNexus.WriterModule.Hs00.WriterTyped

/-!
# The rows of the histogram records

Every record has a row of its own in the datasets, and the datasets have no
other rows.  A record with a new timestamp gets a new row, as long as there are
fewer than four, and takes over the row of the oldest record otherwise.  No
exception comes between the steps that do this, and what comes after them
leaves the rows as they are.
-/

namespace KafkaToNexus.WriterModule.Hs00

open KafkaToNexus.Foundations

namespace WriterTyped

variable {Data Error : Type*}

/-- The timestamps of the records with their rows. -/
def rows (writer : WriterTyped Data Error) : List (Nat × Nat) :=
  writer.histogramRecords.map fun entry => (entry.1, entry.2.hdfIndex)

/-- The records and the datasets have the rows `0` to `n - 1`. -/
structure Allocated (writer : WriterTyped Data Error) : Prop where
  sorted : writer.histogramRecords.Sorted
  few : writer.histogramRecords.length ≤ maxNumberHistoric
  indices :
    (writer.histogramRecords.map fun entry => entry.2.hdfIndex).Perm
      (List.range writer.histogramRecords.length)
  histograms : writer.histograms.length = writer.histogramRecords.length
  errors : writer.errors.length = writer.histogramRecords.length
  timestamps : writer.timestamps.length ≤ 2 * writer.histogramRecords.length

/-- The rows are the same, and so are the extents of the datasets. -/
structure SameRows (writer next : WriterTyped Data Error) : Prop where
  shape : next.shape = writer.shape
  largest : next.largestTimestampSeen = writer.largestTimestampSeen
  rows : next.rows = writer.rows
  histograms : next.histograms.length = writer.histograms.length
  errors : next.errors.length = writer.errors.length
  timestamps :
    next.timestamps.length = writer.timestamps.length ∨
      next.timestamps.length = 2 * writer.histogramRecords.length

variable {writer next last : WriterTyped Data Error} {timestamp : Nat}

theorem SameRows.length (same : SameRows writer next) :
    next.histogramRecords.length = writer.histogramRecords.length := by
  have lengths := congrArg List.length same.rows
  simp only [WriterTyped.rows, List.length_map] at lengths
  exact lengths

theorem SameRows.refl : SameRows writer writer :=
  ⟨rfl, rfl, rfl, rfl, rfl, Or.inl rfl⟩

theorem SameRows.trans
    (first : SameRows writer next) (second : SameRows next last) :
    SameRows writer last := by
  refine ⟨second.shape.trans first.shape, second.largest.trans first.largest,
    second.rows.trans first.rows, second.histograms.trans first.histograms,
    second.errors.trans first.errors, ?_⟩
  have records := first.length
  rcases second.timestamps with kept | resized
  · rw [kept]
    exact first.timestamps
  · rw [resized, records]
    exact Or.inr rfl

/-- Whether there is a record with a timestamp depends on the rows only. -/
theorem SameRows.find_isSome
    (same : SameRows writer next)
    (found : (writer.histogramRecords.find timestamp).isSome) :
    (next.histogramRecords.find timestamp).isSome := by
  have keys :
      next.histogramRecords.map Prod.fst =
        writer.histogramRecords.map Prod.fst := by
    have firsts := congrArg (List.map Prod.fst) same.rows
    simp only [WriterTyped.rows, List.map_map, Function.comp_def] at firsts
    exact firsts
  by_contra absent
  rw [Option.not_isSome_iff_eq_none, OrderedMap.find_eq_none] at absent
  rcases Option.isSome_iff_exists.mp found with ⟨record, present⟩
  have member := List.mem_map_of_mem (f := Prod.fst)
    (OrderedMap.mem_of_find present)
  rw [← keys] at member
  rcases List.mem_map.mp member with ⟨entry, inNext, key⟩
  exact absent entry inNext key

theorem Allocated.of_sameRows
    (allocated : Allocated writer) (same : SameRows writer next) :
    Allocated next := by
  have length := same.length
  have indices :
      (next.histogramRecords.map fun entry => entry.2.hdfIndex) =
        writer.histogramRecords.map fun entry => entry.2.hdfIndex := by
    have seconds := congrArg (List.map Prod.snd) same.rows
    simp only [WriterTyped.rows, List.map_map, Function.comp_def] at seconds
    exact seconds
  constructor
  · have sorted := allocated.sorted
    rw [OrderedMap.Sorted, ← List.pairwise_map (f := Prod.fst)
      (R := fun first second => first < second)] at sorted ⊢
    have firsts := congrArg (List.map Prod.fst) same.rows
    simp only [WriterTyped.rows, List.map_map, Function.comp_def] at firsts
    rw [firsts]
    exact sorted
  · rw [length]
    exact allocated.few
  · rw [indices, length]
    exact allocated.indices
  · rw [same.histograms, length]
    exact allocated.histograms
  · rw [same.errors, length]
    exact allocated.errors
  · rw [length]
    rcases same.timestamps with kept | resized
    · rw [kept]
      exact allocated.timestamps
    · exact Nat.le_of_eq resized

/-! ## What follows the creation of the record -/

theorem sameRows_changeRecord
    (change : HistogramRecord → HistogramRecord)
    (keeps : ∀ record, (change record).hdfIndex = record.hdfIndex) :
    SameRows writer (writer.changeRecord timestamp change) := by
  refine ⟨rfl, rfl, ?_, rfl, rfl, Or.inl rfl⟩
  apply OrderedMap.map_modify
  intro entry _ _
  rw [keeps]

theorem length_resize (size : Nat) (values : List Nat) :
    (resize size values).length = size := by
  simp only [resize, List.length_append, List.length_take,
    List.length_replicate]
  omega

theorem length_setAt {values changed : List Nat} {place value : Nat}
    (assigned : setAt values place value = some changed) :
    changed.length = values.length := by
  unfold setAt at assigned
  split at assigned
  · cases assigned
    exact List.length_set
  · cases assigned

theorem length_newTimestamps {values : List Nat}
    (assigned : writer.newTimestamps timestamp = some values) :
    values.length = 2 * writer.histogramRecords.length := by
  unfold newTimestamps at assigned
  dsimp only at assigned
  split at assigned
  · cases assigned
  · rename_i first firstAssigned
    have length := length_setAt firstAssigned
    rw [length_resize] at length
    split at assigned
    · exact (length_setAt assigned).trans length
    · cases assigned
      exact length

section Pieces

variable (outcomes : HdfOutcomes) (message : CheckedHistogram Data Error)

theorem sameRows_claimSlice (writer : WriterTyped Data Error) :
    SameRows writer (claimSlice message writer).1 := by
  unfold claimSlice
  split
  · exact .refl
  · exact .refl
  · exact sameRows_changeRecord _ fun _ => rfl

theorem sameRows_writeHistograms [Zero Data] (writer : WriterTyped Data Error) :
    SameRows writer (writeHistograms outcomes message writer).1 := by
  unfold writeHistograms
  split
  · exact ⟨rfl, rfl, rfl, List.length_modify _ _ _, rfl, Or.inl rfl⟩
  · exact .refl

theorem sameRows_writeErrors [Zero Error] (writer : WriterTyped Data Error) :
    SameRows writer (writeErrors outcomes message writer).1 := by
  unfold writeErrors
  split
  · exact .refl
  · split
    · exact ⟨rfl, rfl, rfl, rfl, List.length_modify _ _ _, Or.inl rfl⟩
    · exact .refl

theorem sameRows_writeTimestamps (writer : WriterTyped Data Error) :
    SameRows writer (writeTimestamps outcomes message writer).1 := by
  unfold writeTimestamps
  split
  · split
    · exact .refl
    · rename_i values assigned
      have length := length_newTimestamps assigned
      split
      · exact ⟨rfl, rfl, rfl, rfl, rfl, Or.inr length⟩
      · refine ⟨rfl, rfl, rfl, rfl, rfl, Or.inr ?_⟩
        rw [length_resize, length]
  · exact .refl

theorem sameRows_writeInfo (writer : WriterTyped Data Error) :
    SameRows writer (writeInfo outcomes message writer).1 := by
  unfold writeInfo
  split
  · exact .refl
  · split
    · split <;> exact ⟨rfl, rfl, rfl, rfl, rfl, Or.inl rfl⟩
    · exact ⟨rfl, rfl, rfl, rfl, rfl, Or.inl rfl⟩

theorem sameRows_copyLatest [Zero Data] (writer : WriterTyped Data Error) :
    SameRows writer (copyLatest outcomes message writer).1 := by
  unfold copyLatest
  dsimp only
  split
  · split
    · exact ⟨rfl, rfl, rfl, rfl, rfl, Or.inl rfl⟩
    · exact .refl
  · exact .refl

/-- No piece of the work on a slice changes the rows. -/
theorem sameRows_piece [Zero Data] [Zero Error] :
    ∀ piece ∈ pieces outcomes message, ∀ writer : WriterTyped Data Error,
      SameRows writer (piece writer).1 := by
  intro piece member writer
  simp only [pieces, List.mem_cons, List.not_mem_nil, or_false] at member
  rcases member with rfl | rfl | rfl | rfl | rfl | rfl | rfl
  · exact sameRows_claimSlice message writer
  · exact sameRows_writeHistograms outcomes message writer
  · exact sameRows_writeErrors outcomes message writer
  · exact sameRows_changeRecord _ fun _ => rfl
  · exact sameRows_writeTimestamps outcomes message writer
  · exact sameRows_writeInfo outcomes message writer
  · exact sameRows_copyLatest outcomes message writer

theorem sameRows_pieces [Zero Data] [Zero Error]
    (writer : WriterTyped Data Error) :
    SameRows writer
      (Throwing.inOrder (pieces outcomes message) writer).1 := by
  apply Throwing.inOrder_keeps (SameRows writer)
  · intro piece member next same
    exact same.trans (sameRows_piece outcomes message piece member next)
  · exact .refl

end Pieces

/-! ## The assignments to the timestamps -/

/-- The row of a record is one of the rows. -/
theorem Allocated.hdfIndex_lt
    (allocated : Allocated writer)
    {entry : Nat × HistogramRecord}
    (member : entry ∈ writer.histogramRecords) :
    entry.2.hdfIndex < writer.histogramRecords.length := by
  have index :
      entry.2.hdfIndex ∈
        writer.histogramRecords.map fun entry => entry.2.hdfIndex :=
    List.mem_map_of_mem member
  exact List.mem_range.mp (allocated.indices.mem_iff.mp index)

theorem setAt_of_lt {values : List Nat} {place : Nat}
    (inside : place < values.length) (value : Nat) :
    setAt values place value = some (values.set place value) :=
  if_pos inside

theorem record_of_find {record : HistogramRecord}
    (found : writer.histogramRecords.find timestamp = some record) :
    writer.record timestamp = record := by
  rw [WriterTyped.record, found]
  rfl

/-- Both assignments are inside the vector. -/
theorem Allocated.newTimestamps
    (allocated : Allocated writer)
    {record : HistogramRecord}
    (found : writer.histogramRecords.find timestamp = some record) :
    writer.newTimestamps timestamp =
      some
        (let values :=
          (resize (2 * writer.histogramRecords.length)
            writer.timestamps).set (2 * record.hdfIndex) timestamp
        if record.isFull then values.set (2 * record.hdfIndex + 1) 1
        else values) := by
  have inside : record.hdfIndex < writer.histogramRecords.length :=
    allocated.hdfIndex_lt (OrderedMap.mem_of_find found)
  have first :
      2 * record.hdfIndex <
        (resize (2 * writer.histogramRecords.length)
          writer.timestamps).length := by
    rw [length_resize]
    omega
  have second :
      2 * record.hdfIndex + 1 <
        ((resize (2 * writer.histogramRecords.length)
          writer.timestamps).set (2 * record.hdfIndex) timestamp).length := by
    rw [List.length_set, length_resize]
    omega
  unfold WriterTyped.newTimestamps
  rw [record_of_find found]
  dsimp only
  rw [setAt_of_lt first]
  dsimp only
  split
  · exact setAt_of_lt second 1
  · rfl

theorem length_extentRows {Value : Type*} [Zero Value] (count : Nat)
    (rows : List (Row Value)) : (extentRows count rows).length = count := by
  simp only [extentRows, List.length_append, List.length_take,
    List.length_replicate]
  omega

theorem Allocated.see (allocated : Allocated writer) (timestamp : Nat) :
    Allocated (writer.see timestamp) :=
  ⟨allocated.sorted, allocated.few, allocated.indices, allocated.histograms,
    allocated.errors, allocated.timestamps⟩

/-- The records have the rows of the datasets, which are at most four. -/
structure RowsAllocated (writer : WriterTyped Data Error) : Prop where
  few : writer.histogramRecords.length ≤ maxNumberHistoric
  /-- Distinct, and exactly those from zero. -/
  indices :
    (writer.histogramRecords.map fun entry => entry.2.hdfIndex).Perm
      (List.range writer.histogramRecords.length)
  histograms : writer.histograms.length = writer.histogramRecords.length
  errors : writer.errors.length = writer.histogramRecords.length
  inRange :
    ∀ entry ∈ writer.histogramRecords,
      2 * entry.2.hdfIndex + 1 < 2 * writer.histogramRecords.length

theorem Allocated.rowsAllocated (allocated : Allocated writer) :
    RowsAllocated writer := by
  refine ⟨allocated.few, allocated.indices, allocated.histograms,
    allocated.errors, ?_⟩
  intro entry member
  have inside := allocated.hdfIndex_lt member
  omega

section Write

variable [Zero Data] [Zero Error]

/-- No piece throws `out_of_range` when there is a record. -/
theorem piece_not_outOfRange
    (outcomes : HdfOutcomes) (message : CheckedHistogram Data Error)
    (allocated : Allocated writer)
    (found : (writer.histogramRecords.find message.timestamp).isSome) :
    ∀ piece ∈ pieces outcomes message,
      (piece writer).2 ≠ some .outOfRange := by
  intro piece member
  simp only [pieces, List.mem_cons, List.not_mem_nil, or_false] at member
  rcases member with rfl | rfl | rfl | rfl | rfl | rfl | rfl
  · unfold claimSlice
    split
    · rename_i failure overlaps
      intro same
      cases same
      cases HistogramRecord.noneOverlaps_error overlaps
    · nofun
    · nofun
  · unfold writeHistograms
    split <;> nofun
  · unfold writeErrors
    split
    · nofun
    · split <;> nofun
  · nofun
  · rcases Option.isSome_iff_exists.mp found with ⟨record, present⟩
    unfold writeTimestamps
    rw [allocated.newTimestamps present]
    dsimp only
    split
    · split <;> nofun
    · nofun
  · unfold writeInfo
    split
    · nofun
    · split
      · split <;> nofun
      · nofun
  · unfold copyLatest
    dsimp only
    split
    · split <;> nofun
    · nofun

/-! ## The creation of the record -/

/-- A record that is inserted gets one more row. -/
theorem Allocated.newRow
    (allocated : Allocated writer)
    (new : writer.histogramRecords.find timestamp = none)
    (room : writer.histogramRecords.length < maxNumberHistoric) :
    Allocated (writer.ensureRecord timestamp) ∧
      ((writer.ensureRecord timestamp).histogramRecords.find
        timestamp).isSome := by
  have next :
      writer.ensureRecord timestamp =
        { writer with
          histogramRecords :=
            writer.histogramRecords.insert timestamp
              (.create writer.histograms.length writer.shape.getTotalItems)
          histograms :=
            extentRows (writer.histograms.length + 1) writer.histograms
          errors := extentRows (writer.histograms.length + 1) writer.errors } := by
    rw [ensureRecord, new, if_neg (by simp), if_neg (Nat.not_le.mpr room)]
  have inserted :
      (writer.histogramRecords.insert timestamp
        (.create writer.histograms.length writer.shape.getTotalItems)).Perm
        (_ :: writer.histogramRecords) :=
    OrderedMap.insert_perm
  have length := inserted.length_eq
  rw [List.length_cons] at length
  rw [next]
  constructor
  · constructor
    · exact allocated.sorted.insert new
    · rw [length]
      exact room
    · rw [length, List.range_succ]
      apply (inserted.map fun entry => entry.2.hdfIndex).trans
      rw [List.map_cons, HistogramRecord.create, allocated.histograms]
      apply (allocated.indices.cons _).trans
      exact (List.perm_append_singleton _ _).symm
    · rw [length_extentRows, length, allocated.histograms]
    · rw [length_extentRows, length, allocated.histograms]
    · rw [length]
      exact Nat.le_trans allocated.timestamps
        (Nat.mul_le_mul_left 2 (Nat.le_succ _))
  · rw [OrderedMap.find_insert_self new]
    rfl

/-- A record that takes over the row of the oldest one. -/
theorem Allocated.reusedRow
    {oldest : Nat × HistogramRecord} {rest : RecordMap}
    (allocated : Allocated writer)
    (new : writer.histogramRecords.find timestamp = none)
    (full : maxNumberHistoric ≤ writer.histogramRecords.length)
    (records : writer.histogramRecords = oldest :: rest) :
    writer.ensureRecord timestamp =
        { writer with
          histogramRecords :=
            OrderedMap.insert timestamp
              (.create oldest.2.hdfIndex writer.shape.getTotalItems) rest } ∧
      OrderedMap.find rest timestamp = none ∧
      Allocated (writer.ensureRecord timestamp) ∧
      ((writer.ensureRecord timestamp).histogramRecords.find
        timestamp).isSome := by
  have newInRest : OrderedMap.find rest timestamp = none := by
    rw [OrderedMap.find_eq_none] at new ⊢
    intro entry member
    apply new
    rw [records]
    exact List.mem_cons_of_mem _ member
  have next :
      writer.ensureRecord timestamp =
        { writer with
          histogramRecords :=
            OrderedMap.insert timestamp
              (.create oldest.2.hdfIndex writer.shape.getTotalItems) rest } := by
    rw [ensureRecord, new, if_neg (by simp), if_pos full, records]
  have inserted :
      (OrderedMap.insert timestamp
        (.create oldest.2.hdfIndex writer.shape.getTotalItems) rest).Perm
        (_ :: rest) :=
    OrderedMap.insert_perm
  have length :
      (OrderedMap.insert timestamp
        (.create oldest.2.hdfIndex writer.shape.getTotalItems) rest).length =
        writer.histogramRecords.length := by
    rw [inserted.length_eq, records]
    rfl
  refine ⟨next, newInRest, ?_⟩
  rw [next]
  constructor
  · constructor
    · have sorted := allocated.sorted
      rw [records] at sorted
      have restSorted : OrderedMap.Sorted rest :=
        (List.pairwise_cons.mp sorted).2
      exact restSorted.insert newInRest
    · rw [length]
      exact allocated.few
    · rw [length]
      apply (inserted.map fun entry => entry.2.hdfIndex).trans
      have indices := allocated.indices
      rw [records] at indices ⊢
      exact indices
    · rw [length]
      exact allocated.histograms
    · rw [length]
      exact allocated.errors
    · rw [length]
      exact allocated.timestamps
  · rw [OrderedMap.find_insert_self newInRest]
    rfl

theorem Allocated.ensureRecord
    (allocated : Allocated writer) (timestamp : Nat) :
    Allocated (writer.ensureRecord timestamp) ∧
      ((writer.ensureRecord timestamp).histogramRecords.find
        timestamp).isSome := by
  cases found : writer.histogramRecords.find timestamp with
  | some record =>
      have same : writer.ensureRecord timestamp = writer := by
        rw [WriterTyped.ensureRecord, found, Option.isSome_some, if_pos rfl]
      rw [same, found]
      exact ⟨allocated, rfl⟩
  | none =>
      rcases Nat.lt_or_ge writer.histogramRecords.length maxNumberHistoric
        with room | full
      · exact allocated.newRow found room
      · cases records : writer.histogramRecords with
        | nil =>
            rw [records] at full
            exact absurd full (by decide)
        | cons oldest rest =>
            exact (allocated.reusedRow found full records).2.2

theorem largest_ensureRecord (timestamp : Nat) :
    (writer.ensureRecord timestamp).largestTimestampSeen =
      writer.largestTimestampSeen := by
  unfold WriterTyped.ensureRecord
  split
  · rfl
  · split
    · split <;> rfl
    · rfl

/-! ## Calls of `write` -/

/-- What is seen of a call from outside. -/
structure CallReport where
  /-- The timestamp of the message, if it passed the age check. -/
  passed : Option Nat
  failure : Option WriteFailure
deriving DecidableEq, Repr

/-- The timestamp of a message that passes the age check. -/
def passedTimestamp
    (writer : WriterTyped Data Error) (message : EventHistogram Data Error) :
    Option Nat :=
  match writer.accept message with
  | .ok checked => some checked.timestamp
  | .error _ => none

/-- A call of `write`, with the operations of HDF5 that succeed in it. -/
def call
    (writer : WriterTyped Data Error)
    (input : HdfOutcomes × EventHistogram Data Error) :
    WriterTyped Data Error × List CallReport :=
  let result := write input.1 input.2 writer
  (result.1,
    [{ passed := writer.passedTimestamp input.2, failure := result.2 }])

/-- The writer and its records once an admitted message has a record. -/
theorem Allocated.prepared
    (allocated : Allocated writer) (timestamp : Nat) :
    Allocated ((writer.see timestamp).ensureRecord timestamp) ∧
      (((writer.see timestamp).ensureRecord timestamp).histogramRecords.find
        timestamp).isSome :=
  (allocated.see timestamp).ensureRecord timestamp

theorem theOffsets_error
    {sizes : List Nat} {shape : List UInt32} {offset : Option (List UInt32)}
    {failure : WriteFailure}
    (threw : theOffsets sizes shape offset = .error failure) :
    ∃ what, failure = .writerException what := by
  unfold theOffsets at threw
  split at threw
  · split at threw
    · split at threw
      · cases threw
        exact ⟨_, rfl⟩
      · cases threw
    · cases threw
  · cases threw

omit [Zero Data] [Zero Error] in
theorem checkArrays_error
    {message : EventHistogram Data Error} {failure : WriteFailure}
    (threw : writer.checkArrays message = .error failure) :
    ∃ what, failure = .writerException what := by
  unfold checkArrays at threw
  split at threw
  · cases threw
    exact ⟨_, rfl⟩
  split at threw
  · cases threw
    exact ⟨_, rfl⟩
  split at threw
  · cases threw
    exact ⟨_, rfl⟩
  · cases threw
    exact ⟨_, rfl⟩
  split at threw
  · cases threw
  split at threw
  · cases threw
    exact ⟨_, rfl⟩
  · cases threw

omit [Zero Data] [Zero Error] in
theorem checkShape_error
    {message : EventHistogram Data Error} {data : List Data}
    {errors : Option (List Error)} {failure : WriteFailure}
    (threw : writer.checkShape message data errors = .error failure) :
    ∃ what, failure = .writerException what := by
  unfold checkShape at threw
  split at threw
  · cases threw
    exact ⟨_, rfl⟩
  split at threw
  · cases threw
    exact ⟨_, rfl⟩
  split at threw
  · rename_i offsets
    cases threw
    exact theOffsets_error offsets
  split at threw
  · cases threw
    exact ⟨_, rfl⟩
  split at threw
  · cases threw
    exact ⟨_, rfl⟩
  · cases threw

omit [Zero Data] [Zero Error] in
/-- The checks throw exceptions of the writer. -/
theorem admit_error
    {message : EventHistogram Data Error} {failure : WriteFailure}
    (threw : writer.accept message = .error failure) :
    ∃ what, failure = .writerException what := by
  unfold accept at threw
  split at threw
  · rename_i arrays
    cases threw
    exact checkArrays_error arrays
  split at threw
  · rename_i shape
    cases threw
    exact checkShape_error shape
  dsimp only at threw
  split at threw
  · cases threw
    exact ⟨_, rfl⟩
  · cases threw

theorem Allocated.call
    (allocated : Allocated writer)
    (input : HdfOutcomes × EventHistogram Data Error) :
    Allocated (writer.call input).1 := by
  unfold WriterTyped.call write
  dsimp only
  cases writer.accept input.2 with
  | error failure => exact allocated
  | ok checked =>
      exact (allocated.prepared checked.timestamp).1.of_sameRows
        (sameRows_pieces input.1 checked _)

/-- No call accesses the timestamps out of range. -/
theorem Allocated.call_inRange
    (allocated : Allocated writer)
    (input : HdfOutcomes × EventHistogram Data Error) :
    (write input.1 input.2 writer).2 ≠ some .outOfRange := by
  unfold write
  cases admitted : writer.accept input.2 with
  | error failure =>
      rcases admit_error admitted with ⟨what, same⟩
      rw [same]
      nofun
  | ok checked =>
      have prepared := allocated.prepared checked.timestamp
      intro threw
      rcases Throwing.inOrder_threw
          (fun writer =>
            Allocated writer ∧
              (writer.histogramRecords.find checked.timestamp).isSome)
          (fun piece member writer kept =>
            have same := sameRows_piece input.1 checked piece member writer
            ⟨kept.1.of_sameRows same, same.find_isSome kept.2⟩)
          prepared threw with ⟨piece, member, state, kept, result⟩
      exact piece_not_outOfRange input.1 checked kept.1 kept.2 piece member
        result

theorem largest_call (input : HdfOutcomes × EventHistogram Data Error) :
    (writer.call input).1.largestTimestampSeen =
      (writer.passedTimestamp input.2).toList.foldl max
        writer.largestTimestampSeen := by
  unfold call write passedTimestamp
  dsimp only
  cases writer.accept input.2 with
  | error failure => rfl
  | ok checked =>
      have same :=
        sameRows_pieces input.1 checked
          ((writer.see checked.timestamp).ensureRecord checked.timestamp)
      dsimp only
      rw [same.largest, largest_ensureRecord]
      show (if writer.largestTimestampSeen < checked.timestamp then _ else _) =
        max writer.largestTimestampSeen checked.timestamp
      split <;> omega

/--
A new timestamp in a full map evicts the record with the smallest timestamp
and takes over its row.  The other records stay as they are.
-/
structure EvictsOldest
    (writer next : WriterTyped Data Error) (timestamp : Nat)
    (oldest : Nat × HistogramRecord) (rest : RecordMap) : Prop where
  smallest : ∀ other ∈ rest, oldest.1 < other.1
  rows :
    next.rows.Perm
      ((timestamp, oldest.2.hdfIndex) ::
        rest.map fun entry => (entry.1, entry.2.hdfIndex))
  others :
    ∀ other, other ≠ timestamp → other ≠ oldest.1 →
      next.histogramRecords.find other = writer.histogramRecords.find other

omit [Zero Data] [Zero Error] in
theorem find_changeRecord_of_ne {other : Nat} (differs : other ≠ timestamp)
    (change : HistogramRecord → HistogramRecord) :
    (writer.changeRecord timestamp change).histogramRecords.find other =
      writer.histogramRecords.find other :=
  OrderedMap.find_modify_of_ne differs change

section Records

variable (outcomes : HdfOutcomes)
  (checked : CheckedHistogram Data Error) (writer : WriterTyped Data Error)

omit [Zero Error] in
theorem records_writeHistograms :
    (writeHistograms outcomes checked writer).1.histogramRecords =
      writer.histogramRecords := by
  unfold writeHistograms
  split <;> rfl

omit [Zero Data] in
theorem records_writeErrors :
    (writeErrors outcomes checked writer).1.histogramRecords =
      writer.histogramRecords := by
  unfold writeErrors
  split
  · rfl
  · split <;> rfl

omit [Zero Data] [Zero Error] in
theorem records_writeTimestamps :
    (writeTimestamps outcomes checked writer).1.histogramRecords =
      writer.histogramRecords := by
  unfold writeTimestamps
  split
  · split
    · rfl
    · split <;> rfl
  · rfl

omit [Zero Data] [Zero Error] in
theorem records_writeInfo :
    (writeInfo outcomes checked writer).1.histogramRecords =
      writer.histogramRecords := by
  unfold writeInfo
  split
  · rfl
  · split
    · split <;> rfl
    · rfl

omit [Zero Error] in
theorem records_copyLatest :
    (copyLatest outcomes checked writer).1.histogramRecords =
      writer.histogramRecords := by
  unfold copyLatest
  dsimp only
  split
  · split <;> rfl
  · rfl

end Records

theorem find_pieces_of_ne
    (outcomes : HdfOutcomes) (checked : CheckedHistogram Data Error)
    {other : Nat} (differs : other ≠ checked.timestamp)
    (writer : WriterTyped Data Error) :
    (Throwing.inOrder (pieces outcomes checked)
        writer).1.histogramRecords.find other =
      writer.histogramRecords.find other := by
  apply Throwing.inOrder_keeps fun next : WriterTyped Data Error =>
    next.histogramRecords.find other = writer.histogramRecords.find other
  · intro piece member next same
    rw [← same]
    simp only [pieces, List.mem_cons, List.not_mem_nil, or_false] at member
    rcases member with rfl | rfl | rfl | rfl | rfl | rfl | rfl
    · unfold claimSlice
      split
      · rfl
      · rfl
      · exact find_changeRecord_of_ne differs _
    · rw [records_writeHistograms]
    · rw [records_writeErrors]
    · exact find_changeRecord_of_ne differs _
    · rw [records_writeTimestamps]
    · rw [records_writeInfo]
    · rw [records_copyLatest]
  · rfl

theorem Allocated.evicts
    {oldest : Nat × HistogramRecord} {rest : RecordMap} {timestamp : Nat}
    (allocated : Allocated writer)
    (input : HdfOutcomes × EventHistogram Data Error)
    (records : writer.histogramRecords = oldest :: rest)
    (full : writer.histogramRecords.length = maxNumberHistoric)
    (passed : writer.passedTimestamp input.2 = some timestamp)
    (new : writer.histogramRecords.find timestamp = none) :
    EvictsOldest writer (writer.call input).1 timestamp oldest rest := by
  unfold passedTimestamp at passed
  cases admitted : writer.accept input.2 with
  | error failure =>
      rw [admitted] at passed
      cases passed
  | ok checked =>
      rw [admitted] at passed
      cases passed
      have reused :=
        ((allocated.see checked.timestamp).reusedRow new
          (Nat.le_of_eq full.symm) records).1
      have same :=
        sameRows_pieces input.1 checked
          ((writer.see checked.timestamp).ensureRecord checked.timestamp)
      have next :
          (writer.call input).1 =
            (Throwing.inOrder (pieces input.1 checked)
              ((writer.see checked.timestamp).ensureRecord
                checked.timestamp)).1 := by
        unfold WriterTyped.call write
        rw [admitted]
      have sorted := allocated.sorted
      rw [records] at sorted
      constructor
      · exact (List.pairwise_cons.mp sorted).1
      · rw [next, same.rows, reused]
        exact (OrderedMap.insert_perm).map _
      · intro other differs notOldest
        rw [next, find_pieces_of_ne input.1 checked differs, reused]
        show OrderedMap.find (OrderedMap.insert _ _ rest) other = _
        rw [OrderedMap.find_insert_of_ne differs, records,
          OrderedMap.find_cons, if_neg notOldest]

/-- The writer for datasets that were created and opened again. -/
def opened (shape : Shape) (dataType errorType : ArrayType) :
    WriterTyped Data Error :=
  (createHDFStructure shape dataType errorType).reOpen

omit [Zero Error] in
theorem allocated_opened (shape : Shape) (dataType errorType : ArrayType) :
    Allocated (opened shape dataType errorType : WriterTyped Data Error) :=
  ⟨List.Pairwise.nil, Nat.zero_le _, .refl _, rfl, rfl, Nat.zero_le _⟩

/--
After any calls the records have distinct rows, which are those of the
datasets; no call has accessed the timestamps out of range; the largest
timestamp is that of the messages that passed the age check; and the next call
with a new timestamp, if the map is full, evicts the oldest record.
-/
theorem records_have_rows
    (shape : Shape) (dataType errorType : ArrayType)
    (inputs : List (HdfOutcomes × EventHistogram Data Error)) :
    let run := Mealy.run call (opened shape dataType errorType) inputs
    RowsAllocated run.1 ∧
      (∀ report ∈ run.2, report.failure ≠ some .outOfRange) ∧
      run.1.largestTimestampSeen =
        (run.2.filterMap CallReport.passed).foldl max 0 ∧
      ∀ oldest rest timestamp input,
        run.1.histogramRecords = oldest :: rest →
        run.1.histogramRecords.length = maxNumberHistoric →
        run.1.passedTimestamp input.2 = some timestamp →
        run.1.histogramRecords.find timestamp = none →
        EvictsOldest run.1 (run.1.call input).1 timestamp oldest rest := by
  intro run
  have invariant :
      Allocated run.1 ∧
        (∀ report ∈ run.2, report.failure ≠ some .outOfRange) ∧
        run.1.largestTimestampSeen =
          (run.2.filterMap CallReport.passed).foldl max 0 := by
    apply Mealy.run_induction fun _ reports writer =>
      Allocated writer ∧
        (∀ report ∈ reports, report.failure ≠ some .outOfRange) ∧
        writer.largestTimestampSeen =
          (reports.filterMap CallReport.passed).foldl max 0
    · exact ⟨allocated_opened shape dataType errorType, fun _ => nofun, rfl⟩
    · rintro _ reports writer input ⟨allocated, inRange, largest⟩
      refine ⟨allocated.call input, ?_, ?_⟩
      · intro report member
        rcases List.mem_append.mp member with old | new
        · exact inRange report old
        · rw [List.mem_singleton.mp new]
          exact allocated.call_inRange input
      · rw [largest_call, largest, List.filterMap_append, List.foldl_append]
        unfold WriterTyped.call
        cases writer.passedTimestamp input.2 <;> rfl
  rcases invariant with ⟨allocated, inRange, largest⟩
  refine ⟨allocated.rowsAllocated, inRange, largest, ?_⟩
  intro oldest rest timestamp input records full passed new
  exact allocated.evicts input records full passed new

end Write

end WriterTyped

end KafkaToNexus.WriterModule.Hs00
