import KafkaToNexus.WriterModule.Hs00.SliceCounts

/-!
# What a call does to the datasets

An admitted message gets a record, which leaves the rows that are there and
the table of timestamps as they are.  Then its slice is rejected, or kept but
not written as its cells cannot be selected, or written to the row of the
record, counted, and entered in the table.
-/

namespace KafkaToNexus.WriterModule.Hs00

open KafkaToNexus.Foundations

namespace WriterTyped

variable {Data Error : Type*} [Zero Data]

/-! ## What is known of an admitted message -/

section Admitted

variable {writer : WriterTyped Data Error}
  {message : EventHistogram Data Error}
  {checked : CheckedHistogram Data Error}

omit [Zero Data] in
theorem theOffsets_length
    {sizes : List Nat} {shape offsets : List UInt32}
    {offset : Option (List UInt32)}
    (same : theOffsets sizes shape offset = .ok offsets) :
    offsets.length = shape.length := by
  unfold theOffsets at same
  split at same
  · split at same
    · rename_i lengths
      split at same
      · cases same
      · cases same
        exact lengths
    · cases same
      exact List.length_replicate
  · cases same
    exact List.length_replicate

omit [Zero Data] in
theorem checkShape_ok
    {data : List Data} {errors : Option (List Error)} {slice : Slice}
    (passed : writer.checkShape message data errors = .ok slice) :
    slice.Ranked writer.shape ∧
      expectedLinearDataSize slice.sizes = data.length := by
  unfold checkShape at passed
  split at passed
  · cases passed
  split at passed
  · cases passed
  rename_i rank
  split at passed
  · cases passed
  rename_i offsets found
  split at passed
  · cases passed
  rename_i sized
  split at passed
  · cases passed
  cases passed
  have lengths := not_not.mp rank
  exact ⟨⟨(theOffsets_length found).trans lengths, lengths⟩, not_not.mp sized⟩

omit [Zero Data] in
/-- The slice has the right rank and the data has its size. -/
theorem accept_ok (admitted : writer.accept message = .ok checked) :
    checked.slice.Ranked writer.shape ∧
      expectedLinearDataSize checked.slice.sizes = checked.data.length := by
  unfold accept at admitted
  split at admitted
  · cases admitted
  split at admitted
  · cases admitted
  rename_i slice shaped
  dsimp only at admitted
  split at admitted
  · cases admitted
  · cases admitted
    exact checkShape_ok shaped

omit [Zero Data] in
/-- A slice that can be written has as many cells as there are data. -/
theorem length_eq_volume
    (admitted : writer.accept message = .ok checked)
    (can : writer.shape.canSelect checked.slice = true) :
    checked.data.length = checked.slice.volume := by
  rcases accept_ok admitted with ⟨ranked, size⟩
  have bound :=
    Finset.card_le_card (cells_subset_of_canSelect ranked can)
  rw [ranked.card, Boxes.card_cells (List.length_map _)] at bound
  have small : checked.slice.volume < 2 ^ 64 :=
    Nat.lt_of_le_of_lt bound (Nat.lt_trans writer.shape.chunk (by decide))
  rw [← size, expectedLinearDataSize_eq checked.slice.offsets]
  exact Nat.mod_eq_of_lt small

end Admitted

/-! ## The record that a message gets -/

/-- The row of the histograms that a record has. -/
def row (writer : WriterTyped Data Error) (hdfIndex : Nat) : Row Data :=
  writer.histograms.getD hdfIndex (fillRow Data)

/-- The row that a record with a timestamp has or gets. -/
def rowFor (writer : WriterTyped Data Error) (timestamp : Nat) : Nat :=
  match writer.histogramRecords.find timestamp with
  | some record => record.hdfIndex
  | none =>
      if maxNumberHistoric ≤ writer.histogramRecords.length then
        match writer.histogramRecords with
        | [] => 0
        | oldest :: _ => oldest.2.hdfIndex
      else
        writer.histograms.length

/-- The rows are allocated and the records have counted their slices. -/
structure Consistent (writer : WriterTyped Data Error) : Prop where
  allocated : Allocated writer
  counted : ∀ entry ∈ writer.histogramRecords, entry.2.Counted writer.shape

/-- The writer has a record with the timestamp, and nothing else changed. -/
structure Prepared (writer ready : WriterTyped Data Error) (timestamp : Nat)
    (record : HistogramRecord) : Prop where
  consistent : Consistent ready
  shape : ready.shape = writer.shape
  timestamps : ready.timestamps = writer.timestamps
  row : ∀ place, ready.row place = writer.row place
  found : ready.histogramRecords.find timestamp = some record
  hdfIndex : record.hdfIndex = writer.rowFor timestamp
  kept :
    ∀ own, writer.histogramRecords.find timestamp = some own → record = own
  new :
    writer.histogramRecords.find timestamp = none →
      record.accepted = 0 ∧ record.slices = []
  others :
    ∀ entry ∈ ready.histogramRecords, entry.1 ≠ timestamp →
      entry ∈ writer.histogramRecords

section Prepared

variable [Zero Error] {writer : WriterTyped Data Error} {timestamp : Nat}

/-- A new row of a dataset reads like a row that is not there. -/
theorem getD_extentRows (rows : List (Row Data)) (place : Nat) :
    (extentRows (rows.length + 1) rows).getD place (fillRow Data) =
      rows.getD place (fillRow Data) := by
  have extended :
      extentRows (rows.length + 1) rows = rows ++ [fillRow Data] := by
    rw [extentRows, List.take_of_length_le (Nat.le_succ _),
      Nat.add_sub_cancel_left]
    rfl
  rw [extended, List.getD_eq_getElem?_getD, List.getD_eq_getElem?_getD]
  rcases Nat.lt_trichotomy place rows.length with inside | last | outside
  · rw [List.getElem?_append_left inside]
  · rw [last, List.getElem?_concat_length,
      List.getElem?_eq_none (Nat.le_refl _)]
    rfl
  · rw [List.getElem?_eq_none (Nat.le_of_lt outside), List.getElem?_eq_none]
    rw [List.length_append]
    exact outside

/-- The records that are there once a new one is inserted. -/
theorem counted_insert
    {records : RecordMap} {shape : Shape} (hdfIndex : Nat)
    (counted : ∀ entry ∈ records, entry.2.Counted shape) :
    ∀ entry ∈ OrderedMap.insert timestamp
        (.create hdfIndex shape.getTotalItems) records,
      entry.2.Counted shape := by
  intro entry member
  rcases OrderedMap.mem_insert.mp member with rfl | old
  · exact counted_create shape hdfIndex
  · exact counted entry old

/-- An entry with another key than the inserted one was there before. -/
theorem mem_of_mem_insert
    {records : RecordMap} {record : HistogramRecord}
    {entry : Nat × HistogramRecord}
    (member : entry ∈ OrderedMap.insert timestamp record records)
    (other : entry.1 ≠ timestamp) :
    entry ∈ records := by
  rcases OrderedMap.mem_insert.mp member with rfl | old
  · exact absurd rfl other
  · exact old

theorem Consistent.prepared_known
    {record : HistogramRecord}
    (consistent : Consistent writer)
    (found : writer.histogramRecords.find timestamp = some record) :
    Prepared writer (writer.ensureRecord timestamp) timestamp record := by
  have same : writer.ensureRecord timestamp = writer := by
    rw [ensureRecord, found, Option.isSome_some, if_pos rfl]
  rw [same]
  refine ⟨consistent, rfl, rfl, fun _ => rfl, found, ?_, ?_, ?_, ?_⟩
  · rw [rowFor, found]
  · intro own here
    rw [found] at here
    exact Option.some.inj here
  · intro absent
    rw [found] at absent
    cases absent
  · exact fun entry member _ => member

theorem Consistent.prepared_newRow
    (consistent : Consistent writer)
    (new : writer.histogramRecords.find timestamp = none)
    (room : writer.histogramRecords.length < maxNumberHistoric) :
    Prepared writer (writer.ensureRecord timestamp) timestamp
      (.create writer.histograms.length writer.shape.getTotalItems) := by
  have allocated := (consistent.allocated.newRow new room).1
  have next :
      writer.ensureRecord timestamp =
        { writer with
          histogramRecords :=
            writer.histogramRecords.insert timestamp
              (.create writer.histograms.length writer.shape.getTotalItems)
          histograms :=
            extentRows (writer.histograms.length + 1) writer.histograms
          errors :=
            extentRows (writer.histograms.length + 1) writer.errors } := by
    rw [ensureRecord, new, if_neg (by simp), if_neg (Nat.not_le.mpr room)]
  rw [next] at allocated ⊢
  constructor
  · exact ⟨allocated, counted_insert _ consistent.counted⟩
  · rfl
  · rfl
  · exact getD_extentRows writer.histograms
  · exact OrderedMap.find_insert_self new
  · rw [rowFor, new]
    exact (if_neg (Nat.not_le.mpr room)).symm
  · intro own here
    rw [new] at here
    cases here
  · exact fun _ => ⟨rfl, rfl⟩
  · exact fun entry member other => mem_of_mem_insert member other

theorem Consistent.prepared_reusedRow
    {oldest : Nat × HistogramRecord} {rest : RecordMap}
    (consistent : Consistent writer)
    (new : writer.histogramRecords.find timestamp = none)
    (full : maxNumberHistoric ≤ writer.histogramRecords.length)
    (records : writer.histogramRecords = oldest :: rest) :
    Prepared writer (writer.ensureRecord timestamp) timestamp
      (.create oldest.2.hdfIndex writer.shape.getTotalItems) := by
  rcases consistent.allocated.reusedRow new full records with
    ⟨next, newInRest, allocated, _⟩
  have counted : ∀ entry ∈ rest, entry.2.Counted writer.shape := by
    intro entry member
    apply consistent.counted
    rw [records]
    exact List.mem_cons_of_mem _ member
  rw [next] at allocated ⊢
  constructor
  · exact ⟨allocated, counted_insert _ counted⟩
  · rfl
  · rfl
  · exact fun _ => rfl
  · exact OrderedMap.find_insert_self newInRest
  · rw [rowFor, new]
    dsimp only
    rw [if_pos full, records]
    rfl
  · intro own here
    rw [new] at here
    cases here
  · exact fun _ => ⟨rfl, rfl⟩
  · intro entry member other
    rw [records]
    exact List.mem_cons_of_mem _ (mem_of_mem_insert member other)

theorem Consistent.prepared
    (consistent : Consistent writer) (timestamp : Nat) :
    ∃ record,
      Prepared writer ((writer.see timestamp).ensureRecord timestamp)
        timestamp record := by
  have seen : Consistent (writer.see timestamp) :=
    ⟨consistent.allocated.see timestamp, consistent.counted⟩
  have ready :
      ∃ record,
        Prepared (writer.see timestamp)
          ((writer.see timestamp).ensureRecord timestamp) timestamp record := by
    cases found : (writer.see timestamp).histogramRecords.find timestamp with
    | some record => exact ⟨record, seen.prepared_known found⟩
    | none =>
        rcases Nat.lt_or_ge (writer.see timestamp).histogramRecords.length
            maxNumberHistoric with room | full
        · exact ⟨_, seen.prepared_newRow found room⟩
        · cases records : (writer.see timestamp).histogramRecords with
          | nil =>
              rw [records] at full
              exact absurd full (by decide)
          | cons oldest rest =>
              exact ⟨_, seen.prepared_reusedRow found full records⟩
  rcases ready with ⟨record, prepared⟩
  exact ⟨record, prepared.consistent, prepared.shape, prepared.timestamps,
    prepared.row, prepared.found, prepared.hdfIndex, prepared.kept,
    prepared.new, prepared.others⟩

end Prepared

/-! ## What becomes of the slice -/

/-- The content of the table when a slice of a record was written. -/
def tableAfter (ready : WriterTyped Data Error)
    (timestamp : Nat) (record : HistogramRecord) : List Nat :=
  let values :=
    (resize (2 * ready.histogramRecords.length) ready.timestamps).set
      (2 * record.hdfIndex) timestamp
  if record.isFull then values.set (2 * record.hdfIndex + 1) 1 else values

/-- The record of a message once its slice was written. -/
def countSlice (checked : CheckedHistogram Data Error)
    (record : HistogramRecord) : HistogramRecord :=
  (record.addSlice checked.slice).addToItemsWritten checked.data.length

/-- The slice was written, counted, and entered in the table. -/
structure Written (ready : WriterTyped Data Error)
    (checked : CheckedHistogram Data Error) (record : HistogramRecord)
    (next : WriterTyped Data Error) : Prop where
  shape : next.shape = ready.shape
  records :
    next.histogramRecords =
      ready.histogramRecords.modify checked.timestamp
        (countSlice checked)
  histograms :
    next.histograms =
      ready.histograms.modify record.hdfIndex
        (writeRow checked.slice checked.data checked.timestamp)
  timestamps :
    next.timestamps =
      tableAfter ready checked.timestamp (countSlice checked record)

/-- What a call does with the slice of a message that has a record. -/
inductive SliceEffect (ready : WriterTyped Data Error)
    (checked : CheckedHistogram Data Error) (record : HistogramRecord) :
    WriterTyped Data Error → Prop where
  | rejected
      (overlaps : record.hasEmptySlice checked.slice ≠ .ok true) :
      SliceEffect ready checked record ready
  /-- The selection fails when the slice is already kept. -/
  | notSelected
      (free : record.hasEmptySlice checked.slice = .ok true)
      (cannot : ready.shape.canSelect checked.slice = false) :
      SliceEffect ready checked record
        (ready.changeRecord checked.timestamp (·.addSlice checked.slice))
  | written
      (free : record.hasEmptySlice checked.slice = .ok true)
      (can : ready.shape.canSelect checked.slice = true)
      {next : WriterTyped Data Error}
      (effect : Written ready checked record next) :
      SliceEffect ready checked record next

section Pieces

variable [Zero Error] {checked : CheckedHistogram Data Error}
  {writer : WriterTyped Data Error} {record : HistogramRecord}

omit [Zero Error] in
theorem writeHistograms_returns
    (can : writer.shape.canSelect checked.slice = true) :
    writeHistograms {} checked writer =
      ({ writer with
         histograms :=
           writer.histograms.modify (writer.record checked.timestamp).hdfIndex
             (writeRow checked.slice checked.data checked.timestamp) },
        none) := by
  rw [writeHistograms, can]
  rfl

omit [Zero Data] in
theorem writeErrors_returns
    (can : writer.shape.canSelect checked.slice = true) :
    ∃ errors, writeErrors {} checked writer =
      ({ writer with errors := errors }, none) := by
  unfold writeErrors
  split
  · exact ⟨writer.errors, rfl⟩
  · rw [can]
    exact ⟨_, rfl⟩

omit [Zero Data] [Zero Error] in
theorem writeTimestamps_returns
    (allocated : Allocated writer)
    (found :
      writer.histogramRecords.find checked.timestamp = some record) :
    writeTimestamps {} checked writer =
      ({ writer with
         timestamps := tableAfter writer checked.timestamp record },
        none) := by
  rw [writeTimestamps, if_pos rfl, allocated.newTimestamps found]
  rfl

omit [Zero Data] [Zero Error] in
theorem writeInfo_returns :
    ∃ info infoTimestamp, writeInfo {} checked writer =
      ({ writer with info := info, infoTimestamp := infoTimestamp },
        none) := by
  unfold writeInfo
  split
  · exact ⟨writer.info, writer.infoTimestamp, rfl⟩
  · exact ⟨_, _, rfl⟩

omit [Zero Error] in
theorem copyLatest_returns :
    ∃ latest, copyLatest {} checked writer =
      ({ writer with latest := latest }, none) := by
  unfold copyLatest
  dsimp only
  split
  · exact ⟨_, rfl⟩
  · exact ⟨writer.latest, rfl⟩

omit [Zero Data] [Zero Error] in
theorem find_changed
    (found : writer.histogramRecords.find checked.timestamp = some record)
    (change : HistogramRecord → HistogramRecord) :
    (writer.changeRecord checked.timestamp change).histogramRecords.find
        checked.timestamp = some (change record) := by
  rw [changeRecord, OrderedMap.find_modify_self, found]
  rfl

omit [Zero Error] in
/-- The slice is counted and entered in the table. -/
theorem written_of_counting
    (allocated : Allocated writer)
    (found :
      writer.histogramRecords.find checked.timestamp = some record) :
    let counted := record.addToItemsWritten checked.data.length
    let next :=
      (Throwing.inOrder
        [countItems checked, writeTimestamps {} checked,
          writeInfo {} checked, copyLatest {} checked] writer).1
    next.shape = writer.shape ∧
      next.histogramRecords =
        writer.histogramRecords.modify checked.timestamp
          (·.addToItemsWritten checked.data.length) ∧
      next.histograms = writer.histograms ∧
      next.timestamps = tableAfter writer checked.timestamp counted := by
  intro counted next
  let change : HistogramRecord → HistogramRecord :=
    (·.addToItemsWritten checked.data.length)
  have sameRows :=
    @sameRows_changeRecord _ _ writer checked.timestamp change fun _ => rfl
  have count :
      countItems checked writer =
        (writer.changeRecord checked.timestamp change, none) := rfl
  have table :=
    writeTimestamps_returns (allocated.of_sameRows sameRows)
      (find_changed found change)
  rcases @writeInfo_returns _ _ checked
      { writer.changeRecord checked.timestamp change with
        timestamps :=
          tableAfter (writer.changeRecord checked.timestamp change)
            checked.timestamp counted } with ⟨info, infoTimestamp, informed⟩
  rcases @copyLatest_returns _ _ _ checked
      { writer.changeRecord checked.timestamp change with
        timestamps :=
          tableAfter (writer.changeRecord checked.timestamp change)
            checked.timestamp counted
        info := info
        infoTimestamp := infoTimestamp } with ⟨latest, copied⟩
  have final :
      next =
        { writer.changeRecord checked.timestamp change with
          timestamps :=
            tableAfter (writer.changeRecord checked.timestamp change)
              checked.timestamp counted
          info := info
          infoTimestamp := infoTimestamp
          latest := latest } := by
    show (Throwing.inOrder _ writer).1 = _
    rw [Throwing.inOrder_of_returned count,
      Throwing.inOrder_of_returned table,
      Throwing.inOrder_of_returned informed,
      Throwing.inOrder_of_returned copied]
    rfl
  rw [final]
  refine ⟨rfl, rfl, rfl, ?_⟩
  show tableAfter (writer.changeRecord _ _) _ _ = _
  rw [tableAfter, tableAfter, sameRows.length]
  rfl

/-- What follows when the slice of a record is claimed and can be written. -/
theorem written_of_claimed
    (allocated : Allocated writer)
    (found :
      writer.histogramRecords.find checked.timestamp = some record)
    (can : writer.shape.canSelect checked.slice = true) :
    Written writer checked record
      (Throwing.inOrder
        [writeHistograms {} checked, writeErrors {} checked,
          countItems checked, writeTimestamps {} checked,
          writeInfo {} checked, copyLatest {} checked]
        (writer.changeRecord checked.timestamp
          (·.addSlice checked.slice))).1 := by
  let change : HistogramRecord → HistogramRecord := (·.addSlice checked.slice)
  let claimed := writer.changeRecord checked.timestamp change
  have selected : claimed.shape.canSelect checked.slice = true := can
  have own : claimed.record checked.timestamp = change record :=
    record_of_find (find_changed found change)
  let histogramsWritten : WriterTyped Data Error :=
    { claimed with
      histograms :=
        claimed.histograms.modify record.hdfIndex
          (writeRow checked.slice checked.data checked.timestamp) }
  have histograms :
      writeHistograms {} checked claimed = (histogramsWritten, none) := by
    rw [writeHistograms_returns selected, own]
    rfl
  rcases @writeErrors_returns _ _ _ checked histogramsWritten can with
    ⟨errors, errorsWritten⟩
  have sameRows :
      SameRows writer { histogramsWritten with errors := errors } := by
    have first := sameRows_writeHistograms {} checked claimed
    have second := sameRows_writeErrors {} checked histogramsWritten
    rw [histograms] at first
    rw [errorsWritten] at second
    exact (sameRows_changeRecord change fun _ => rfl).trans
      (first.trans second)
  rcases written_of_counting (allocated.of_sameRows sameRows)
      (find_changed found change) with
    ⟨shape, records, rows, timestamps⟩
  rw [Throwing.inOrder_of_returned histograms,
    Throwing.inOrder_of_returned errorsWritten]
  constructor
  · exact shape
  · rw [records]
    exact OrderedMap.modify_modify _ _
  · exact rows
  · rw [timestamps, tableAfter, tableAfter, sameRows.length]
    rfl

/-- Without a failure of HDF5 the pieces have one of three effects. -/
theorem sliceEffect
    (allocated : Allocated writer)
    (found :
      writer.histogramRecords.find checked.timestamp = some record) :
    SliceEffect writer checked record
      (Throwing.inOrder (pieces {} checked) writer).1 := by
  have own : writer.record checked.timestamp = record := record_of_find found
  cases free : record.hasEmptySlice checked.slice with
  | error failure =>
      have claim : claimSlice checked writer = (writer, some failure) := by
        rw [claimSlice, own, free]
      rw [pieces, Throwing.inOrder_of_threw claim]
      apply SliceEffect.rejected
      rw [free]
      intro returned
      cases returned
  | ok empty =>
      cases empty with
      | false =>
          have claim :
              claimSlice checked writer =
                (writer,
                  some
                    (.writerException
                      "Slice already at least partially filled")) := by
            rw [claimSlice, own, free]
          rw [pieces, Throwing.inOrder_of_threw claim]
          apply SliceEffect.rejected
          rw [free]
          intro isFree
          cases isFree
      | true =>
          have claim :
              claimSlice checked writer =
                (writer.changeRecord checked.timestamp
                  (·.addSlice checked.slice), none) := by
            rw [claimSlice, own, free]
          rw [pieces, Throwing.inOrder_of_returned claim]
          cases can : writer.shape.canSelect checked.slice with
          | false =>
              have threw :
                  writeHistograms {} checked
                      (writer.changeRecord checked.timestamp
                        (·.addSlice checked.slice)) =
                    (writer.changeRecord checked.timestamp
                      (·.addSlice checked.slice), some .hdf5) := by
                rw [writeHistograms, changeRecord, can]
                rfl
              rw [Throwing.inOrder_of_threw threw]
              exact .notSelected free can
          | true =>
              apply SliceEffect.written free can
              exact written_of_claimed allocated found can

end Pieces

/-! ## Calls without failures of HDF5 -/

section Calls

variable [Zero Error] {writer ready next : WriterTyped Data Error}
  {checked : CheckedHistogram Data Error} {record : HistogramRecord}

/-- A call in which no operation of HDF5 fails that could succeed. -/
def faithfulCall (writer : WriterTyped Data Error)
    (message : EventHistogram Data Error) :
    WriterTyped Data Error × List CallReport :=
  writer.call ({}, message)

theorem faithfulCall_of_error
    {message : EventHistogram Data Error} {failure : WriteFailure}
    (threw : writer.accept message = .error failure) :
    (writer.faithfulCall message).1 = writer := by
  rw [faithfulCall, WriterTyped.call, write, threw]

/-- An admitted message gets a record, and its slice has an effect. -/
theorem Consistent.faithfulCall_effect
    {message : EventHistogram Data Error}
    (consistent : Consistent writer)
    (admitted : writer.accept message = .ok checked) :
    ∃ ready record, Prepared writer ready checked.timestamp record ∧
      SliceEffect ready checked record (writer.faithfulCall message).1 := by
  rcases consistent.prepared checked.timestamp with ⟨record, prepared⟩
  refine ⟨_, record, prepared, ?_⟩
  rw [faithfulCall, WriterTyped.call, write, admitted]
  exact sliceEffect prepared.consistent.allocated prepared.found

omit [Zero Data] [Zero Error] in
/-- Records stay counted when the one of the message does. -/
theorem counted_modify
    {shape : Shape}
    (change : HistogramRecord → HistogramRecord)
    (consistent : Consistent ready)
    (same : ready.shape = shape)
    (found :
      ready.histogramRecords.find checked.timestamp = some record)
    (changed : (change record).Counted shape) :
    ∀ entry ∈ ready.histogramRecords.modify checked.timestamp change,
      entry.2.Counted shape := by
  intro entry member
  rcases OrderedMap.mem_modify member with
    ⟨old, _⟩ | ⟨_, own, present, equal⟩
  · rw [← same]
    exact consistent.counted entry old
  · have sorted := consistent.allocated.sorted.find_of_mem present
    rw [found] at sorted
    rw [equal, ← Option.some.inj sorted]
    exact changed

omit [Zero Error] in
theorem consistent_opened (shape : Shape) (dataType errorType : ArrayType) :
    Consistent (opened shape dataType errorType : WriterTyped Data Error) :=
  ⟨allocated_opened shape dataType errorType, fun _ => nofun⟩

theorem Consistent.faithfulCall
    (consistent : Consistent writer)
    (message : EventHistogram Data Error) :
    Consistent (writer.faithfulCall message).1 := by
  refine ⟨consistent.allocated.call ({}, message), ?_⟩
  cases admitted : writer.accept message with
  | error failure =>
      rw [faithfulCall_of_error admitted]
      exact consistent.counted
  | ok checked =>
      rcases consistent.faithfulCall_effect admitted with
        ⟨ready, record, prepared, effect⟩
      have ranked := (accept_ok admitted).1
      rw [← prepared.shape] at ranked
      have counted :=
        prepared.consistent.counted _ (OrderedMap.mem_of_find prepared.found)
      generalize (writer.faithfulCall message).1 = next at effect ⊢
      cases effect with
      | rejected overlaps => exact prepared.consistent.counted
      | notSelected free cannot =>
          exact counted_modify (·.addSlice checked.slice)
            prepared.consistent rfl prepared.found
            (counted.addSlice ranked free cannot)
      | written free can effect =>
          rw [prepared.shape] at can
          have all := length_eq_volume admitted can
          rw [← prepared.shape] at can
          rw [effect.records, effect.shape]
          exact counted_modify _ prepared.consistent rfl prepared.found
            (counted.write ranked free can all).1

end Calls

end WriterTyped

end KafkaToNexus.WriterModule.Hs00
