import KafkaToNexus.WriterModule.Hs00.CallEffect

/-!
# The table of timestamps

Each row of the histograms has a row in the dataset `timestamps`, with the
timestamp of its record and a flag that says whether the record is full.  The
flag is only ever set to one, and a record that takes over a row finds there
the flag and the cells of the record before it.

The table is right as long as the first slice of every record finds a row
whose flag is not set, or fills the histogram, and writes over all cells that
others have written.
-/

namespace KafkaToNexus.WriterModule.Hs00

open KafkaToNexus.Foundations

namespace WriterTyped

variable {Data Error : Type*} [Zero Data]

/-! ## What the table says -/

/-- The datasets say about a row what its record says. -/
structure RowDescribed (writer : WriterTyped Data Error) (timestamp : Nat)
    (record : HistogramRecord) : Prop where
  column0 : writer.timestamps[2 * record.hdfIndex]? = some timestamp
  column1 :
    writer.timestamps[2 * record.hdfIndex + 1]? =
      some (if record.isFull then 1 else 0)
  cells :
    ∀ index, (writer.row record.hdfIndex index).value ≠ 0 →
      (writer.row record.hdfIndex index).writtenBy = some timestamp

/-- The rows of the records with a slice that was written are described. -/
def TableDescribes (writer : WriterTyped Data Error) : Prop :=
  ∀ timestamp record, (timestamp, record) ∈ writer.histogramRecords →
    0 < record.accepted → writer.RowDescribed timestamp record

/-- The message brings the first slice that is written for its record. -/
structure FirstSlice (writer : WriterTyped Data Error)
    (checked : CheckedHistogram Data Error) : Prop where
  first :
    ∀ record, writer.histogramRecords.find checked.timestamp = some record →
      record.accepted = 0 ∧ record.hasEmptySlice checked.slice = .ok true
  selected : writer.shape.canSelect checked.slice = true

/--
A first slice finds a row whose flag is not set, or fills the histogram, and
leaves no cell of the row that another message has written.
-/
def FindsCleanRow
    (writer : WriterTyped Data Error) (message : EventHistogram Data Error) :
    Prop :=
  ∀ checked, writer.accept message = .ok checked → writer.FirstSlice checked →
    (writer.timestamps.getD (2 * writer.rowFor checked.timestamp + 1) 0 = 0 ∨
        checked.data.length = writer.shape.getTotalItems) ∧
      ∀ index, index ∉ checked.slice.cells →
        (writer.row (writer.rowFor checked.timestamp) index).value ≠ 0 →
          (writer.row (writer.rowFor checked.timestamp) index).writtenBy =
            some checked.timestamp

/-! ## The row of the record in the datasets -/

section Written

variable {writer ready next : WriterTyped Data Error}
  {checked : CheckedHistogram Data Error} {record : HistogramRecord}

omit [Zero Data] in
/-- A resized vector holds zero where the old one had no element. -/
theorem getElem?_resize
    {size place : Nat} {values : List Nat}
    (inside : place < size) (grows : values.length ≤ size) :
    (resize size values)[place]? = some (values.getD place 0) := by
  rw [resize, List.take_of_length_le grows, List.getD_eq_getElem?_getD]
  rcases Nat.lt_or_ge place values.length with old | new
  · rw [List.getElem?_append_left old, List.getElem?_eq_getElem old]
    rfl
  · rw [List.getElem?_append_right new, List.getElem?_eq_none new,
      List.getElem?_replicate, if_pos (by omega)]
    rfl

omit [Zero Data] in
/-- The other rows of the table are kept. -/
theorem getElem?_tableAfter_of_ne
    {timestamp place value : Nat}
    (allocated : Allocated ready)
    (column0 : place ≠ 2 * record.hdfIndex)
    (column1 : place ≠ 2 * record.hdfIndex + 1)
    (present : ready.timestamps[place]? = some value) :
    (tableAfter ready timestamp record)[place]? = some value := by
  have inside : place < ready.timestamps.length :=
    (List.getElem?_eq_some_iff.mp present).1
  have grows := allocated.timestamps
  have kept := getElem?_resize (Nat.lt_of_lt_of_le inside grows) grows
  rw [List.getD_eq_getElem?_getD, present] at kept
  unfold tableAfter
  dsimp only
  split
  · rw [List.getElem?_set_ne (Ne.symm column1),
      List.getElem?_set_ne (Ne.symm column0)]
    exact kept
  · rw [List.getElem?_set_ne (Ne.symm column0)]
    exact kept

omit [Zero Data] in
/-- The row of the record in the table; its flag is only set to one. -/
theorem getElem?_tableAfter
    (allocated : Allocated ready)
    (inside : record.hdfIndex < ready.histogramRecords.length)
    (timestamp : Nat) :
    (tableAfter ready timestamp record)[2 * record.hdfIndex]? =
        some timestamp ∧
      (tableAfter ready timestamp record)[2 * record.hdfIndex + 1]? =
        some
          (if record.isFull then 1
          else ready.timestamps.getD (2 * record.hdfIndex + 1) 0) := by
  have size :=
    length_resize (2 * ready.histogramRecords.length) ready.timestamps
  unfold tableAfter
  dsimp only
  constructor
  · split
    · rw [List.getElem?_set_ne (by omega), List.getElem?_set_self (by omega)]
    · rw [List.getElem?_set_self (by omega)]
  · split
    · rw [List.getElem?_set_self]
      rw [List.length_set]
      omega
    · rw [List.getElem?_set_ne (by omega)]
      exact getElem?_resize (by omega) allocated.timestamps

theorem writeRow_of_mem
    {slice : Slice} {index : List Nat} (member : index ∈ slice.cells)
    (values : List Data) (timestamp : Nat) (row : Row Data) :
    (writeRow slice values timestamp row index).writtenBy =
      some timestamp := by
  rcases Option.isSome_iff_exists.mp (Boxes.mem_cells.mp member) with
    ⟨place, position⟩
  rw [writeRow, position]

theorem writeRow_of_not_mem
    {slice : Slice} {index : List Nat} (outside : index ∉ slice.cells)
    (values : List Data) (timestamp : Nat) (row : Row Data) :
    writeRow slice values timestamp row index = row index := by
  rw [Slice.cells, Boxes.mem_cells, Option.not_isSome_iff_eq_none] at outside
  rw [writeRow, outside]

theorem Written.row
    (written : Written ready checked record next)
    (inside : record.hdfIndex < ready.histograms.length) :
    next.row record.hdfIndex =
      writeRow checked.slice checked.data checked.timestamp
        (ready.row record.hdfIndex) := by
  rw [WriterTyped.row, WriterTyped.row, written.histograms,
    List.getD_eq_getElem?_getD, List.getD_eq_getElem?_getD,
    List.getElem?_modify_eq, List.getElem?_eq_getElem inside]
  rfl

theorem Written.row_of_ne
    {place : Nat}
    (written : Written ready checked record next)
    (differs : place ≠ record.hdfIndex) :
    next.row place = ready.row place := by
  rw [WriterTyped.row, WriterTyped.row, written.histograms,
    List.getD_eq_getElem?_getD, List.getD_eq_getElem?_getD,
    List.getElem?_modify_ne _ _ (Ne.symm differs)]

/-- When the row of a record is described once a slice of it was written. -/
theorem Written.rowDescribed_iff
    (written : Written ready checked record next)
    (allocated : Allocated ready)
    (found :
      ready.histogramRecords.find checked.timestamp = some record) :
    next.RowDescribed checked.timestamp (countSlice checked record) ↔
      ((countSlice checked record).isFull = true ∨
          ready.timestamps.getD (2 * record.hdfIndex + 1) 0 = 0) ∧
        ∀ index, index ∉ checked.slice.cells →
          (ready.row record.hdfIndex index).value ≠ 0 →
            (ready.row record.hdfIndex index).writtenBy =
              some checked.timestamp := by
  have inside : record.hdfIndex < ready.histogramRecords.length :=
    allocated.hdfIndex_lt (OrderedMap.mem_of_find found)
  have table :=
    @getElem?_tableAfter _ _ ready (countSlice checked record) allocated inside
      checked.timestamp
  rw [← written.timestamps] at table
  have row :=
    written.row (Nat.lt_of_lt_of_eq inside allocated.histograms.symm)
  constructor
  · intro described
    constructor
    · have column1 := described.column1
      rw [table.2] at column1
      split at column1
      · rename_i full
        exact Or.inl full
      · exact Or.inr (Option.some.inj column1)
    · intro index outside
      have cells := described.cells index
      rw [show (countSlice checked record).hdfIndex = record.hdfIndex from rfl,
        row, writeRow_of_not_mem outside] at cells
      exact cells
  · rintro ⟨flag, clean⟩
    refine ⟨table.1, ?_, ?_⟩
    · rw [table.2]
      split
      · rfl
      · rename_i notFull
        exact congrArg some (flag.resolve_left notFull)
    · intro index
      rw [show (countSlice checked record).hdfIndex = record.hdfIndex from rfl,
        row]
      by_cases member : index ∈ checked.slice.cells
      · exact fun _ => writeRow_of_mem member _ _ _
      · rw [writeRow_of_not_mem member]
        exact clean index member

omit [Zero Data] in
/-- Records have different rows. -/
theorem Allocated.hdfIndex_ne
    {entry other : Nat × HistogramRecord}
    (allocated : Allocated ready)
    (member : entry ∈ ready.histogramRecords)
    (present : other ∈ ready.histogramRecords)
    (differ : entry.1 ≠ other.1) :
    entry.2.hdfIndex ≠ other.2.hdfIndex := by
  have distinct := allocated.indices.nodup_iff.mpr List.nodup_range
  intro same
  have equal := List.inj_on_of_nodup_map distinct member present same
  exact differ (congrArg Prod.fst equal)

/-- The rows of the other records stay described. -/
theorem Written.rowDescribed_other
    {entry : Nat × HistogramRecord}
    (written : Written ready checked record next)
    (allocated : Allocated ready)
    (found :
      ready.histogramRecords.find checked.timestamp = some record)
    (member : entry ∈ ready.histogramRecords)
    (other : entry.1 ≠ checked.timestamp)
    (described : ready.RowDescribed entry.1 entry.2) :
    next.RowDescribed entry.1 entry.2 := by
  have differs : entry.2.hdfIndex ≠ record.hdfIndex :=
    allocated.hdfIndex_ne member (OrderedMap.mem_of_find found) other
  have kept {place value : Nat}
      (column0 : place ≠ 2 * record.hdfIndex)
      (column1 : place ≠ 2 * record.hdfIndex + 1)
      (present : ready.timestamps[place]? = some value) :
      next.timestamps[place]? = some value := by
    rw [written.timestamps]
    exact getElem?_tableAfter_of_ne allocated column0 column1 present
  constructor
  · exact kept (by omega) (by omega) described.column0
  · exact kept (by omega) (by omega) described.column1
  · rw [written.row_of_ne differs]
    exact described.cells

end Written

/-! ## The rows after a call -/

section Calls

variable [Zero Error] {writer ready next : WriterTyped Data Error}
  {checked : CheckedHistogram Data Error} {record : HistogramRecord}

omit [Zero Error] in
/-- The rows are still described once there is a record for a message. -/
theorem Prepared.tableDescribes
    {timestamp : Nat}
    (prepared : Prepared writer ready timestamp record)
    (describes : writer.TableDescribes) :
    ready.TableDescribes := by
  intro key own member accepted
  have known : (key, own) ∈ writer.histogramRecords := by
    by_cases same : key = timestamp
    · have sorted :=
        prepared.consistent.allocated.sorted.find_of_mem member
      rw [same, prepared.found] at sorted
      cases absent : writer.histogramRecords.find timestamp with
      | none =>
          rw [← Option.some.inj sorted, (prepared.new absent).1] at accepted
          exact absurd accepted (Nat.lt_irrefl 0)
      | some old =>
          have equal := prepared.kept old absent
          rw [← Option.some.inj sorted, equal, same]
          exact OrderedMap.mem_of_find absent
    · exact prepared.others (key, own) member same
  have described := describes key own known accepted
  refine ⟨?_, ?_, ?_⟩
  · rw [prepared.timestamps]
    exact described.column0
  · rw [prepared.timestamps]
    exact described.column1
  · rw [prepared.row]
    exact described.cells

omit [Zero Error] in
/-- What is asked of a first slice, in terms of its record. -/
theorem Prepared.firstSlice_iff
    (prepared : Prepared writer ready checked.timestamp record) :
    writer.FirstSlice checked ↔
      record.accepted = 0 ∧
        record.hasEmptySlice checked.slice = .ok true ∧
        ready.shape.canSelect checked.slice = true := by
  rw [prepared.shape]
  constructor
  · rintro ⟨first, selected⟩
    cases absent : writer.histogramRecords.find checked.timestamp with
    | none =>
        rcases prepared.new absent with ⟨accepted, slices⟩
        refine ⟨accepted, ?_, selected⟩
        rw [HistogramRecord.hasEmptySlice, slices]
        rfl
    | some own =>
        rw [prepared.kept own absent]
        exact ⟨(first own absent).1, (first own absent).2, selected⟩
  · rintro ⟨accepted, free, selected⟩
    refine ⟨?_, selected⟩
    intro own found
    rw [← prepared.kept own found]
    exact ⟨accepted, free⟩

omit [Zero Error] in
/-- A slice that is only kept describes no row and spoils none. -/
theorem TableDescribes.addSlice
    (describes : ready.TableDescribes) :
    (ready.changeRecord checked.timestamp
      (·.addSlice checked.slice)).TableDescribes := by
  intro timestamp own member accepted
  have changed :
      (timestamp, own) ∈
        ready.histogramRecords.modify checked.timestamp
          (·.addSlice checked.slice) := member
  rcases OrderedMap.mem_modify changed with
    ⟨old, _⟩ | ⟨same, before, present, equal⟩
  · have described := describes timestamp own old accepted
    exact ⟨described.column0, described.column1, described.cells⟩
  · have here : own = before.addSlice checked.slice := equal
    have key : timestamp = checked.timestamp := same
    rw [here] at accepted ⊢
    rw [key]
    have described :=
      describes checked.timestamp before present accepted
    exact ⟨described.column0, described.column1, described.cells⟩

omit [Zero Error] in
/-- Once a slice was written the rows are described if that of it is. -/
theorem Written.tableDescribes_iff
    (written : Written ready checked record next)
    (allocated : Allocated ready)
    (found :
      ready.histogramRecords.find checked.timestamp = some record)
    (describes : ready.TableDescribes) :
    next.TableDescribes ↔
      next.RowDescribed checked.timestamp (countSlice checked record) := by
  constructor
  · intro after
    apply after _ _ _ (Nat.succ_pos _)
    apply OrderedMap.mem_of_find
    rw [written.records, OrderedMap.find_modify_self, found]
    rfl
  · intro described timestamp own member accepted
    rw [written.records] at member
    rcases OrderedMap.mem_modify member with
      ⟨old, other⟩ | ⟨same, before, present, equal⟩
    · exact written.rowDescribed_other allocated found old other
        (describes timestamp own old accepted)
    · have sorted := allocated.sorted.find_of_mem present
      rw [found] at sorted
      have here : own = countSlice checked before := equal
      have key : timestamp = checked.timestamp := same
      rw [here, key, ← Option.some.inj sorted]
      exact described

omit [Zero Data] [Zero Error] in
/-- The first slice fills its record exactly if it brings all the items. -/
theorem isFull_countSlice
    {shape : Shape}
    (counted : record.Counted shape)
    (first : record.accepted = 0)
    (ranked : checked.slice.Ranked shape)
    (free : record.hasEmptySlice checked.slice = .ok true)
    (can : shape.canSelect checked.slice = true)
    (all : checked.data.length = checked.slice.volume) :
    (countSlice checked record).isFull = true ↔
      checked.data.length = shape.getTotalItems := by
  have none_ : record.slices.filter shape.canSelect = [] := by
    rw [← List.length_eq_zero_iff, ← counted.accepted]
    exact first
  have items : record.itemsWritten = 0 := by
    rw [counted.items, none_]
    rfl
  have after := (counted.write ranked free can all).2
  rw [items, Nat.zero_add] at after
  rw [HistogramRecord.isFull, decide_eq_true_iff, all, ← counted.total,
    ← after]
  rfl

/-- A call keeps the table right exactly when it finds a clean row. -/
theorem Consistent.tableDescribes_iff
    (consistent : Consistent writer)
    (describes : writer.TableDescribes)
    (message : EventHistogram Data Error) :
    (writer.faithfulCall message).1.TableDescribes ↔
      writer.FindsCleanRow message := by
  cases admitted : writer.accept message with
  | error failure =>
      rw [faithfulCall_of_error admitted]
      refine iff_of_true describes ?_
      intro checked passed
      rw [admitted] at passed
      cases passed
  | ok checked =>
      rcases consistent.faithfulCall_effect admitted with
        ⟨ready, record, prepared, effect⟩
      have readyDescribes := prepared.tableDescribes describes
      have notFirst (not : ¬writer.FirstSlice checked) :
          writer.FindsCleanRow message := by
        intro other passed first
        rw [admitted] at passed
        cases passed
        exact absurd first not
      have ranked := (accept_ok admitted).1
      rw [← prepared.shape] at ranked
      have counted :=
        prepared.consistent.counted _ (OrderedMap.mem_of_find prepared.found)
      generalize (writer.faithfulCall message).1 = next at effect ⊢
      cases effect with
      | rejected overlaps =>
          refine iff_of_true readyDescribes (notFirst ?_)
          rw [prepared.firstSlice_iff]
          exact fun first => overlaps first.2.1
      | notSelected free cannot =>
          refine iff_of_true readyDescribes.addSlice (notFirst ?_)
          rw [prepared.firstSlice_iff, cannot]
          exact fun first => absurd first.2.2 (by decide)
      | written free can effect =>
          have all : checked.data.length = checked.slice.volume := by
            apply length_eq_volume admitted
            rw [← prepared.shape]
            exact can
          rw [effect.tableDescribes_iff prepared.consistent.allocated
              prepared.found readyDescribes,
            effect.rowDescribed_iff prepared.consistent.allocated
              prepared.found]
          rcases Nat.eq_zero_or_pos record.accepted with first | later
          · have firstSlice :=
              prepared.firstSlice_iff.mpr ⟨first, free, can⟩
            rw [isFull_countSlice counted first ranked free can all,
              prepared.shape, prepared.timestamps, prepared.hdfIndex,
              prepared.row]
            constructor
            · rintro ⟨flag, clean⟩ other passed _
              rw [admitted] at passed
              cases passed
              exact ⟨flag.symm, clean⟩
            · intro finds
              rcases finds checked admitted firstSlice with ⟨flag, clean⟩
              exact ⟨flag.symm, clean⟩
          · have own :=
              readyDescribes checked.timestamp record
                (OrderedMap.mem_of_find prepared.found) later
            refine iff_of_true ⟨?_, fun index _ => own.cells index⟩
              (notFirst ?_)
            · cases full : record.isFull with
              | true =>
                  exact Or.inl
                    (counted.stays_full ranked free can all later full)
              | false =>
                  have column1 := own.column1
                  rw [full] at column1
                  rw [List.getD_eq_getElem?_getD, column1]
                  exact Or.inr rfl
            · rw [prepared.firstSlice_iff]
              exact fun first => absurd first.1 (Nat.ne_of_gt later)

/--
The table describes the rows after all calls of a run exactly when each of
them finds a clean row.
-/
theorem table_describes_rows_iff
    (shape : Shape) (dataType errorType : ArrayType)
    (messages : List (EventHistogram Data Error)) :
    (∀ taken, taken <+: messages →
        (Mealy.run faithfulCall (opened shape dataType errorType)
          taken).1.TableDescribes) ↔
      Mealy.Admissible faithfulCall FindsCleanRow
        (opened shape dataType errorType) messages :=
  Mealy.holds_throughout_iff Consistent TableDescribes
    (fun _ message consistent => consistent.faithfulCall message)
    (fun _ message consistent describes =>
      consistent.tableDescribes_iff describes message)
    (consistent_opened shape dataType errorType) (fun _ _ => nofun) messages

/-- Four histograms that are full, and a slice of a fifth. -/
def fiveHistograms : List (EventHistogram Nat Nat) :=
  [1, 2, 3, 4].map (fun timestamp =>
    { timestamp, dataType := .arrayUInt, data := some (some [7, 7])
      currentShape := some [2] }) ++
  [{ timestamp := 5, dataType := .arrayUInt, data := some (some [9])
     currentShape := some [1] }]

/-- The fifth record is not full, but its row says that it is. -/
theorem taken_over_row_stays_full :
    ¬(Mealy.run faithfulCall
        (opened ⟨[2], by decide, by decide⟩ .arrayUInt .arrayUInt)
        fiveHistograms).1.TableDescribes := by
  intro describes
  have described :=
    describes 5
      { hdfIndex := 0, slices := [⟨[0], [1]⟩], itemsWritten := 1,
        totalItems := 2, accepted := 1 }
      (by decide) (by decide)
  exact absurd described.column1 (by decide)

end Calls

end WriterTyped

end KafkaToNexus.WriterModule.Hs00
