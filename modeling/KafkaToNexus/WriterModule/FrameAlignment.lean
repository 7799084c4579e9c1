import KafkaToNexus.Foundations.Mealy
import KafkaToNexus.WriterModule.AreaDetector

/-!
# The alignment of frames

Each frame that is written has a row, a timestamp and now and then a cue; a
frame that is refused has none of them.  So the rows and the timestamps stay in
step over any run, and a cue that is read back from the timestamps is right.
-/

namespace KafkaToNexus.WriterModule

open KafkaToNexus.Foundations KafkaToNexus.NeXusDataset

namespace AreaDetector

variable {Stored : Type*}

/-- HDF5 extends the dataset and writes to it. -/
structure Storage.Succeeds (storage : Storage Stored) : Prop where
  extent : ∀ extents, storage.extent extents = true
  write : ∀ sizes count, storage.write sizes count = true

/-- The frames whose calls returned. -/
def returned (frames : List Frame) (outcomes : List (Option WriteFailure)) :
    List Frame :=
  ((frames.zip outcomes).filter fun call => call.2.isNone).map Prod.fst

/--
The rows are the frames whose calls returned, beside their timestamps, and each
cue has the timestamp that it points to.
-/
structure FramesAligned [Inhabited Stored] (storage : Storage Stored)
    (frames : List Frame) (outcomes : List (Option WriteFailure))
    (writer : Writer Stored) : Prop where
  lengths : writer.values.rows.length = writer.timestamp.elements.length
  rows :
    writer.values.rows.map some =
      (returned frames outcomes).map fun frame =>
        frame.type.map (frame.row storage)
  times :
    writer.timestamp.elements =
      (returned frames outcomes).map (·.currentTimestamp)
  increasing :
    (writer.cueTimestampIndex.elements.map UInt32.toNat).Pairwise (· < ·)
  cueLengths :
    writer.cueTimestampIndex.elements.length =
      writer.cueTimestamp.elements.length
  cueTimes :
    ∀ (cue : Nat) (index : UInt32),
      writer.cueTimestampIndex.elements[cue]? = some index →
        ∃ time,
          writer.cueTimestamp.elements[cue]? = some time ∧
            writer.timestamp.elements[index.toNat]? = some time

/-! ## Cues that point to times -/

/-- The cues are at some positions, and have the times that are there. -/
structure CuesPoint (times : List UInt64) (index : ExtensibleDataset UInt32)
    (timestamps : ExtensibleDataset UInt64) (positions : List Nat) :
    Prop where
  indexAtEnd : index.AtEnd
  timestampsAtEnd : timestamps.AtEnd
  index :
    index.elements =
      positions.map fun position => clipToUInt32 (.ofNat position)
  timestamps :
    timestamps.elements.map some = positions.map fun position => times[position]?
  increasing : positions.Pairwise (· < ·)

section CuesPoint

variable {times : List UInt64} {index : ExtensibleDataset UInt32}
  {timestamps : ExtensibleDataset UInt64} {positions : List Nat}

/-- A position with a time is inside the times. -/
theorem CuesPoint.lt_length
    (cues : CuesPoint times index timestamps positions)
    {position : Nat} (member : position ∈ positions) :
    position < times.length := by
  have there : times[position]? ∈ timestamps.elements.map some := by
    rw [cues.timestamps]
    exact List.mem_map_of_mem (f := fun position => times[position]?) member
  rcases List.mem_map.mp there with ⟨time, _, found⟩
  exact (List.getElem?_eq_some_iff.mp found.symm).1

/-- The times that a cue points to stay where they are. -/
theorem CuesPoint.append_time
    (cues : CuesPoint times index timestamps positions) (time : UInt64) :
    CuesPoint (times ++ [time]) index timestamps positions := by
  constructor
  · exact cues.indexAtEnd
  · exact cues.timestampsAtEnd
  · exact cues.index
  · rw [cues.timestamps]
    apply List.map_congr_left
    intro position member
    rw [List.getElem?_append_left (cues.lt_length member)]
  · exact cues.increasing

/-- A cue for the last time points to it. -/
theorem CuesPoint.append_cue
    (cues : CuesPoint times index timestamps positions) (time : UInt64) :
    CuesPoint (times ++ [time])
      (index.appendElement (clipToUInt32 (.ofNat times.length)))
      (timestamps.appendElement time) (positions ++ [times.length]) := by
  have kept := cues.append_time time
  constructor
  · exact cues.indexAtEnd.appendElement _
  · exact cues.timestampsAtEnd.appendElement _
  · rw [ExtensibleDataset.elements_appendElement cues.indexAtEnd, cues.index,
      List.map_append, List.map_singleton]
  · rw [ExtensibleDataset.elements_appendElement cues.timestampsAtEnd,
      List.map_append, kept.timestamps, List.map_append, List.map_singleton,
      List.map_singleton, List.getElem?_concat_length]
  · rw [List.pairwise_append]
    refine ⟨cues.increasing, List.pairwise_singleton _ _, ?_⟩
    intro position member last single
    rw [List.mem_singleton.mp single]
    exact cues.lt_length member

/-- Positions of 32 bits are found in the cues as they are. -/
theorem CuesPoint.toNat_index
    (cues : CuesPoint times index timestamps positions)
    (few : times.length ≤ 2 ^ 32) :
    index.elements.map UInt32.toNat = positions := by
  rw [cues.index, List.map_map]
  conv_rhs => rw [← List.map_id positions]
  apply List.map_congr_left
  intro position member
  exact toNat_clip_of_lt (Nat.lt_of_lt_of_le (cues.lt_length member) few)

theorem CuesPoint.cueTimes
    (cues : CuesPoint times index timestamps positions)
    (few : times.length ≤ 2 ^ 32) {cue : Nat} {value : UInt32}
    (there : index.elements[cue]? = some value) :
    ∃ time,
      timestamps.elements[cue]? = some time ∧
        times[value.toNat]? = some time := by
  have position : positions[cue]? = some value.toNat := by
    rw [← cues.toNat_index few, List.getElem?_map, there, Option.map_some]
  have pair :
      (timestamps.elements.map some)[cue]? = some times[value.toNat]? := by
    rw [cues.timestamps, List.getElem?_map, position, Option.map_some]
  rw [List.getElem?_map] at pair
  rcases Option.map_eq_some_iff.mp pair with ⟨time, stored, found⟩
  exact ⟨time, stored, found.symm⟩

end CuesPoint

/-! ## One call and many -/

variable [Inhabited Stored] {storage : Storage Stored} {cueInterval : Int32}
  {frames : List Frame} {outcomes : List (Option WriteFailure)}
  {writer : Writer Stored}

/-- The rows, times and cues are those of the frames that were written. -/
structure Tracks (storage : Storage Stored) (frames : List Frame)
    (outcomes : List (Option WriteFailure)) (writer : Writer Stored) :
    Prop where
  calls : frames.length = outcomes.length
  timestampAtEnd : writer.timestamp.AtEnd
  rows :
    writer.values.rows.map some =
      (returned frames outcomes).map fun frame =>
        frame.type.map (frame.row storage)
  times :
    writer.timestamp.elements =
      (returned frames outcomes).map (·.currentTimestamp)
  cues :
    ∃ positions,
      CuesPoint writer.timestamp.elements writer.cueTimestampIndex
        writer.cueTimestamp positions

theorem tracks_opened (storage : Storage Stored) (arrayShape : List UInt64) :
    Tracks storage [] [] (opened arrayShape) := by
  constructor
  · rfl
  · rfl
  · rfl
  · rfl
  · exact ⟨[], rfl, rfl, rfl, rfl, List.Pairwise.nil⟩

omit [Inhabited Stored] in
theorem returned_concat
    (calls : frames.length = outcomes.length) (frame : Frame)
    (outcome : Option WriteFailure) :
    returned (frames ++ [frame]) (outcomes ++ [outcome]) =
      returned frames outcomes ++
        if outcome.isNone then [frame] else [] := by
  simp only [returned, List.zip_append calls, List.filter_append,
    List.map_append, List.zip_cons_cons, List.zip_nil_left,
    List.filter_cons, List.filter_nil]
  split_ifs <;> rfl

/-- A refused frame changes nothing. -/
theorem Tracks.refused
    (tracks : Tracks storage frames outcomes writer) (frame : Frame)
    (failure : WriteFailure) :
    Tracks storage (frames ++ [frame]) (outcomes ++ [some failure])
      writer := by
  have same :
      returned (frames ++ [frame]) (outcomes ++ [some failure]) =
        returned frames outcomes := by
    rw [returned_concat tracks.calls]
    exact List.append_nil _
  constructor
  · rw [List.length_append, List.length_append, tracks.calls]
    rfl
  · exact tracks.timestampAtEnd
  · rw [same]
    exact tracks.rows
  · rw [same]
    exact tracks.times
  · exact tracks.cues

/-- A frame with a row and a timestamp gets a cue if one is due. -/
theorem Tracks.written
    {frame : Frame} {type : CellType}
    (tracks : Tracks storage frames outcomes writer)
    (known : frame.type = some type) (dims : List Nat) :
    Tracks storage (frames ++ [frame]) (outcomes ++ [none])
      (appendCue cueInterval frame
        { writer with
          values :=
            { dims, rows := writer.values.rows ++ [frame.row storage type] }
          timestamp :=
            writer.timestamp.appendElement frame.currentTimestamp }).1 := by
  rcases tracks.cues with ⟨positions, cues⟩
  have calls :
      (frames ++ [frame]).length =
        (outcomes ++ [(none : Option WriteFailure)]).length := by
    rw [List.length_append, List.length_append, tracks.calls]
    rfl
  have more :
      returned (frames ++ [frame]) (outcomes ++ [none]) =
        returned frames outcomes ++ [frame] := by
    rw [returned_concat tracks.calls]
    rfl
  have time :
      (writer.timestamp.appendElement frame.currentTimestamp).elements =
        writer.timestamp.elements ++ [frame.currentTimestamp] :=
    ExtensibleDataset.elements_appendElement tracks.timestampAtEnd _
  have timeAtEnd :=
    tracks.timestampAtEnd.appendElement frame.currentTimestamp
  have rows :
      (writer.values.rows ++ [frame.row storage type]).map some =
        (returned (frames ++ [frame]) (outcomes ++ [none])).map
          fun frame => frame.type.map (frame.row storage) := by
    rw [more, List.map_append, List.map_append, tracks.rows,
      List.map_singleton, List.map_singleton, known]
    rfl
  have times :
      (writer.timestamp.appendElement frame.currentTimestamp).elements =
        (returned (frames ++ [frame]) (outcomes ++ [none])).map
          (·.currentTimestamp) := by
    rw [more, time, tracks.times, List.map_append, List.map_singleton]
  simp only [appendCue]
  split_ifs
  · constructor
    · exact calls
    · exact timeAtEnd
    · exact rows
    · exact times
    · refine ⟨positions ++ [writer.timestamp.elements.length], ?_⟩
      simp only [time, List.length_append, List.length_singleton,
        Nat.add_sub_cancel]
      exact cues.append_cue frame.currentTimestamp
  · constructor
    · exact calls
    · exact timeAtEnd
    · exact rows
    · exact times
    · refine ⟨positions, ?_⟩
      simp only [time]
      exact cues.append_time frame.currentTimestamp

/-- A call either leaves everything as it is or appends to all of it. -/
theorem Tracks.writeFrame
    (tracks : Tracks storage frames outcomes writer)
    (succeeds : storage.Succeeds) (frame : Frame) :
    Tracks storage (frames ++ [frame])
      (outcomes ++ [(writeFrame storage cueInterval frame writer).2])
      (AreaDetector.writeFrame storage cueInterval frame writer).1 := by
  by_cases refused : Refused storage frame writer
  · rcases @writeFrame_of_refused _ _ storage cueInterval frame writer
      refused with ⟨failure, threw⟩
    rw [threw]
    exact tracks.refused frame failure
  · rcases @writeFrame_of_written _ _ storage cueInterval frame writer
      refused (succeeds.write _ _) with ⟨type, known, written⟩
    rw [written]
    exact tracks.written known _

/-- The messages of a module are frames. -/
theorem tracks_run
    {Message : Type*} (succeeds : storage.Succeeds) (cueInterval : Int32)
    (arrayShape : List UInt64) (toFrame : Message → Frame)
    (messages : List Message) :
    Tracks storage (messages.map toFrame)
      (Mealy.run
        (Throwing.call fun message =>
          writeFrame storage cueInterval (toFrame message))
        (opened arrayShape) messages).2
      (Mealy.run
        (Throwing.call fun message =>
          writeFrame storage cueInterval (toFrame message))
        (opened arrayShape) messages).1 := by
  apply Mealy.run_induction fun messages outcomes writer =>
    Tracks storage (messages.map toFrame) outcomes writer
  · exact tracks_opened storage arrayShape
  · intro messages outcomes writer message tracks
    rw [List.map_append, List.map_singleton]
    exact tracks.writeFrame succeeds (toFrame message)

omit [Inhabited Stored] in
theorem length_returned_le :
    (returned frames outcomes).length ≤ frames.length := by
  rw [returned, List.length_map]
  apply (List.length_filter_le _ _).trans
  rw [List.length_zip]
  exact Nat.min_le_left _ _

theorem Tracks.framesAligned
    (tracks : Tracks storage frames outcomes writer)
    (few : frames.length ≤ 2 ^ 32) :
    FramesAligned storage frames outcomes writer := by
  rcases tracks.cues with ⟨positions, cues⟩
  have rows := congrArg List.length tracks.rows
  have times := congrArg List.length tracks.times
  rw [List.length_map, List.length_map] at rows
  rw [List.length_map] at times
  have fewTimes : writer.timestamp.elements.length ≤ 2 ^ 32 := by
    rw [times]
    exact length_returned_le.trans few
  have index := cues.toNat_index fewTimes
  constructor
  · rw [rows, times]
  · exact tracks.rows
  · exact tracks.times
  · rw [index]
    exact cues.increasing
  · have indices := congrArg List.length index
    have timestamps := congrArg List.length cues.timestamps
    rw [List.length_map] at indices
    rw [List.length_map, List.length_map] at timestamps
    rw [indices, timestamps]
  · intro cue value there
    exact cues.cueTimes fewTimes there

end AreaDetector

open AreaDetector in
/-- In both modules the rows, the timestamps and the cues stay in step. -/
theorem frames_aligned
    {Stored : Type*} [Inhabited Stored] (storage : Storage Stored)
    (succeeds : storage.Succeeds) (cueInterval : Int32)
    (arrayShape : List UInt64) (arrays : List ADAr.ADArray)
    (others : List NDAr.NDArray)
    (few : arrays.length ≤ 2 ^ 32) (fewOthers : others.length ≤ 2 ^ 32) :
    FramesAligned storage (arrays.map (·.frame))
        (Mealy.run (Throwing.call (ADAr.write storage cueInterval))
          (opened arrayShape) arrays).2
        (Mealy.run (Throwing.call (ADAr.write storage cueInterval))
          (opened arrayShape) arrays).1 ∧
      FramesAligned storage (others.map (·.frame))
        (Mealy.run (Throwing.call (NDAr.write storage cueInterval))
          (opened arrayShape) others).2
        (Mealy.run (Throwing.call (NDAr.write storage cueInterval))
          (opened arrayShape) others).1 := by
  constructor
  · apply Tracks.framesAligned
    · exact tracks_run succeeds cueInterval arrayShape ADAr.ADArray.frame arrays
    · rw [List.length_map]
      exact few
  · apply Tracks.framesAligned
    · exact tracks_run succeeds cueInterval arrayShape NDAr.NDArray.frame others
    · rw [List.length_map]
      exact fewOthers

/-- A message of another rank is refused between two that have a cue. -/
theorem aligned_around_refused :
    let first : ADAr.ADArray := ⟨10, [2], .uint8, [1, 2]⟩
    let refused : ADAr.ADArray := ⟨20, [1, 1], .uint8, [3]⟩
    let last : ADAr.ADArray := ⟨30, [1], .uint8, [4]⟩
    let other : NDAr.NDArray := ⟨⟨0, 1⟩, [2], .uint8, [1, 2]⟩
    AreaDetector.FramesAligned AreaDetector.plainStorage
        ([first, refused, last].map (·.frame))
        (Mealy.run (Throwing.call (ADAr.write AreaDetector.plainStorage 1))
          (AreaDetector.opened [1]) [first, refused, last]).2
        (Mealy.run (Throwing.call (ADAr.write AreaDetector.plainStorage 1))
          (AreaDetector.opened [1]) [first, refused, last]).1 ∧
      AreaDetector.FramesAligned AreaDetector.plainStorage
        ([other].map (·.frame))
        (Mealy.run (Throwing.call (NDAr.write AreaDetector.plainStorage 1))
          (AreaDetector.opened [1]) [other]).2
        (Mealy.run (Throwing.call (NDAr.write AreaDetector.plainStorage 1))
          (AreaDetector.opened [1]) [other]).1 := by
  apply frames_aligned AreaDetector.plainStorage
  · exact ⟨fun _ => rfl, fun _ _ => rfl⟩
  · decide
  · decide

end KafkaToNexus.WriterModule
