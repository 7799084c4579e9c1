import KafkaToNexus.WriterModule.AreaDetector

/-!
# What is read of a frame

The shape of a frame says how many elements are handed to HDF5, and nothing
relates it to the length of the data.  A frame whose data are too short is
either refused for another reason or read behind the end of its data.
-/

namespace KafkaToNexus.WriterModule

open KafkaToNexus.Foundations KafkaToNexus.NeXusDataset

namespace AreaDetector

variable {Stored : Type*}

/-- The elements of the shape, over unbounded integers, are in the data. -/
def Frame.Fits (frame : Frame) : Prop :=
  ∃ type, frame.type = some type ∧
    frame.sizes.prod * type.size ≤ frame.data.length

/-- A call threw and left all datasets as they were. -/
structure LeftAlone (writer : Writer Stored)
    (result : Writer Stored × Option WriteFailure) : Prop where
  threw : result.2 ≠ none
  values : result.1.values = writer.values
  timestamp : result.1.timestamp = writer.timestamp
  cueTimestampIndex :
    result.1.cueTimestampIndex = writer.cueTimestampIndex
  cueTimestamp : result.1.cueTimestamp = writer.cueTimestamp

variable [Inhabited Stored] {storage : Storage Stored} {cueInterval : Int32}
  {frame : Frame} {writer : Writer Stored}

/-- Only a refused frame leaves the datasets as they were. -/
theorem leftAlone_iff :
    LeftAlone writer (writeFrame storage cueInterval frame writer) ↔
      Refused storage frame writer := by
  constructor
  · intro alone
    by_contra taken
    cases written :
        storage.write (1 :: frame.sizes) frame.nrOfElements.toNat with
    | true =>
        rcases @writeFrame_of_written _ _ storage cueInterval frame writer
          taken written with ⟨type, _, returned⟩
        apply alone.threw
        rw [returned]
    | false =>
        have values := alone.values
        rw [writeFrame_of_not_written taken written] at values
        have rows := congrArg (fun dataset => dataset.rows.length) values
        simp at rows
  · intro refused
    rcases @writeFrame_of_refused _ _ storage cueInterval frame writer
      refused with ⟨failure, threw⟩
    rw [threw]
    exact ⟨Option.some_ne_none failure, rfl, rfl, rfl, rfl⟩

end AreaDetector

open AreaDetector in
/--
In both modules a message is read inside its data, or else not written at all,
exactly when it is refused or has the data that its shape says.
-/
theorem reads_inside_iff
    {Stored : Type*} [Inhabited Stored] (storage : Storage Stored)
    (cueInterval : Int32) (writer : Writer Stored)
    (array : ADAr.ADArray) (other : NDAr.NDArray) :
    (array.frame.Fits ∨
          LeftAlone writer (ADAr.write storage cueInterval array writer) ↔
        Refused storage array.frame writer ∨ array.frame.Fits) ∧
      (other.frame.Fits ∨
          LeftAlone writer (NDAr.write storage cueInterval other writer) ↔
        Refused storage other.frame writer ∨ other.frame.Fits) := by
  rw [ADAr.write, NDAr.write, leftAlone_iff, leftAlone_iff]
  exact ⟨or_comm, or_comm⟩

/-- Two elements are read of data of one byte. -/
theorem reads_behind_data :
    let array : ADAr.ADArray := ⟨10, [2], .uint8, [1]⟩
    let other : NDAr.NDArray := ⟨⟨0, 1⟩, [2], .uint8, [1]⟩
    ¬(array.frame.Fits ∨
        AreaDetector.LeftAlone (AreaDetector.opened [2])
          (ADAr.write AreaDetector.plainStorage 1 array
            (AreaDetector.opened [2]))) ∧
      ¬(other.frame.Fits ∨
        AreaDetector.LeftAlone (AreaDetector.opened [2])
          (NDAr.write AreaDetector.plainStorage 1 other
            (AreaDetector.opened [2]))) := by
  intro array other
  constructor
  · rintro (⟨type, known, fits⟩ | alone)
    · cases known
      exact absurd fits (by decide)
    · exact absurd rfl alone.threw
  · rintro (⟨type, known, fits⟩ | alone)
    · cases known
      exact absurd fits (by decide)
    · exact absurd rfl alone.threw

end KafkaToNexus.WriterModule
