import KafkaToNexus.Foundations.Throwing
import KafkaToNexus.NeXusDataset.ExtensibleDataset

/-!
# The writers of area detectors

A message of ADAr or NDAr is a frame: an array of some shape, with a timestamp.
The number of elements is computed from the shape, and so many elements are
read from the data of the message, however long they are.  The frame becomes a
row of the values.  After it has been written its timestamp is appended, and
after every so many frames a cue.  Both modules have the same code up to the
types of a message.

What HDF5 does is a parameter: whether it grows and writes the dataset, and
how it stores an element.
-/

namespace KafkaToNexus.WriterModule

open KafkaToNexus.Foundations KafkaToNexus.NeXusDataset

namespace AreaDetector

/-- `Type` of both writers. -/
inductive CellType where
  | int8
  | uint8
  | int16
  | uint16
  | int32
  | uint32
  | int64
  | uint64
  | float32
  | float64
  | cString
deriving DecidableEq, Repr

/-- The bytes of an element. -/
def CellType.size : CellType → Nat
  | .int8 => 1
  | .uint8 => 1
  | .int16 => 2
  | .uint16 => 2
  | .int32 => 4
  | .uint32 => 4
  | .int64 => 8
  | .uint64 => 8
  | .float32 => 4
  | .float64 => 8
  | .cString => 1

/-- What the code of both modules takes from a message. -/
structure Frame where
  dataShape : List UInt64
  currentTimestamp : UInt64
  /-- The type, if the switch has a case for it. -/
  type : Option CellType
  data : List UInt8
deriving DecidableEq, Repr

inductive WriteFailure where
  | writerException (what : String)
  | runtimeError (what : String)
  | hdf5Error
deriving DecidableEq, Repr

/-- What the writers take from elsewhere. -/
structure Storage (Stored : Type*) where
  /-- How HDF5 stores the element of a type that is given by its bytes. -/
  stored : CellType → List UInt8 → Stored
  /-- The memory behind the data of a message. -/
  behind : Nat → UInt8
  /-- Whether HDF5 extends the dataset to some dimensions. -/
  extent : List Nat → Bool
  /-- Whether it writes a number of elements to a box of some sizes. -/
  write : List Nat → Nat → Bool
  /-- What is in a row whose writing failed. -/
  leftover : List Nat → Stored

/-- Elements are numbers of one byte here, and HDF5 does not fail. -/
def plainStorage : Storage UInt8 where
  stored _ bytes := bytes.headD 0
  behind _ := 0
  extent _ := true
  write _ _ := true
  leftover _ := 0

structure Writer (Stored : Type*) where
  values : MultiDimDataset Stored
  timestamp : ExtensibleDataset UInt64 := {}
  cueTimestampIndex : ExtensibleDataset UInt32 := {}
  cueTimestamp : ExtensibleDataset UInt64 := {}
  cueCounter : Int32 := 0

variable {Stored : Type*} [Inhabited Stored]

/-- The writer for datasets that were created and opened again. -/
def opened (arrayShape : List UInt64) : Writer Stored :=
  { values := { dims := arrayShape.map UInt64.toNat } }

/-- The sizes of the frame. -/
def Frame.sizes (frame : Frame) : List Nat :=
  frame.dataShape.map UInt64.toNat

/-- The product is one of 64 bits. -/
def Frame.nrOfElements (frame : Frame) : UInt64 :=
  frame.dataShape.foldl (· * ·) 1

variable (storage : Storage Stored)

/-- So many elements as there are in the array adapter. -/
def Frame.elements (frame : Frame) (type : CellType) : List Stored :=
  (List.range frame.nrOfElements.toNat).map fun place =>
    storage.stored type
      ((List.range type.size).map fun byte =>
        frame.data.getD (place * type.size + byte)
          (storage.behind (place * type.size + byte)))

/-- `appendArray` checks the rank, extends the dataset and writes a row. -/
def appendData (frame : Frame) (type : CellType) :
    Throwing (Writer Stored) WriteFailure :=
  fun writer =>
    match writer.values.appendArray (frame.elements storage type)
        frame.sizes with
    | .error what => (writer, some (.runtimeError what))
    | .ok values =>
        if storage.extent (values.rows.length :: values.dims) then
          if storage.write (1 :: frame.sizes) frame.nrOfElements.toNat then
            ({ writer with values }, none)
          else
            ({ writer with
               values :=
                 { values with
                   rows := writer.values.rows ++ [storage.leftover] } },
              some .hdf5Error)
        else
          (writer, some .hdf5Error)

/-- The switch over the type of the message. -/
def appendValues (frame : Frame) : Throwing (Writer Stored) WriteFailure :=
  fun writer =>
    match frame.type with
    | some type => appendData storage frame type writer
    | none => (writer, some (.writerException "Error in flatbuffer."))

def appendTimestamp (frame : Frame) : Throwing (Writer Stored) WriteFailure :=
  fun writer =>
    ({ writer with
       timestamp := writer.timestamp.appendElement frame.currentTimestamp },
      none)

def appendCue (cueInterval : Int32) (frame : Frame) :
    Throwing (Writer Stored) WriteFailure :=
  fun writer =>
    if writer.cueCounter + 1 = cueInterval then
      ({ writer with
         cueTimestampIndex :=
           writer.cueTimestampIndex.appendElement
             (clipToUInt32 (.ofNat (writer.timestamp.elements.length - 1)))
         cueTimestamp :=
           writer.cueTimestamp.appendElement frame.currentTimestamp
         cueCounter := 0 }, none)
    else
      ({ writer with cueCounter := writer.cueCounter + 1 }, none)

/-- The code of both modules. -/
def writeFrame (cueInterval : Int32) (frame : Frame) :
    Throwing (Writer Stored) WriteFailure :=
  Throwing.inOrder
    [appendValues storage frame, appendTimestamp frame,
      appendCue cueInterval frame]

/-! ## What a call does -/

/-- Nothing of a frame is written: its type, its rank or the extension. -/
def Refused (frame : Frame) (writer : Writer Stored) : Prop :=
  frame.type = none ∨
    frame.sizes.length ≠ writer.values.dims.length ∨
      storage.extent
          ((writer.values.rows.length + 1) ::
            List.zipWith max writer.values.dims frame.sizes) =
        false

variable {storage} {cueInterval : Int32} {frame : Frame}
  {writer : Writer Stored}

/-- The row that a frame of some type becomes. -/
def Frame.row (storage : Storage Stored) (frame : Frame) (type : CellType) :
    List Nat → Stored :=
  MultiDimDataset.rowOf (frame.elements storage type) frame.sizes

/-- What is done with a frame of the right rank. -/
theorem appendData_of_rank
    (rank : frame.sizes.length = writer.values.dims.length)
    (type : CellType) :
    appendData storage frame type writer =
      if storage.extent
          ((writer.values.rows.length + 1) ::
            List.zipWith max writer.values.dims frame.sizes) then
        if storage.write (1 :: frame.sizes) frame.nrOfElements.toNat then
          ({ writer with
             values :=
               { dims := List.zipWith max writer.values.dims frame.sizes
                 rows := writer.values.rows ++ [frame.row storage type] } },
            none)
        else
          ({ writer with
             values :=
               { dims := List.zipWith max writer.values.dims frame.sizes
                 rows := writer.values.rows ++ [storage.leftover] } },
            some .hdf5Error)
      else
        (writer, some .hdf5Error) := by
  simp only [appendData, MultiDimDataset.appendArray_of_rank rank,
    List.length_append, List.length_singleton, Frame.row]

/-- A refused frame leaves everything as it is. -/
theorem writeFrame_of_refused (refused : Refused storage frame writer) :
    ∃ failure,
      writeFrame storage cueInterval frame writer =
        (writer, some failure) := by
  suffices threw :
      ∃ failure,
        appendValues storage frame writer = (writer, some failure) by
    rcases threw with ⟨failure, threw⟩
    exact ⟨failure, Throwing.inOrder_of_threw threw⟩
  rw [appendValues]
  rcases known : frame.type with _ | type
  · exact ⟨_, rfl⟩
  · by_cases rank : frame.sizes.length = writer.values.dims.length
    · rcases refused with unknown | other | kept
      · rw [known] at unknown
        cases unknown
      · exact absurd rank other
      · dsimp only
        rw [appendData_of_rank rank, kept]
        exact ⟨_, rfl⟩
    · simp only [appendData, MultiDimDataset.appendArray]
      rw [if_pos rank]
      exact ⟨_, rfl⟩

/-- Another frame has a known type, and the dataset has a row more. -/
theorem appendValues_of_not_refused (taken : ¬Refused storage frame writer) :
    ∃ type, frame.type = some type ∧
      appendValues storage frame writer =
        if storage.write (1 :: frame.sizes) frame.nrOfElements.toNat then
          ({ writer with
             values :=
               { dims := List.zipWith max writer.values.dims frame.sizes
                 rows := writer.values.rows ++ [frame.row storage type] } },
            none)
        else
          ({ writer with
             values :=
               { dims := List.zipWith max writer.values.dims frame.sizes
                 rows := writer.values.rows ++ [storage.leftover] } },
            some .hdf5Error) := by
  simp only [Refused, not_or, not_not, Bool.not_eq_false] at taken
  rcases taken with ⟨known, rank, grows⟩
  rcases Option.ne_none_iff_exists'.mp known with ⟨type, known⟩
  refine ⟨type, known, ?_⟩
  simp only [appendValues, known]
  rw [appendData_of_rank rank, if_pos grows]

omit [Inhabited Stored] in
theorem appendCue_returns :
    (appendCue cueInterval frame writer).2 = none := by
  simp only [appendCue]
  split_ifs <;> rfl

/-- A frame is written, with its timestamp and with a cue if one is due. -/
theorem writeFrame_of_written
    (taken : ¬Refused storage frame writer)
    (written :
      storage.write (1 :: frame.sizes) frame.nrOfElements.toNat = true) :
    ∃ type, frame.type = some type ∧
      writeFrame storage cueInterval frame writer =
        ((appendCue cueInterval frame
          { writer with
            values :=
              { dims := List.zipWith max writer.values.dims frame.sizes
                rows := writer.values.rows ++ [frame.row storage type] }
            timestamp :=
              writer.timestamp.appendElement frame.currentTimestamp }).1,
          none) := by
  rcases appendValues_of_not_refused taken with ⟨type, known, appended⟩
  refine ⟨type, known, ?_⟩
  rw [if_pos written] at appended
  rw [writeFrame, Throwing.inOrder_of_returned appended,
    Throwing.inOrder_of_none rfl,
    Throwing.inOrder_of_none appendCue_returns]
  rfl

/-- A frame whose writing fails leaves a row behind. -/
theorem writeFrame_of_not_written
    (taken : ¬Refused storage frame writer)
    (failed :
      storage.write (1 :: frame.sizes) frame.nrOfElements.toNat = false) :
    writeFrame storage cueInterval frame writer =
      ({ writer with
         values :=
           { dims := List.zipWith max writer.values.dims frame.sizes
             rows := writer.values.rows ++ [storage.leftover] } },
        some .hdf5Error) := by
  rcases appendValues_of_not_refused taken with ⟨type, known, appended⟩
  rw [failed] at appended
  exact Throwing.inOrder_of_threw appended

end AreaDetector

/-! ## The two modules -/

namespace ADAr

/-- The types that a message can say; the type is not verified. -/
inductive DType where
  | int8
  | uint8
  | int16
  | uint16
  | int32
  | uint32
  | int64
  | uint64
  | float32
  | float64
  | cString
  | other (value : Int8)
deriving DecidableEq, Repr

structure ADArray where
  timestamp : UInt64
  dimensions : List UInt64
  dataType : DType
  data : List UInt8
deriving DecidableEq, Repr

/-- The cases of the switch. -/
def DType.cellType : DType → Option AreaDetector.CellType
  | .int8 => some .int8
  | .uint8 => some .uint8
  | .int16 => some .int16
  | .uint16 => some .uint16
  | .int32 => some .int32
  | .uint32 => some .uint32
  | .int64 => some .int64
  | .uint64 => some .uint64
  | .float32 => some .float32
  | .float64 => some .float64
  | .cString => some .cString
  | .other _ => none

def ADArray.frame (message : ADArray) : AreaDetector.Frame where
  dataShape := message.dimensions
  currentTimestamp := message.timestamp
  type := message.dataType.cellType
  data := message.data

def write {Stored : Type*} [Inhabited Stored]
    (storage : AreaDetector.Storage Stored) (cueInterval : Int32)
    (message : ADArray) :
    Throwing (AreaDetector.Writer Stored) AreaDetector.WriteFailure :=
  AreaDetector.writeFrame storage cueInterval message.frame

end ADAr

namespace NDAr

/-- The types that a message can say, without integers of 64 bits. -/
inductive DType where
  | int8
  | uint8
  | int16
  | uint16
  | int32
  | uint32
  | float32
  | float64
  | cString
  | other (value : Int8)
deriving DecidableEq, Repr

/-- The time since the epoch of EPICS, in 1990. -/
structure EpicsTimeStamp where
  secPastEpoch : UInt64
  nsec : UInt64
deriving DecidableEq, Repr

structure NDArray where
  epicsTS : EpicsTimeStamp
  dims : List UInt64
  dataType : DType
  pData : List UInt8
deriving DecidableEq, Repr

def epicsTimeToNsec (sec nsec : UInt64) : UInt64 :=
  let timeDiffUNIXtoEPICSepoch := 631152000
  let nSecMultiplier := 1000000000
  (sec + timeDiffUNIXtoEPICSepoch) * nSecMultiplier + nsec

/-- The cases of the switch. -/
def DType.cellType : DType → Option AreaDetector.CellType
  | .int8 => some .int8
  | .uint8 => some .uint8
  | .int16 => some .int16
  | .uint16 => some .uint16
  | .int32 => some .int32
  | .uint32 => some .uint32
  | .float32 => some .float32
  | .float64 => some .float64
  | .cString => some .cString
  | .other _ => none

def NDArray.frame (message : NDArray) : AreaDetector.Frame where
  dataShape := message.dims
  currentTimestamp :=
    epicsTimeToNsec message.epicsTS.secPastEpoch message.epicsTS.nsec
  type := message.dataType.cellType
  data := message.pData

def write {Stored : Type*} [Inhabited Stored]
    (storage : AreaDetector.Storage Stored) (cueInterval : Int32)
    (message : NDArray) :
    Throwing (AreaDetector.Writer Stored) AreaDetector.WriteFailure :=
  AreaDetector.writeFrame storage cueInterval message.frame

end NDAr

end KafkaToNexus.WriterModule
