import KafkaToNexus.Foundations.OrderedMap
import KafkaToNexus.Foundations.Throwing
import KafkaToNexus.WriterModule.Hs00.HistogramRecord

/-!
# The writer of histograms

A message brings a slice of the histogram with its timestamp.  The writer keeps
records of at most four histograms, each with a row in the datasets.  A message
with a fifth timestamp takes over the row of the oldest record.

The types of the data and of the errors are parameters; a new cell of a dataset
holds zero.  Whether an operation of the HDF5 library fails is an input of a
call, but for a selection that is not inside a dataset, which always fails.
Extending a dataset does not fail.
-/

namespace KafkaToNexus.WriterModule.Hs00

open KafkaToNexus.Foundations

/-- The type of an array in a message. -/
inductive ArrayType where
  | none
  | arrayUInt
  | arrayULong
  | arrayDouble
  | arrayFloat
deriving DecidableEq, Repr

/-- A message; the data and the errors are unions whose members hold vectors. -/
structure EventHistogram (Data Error : Type*) where
  timestamp : UInt64
  dataType : ArrayType
  data : Option (Option (List Data))
  errorsType : ArrayType := .none
  errors : Option (Option (List Error)) := none
  currentShape : Option (List UInt32)
  offset : Option (List UInt32) := none
  info : Option String := none
deriving DecidableEq, Repr

/--
The dimensions of a histogram.  The chunks of the datasets span them, and HDF5
creates no dataset with a chunk that has an empty dimension or `2 ^ 32` cells.
-/
structure Shape where
  sizes : List Nat
  positive : ∀ size ∈ sizes, 0 < size
  chunk : sizes.prod < 2 ^ 32
deriving DecidableEq, Repr

def Shape.getTotalItems (shape : Shape) : Nat :=
  if shape.sizes.isEmpty then 0
  else shape.sizes.foldl (fun items size => items * size % 2 ^ 64) 1

/-- The cells of a slice can be selected; an empty one selects none. -/
def Shape.canSelect (shape : Shape) (slice : Slice) : Bool :=
  decide (slice.volume = 0) || decide (slice.Inside shape.sizes)

/-- A cell of a dataset. -/
structure Cell (Value : Type*) where
  value : Value
  /-- The timestamp of the message that wrote it last, a history variable. -/
  writtenBy : Option Nat := none
deriving DecidableEq, Repr

/-- One row of a dataset, by the indices of its cells. -/
abbrev Row (Value : Type*) := List Nat → Cell Value

/-- The records by their timestamps. -/
abbrev RecordMap := OrderedMap Nat HistogramRecord

/-- The writer and its datasets. -/
structure WriterTyped (Data Error : Type*) where
  shape : Shape
  dataType : ArrayType
  errorType : ArrayType
  histogramRecords : RecordMap := []
  largestTimestampSeen : Nat := 0
  histograms : List (Row Data) := []
  errors : List (Row Error) := []
  /-- The dataset `timestamps`, two columns for each row. -/
  timestamps : List Nat := []
  info : List String := []
  infoTimestamp : List Nat := []
  /-- The dataset `data`. -/
  latest : Row Data

/-- The operations of HDF5 in a call that succeed. -/
structure HdfOutcomes where
  writeHistograms : Bool := true
  writeErrors : Bool := true
  readTimestamps : Bool := true
  writeTimestamps : Bool := true
  writeInfo : Bool := true
  writeInfoTimestamp : Bool := true
  copyLatest : Bool := true
deriving DecidableEq, Repr

/-- What the checks leave of a message. -/
structure CheckedHistogram (Data Error : Type*) where
  timestamp : Nat
  data : List Data
  errors : Option (List Error)
  slice : Slice
  info : Option String
deriving DecidableEq, Repr

namespace WriterTyped

variable {Data Error : Type*} [Zero Data] [Zero Error]

def maxNumberHistoric : Nat := 4

/-- A row whose cells were not written. -/
def fillRow (Value : Type*) [Zero Value] : Row Value :=
  fun _ => { value := 0 }

/-- The first extent of a dataset is set; its new rows are filled. -/
def extentRows {Value : Type*} [Zero Value] (count : Nat)
    (rows : List (Row Value)) : List (Row Value) :=
  rows.take count ++ List.replicate (count - rows.length) (fillRow Value)

/-- `resize` of a vector, and the extent of the dataset `timestamps`. -/
def resize (size : Nat) (values : List Nat) : List Nat :=
  values.take size ++ List.replicate (size - values.length) 0

def createHDFStructure (shape : Shape) (dataType errorType : ArrayType) :
    WriterTyped Data Error :=
  { shape, dataType, errorType, latest := fillRow Data }

/-- A new writer for the datasets. -/
def reOpen (writer : WriterTyped Data Error) : WriterTyped Data Error :=
  { writer with histogramRecords := [], largestTimestampSeen := 0 }

/-! ## The checks of a message -/

/-- The offsets, which are zero unless the message has one for each size. -/
def theOffsets (sizes : List Nat) (shape : List UInt32)
    (offset : Option (List UInt32)) : Except WriteFailure (List UInt32) :=
  match offset with
  | some offsets =>
      if offsets.length = shape.length then
        if ((offsets.zip shape).zip sizes).any
            fun range => range.2 < (range.1.1 + range.1.2).toNat then
          .error (.writerException "Shape not consistent")
        else
          .ok offsets
      else
        .ok (List.replicate shape.length 0)
  | none => .ok (List.replicate shape.length 0)

def expectedLinearDataSize (shape : List UInt32) : Nat :=
  shape.foldl (fun size count => size * count.toNat % 2 ^ 64) 1

/-- The data and the errors of a message. -/
def checkArrays
    (writer : WriterTyped Data Error) (message : EventHistogram Data Error) :
    Except WriteFailure (List Data × Option (List Error)) :=
  if message.timestamp = 0 then
    .error (.writerException "Timestamp == 0")
  else if message.dataType ≠ writer.dataType then
    .error (.writerException
      "EvMsg->data_type() != getMatchingFlatbufferType<DataType>(nullptr)")
  else
    match message.data with
    | none => .error (.writerException "!DataUnion")
    | some none => .error (.writerException "!DataPtr")
    | some (some data) =>
        match message.errors with
        | none => .ok (data, none)
        | some errors =>
            if message.errorsType ≠ writer.errorType then
              .error (.writerException
                ("EvMsg->errors_type() != " ++
                  "getMatchingFlatbufferType<ErrorType>(nullptr)"))
            else
              .ok (data, errors)

/-- The slice of a message with the given data and errors. -/
def checkShape
    (writer : WriterTyped Data Error) (message : EventHistogram Data Error)
    (data : List Data) (errors : Option (List Error)) :
    Except WriteFailure Slice :=
  match message.currentShape with
  | none => .error (.writerException "Missing current_shape")
  | some shape =>
      if shape.length ≠ writer.shape.sizes.length then
        .error (.writerException "Wrong size of shape")
      else
        match theOffsets writer.shape.sizes shape message.offset with
        | .error failure => .error failure
        | .ok offsets =>
            if expectedLinearDataSize shape ≠ data.length then
              .error (.writerException "Unexpected data size")
            else if errors.any
                fun errors => expectedLinearDataSize shape ≠ errors.length then
              .error (.writerException "Unexpected errors size")
            else
              .ok ⟨offsets, shape⟩

def isOld (writer : WriterTyped Data Error) (timestamp : Nat) : Bool :=
  (timestamp + 40 * 1000000000) % 2 ^ 64 < writer.largestTimestampSeen

/-- All that is checked before the writer changes. -/
def accept
    (writer : WriterTyped Data Error) (message : EventHistogram Data Error) :
    Except WriteFailure (CheckedHistogram Data Error) :=
  match writer.checkArrays message with
  | .error failure => .error failure
  | .ok (data, errors) =>
      match writer.checkShape message data errors with
      | .error failure => .error failure
      | .ok slice =>
          let timestamp := message.timestamp.toNat
          if writer.isOld timestamp then
            .error (.writerException
              ("Old histogram: Timestamp: " ++ toString timestamp ++
                "  LargestTimestampSeen: " ++
                toString writer.largestTimestampSeen))
          else
            .ok { timestamp, data, errors, slice, info := message.info }

/-! ## The record of a message -/

def see (writer : WriterTyped Data Error) (timestamp : Nat) :
    WriterTyped Data Error :=
  { writer with
    largestTimestampSeen :=
      if writer.largestTimestampSeen < timestamp then timestamp
      else writer.largestTimestampSeen }

/-- There is a record with the timestamp, with a new or a taken over row. -/
def ensureRecord (writer : WriterTyped Data Error) (timestamp : Nat) :
    WriterTyped Data Error :=
  if (writer.histogramRecords.find timestamp).isSome then writer
  else if maxNumberHistoric ≤ writer.histogramRecords.length then
    match writer.histogramRecords with
    | [] => writer
    | oldest :: rest =>
        { writer with
          histogramRecords :=
            OrderedMap.insert timestamp
              (.create oldest.2.hdfIndex writer.shape.getTotalItems) rest }
  else
    let rows := writer.histograms.length
    { writer with
      histogramRecords :=
        writer.histogramRecords.insert timestamp
          (.create rows writer.shape.getTotalItems)
      histograms := extentRows (rows + 1) writer.histograms
      errors := extentRows (rows + 1) writer.errors }

/--
The record with a timestamp.  The subscript of the map makes a new one, whose
row is `!0`, which is one.
-/
def record (writer : WriterTyped Data Error) (timestamp : Nat) :
    HistogramRecord :=
  (writer.histogramRecords.find timestamp).getD
    { hdfIndex := 1, totalItems := 0 }

def changeRecord (writer : WriterTyped Data Error) (timestamp : Nat)
    (change : HistogramRecord → HistogramRecord) : WriterTyped Data Error :=
  { writer with
    histogramRecords := writer.histogramRecords.modify timestamp change }

/-! ## The slice of a message -/

/-- Write values to the cells of a slice of a row. -/
def writeRow {Value : Type*} [Zero Value] (slice : Slice)
    (values : List Value) (timestamp : Nat) (row : Row Value) : Row Value :=
  fun index =>
    match Boxes.position (slice.offsets.map UInt32.toNat)
        (slice.sizes.map UInt32.toNat) index with
    | some place =>
        { value := values.getD place 0, writtenBy := some timestamp }
    | none => row index

variable (outcomes : HdfOutcomes) (message : CheckedHistogram Data Error)

def claimSlice : Throwing (WriterTyped Data Error) WriteFailure :=
  fun writer =>
    match (writer.record message.timestamp).hasEmptySlice message.slice with
    | .error failure => (writer, some failure)
    | .ok false =>
        (writer,
          some (.writerException "Slice already at least partially filled"))
    | .ok true =>
        (writer.changeRecord message.timestamp (·.addSlice message.slice), none)

def writeHistograms : Throwing (WriterTyped Data Error) WriteFailure :=
  fun writer =>
    if outcomes.writeHistograms && writer.shape.canSelect message.slice then
      ({ writer with
         histograms :=
           writer.histograms.modify (writer.record message.timestamp).hdfIndex
             (writeRow message.slice message.data message.timestamp) }, none)
    else
      (writer, some .hdf5)

def writeErrors : Throwing (WriterTyped Data Error) WriteFailure :=
  fun writer =>
    match message.errors with
    | none => (writer, none)
    | some errors =>
        if outcomes.writeErrors && writer.shape.canSelect message.slice then
          ({ writer with
             errors :=
               writer.errors.modify (writer.record message.timestamp).hdfIndex
                 (writeRow message.slice errors message.timestamp) }, none)
        else
          (writer, some .hdf5)

def countItems : Throwing (WriterTyped Data Error) WriteFailure :=
  fun writer =>
    (writer.changeRecord message.timestamp
      (·.addToItemsWritten message.data.length), none)

/-- Assign to an element of a vector with `at`. -/
def setAt (values : List Nat) (place value : Nat) : Option (List Nat) :=
  if place < values.length then some (values.set place value) else none

/-- The new content of the dataset `timestamps`. -/
def newTimestamps (writer : WriterTyped Data Error) (timestamp : Nat) :
    Option (List Nat) :=
  let record := writer.record timestamp
  let values := resize (2 * writer.histogramRecords.length) writer.timestamps
  match setAt values (2 * record.hdfIndex) timestamp with
  | none => none
  | some values =>
      if record.isFull then setAt values (2 * record.hdfIndex + 1) 1
      else some values

/-- The dataset is extended before it is written. -/
def writeTimestamps : Throwing (WriterTyped Data Error) WriteFailure :=
  fun writer =>
    if outcomes.readTimestamps then
      match writer.newTimestamps message.timestamp with
      | none => (writer, some .outOfRange)
      | some values =>
          if outcomes.writeTimestamps then
            ({ writer with timestamps := values }, none)
          else
            ({ writer with
               timestamps := resize values.length writer.timestamps },
              some .hdf5)
    else
      (writer, some .hdf5)

/--
The text of a message and its time.  Each dataset is extended before it is
written, so that a write that fails leaves a new entry without a value.
-/
def writeInfo : Throwing (WriterTyped Data Error) WriteFailure :=
  fun writer =>
    match message.info with
    | none => (writer, none)
    | some text =>
        if outcomes.writeInfo then
          if outcomes.writeInfoTimestamp then
            ({ writer with
               info := writer.info ++ [text]
               infoTimestamp := writer.infoTimestamp ++ [message.timestamp] },
              none)
          else
            ({ writer with
               info := writer.info ++ [text]
               infoTimestamp := writer.infoTimestamp ++ [0] },
              some .hdf5)
        else
          ({ writer with info := writer.info ++ [""] }, some .hdf5)

/-- `copyLatestToData` of a full record. -/
def copyLatest : Throwing (WriterTyped Data Error) WriteFailure :=
  fun writer =>
    let record := writer.record message.timestamp
    if record.isFull then
      if outcomes.copyLatest then
        ({ writer with
           latest := writer.histograms.getD record.hdfIndex (fillRow Data) },
          none)
      else
        (writer, some .hdf5)
    else
      (writer, none)

/-- What is done with an admitted message once there is a record. -/
def pieces : List (Throwing (WriterTyped Data Error) WriteFailure) :=
  [claimSlice message, writeHistograms outcomes message,
    writeErrors outcomes message, countItems message,
    writeTimestamps outcomes message, writeInfo outcomes message,
    copyLatest outcomes message]

def write (message : EventHistogram Data Error) :
    Throwing (WriterTyped Data Error) WriteFailure :=
  fun writer =>
    match writer.accept message with
    | .error failure => (writer, some failure)
    | .ok checked =>
        Throwing.inOrder (pieces outcomes checked)
          ((writer.see checked.timestamp).ensureRecord checked.timestamp)

end WriterTyped

end KafkaToNexus.WriterModule.Hs00
