import KafkaToNexus.WriterModule.LogWriter

/-!
# The writers of packets of samples

A packet of se00 or senv brings the samples of some time, with a timestamp for
each of them or with the time between them.  The writer appends the samples and
the timestamps, and a cue that says where the packet starts.  The two modules
have the same code up to the types.  A packet of tdct has timestamps only.

How HDF5 converts an element to the type of the dataset is a parameter, and so
is the time from the first sample to another one, rounded to nanoseconds.
-/

namespace KafkaToNexus.WriterModule

open KafkaToNexus.Foundations KafkaToNexus.NeXusDataset

/-- The union of the arrays of samples. -/
inductive ValueUnion (Element : Type*) where
  | array (type : ElementType) (values : List Element)
  | other (valueType : UInt8)
deriving DecidableEq, Repr

/-- A packet with timestamps of a given type. -/
structure SampleEnvironmentData (Element TimeDelta Time : Type*) where
  packetTimestamp : Time
  timeDelta : TimeDelta
  values : ValueUnion Element
  timestamps : Option (List Time) := none
deriving DecidableEq, Repr

/-- The type of the timestamps in a message, and its conversions. -/
structure TimeType (Time : Type*) where
  /-- The nanoseconds that a timestamp stands for. -/
  nanoseconds : Time → Int
  /-- How HDF5 stores a timestamp in a dataset of unsigned integers. -/
  stored : Time → UInt64
  /-- How a timestamp is passed as an unsigned integer. -/
  origin : Time → UInt64
  stored_iff :
    ∀ time, ((stored time).toNat : Int) = nanoseconds time ↔
      0 ≤ nanoseconds time

/-- What the writers take from elsewhere. -/
structure SampleConversions (Element Stored TimeDelta : Type*) where
  /-- How HDF5 stores an element of one type in a dataset of another. -/
  convert : ElementType → ElementType → Element → Stored
  /-- The rounded product of a number of steps and the time of one. -/
  llround : Nat → TimeDelta → Int64

/-- A module: its timestamps and the types that its switch handles. -/
structure SampleModule (Time : Type*) where
  time : TimeType Time
  handles : ElementType → Bool

/-- A vector of a negative size cannot be made. -/
inductive SampleFailure where
  | lengthError
deriving DecidableEq, Repr

structure SampleWriter (Stored : Type*) where
  elementType : ElementType := .int64
  value : ExtensibleDataset Stored := .openedAsBase []
  timestamp : ExtensibleDataset UInt64 := {}
  cueTimestampIndex : ExtensibleDataset UInt32 := {}
  cueTimestamp : ExtensibleDataset UInt64 := {}
deriving DecidableEq, Repr

variable {Element Stored TimeDelta Time : Type*}

/-- The number of elements is passed as an `int`. -/
def generateTimeStamps
    (conversions : SampleConversions Element Stored TimeDelta)
    (originTimeStamp : UInt64) (timeDelta : TimeDelta)
    (numberOfElements : Nat) : Except SampleFailure (List UInt64) :=
  let number := Int32.ofNat numberOfElements
  if number < 0 then .error .lengthError
  else
    .ok
      ((List.range number.toNatClampNeg).map fun i =>
        originTimeStamp + (conversions.llround i timeDelta).toUInt64)

/-- The samples that the switch over their type appends. -/
def SampleModule.samples (sampleModule : SampleModule Time)
    (message : SampleEnvironmentData Element TimeDelta Time) :
    List (ElementType × Element) :=
  match message.values with
  | .array type values =>
      if sampleModule.handles type then values.map fun value => (type, value)
      else []
  | .other _ => []

/-- The number of samples that are appended. -/
def SampleModule.size (sampleModule : SampleModule Time)
    (message : SampleEnvironmentData Element TimeDelta Time) : Nat :=
  (sampleModule.samples message).length

namespace SampleWriter

variable [Inhabited Stored] (sampleModule : SampleModule Time)
  (conversions : SampleConversions Element Stored TimeDelta)
  (message : SampleEnvironmentData Element TimeDelta Time)

def appendSamples (writer : SampleWriter Stored) : SampleWriter Stored :=
  { writer with
    value :=
      writer.value.appendArrayAdapter
        ((sampleModule.samples message).map fun sample =>
          conversions.convert sample.1 writer.elementType sample.2) }

def appendCue (cueIndexValue : Nat) (writer : SampleWriter Stored) :
    SampleWriter Stored :=
  { writer with
    cueTimestampIndex :=
      writer.cueTimestampIndex.appendElement (.ofNat cueIndexValue)
    cueTimestamp :=
      writer.cueTimestamp.appendElement
        (sampleModule.time.stored message.packetTimestamp) }

def appendTimestamps (nrOfElements : Nat) :
    Throwing (SampleWriter Stored) SampleFailure :=
  fun writer =>
    match message.timestamps with
    | some timestamps =>
        ({ writer with
           timestamp :=
             writer.timestamp.appendArrayAdapter
               (timestamps.map sampleModule.time.stored) }, none)
    | none =>
        match generateTimeStamps conversions
            (sampleModule.time.origin message.packetTimestamp)
            message.timeDelta nrOfElements with
        | .error failure => (writer, some failure)
        | .ok timestamps =>
            ({ writer with
               timestamp := writer.timestamp.appendArray timestamps }, none)

/-- What both modules do with a message. -/
def write : Throwing (SampleWriter Stored) SampleFailure :=
  fun writer =>
    let cueIndexValue := writer.value.elements.length
    let nrOfElements := sampleModule.size message
    let appended := appendSamples sampleModule conversions message writer
    if nrOfElements = 0 then (appended, none)
    else
      appendTimestamps sampleModule conversions message nrOfElements
        (appendCue sampleModule message cueIndexValue appended)

end SampleWriter

/-! ## The modules -/

/-- The timestamps of se00 are signed. -/
def signedTime : TimeType Int64 where
  nanoseconds := Int64.toInt
  stored := clipToUInt64
  origin := Int64.toUInt64
  stored_iff := by
    intro time
    rw [toNat_clipToUInt64]
    omega

def unsignedTime : TimeType UInt64 where
  nanoseconds := fun time => time.toNat
  stored := id
  origin := id
  stored_iff := fun _ => iff_of_true rfl (Int.natCast_nonneg _)

namespace Se00

def sampleModule : SampleModule Int64 :=
  { time := signedTime, handles := fun _ => true }

def write [Inhabited Stored]
    (conversions : SampleConversions Element Stored TimeDelta)
    (message : SampleEnvironmentData Element TimeDelta Int64) :
    Throwing (SampleWriter Stored) SampleFailure :=
  SampleWriter.write sampleModule conversions message

end Se00

namespace Senv

/-- There are no arrays of floating-point numbers. -/
def sampleModule : SampleModule UInt64 :=
  { time := unsignedTime
    handles := fun type => type ≠ .float32 && type ≠ .float64 }

def write [Inhabited Stored]
    (conversions : SampleConversions Element Stored TimeDelta)
    (message : SampleEnvironmentData Element TimeDelta UInt64) :
    Throwing (SampleWriter Stored) SampleFailure :=
  SampleWriter.write sampleModule conversions message

end Senv

namespace Tdct

structure Writer where
  timestamp : ExtensibleDataset UInt64 := {}
  cueTimestampIndex : ExtensibleDataset UInt32 := {}
  cueTimestamp : ExtensibleDataset UInt64 := {}
deriving DecidableEq, Repr

/-- A message is the vector of its timestamps. -/
def write (timestamps : List UInt64) (writer : Writer) : Writer :=
  match timestamps with
  | [] => writer
  | first :: _ =>
      let cueIndexValue := writer.timestamp.elements.length
      { timestamp := writer.timestamp.appendArrayAdapter timestamps
        cueTimestampIndex :=
          writer.cueTimestampIndex.appendElement (.ofNat cueIndexValue)
        cueTimestamp := writer.cueTimestamp.appendElement first }

end Tdct

end KafkaToNexus.WriterModule
