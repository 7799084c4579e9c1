import KafkaToNexus.Foundations.Throwing
import KafkaToNexus.NeXusDataset.ExtensibleDataset
import Mathlib.Algebra.Group.Defs
import Mathlib.Data.Nat.Cast.Defs

/-!
# The writers of logged values

The modules f142 and f144 write one value, or one array, of each message.
They append the timestamp before they look at the type of the value.  Both
have the same code up to the text of an exception, but f142 also writes alarms.

The writers do not follow the offset of an array's vector.  They take its
length and its elements from behind the table of the value, where the vector
only lies if the producer has built it right before the table.  What lies there
is part of a message.  It may reach beyond the buffer of the message, where
the real code reads whatever is in memory or is ended by the system.

How HDF5 converts an element to the type of the dataset and the arithmetic of
doubles are parameters; HDF5 appends succeed.
-/

namespace KafkaToNexus.WriterModule

open KafkaToNexus.Foundations KafkaToNexus.NeXusDataset

/-- What ends a call of `write` early. -/
inductive WriteFailure where
  | writerException (what : String)
  | runtimeError (what : String)
  | divisionByZero
deriving DecidableEq, Repr

/-- `Type` of the writers, and the types of the values of messages. -/
inductive ElementType where
  | int8
  | uint8
  | int16
  | uint16
  | int32
  | uint32
  | int64
  | uint64
  | float32
  | float64
deriving DecidableEq, Repr

/-- The union `Value`: ten scalars, ten arrays, and what is not handled. -/
inductive Value (Element : Type*) where
  | scalar (type : ElementType) (value : Element)
  /--
  The elements of the vector, and those behind the table of the value: as many
  as the integer says that stands there.
  -/
  | array (type : ElementType) (values behind : List Element)
  | other (valueType : UInt8)
deriving DecidableEq, Repr

/-- An array whose vector lies behind its table. -/
def Value.inPlace {Element : Type*}
    (type : ElementType) (values : List Element) : Value Element :=
  .array type values values

structure LogData (Element : Type*) where
  timestamp : UInt64
  value : Value Element
deriving DecidableEq, Repr

structure LogConfig where
  elementType : ElementType := .float64
  valueIndexInterval : UInt32 := .ofNat (2 ^ 32 - 1)
  arraySize : Nat := 1
  metaData : Bool := true
deriving DecidableEq, Repr

structure ValuesInformation (Double : Type*) where
  min : Double
  max : Double
  sum : Double
  nrOfElements : Nat
deriving DecidableEq, Repr

/-- A writer and its datasets. -/
structure LogWriter (Stored Double : Type*) where
  timestamp : ExtensibleDataset UInt64 := {}
  values : MultiDimDataset Stored
  cueIndex : ExtensibleDataset UInt32 := {}
  cueTimestampZero : ExtensibleDataset UInt64 := {}
  min : Double
  max : Double
  sum : Double
  lastIndexAtWrite : UInt64 := 0
  nrOfWrites : UInt64 := 0
  totalNrOfElementsWritten : Nat := 0
  metaDataMin : Double
  metaDataMax : Double
  metaDataMean : Double

/-- What the writers take from elsewhere. -/
structure Conversions (Element Stored Double : Type*) where
  /-- How HDF5 stores an element of one type in a dataset of another. -/
  convert : ElementType → ElementType → Element → Stored
  double : Element → Double

namespace LogWriter

variable {Element Stored Double : Type*} [Inhabited Stored]

/-- The writer for datasets that were created and opened again. -/
def opened [Zero Double] (config : LogConfig) : LogWriter Stored Double :=
  { values := { dims := [config.arraySize] }
    min := 0, max := 0, sum := 0
    metaDataMin := 0, metaDataMax := 0, metaDataMean := 0 }

variable (conversions : Conversions Element Stored Double)
  (config : LogConfig) (message : LogData Element)

def appendTimestamp : Throwing (LogWriter Stored Double) WriteFailure :=
  fun writer =>
    ({ writer with
       timestamp := writer.timestamp.appendElement message.timestamp }, none)

/-- `appendArray` of a row of values of one type. -/
def appendRow (type : ElementType) (values : List Element) :
    Throwing (LogWriter Stored Double) WriteFailure :=
  fun writer =>
    match writer.values.appendArray
        (values.map (conversions.convert type config.elementType))
        [values.length] with
    | .error what => (writer, some (.runtimeError what))
    | .ok appended => ({ writer with values := appended }, none)

def appendData (type : ElementType) (values : List Element) :
    Throwing (LogWriter Stored Double) WriteFailure :=
  fun writer =>
    if values.length = 0 then (writer, none)
    else appendRow conversions config type values writer

def appendScalarData (type : ElementType) (value : Element) :
    Throwing (LogWriter Stored Double) WriteFailure :=
  appendRow conversions config type [value]

/--
The switch over the type of the value.  `extractArrayInfo` finds the elements
of an array behind its table.
-/
def appendValue (unknownType : String) :
    Throwing (LogWriter Stored Double) WriteFailure :=
  match message.value with
  | .array type _ behind => appendData conversions config type behind
  | .scalar type value => appendScalarData conversions config type value
  | .other _ => fun writer => (writer, some (.writerException unknownType))

/-- What `appendData` and `appendScalarData` return. -/
def valuesInformation [Zero Double] [Add Double] [Min Double] [Max Double] :
    ValuesInformation Double :=
  match message.value with
  | .scalar _ value =>
      let double := conversions.double value
      { min := double, max := double, sum := double, nrOfElements := 1 }
  | .array _ _ (first :: rest) =>
      let start := conversions.double first
      let others := rest.map conversions.double
      if config.metaData then
        { min := others.foldl Min.min start
          max := others.foldl Max.max start
          sum := others.foldl (· + ·) start
          nrOfElements := rest.length + 1 }
      else
        { min := start, max := start, sum := start
          nrOfElements := rest.length + 1 }
  | _ => { min := 0, max := 0, sum := 0, nrOfElements := 0 }

/--
Every so many writes there is an entry in the cues.  What a division by an
interval of zero does is left open by the language; here it is an exception,
which the run survives.
-/
def appendCue : Throwing (LogWriter Stored Double) WriteFailure :=
  fun writer =>
    let writer := { writer with nrOfWrites := writer.nrOfWrites + 1 }
    if config.valueIndexInterval = 0 then (writer, some .divisionByZero)
    else if 0 <
        (writer.nrOfWrites - writer.lastIndexAtWrite) /
          config.valueIndexInterval.toUInt64 then
      ({ writer with
         lastIndexAtWrite := writer.nrOfWrites
         cueIndex :=
           writer.cueIndex.appendElement
             (clipToUInt32 (writer.nrOfWrites - 1))
         cueTimestampZero :=
           writer.cueTimestampZero.appendElement message.timestamp }, none)
    else
      (writer, none)

def updateMetaData [Zero Double] [Add Double] [Div Double] [Min Double]
    [Max Double] [NatCast Double] :
    Throwing (LogWriter Stored Double) WriteFailure :=
  fun writer =>
    if config.metaData then
      let information := valuesInformation conversions config message
      let first := writer.totalNrOfElementsWritten = 0
      let min := Min.min
        (if first then information.min else writer.min) information.min
      let max := Max.max
        (if first then information.max else writer.max) information.max
      let sum := writer.sum + information.sum
      let total :=
        (writer.totalNrOfElementsWritten + information.nrOfElements) % 2 ^ 64
      ({ writer with
         min, max, sum
         totalNrOfElementsWritten := total
         metaDataMin := min
         metaDataMax := max
         metaDataMean := sum / total }, none)
    else
      (writer, none)

variable [Zero Double] [Add Double] [Div Double] [Min Double] [Max Double]
  [NatCast Double]

/-- What both writers do with a message. -/
def write (unknownType : String) :
    Throwing (LogWriter Stored Double) WriteFailure :=
  Throwing.inOrder
    [appendTimestamp message,
      appendValue conversions config message unknownType,
      appendCue config message, updateMetaData conversions config message]

end LogWriter

end KafkaToNexus.WriterModule
