import KafkaToNexus.FlatbufferMessage
import KafkaToNexus.Foundations.Checked

/-!
# The extractors of the flatbuffer schemas

There is one extractor for each schema that the file writer knows.  It runs
the verifier of the schema and reads the source name and the timestamp of a
buffer through the accessors that were generated for the schema.

The generated code is not part of the repository.  A `GeneratedSchema` stands
for it: the verifier, and the fields that the accessors read from a buffer,
where all of them lie inside it.  What is relied on is the guarantee of the
verifier, that the fields of an accepted buffer can be read.  A string, a
vector or a structure may still be absent, and a vector may be empty.

The extractors differ in what they make of this.  Some look whether the name
is there and others do not, so reading a name and reading a plain timestamp
are definitions with parameters, which the extractors apply to their fields.
-/

namespace KafkaToNexus.AccessMessageMetadata

open KafkaToNexus.Foundations
open KafkaToNexus.Foundations.Checked (deref Defined Returns NoThrow)

/-! ## Reading from a buffer -/

/-- The accesses for which the language gives no meaning. -/
inductive UndefinedBehaviour where
  /-- Bytes outside of the buffer are read. -/
  | outsideBuffer
  /-- A null pointer, which stands for an absent field, is followed. -/
  | absentField
  /-- An element beyond the end of a vector is read. -/
  | beyondVector
deriving DecidableEq, Repr

/-- A piece of an extractor's code. -/
abbrev Reading := Checked UndefinedBehaviour ReaderException

/-- The generated code of one schema, with the fields of its root table. -/
structure GeneratedSchema (Table : Type) where
  verify : List UInt8 → Bool
  /-- The fields, unless one of them is not inside the buffer. -/
  fields : List UInt8 → Option Table
  wellFormed :
    ∀ data, verify data = true → (fields data).isSome = true

namespace GeneratedSchema

variable {Table : Type}

/-- Read the root table of a buffer. -/
def read (schema : GeneratedSchema Table) (data : List UInt8) :
    Reading Table :=
  deref .outsideBuffer (schema.fields data)

/-- What holds of the fields of a buffer that has them. -/
def FieldsSatisfy
    (schema : GeneratedSchema Table) (data : List UInt8)
    (property : Table → Prop) : Prop :=
  ∀ table, schema.fields data = some table → property table

variable {schema : GeneratedSchema Table} {data : List UInt8}

theorem fieldsSatisfy_congr
    {first second : Table → Prop}
    (same : ∀ table, first table ↔ second table) :
    schema.FieldsSatisfy data first ↔ schema.FieldsSatisfy data second :=
  forall₂_congr fun table _ => same table

theorem returns_read_iff {table : Table} :
    Returns (schema.read data) table ↔ schema.fields data = some table :=
  Checked.returns_deref_iff

theorem defined_read (accepted : schema.verify data = true) :
    Defined (schema.read data) :=
  Checked.defined_deref_iff.mpr (schema.wellFormed data accepted)

/-- In an accepted buffer code is as safe as what it does with the fields. -/
theorem defined_read_bind_iff
    {Value : Type} {use : Table → Reading Value}
    (accepted : schema.verify data = true) :
    Defined (schema.read data >>= use) ↔
      schema.FieldsSatisfy data fun table => Defined (use table) := by
  rw [Checked.defined_bind_iff]
  constructor
  · rintro ⟨_, uses⟩ table stored
    exact uses table (returns_read_iff.mpr stored)
  · intro uses
    refine ⟨defined_read accepted, ?_⟩
    intro table returned
    exact uses table (returns_read_iff.mp returned)

theorem noThrow_read_bind
    {Value : Type} {use : Table → Reading Value}
    (quiet : ∀ table, NoThrow (use table)) :
    NoThrow (schema.read data >>= use) :=
  Checked.NoThrow.bind Checked.noThrow_deref quiet

end GeneratedSchema

/-- An element of a vector in a buffer. -/
def vectorGet (values : List UInt64) (index : Nat) : Reading UInt64 :=
  deref .beyondVector values[index]?

theorem defined_vectorGet_iff {values : List UInt64} {index : Nat} :
    Defined (vectorGet values index) ↔ index < values.length := by
  rw [vectorGet, Checked.defined_deref_iff, isSome_getElem?]

/-- The functions of an extractor. -/
structure Extractor where
  verify : List UInt8 → Bool
  sourceName : List UInt8 → Reading String
  timestamp : List UInt8 → Reading UInt64

/-- Both readings of a buffer have a meaning. -/
def Extractor.Safe (extractor : Extractor) (data : List UInt8) : Prop :=
  Defined (extractor.sourceName data) ∧ Defined (extractor.timestamp data)

/-! ## Names and plain timestamps -/

section Fields

variable {Table : Type}

/-- A name that is replaced by the empty one if it is absent. -/
def checkedName
    (schema : GeneratedSchema Table) (field : Table → Option String)
    (data : List UInt8) : Reading String := do
  let table ← schema.read data
  match field table with
  | none => pure ""
  | some name => pure name

/-- A name that is used without looking whether it is there. -/
def uncheckedName
    (schema : GeneratedSchema Table) (field : Table → Option String)
    (data : List UInt8) : Reading String := do
  let table ← schema.read data
  deref .absentField (field table)

/-- A timestamp that is a number in the table. -/
def plainTimestamp
    (schema : GeneratedSchema Table) (field : Table → UInt64)
    (data : List UInt8) : Reading UInt64 := do
  let table ← schema.read data
  pure (field table)

variable {schema : GeneratedSchema Table} {data : List UInt8}

theorem defined_checkedName
    (field : Table → Option String)
    (accepted : schema.verify data = true) :
    Defined (checkedName schema field data) := by
  apply (GeneratedSchema.defined_read_bind_iff accepted).mpr
  intro table _
  split
  · exact Checked.defined_pure
  · exact Checked.defined_pure

theorem defined_uncheckedName_iff
    (field : Table → Option String)
    (accepted : schema.verify data = true) :
    Defined (uncheckedName schema field data) ↔
      schema.FieldsSatisfy data fun table => (field table).isSome = true := by
  apply (GeneratedSchema.defined_read_bind_iff accepted).trans
  apply GeneratedSchema.fieldsSatisfy_congr
  intro table
  exact Checked.defined_deref_iff

theorem defined_plainTimestamp
    (field : Table → UInt64)
    (accepted : schema.verify data = true) :
    Defined (plainTimestamp schema field data) :=
  (GeneratedSchema.defined_read_bind_iff accepted).mpr fun _ _ =>
    Checked.defined_pure

theorem noThrow_checkedName (field : Table → Option String) :
    NoThrow (checkedName schema field data) := by
  apply GeneratedSchema.noThrow_read_bind
  intro table
  split
  · exact Checked.noThrow_pure
  · exact Checked.noThrow_pure

theorem noThrow_uncheckedName (field : Table → Option String) :
    NoThrow (uncheckedName schema field data) :=
  GeneratedSchema.noThrow_read_bind fun _ => Checked.noThrow_deref

end Fields

/-! ## The root tables -/

structure ADArray where
  sourceName : Option String
  timestamp : UInt64
deriving DecidableEq, Repr

/-- An EPICS time, with its parts as they are converted to 64 bits. -/
structure EpicsTimeStamp where
  secPastEpoch : UInt64
  nsec : UInt64
deriving DecidableEq, Repr

structure NDArray where
  epicsTS : Option EpicsTimeStamp
deriving DecidableEq, Repr

structure Alarm where
  sourceName : Option String
  timestamp : UInt64
deriving DecidableEq, Repr

structure EpicsConnectionInfo where
  sourceName : Option String
  timestamp : UInt64
deriving DecidableEq, Repr

structure EpicsPVConnectionInfo where
  sourceName : Option String
  timestamp : UInt64
deriving DecidableEq, Repr

structure EventMessage where
  sourceName : Option String
  pulseTime : UInt64
deriving DecidableEq, Repr

structure Event44Message where
  sourceName : Option String
  referenceTime : Option (List UInt64)
deriving DecidableEq, Repr

structure LogData where
  sourceName : Option String
  timestamp : UInt64
deriving DecidableEq, Repr

structure F144LogData where
  sourceName : Option String
  timestamp : UInt64
deriving DecidableEq, Repr

structure EventHistogram where
  source : Option String
  timestamp : UInt64
deriving DecidableEq, Repr

structure CacheEntry where
  key : Option String
  /-- Seconds since the epoch. -/
  time : Float

structure Se00SampleEnvironmentData where
  name : Option String
  packetTimestamp : UInt64
deriving DecidableEq, Repr

structure SampleEnvironmentData where
  name : Option String
  packetTimestamp : UInt64
deriving DecidableEq, Repr

structure Timestamp where
  name : Option String
  timestamps : Option (List UInt64)
deriving DecidableEq, Repr

/-- The code outside of the repository that the extractors call. -/
structure ExternalCode where
  adArray : GeneratedSchema ADArray
  ndArray : GeneratedSchema NDArray
  alarm : GeneratedSchema Alarm
  epicsConnectionInfo : GeneratedSchema EpicsConnectionInfo
  epicsPVConnectionInfo : GeneratedSchema EpicsPVConnectionInfo
  eventMessage : GeneratedSchema EventMessage
  event44Message : GeneratedSchema Event44Message
  logData : GeneratedSchema LogData
  f144LogData : GeneratedSchema F144LogData
  eventHistogram : GeneratedSchema EventHistogram
  cacheEntry : GeneratedSchema CacheEntry
  se00SampleEnvironmentData : GeneratedSchema Se00SampleEnvironmentData
  sampleEnvironmentData : GeneratedSchema SampleEnvironmentData
  timestamp : GeneratedSchema Timestamp
  /-- `std::lround`. -/
  lround : Float → Int64

/-! ## The extractors -/

namespace ExternalCode

def adarExtractor (code : ExternalCode) : Extractor where
  verify := code.adArray.verify
  sourceName := uncheckedName code.adArray (·.sourceName)
  timestamp := plainTimestamp code.adArray (·.timestamp)

/-- Nanoseconds since the UNIX epoch of a time since the EPICS epoch. -/
def epicsTimeToNsec (sec nsec : UInt64) : UInt64 :=
  (sec + 631152000) * 1000000000 + nsec

def ndarExtractor (code : ExternalCode) : Extractor where
  verify := code.ndArray.verify
  sourceName _ := pure "ADPluginKafka"
  timestamp data := do
    let table ← code.ndArray.read data
    let epicsTime ← deref .absentField table.epicsTS
    pure (epicsTimeToNsec epicsTime.secPastEpoch epicsTime.nsec)

def al00Extractor (code : ExternalCode) : Extractor where
  verify := code.alarm.verify
  sourceName := checkedName code.alarm (·.sourceName)
  timestamp := plainTimestamp code.alarm (·.timestamp)

def ep00Extractor (code : ExternalCode) : Extractor where
  verify := code.epicsConnectionInfo.verify
  sourceName := checkedName code.epicsConnectionInfo (·.sourceName)
  timestamp := plainTimestamp code.epicsConnectionInfo (·.timestamp)

def ep01Extractor (code : ExternalCode) : Extractor where
  verify := code.epicsPVConnectionInfo.verify
  sourceName := checkedName code.epicsPVConnectionInfo (·.sourceName)
  timestamp := plainTimestamp code.epicsPVConnectionInfo (·.timestamp)

def ev42Extractor (code : ExternalCode) : Extractor where
  verify := code.eventMessage.verify
  sourceName := checkedName code.eventMessage (·.sourceName)
  timestamp := plainTimestamp code.eventMessage (·.pulseTime)

def ev44Extractor (code : ExternalCode) : Extractor where
  verify := code.event44Message.verify
  sourceName := checkedName code.event44Message (·.sourceName)
  timestamp data := do
    let table ← code.event44Message.read data
    let referenceTime ← deref .absentField table.referenceTime
    vectorGet referenceTime 0

def f142Extractor (code : ExternalCode) : Extractor where
  verify := code.logData.verify
  sourceName := checkedName code.logData (·.sourceName)
  timestamp := plainTimestamp code.logData (·.timestamp)

def f144Extractor (code : ExternalCode) : Extractor where
  verify := code.f144LogData.verify
  sourceName := checkedName code.f144LogData (·.sourceName)
  timestamp := plainTimestamp code.f144LogData (·.timestamp)

def hs00Extractor (code : ExternalCode) : Extractor where
  verify := code.eventHistogram.verify
  sourceName := checkedName code.eventHistogram (·.source)
  timestamp := plainTimestamp code.eventHistogram (·.timestamp)

/-- The seconds of the cache entry, a `double`, are converted. -/
def ns10Extractor (code : ExternalCode) : Extractor where
  verify := code.cacheEntry.verify
  sourceName := uncheckedName code.cacheEntry (·.key)
  timestamp :=
    plainTimestamp code.cacheEntry fun entry =>
      (code.lround (1e9 * entry.time)).toUInt64

def se00Extractor (code : ExternalCode) : Extractor where
  verify := code.se00SampleEnvironmentData.verify
  sourceName := uncheckedName code.se00SampleEnvironmentData (·.name)
  timestamp := plainTimestamp code.se00SampleEnvironmentData (·.packetTimestamp)

def senvExtractor (code : ExternalCode) : Extractor where
  verify := code.sampleEnvironmentData.verify
  sourceName := uncheckedName code.sampleEnvironmentData (·.name)
  timestamp := plainTimestamp code.sampleEnvironmentData (·.packetTimestamp)

/-- Without timestamps the extractor throws a `std::runtime_error`. -/
def tdctExtractor (code : ExternalCode) : Extractor where
  verify := code.timestamp.verify
  sourceName := uncheckedName code.timestamp (·.name)
  timestamp data := do
    let table ← code.timestamp.read data
    let timestamps ← deref .absentField table.timestamps
    if timestamps.length = 0 then
      throw .other
    else
      vectorGet timestamps 0

end ExternalCode

/-- The extractor of the template, which is part of the program as well. -/
def templateExtractor : Extractor where
  verify _ := true
  sourceName _ := pure ""
  timestamp _ := pure 0

/-! ## The registered extractors -/

/-- The extractors for which there is a registrar. -/
inductive Registered where
  | ADAr | NDAr | al00 | ep00 | ep01 | ev42 | ev44 | f142 | f144 | hs00
  | ns10 | se00 | senv | tdct | template
deriving DecidableEq, Repr

namespace Registered

/-- The flatbuffer id under which an extractor is registered. -/
def flatbufferID : Registered → String
  | ADAr => "ADAr"
  | NDAr => "NDAr"
  | al00 => "al00"
  | ep00 => "ep00"
  | ep01 => "ep01"
  | ev42 => "ev42"
  | ev44 => "ev44"
  | f142 => "f142"
  | f144 => "f144"
  | hs00 => "hs00"
  | ns10 => "ns10"
  | se00 => "se00"
  | senv => "senv"
  | tdct => "tdct"
  | template => "test"

def extractor (code : ExternalCode) : Registered → Extractor
  | ADAr => code.adarExtractor
  | NDAr => code.ndarExtractor
  | al00 => code.al00Extractor
  | ep00 => code.ep00Extractor
  | ep01 => code.ep01Extractor
  | ev42 => code.ev42Extractor
  | ev44 => code.ev44Extractor
  | f142 => code.f142Extractor
  | f144 => code.f144Extractor
  | hs00 => code.hs00Extractor
  | ns10 => code.ns10Extractor
  | se00 => code.se00Extractor
  | senv => code.senvExtractor
  | tdct => code.tdctExtractor
  | template => templateExtractor

/-- All extractors, in an arbitrary order. -/
def all : List Registered :=
  [ADAr, NDAr, al00, ep00, ep01, ev42, ev44, f142, f144, hs00, ns10, se00,
    senv, tdct, template]

theorem mem_all (registered : Registered) : registered ∈ all := by
  cases registered <;> decide

theorem flatbufferID_injective : Function.Injective flatbufferID := by
  intro first second same
  cases first <;> cases second <;> first | rfl | simp [flatbufferID] at same

theorem length_flatbufferID (registered : Registered) :
    registered.flatbufferID.length = 4 := by
  cases registered <;> decide

/-! ## What the extractors rely on -/

/--
The fields that an extractor uses without looking whether they are there.  For
a vector whose first element is read it has to have one, unless the extractor
asks for its length first.
-/
def FieldsPresent (code : ExternalCode) (data : List UInt8) :
    Registered → Prop
  | ADAr =>
      code.adArray.FieldsSatisfy data fun table =>
        table.sourceName.isSome = true
  | NDAr =>
      code.ndArray.FieldsSatisfy data fun table => table.epicsTS.isSome = true
  | ev44 =>
      code.event44Message.FieldsSatisfy data fun table =>
        ∃ first rest, table.referenceTime = some (first :: rest)
  | ns10 =>
      code.cacheEntry.FieldsSatisfy data fun table => table.key.isSome = true
  | se00 =>
      code.se00SampleEnvironmentData.FieldsSatisfy data fun table =>
        table.name.isSome = true
  | senv =>
      code.sampleEnvironmentData.FieldsSatisfy data fun table =>
        table.name.isSome = true
  | tdct =>
      code.timestamp.FieldsSatisfy data fun table =>
        table.name.isSome = true ∧ table.timestamps.isSome = true
  | al00 | ep00 | ep01 | ev42 | f142 | f144 | hs00 | template => True

section Safety

variable {code : ExternalCode} {data : List UInt8}

theorem noThrow_sourceName (registered : Registered) :
    NoThrow ((registered.extractor code).sourceName data) := by
  cases registered with
  | NDAr | template => exact Checked.noThrow_pure
  | ADAr | ns10 | se00 | senv | tdct => exact noThrow_uncheckedName _
  | al00 | ep00 | ep01 | ev42 | ev44 | f142 | f144 | hs00 =>
      exact noThrow_checkedName _

theorem defined_ndarTimestamp_iff
    (accepted : code.ndArray.verify data = true) :
    Defined (code.ndarExtractor.timestamp data) ↔
      FieldsPresent code data NDAr := by
  apply (GeneratedSchema.defined_read_bind_iff accepted).trans
  apply GeneratedSchema.fieldsSatisfy_congr
  intro table
  rw [Checked.defined_bind_iff, Checked.defined_deref_iff]
  exact and_iff_left fun _ _ => Checked.defined_pure

theorem defined_ev44Timestamp_iff
    (accepted : code.event44Message.verify data = true) :
    Defined (code.ev44Extractor.timestamp data) ↔
      FieldsPresent code data ev44 := by
  apply (GeneratedSchema.defined_read_bind_iff accepted).trans
  apply GeneratedSchema.fieldsSatisfy_congr
  intro table
  rw [Checked.defined_bind_iff, Checked.defined_deref_iff]
  cases stored : table.referenceTime with
  | none => simp
  | some referenceTime =>
      cases referenceTime <;> simp [defined_vectorGet_iff]

/-- The extractor throws where the vector of the timestamps is empty. -/
theorem defined_tdctTimestamp_iff
    (accepted : code.timestamp.verify data = true) :
    Defined (code.tdctExtractor.timestamp data) ↔
      code.timestamp.FieldsSatisfy data fun table =>
        table.timestamps.isSome = true := by
  apply (GeneratedSchema.defined_read_bind_iff accepted).trans
  apply GeneratedSchema.fieldsSatisfy_congr
  intro table
  rw [Checked.defined_bind_iff, Checked.defined_deref_iff]
  apply and_iff_left
  intro timestamps _
  split
  · exact Checked.defined_throw
  · exact defined_vectorGet_iff.mpr (by omega)

/-- An extractor is safe on the accepted buffers that have these fields. -/
theorem safe_iff (registered : Registered)
    (accepted : (registered.extractor code).verify data = true) :
    (registered.extractor code).Safe data ↔
      registered.FieldsPresent code data := by
  cases registered with
  | template =>
      exact iff_of_true ⟨Checked.defined_pure, Checked.defined_pure⟩ trivial
  | al00 | ep00 | ep01 | ev42 | f142 | f144 | hs00 =>
      exact iff_of_true
        ⟨defined_checkedName _ accepted, defined_plainTimestamp _ accepted⟩
        trivial
  | ADAr | ns10 | se00 | senv =>
      exact (and_iff_left (defined_plainTimestamp _ accepted)).trans
        (defined_uncheckedName_iff _ accepted)
  | NDAr =>
      exact (and_iff_right Checked.defined_pure).trans
        (defined_ndarTimestamp_iff accepted)
  | ev44 =>
      exact (and_iff_right (defined_checkedName _ accepted)).trans
        (defined_ev44Timestamp_iff accepted)
  | tdct =>
      apply (and_congr (defined_uncheckedName_iff _ accepted)
        (defined_tdctTimestamp_iff accepted)).trans
      exact forall₂_and.symm

end Safety

end Registered

end KafkaToNexus.AccessMessageMetadata
