import KafkaToNexus.FlatbufferReaderRegistry
import KafkaToNexus.Stream.Partition

/-!
# Messages taken from a shared topic

Every message of a topic reaches `FlatbufferMessage`, whoever wrote it.  Here
the constructor is modelled with the behaviour of the extractors that it
calls, so that it returns, throws or has no meaning.  Where it has a meaning
it is the construction on which the streams are modelled, with the readers
that the registry has after the start.

The construction is safe exactly on the messages whose fields are there: an
extractor that follows a pointer without looking, or that reads the first
element of an empty vector, takes the whole process with it.  The messages
that fail by an exception are counted and change nothing else.
-/

namespace KafkaToNexus.AccessMessageMetadata

open KafkaToNexus.Foundations
open KafkaToNexus.Foundations.Checked (deref undefined rethrow Defined Returns)
open KafkaToNexus.FlatbufferMessage
  (stringOfBytes calcSourceHash readerFailure)

/-! ## The construction of a message -/

/-- A part of a buffer that has to be inside of it. -/
def bytesAt (data : List UInt8) (start count : Nat) :
    Checked UndefinedBehaviour FlatbufferError (List UInt8) :=
  if start + count ≤ data.length then
    pure ((data.drop start).take count)
  else
    undefined .outsideBuffer

/-- A timestamp of 64 bits as it is stored in the message. -/
def storedTimestamp (timestamp : UInt64) : Int :=
  timestamp.toInt64.toInt

/-- The schema id that is stored in a buffer. -/
def bufferID (data : List UInt8) : String :=
  stringOfBytes ((data.drop 4).take 4)

/-- What a program that has started takes from outside of the messages. -/
structure Process where
  startUp : StartUp
  code : ExternalCode
  /-- `std::hash<std::string>`. -/
  hash : String → UInt64

/-- The reader that an extractor is where its behaviour is defined. -/
def Extractor.toReader (extractor : Extractor) : FlatbufferReader where
  verify := extractor.verify
  sourceName data := (extractor.sourceName data).outcome .other
  timestamp data :=
    ((extractor.timestamp data).outcome .other).map storedTimestamp

namespace Process

/-- The surroundings in which the streams construct their messages. -/
def context (process : Process) : MessageContext where
  findReader id :=
    (process.startUp.find process.code id).map Extractor.toReader
  hash := process.hash

/-- What `extractPacketInfo` does with a buffer that was verified. -/
def readPacketInfo
    (process : Process) (reader : Extractor) (flatbufferID : String)
    (data : List UInt8) :
    Checked UndefinedBehaviour FlatbufferError FlatbufferMessage := do
  let sourcename ← rethrow readerFailure (reader.sourceName data)
  let timestamp ← rethrow readerFailure (reader.timestamp data)
  if storedTimestamp timestamp = 0 then
    throw .invalidFlatbufferTimestamp
  else
    pure
      { data
        sourceNameIDHash :=
          calcSourceHash process.context flatbufferID sourcename
        sourcename
        id := flatbufferID
        timestamp := storedTimestamp timestamp
        valid := true }

/-- Verify a buffer and extract its source name and timestamp. -/
def extractPacketInfo (process : Process) (data : List UInt8) :
    Checked UndefinedBehaviour FlatbufferError FlatbufferMessage :=
  if data.length < 8 then
    throw .bufferTooSmall
  else do
    let idBytes ← bytesAt data 4 4
    let flatbufferID := stringOfBytes idBytes
    match process.startUp.find process.code flatbufferID with
    | none => throw .unknownFlatbufferID
    | some reader =>
        if reader.verify data = false then
          throw .notValidFlatbuffer
        else
          process.readPacketInfo reader flatbufferID data

/-- The constructor that takes a Kafka message. -/
def ofKafkaMessage (process : Process) (message : Msg) :
    Checked UndefinedBehaviour FlatbufferError FlatbufferMessage :=
  process.extractPacketInfo message.data

section Construction

variable {process : Process} {data : List UInt8}

/-- The id is read where the length was checked. -/
theorem bytesAt_id (large : ¬ data.length < 8) :
    bytesAt data 4 4 = pure ((data.drop 4).take 4) := by
  rw [bytesAt, if_pos (Nat.le_of_not_lt large)]

theorem outcome_rethrow_reader {Value : Type} (reading : Reading Value) :
    (rethrow readerFailure reading).outcome .stdException =
      (reading.outcome .other).mapError readerFailure := by
  have placeholder : readerFailure .other = .stdException := rfl
  rw [← placeholder, Checked.outcome_rethrow]

/-- The outcome is the one on which the streams are modelled. -/
theorem outcome_extractPacketInfo :
    (process.extractPacketInfo data).outcome .stdException =
      FlatbufferMessage.extractPacketInfo process.context data := by
  rw [extractPacketInfo, FlatbufferMessage.extractPacketInfo]
  split
  · exact Checked.outcome_throw
  · rename_i large
    rw [bytesAt_id large, pure_bind]
    dsimp only [context]
    cases process.startUp.find process.code
        (stringOfBytes ((data.drop 4).take 4)) with
    | none => exact Checked.outcome_throw
    | some reader =>
        dsimp only [Option.map_some, Extractor.toReader]
        split
        · exact Checked.outcome_throw
        · rw [readPacketInfo, Checked.outcome_bind, outcome_rethrow_reader]
          cases (reader.sourceName data).outcome .other with
          | error failure => rfl
          | ok sourcename =>
              show Checked.outcome _ (rethrow _ _ >>= _) = _
              rw [Checked.outcome_bind, outcome_rethrow_reader]
              cases (reader.timestamp data).outcome .other with
              | error failure => rfl
              | ok timestamp =>
                  show Checked.outcome _ (ite _ _ _) = ite _ _ _
                  split
                  · exact Checked.outcome_throw
                  · exact Checked.outcome_pure

/-- Where the construction has a meaning it does what the streams rely on. -/
theorem run_ofKafkaMessage
    {message : Msg} (defined : Defined (process.ofKafkaMessage message)) :
    (process.ofKafkaMessage message).run =
      .ok (FlatbufferMessage.ofKafkaMessage process.context message) := by
  rw [defined.run_eq]
  exact congrArg Except.ok outcome_extractPacketInfo

/-! ## Accepted buffers -/

/-- A buffer is selected for an extractor and passes its verifier. -/
structure Accepts
    (process : Process) (registered : Registered) (data : List UInt8) :
    Prop where
  large : 8 ≤ data.length
  selected : registered.flatbufferID = bufferID data
  verified : (registered.extractor process.code).verify data = true

/-- The buffer has the fields that its extractor uses without looking. -/
def FieldsPresent (process : Process) (data : List UInt8) : Prop :=
  ∀ registered, process.Accepts registered data →
    registered.FieldsPresent process.code data

/-- One extractor at most accepts a buffer. -/
theorem Accepts.unique
    {first second : Registered}
    (accepts : process.Accepts first data)
    (again : process.Accepts second data) :
    first = second :=
  Registered.flatbufferID_injective
    (accepts.selected.trans again.selected.symm)

/-- A buffer is either turned down with an exception or accepted and read. -/
theorem extractPacketInfo_cases (process : Process) (data : List UInt8) :
    (∃ failure, process.extractPacketInfo data = throw failure ∧
        ∀ registered, ¬ process.Accepts registered data) ∨
      ∃ registered, process.Accepts registered data ∧
        process.extractPacketInfo data =
          process.readPacketInfo (registered.extractor process.code)
            (bufferID data) data := by
  rw [extractPacketInfo]
  split
  · rename_i small
    refine .inl ⟨_, rfl, ?_⟩
    intro registered accepts
    exact Nat.not_le_of_lt small accepts.large
  · rename_i large
    rw [bytesAt_id large, pure_bind]
    dsimp only
    cases found : process.startUp.find process.code
        (stringOfBytes ((data.drop 4).take 4)) with
    | none =>
        refine .inl ⟨_, rfl, ?_⟩
        intro registered accepts
        have known :
            process.startUp.find process.code (bufferID data) =
              some (registered.extractor process.code) :=
          StartUp.find_eq_some_iff.mpr ⟨registered, accepts.selected, rfl⟩
        cases found.symm.trans known
    | some reader =>
        rcases StartUp.find_eq_some_iff.mp found with
          ⟨registered, selected, rfl⟩
        dsimp only
        split
        · rename_i rejected
          refine .inl ⟨_, rfl, ?_⟩
          intro other accepts
          rw [Registered.flatbufferID_injective
            (selected.trans accepts.selected.symm)] at rejected
          cases rejected.symm.trans accepts.verified
        · rename_i verified
          refine .inr ⟨registered, ?_, rfl⟩
          constructor
          · exact Nat.le_of_not_lt large
          · exact selected
          · exact eq_true_of_ne_false verified

theorem defined_readPacketInfo_iff
    {reader : Extractor} {flatbufferID : String}
    (quiet : Checked.NoThrow (reader.sourceName data)) :
    Defined (process.readPacketInfo reader flatbufferID data) ↔
      reader.Safe data := by
  rw [readPacketInfo, Checked.defined_bind_iff, Checked.defined_rethrow_iff]
  apply and_congr_right
  intro named
  rcases quiet.defined_iff.mp named with ⟨sourcename, returns⟩
  constructor
  · intro rest
    have timed :=
      rest sourcename ((Checked.returns_rethrow_iff _).mpr returns)
    rw [Checked.defined_bind_iff, Checked.defined_rethrow_iff] at timed
    exact timed.1
  · intro timed sourcename _
    rw [Checked.defined_bind_iff, Checked.defined_rethrow_iff]
    refine ⟨timed, ?_⟩
    intro timestamp _
    split
    · exact Checked.defined_throw
    · exact Checked.defined_pure

/-- The construction has a meaning exactly where the fields are there. -/
theorem defined_extractPacketInfo_iff :
    Defined (process.extractPacketInfo data) ↔
      process.FieldsPresent data := by
  rcases extractPacketInfo_cases process data with
    ⟨failure, thrown, rejected⟩ | ⟨registered, accepts, read⟩
  · rw [thrown]
    apply iff_of_true Checked.defined_throw
    intro registered accepts
    exact (rejected registered accepts).elim
  · rw [read, defined_readPacketInfo_iff registered.noThrow_sourceName,
      registered.safe_iff accepts.verified]
    constructor
    · intro present other again
      rw [← accepts.unique again]
      exact present
    · intro present
      exact present registered accepts

/-- The message of a buffer whose construction succeeded. -/
structure WellBuilt
    (process : Process) (data : List UInt8) (built : FlatbufferMessage) :
    Prop where
  bytes : built.data = data
  id : built.id = bufferID data
  sourcename :
    ∃ reader, process.startUp.find process.code built.id = some reader ∧
      Returns (reader.sourceName data) built.sourcename
  valid : built.valid = true
  timestamp : built.timestamp ≠ 0
  sourceNameIDHash :
    built.sourceNameIDHash =
      calcSourceHash process.context built.id built.sourcename

theorem WellBuilt.of_returns
    {built : FlatbufferMessage}
    (returns : Returns (process.extractPacketInfo data) built) :
    process.WellBuilt data built := by
  rcases extractPacketInfo_cases process data with
    ⟨failure, thrown, _⟩ | ⟨registered, accepts, read⟩
  · rw [thrown] at returns
    exact (Checked.not_returns_throw returns).elim
  · rw [read, readPacketInfo] at returns
    rcases Checked.returns_bind_iff.mp returns with ⟨name, named, rest⟩
    rcases Checked.returns_bind_iff.mp rest with ⟨time, _, stored⟩
    split at stored
    · exact (Checked.not_returns_throw stored).elim
    · rename_i nonzero
      rw [← Checked.returns_pure_iff.mp stored]
      constructor
      · rfl
      · rfl
      · exact
          ⟨registered.extractor process.code,
            StartUp.find_eq_some_iff.mpr ⟨registered, accepts.selected, rfl⟩,
            (Checked.returns_rethrow_iff _).mp named⟩
      · rfl
      · exact nonzero
      · rfl

end Construction

/-! ## The partition that consumes the messages -/

section Consumption

open KafkaToNexus.Stream (Partition PartitionMetrics SendEvent)

variable {Dest : Type*}

/--
`Partition::processMessage`.  The message is constructed first, and only where
this has a meaning the partition goes on.
-/
def processMessage
    (process : Process) (partition : Partition Dest) (message : Msg) :
    Except UndefinedBehaviour (Partition Dest × List (SendEvent Dest)) :=
  (process.ofKafkaMessage message).run.map fun _ =>
    Partition.processMessage process.context partition message

/-- The counters of the kinds of messages that cannot be used. -/
def specificErrors (metrics : PartitionMetrics) : List Nat :=
  [metrics.bufferTooSmallErrors, metrics.badFlatbufferTimestampErrors,
    metrics.unknownFlatbufferIdErrors, metrics.notValidFlatbufferErrors]

/-- A message was counted as an error and had no other effect. -/
structure CountedOnly
    (before after : Partition Dest) (events : List (SendEvent Dest)) :
    Prop where
  flatbufferErrors :
    after.metrics.flatbufferErrors = before.metrics.flatbufferErrors + 1
  specific :
    specificErrors after.metrics = specificErrors before.metrics ∨
      ∃ index,
        specificErrors after.metrics =
          (specificErrors before.metrics).modify index (· + 1)
  forwarded : events = []
  msgFilters : after.msgFilters = before.msgFilters

theorem flatbufferErrors_countFlatbufferError
    (metrics : PartitionMetrics) (failure : FlatbufferError) :
    (Partition.countFlatbufferError metrics failure).flatbufferErrors =
      metrics.flatbufferErrors + 1 := by
  cases failure <;> rfl

/-- Every kind of exception has its own counter, apart from the last one. -/
theorem specificErrors_countFlatbufferError
    (metrics : PartitionMetrics) (failure : FlatbufferError) :
    specificErrors (Partition.countFlatbufferError metrics failure) =
        specificErrors metrics ∨
      ∃ index,
        specificErrors (Partition.countFlatbufferError metrics failure) =
          (specificErrors metrics).modify index (· + 1) := by
  cases failure with
  | bufferTooSmall => exact .inr ⟨0, rfl⟩
  | invalidFlatbufferTimestamp => exact .inr ⟨1, rfl⟩
  | unknownFlatbufferID => exact .inr ⟨2, rfl⟩
  | notValidFlatbuffer => exact .inr ⟨3, rfl⟩
  | stdException => exact .inl rfl

/-- A message whose construction throws is counted and dropped. -/
theorem countedOnly_of_error
    {context : MessageContext} {message : Msg} {failure : FlatbufferError}
    (partition : Partition Dest)
    (failed :
      FlatbufferMessage.ofKafkaMessage context message = .error failure) :
    CountedOnly partition
      (Partition.processMessage context partition message).1
      (Partition.processMessage context partition message).2 := by
  let counted : PartitionMetrics :=
    if partition.currentOffset ≠ 0 ∧
        partition.currentOffset + 1 ≠ message.metaData.offset then
      { partition.metrics with
        badOffsets := partition.metrics.badOffsets + 1 }
    else
      partition.metrics
  have errors :
      counted.flatbufferErrors = partition.metrics.flatbufferErrors := by
    simp only [counted]
    split
    · rfl
    · rfl
  have specific :
      specificErrors counted = specificErrors partition.metrics := by
    simp only [counted]
    split
    · rfl
    · rfl
  rw [Partition.processMessage, failed]
  constructor
  · exact (flatbufferErrors_countFlatbufferError counted failure).trans
      (congrArg (· + 1) errors)
  · rw [← specific]
    exact specificErrors_countFlatbufferError counted failure
  · rfl
  · rfl

/-- Taking in a message is safe and, if it fails, accounted for. -/
structure IngestedSafely
    (Dest : Type*) (process : Process) (message : Msg) : Prop where
  /-- The construction returns or throws. -/
  constructed : Defined (process.ofKafkaMessage message)
  built :
    ∀ built, Returns (process.ofKafkaMessage message) built →
      process.WellBuilt message.data built
  processed :
    ∀ partition : Partition Dest, ∃ after events,
      process.processMessage partition message = .ok (after, events) ∧
        ∀ failure,
          (process.ofKafkaMessage message).run = .ok (.error failure) →
            CountedOnly partition after events

/--
Taking in a message is safe exactly if its buffer has the fields that the
extractor of its schema uses without looking.
-/
theorem ingestedSafely_iff
    (Dest : Type*) (process : Process) (message : Msg) :
    IngestedSafely Dest process message ↔
      process.FieldsPresent message.data := by
  constructor
  · intro safely
    exact defined_extractPacketInfo_iff.mp safely.constructed
  · intro present
    have defined : Defined (process.ofKafkaMessage message) :=
      defined_extractPacketInfo_iff.mpr present
    have ran := run_ofKafkaMessage defined
    constructor
    · exact defined
    · intro built returns
      exact WellBuilt.of_returns returns
    · intro partition
      let processed :=
        Partition.processMessage process.context partition message
      refine ⟨processed.1, processed.2, ?_, ?_⟩
      · rw [processMessage, ran]
        rfl
      · intro failure failed
        rw [ran] at failed
        injection failed with failed
        exact countedOnly_of_error partition failed

/-! ## A message without reference times -/

/-- A schema of which no buffer is accepted. -/
def unusedSchema (Table : Type) : GeneratedSchema Table where
  verify _ := false
  fields _ := none
  wellFormed := by
    intro data accepted
    cases accepted

/--
A buffer of 64 bytes.  Its table has the source name `s`; all of its vectors
are there and empty, and the one of the reference times is at its very end.

The offset of the table and the schema id come first, then the sizes of the
block and of the table with the offsets in it, then the table with the places
of the name and of the four vectors, then the name, and last the vector that
three of them share and the one of the reference times.
-/
def ev44WithoutTimes : List UInt8 :=
  [ 24, 0, 0, 0, 101, 118, 52, 52,
    16, 0, 24, 0, 4, 0, 0, 0, 8, 0, 12, 0, 16, 0, 20, 0,
    16, 0, 0, 0, 20, 0, 0, 0, 28, 0, 0, 0, 20, 0, 0, 0, 16, 0, 0, 0,
    12, 0, 0, 0,
    1, 0, 0, 0, 115, 0, 0, 0,
    0, 0, 0, 0, 0, 0, 0, 0]

/-- The generated code for events, on the buffer without reference times. -/
def event44Schema : GeneratedSchema Event44Message where
  verify data := data == ev44WithoutTimes
  fields data :=
    if data = ev44WithoutTimes then
      some { sourceName := some "s", referenceTime := some [] }
    else
      none
  wellFormed := by
    intro data accepted
    rw [if_pos (eq_of_beq accepted)]
    rfl

def eventProcess : Process where
  startUp := { order := Registered.all, complete := .refl _ }
  code :=
    { adArray := unusedSchema _
      ndArray := unusedSchema _
      alarm := unusedSchema _
      epicsConnectionInfo := unusedSchema _
      epicsPVConnectionInfo := unusedSchema _
      eventMessage := unusedSchema _
      event44Message := event44Schema
      logData := unusedSchema _
      f144LogData := unusedSchema _
      eventHistogram := unusedSchema _
      cacheEntry := unusedSchema _
      se00SampleEnvironmentData := unusedSchema _
      sampleEnvironmentData := unusedSchema _
      timestamp := unusedSchema _
      lround := Float.toInt64 }
  hash _ := 0

/-- The first element of the empty vector is read. -/
theorem empty_reference_time_not_safe :
    ¬ IngestedSafely Unit eventProcess { data := ev44WithoutTimes } := by
  intro safely
  have accepts : eventProcess.Accepts .ev44 ev44WithoutTimes := by
    constructor
    · decide
    · decide
    · exact beq_self_eq_true ev44WithoutTimes
  have stored :
      event44Schema.fields ev44WithoutTimes =
        some { sourceName := some "s", referenceTime := some [] } := by
    simp [event44Schema]
  have present :=
    defined_extractPacketInfo_iff.mp safely.constructed .ev44 accepts
  rcases present _ stored with ⟨first, rest, nonempty⟩
  cases nonempty

end Consumption

end Process

end KafkaToNexus.AccessMessageMetadata
