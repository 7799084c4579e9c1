import KafkaToNexus.Metrics
import KafkaToNexus.Foundations.Execution
import KafkaToNexus.Stream.MessageWriter

/-!
# The jobs of the writer thread

`MessageWriter` shows the writer thread as far as the queue of messages is
concerned.  Here the jobs are executed as well: a writer module may throw, the
outcome of each write is counted, and a `WriterException` has a metric
registered for its source while the exception is handled.  Jobs that are not
writes come from `runJob`, and the file is flushed in between.

Registering a metric throws if its full name is taken, and an exception that
leaves a job ends the process.  The reporter of log messages is shared by all
components, so the names that the others register are part of the system.
There is one writer at a time: a job destroys its own before the next begins.
-/

namespace KafkaToNexus.Stream

open KafkaToNexus
open KafkaToNexus.Foundations
open KafkaToNexus.Foundations.ProducerQueue
open KafkaToNexus.Metrics

variable {Thread Dest Job : Type*}

/-- What is in the queue: the write of a message or a job of `runJob`. -/
inductive WriteJob (Dest Job : Type*) where
  | writeMsg (message : Message Dest)
  | run (job : Job)
deriving DecidableEq, Repr

/-- What a call of a writer module's `write` does. -/
inductive WriteOutcome where
  | returned
  | writerException
  /-- Any other exception derived from `std::exception`. -/
  | stdException
deriving DecidableEq, Repr

/-- What threw the exception that left the writer thread. -/
inductive Thrower where
  | runJob
  | flushData
  | registerMetric (thrown : RegisterException)
deriving DecidableEq, Repr

/-- Where the writer thread is. -/
inductive JobPoint (Thread Dest Job : Type*) where
  /-- At the condition of the loop. -/
  | loopCondition
  /-- At the condition of the loop of `WriteOperation`. -/
  | dequeuing (checkTimeCounter : Nat) (afterLoop : Bool)
  /-- In a job. -/
  | running (entry : Entry Thread (WriteJob Dest Job))
      (checkTimeCounter : Nat) (afterLoop : Bool)
  /-- In the handler of a `WriterException`. -/
  | handling (message : Message Dest) (checkTimeCounter : Nat)
      (afterLoop : Bool)
  /-- In the `FlushOperation` of `WriteOperation`. -/
  | flushingJobs (afterLoop : Bool)
  /-- In the `FlushOperation` of the loop. -/
  | flushing
  /-- Before the second look at the flag. -/
  | written
  | sleeping
  | exited
  /-- An exception has left the thread, which ends the process. -/
  | terminated (thrower : Thrower)
deriving DecidableEq, Repr

/-- The writer with what its jobs read and write. -/
structure JobWriter (Thread Dest Job : Type*) where
  registrar : Registrar
  /-- The reporters of the process. -/
  reporters : Reporters
  writeJobs : Queue Thread (WriteJob Dest Job) := []
  runThread : Bool := true
  point : JobPoint Thread Dest Job := .loopCondition
  writesDone : Nat := 0
  writeErrors : Nat := 0
  /-- The values of the counters that exist. -/
  moduleErrorCounters : UInt64 → Option Nat := fun _ => none

/-- A step of the system, as it is seen from outside. -/
inductive JobLabel (Thread Dest Job : Type*) where
  /-- A call of `addMessage` or `runJob`. -/
  | enqueue (caller : Thread) (job : WriteJob Dest Job)
  /-- A call of `stop`, or the destructor. -/
  | stop
  /-- A job has been executed. -/
  | executed (entry : Entry Thread (WriteJob Dest Job))
  | other
deriving DecidableEq, Repr

def generateSrcHash
    (context : MessageContext) (source flatbufferId : String) : UInt64 :=
  context.hash (source ++ flatbufferId)

def unknownModuleHash (context : MessageContext) : UInt64 :=
  generateSrcHash context "Unknown source" "Unknown fb-id"

/-- The name of the metric for the errors of one source. -/
def moduleErrorName (msg : FlatbufferMessage) : String :=
  "error_" ++ msg.sourcename ++ "_" ++ msg.id

/--
The names of the metrics that the other components register with the reporter
of log messages: those of a partition and those of a filter.
-/
def otherMetricNames : List String :=
  ["kafka_errors", "bad_offsets", "flatbuffer_errors",
    "flatbuffer_errors.bad_timestamps",
    "flatbuffer_errors.unknown_flatbuffer",
    "flatbuffer_errors.invalid_flatbuffer",
    "flatbuffer_errors.small_buffer",
    "flatbuffer_invalid", "unordered_timestamp"]

/-- A full name of another component's metric. -/
def OtherMetric (fullName : String) : Prop :=
  ∃ (registrar : Registrar) (name : String),
    name ∈ otherMetricNames ∧ fullName = registrar.prependPrefix name

namespace JobWriter

variable {context : MessageContext}

/-- The registrations of the constructor. -/
def registerMetrics
    (registrar : Registrar) (reporters : Reporters) :
    Except RegisterException Reporters := do
  let reporters ←
    registrar.registerMetric "writes_done" [.carbon] reporters
  let reporters ←
    registrar.registerMetric "write_errors" [.carbon, .logMsg] reporters
  let reporters ←
    registrar.registerMetric "approx_queued_writes" [.carbon] reporters
  registrar.registerMetric "error_unknown" [.logMsg] reporters

/-- The constructor, given the registrar of the stream controller. -/
def create
    (context : MessageContext) (metricReg : Registrar)
    (reporters : Reporters) :
    Except RegisterException (JobWriter Thread Dest Job) :=
  let registrar := metricReg.getNewRegistrar "writer"
  match registerMetrics registrar reporters with
  | .error thrown => .error thrown
  | .ok reporters =>
      .ok
        { registrar
          reporters
          moduleErrorCounters :=
            Function.update (fun _ => none) (unknownModuleHash context)
              (some 0) }

/-- `addMessage` and `runJob`, called by a thread. -/
def addJob
    (writer : JobWriter Thread Dest Job) (caller : Thread)
    (job : WriteJob Dest Job) : JobWriter Thread Dest Job :=
  { writer with writeJobs := enqueue writer.writeJobs caller job }

def stop (writer : JobWriter Thread Dest Job) : JobWriter Thread Dest Job :=
  { writer with runThread := false }

def goTo
    (writer : JobWriter Thread Dest Job)
    (point : JobPoint Thread Dest Job) : JobWriter Thread Dest Job :=
  { writer with point }

/-- `operator++` of a counter, which has to exist. -/
def countModuleError
    (writer : JobWriter Thread Dest Job) (usedHash : UInt64) :
    JobWriter Thread Dest Job :=
  { writer with
    moduleErrorCounters :=
      Function.update writer.moduleErrorCounters usedHash
        ((writer.moduleErrorCounters usedHash).map (· + 1)) }

/-- A new counter with the reporters that know it. -/
def addModuleErrorCounter
    (writer : JobWriter Thread Dest Job) (usedHash : UInt64)
    (reporters : Reporters) : JobWriter Thread Dest Job :=
  { writer with
    reporters
    moduleErrorCounters :=
      Function.update writer.moduleErrorCounters usedHash (some 0) }

/-- The handler of a `WriterException`, after it has counted the error. -/
def handleWriterException
    (context : MessageContext) (writer : JobWriter Thread Dest Job)
    (msg : FlatbufferMessage) :
    Except RegisterException (JobWriter Thread Dest Job) :=
  if msg.valid then
    let usedHash := generateSrcHash context msg.sourcename msg.id
    match writer.moduleErrorCounters usedHash with
    | some _ => .ok (writer.countModuleError usedHash)
    | none =>
        match writer.registrar.registerMetric (moduleErrorName msg)
            [.logMsg] writer.reporters with
        | .error thrown => .error thrown
        | .ok reporters =>
            .ok
              ((writer.addModuleErrorCounter usedHash reporters).countModuleError
                usedHash)
  else
    .ok (writer.countModuleError (unknownModuleHash context))

/-- Where the thread is after a job: the time is checked now and then. -/
def afterJob (checkTimeCounter : Nat) (afterLoop : Bool) :
    JobPoint Thread Dest Job :=
  if MessageWriter.maxTimeCheckCounter < checkTimeCounter + 1 then
    .flushingJobs afterLoop
  else
    .dequeuing (checkTimeCounter + 1) afterLoop

/-- The write of a message has come to its end. -/
def wrote
    (writer : JobWriter Thread Dest Job) (message : Message Dest)
    (outcome : WriteOutcome) (checkTimeCounter : Nat) (afterLoop : Bool) :
    JobWriter Thread Dest Job :=
  match outcome with
  | .returned =>
      { writer with
        writesDone := writer.writesDone + 1
        point := afterJob checkTimeCounter afterLoop }
  | .writerException =>
      { writer with
        writeErrors := writer.writeErrors + 1
        point := .handling message checkTimeCounter afterLoop }
  | .stdException =>
      { writer with
        writeErrors := writer.writeErrors + 1
        point := afterJob checkTimeCounter afterLoop }

/-- What the producers, the writer thread and the other components do. -/
inductive Step (context : MessageContext) :
    JobWriter Thread Dest Job → JobLabel Thread Dest Job →
      JobWriter Thread Dest Job → Prop where
  | addMessage {writer : JobWriter Thread Dest Job} (caller : Thread)
      (message : Message Dest) :
      FlatbufferMessage.Constructed context message.fbMsg →
      Step context writer (.enqueue caller (.writeMsg message))
        (writer.addJob caller (.writeMsg message))
  | runJob {writer : JobWriter Thread Dest Job} (caller : Thread)
      (job : Job) :
      Step context writer (.enqueue caller (.run job))
        (writer.addJob caller (.run job))
  | stop {writer : JobWriter Thread Dest Job} :
      Step context writer .stop writer.stop
  | registerOther {writer : JobWriter Thread Dest Job} {name : String}
      (sink : LogTo) {names : List String} :
      OtherMetric name →
      addMetric (writer.reporters sink) name = some names →
      Step context writer .other
        { writer with
          reporters := Function.update writer.reporters sink names }
  | removeOther {writer : JobWriter Thread Dest Job} {name : String}
      (sink : LogTo) :
      OtherMetric name →
      Step context writer .other
        { writer with
          reporters :=
            Function.update writer.reporters sink
              (removeMetric (writer.reporters sink) name) }
  | enterLoop {writer : JobWriter Thread Dest Job} :
      writer.point = .loopCondition →
      writer.runThread = true →
      Step context writer .other (writer.goTo (.dequeuing 0 false))
  | leaveLoop {writer : JobWriter Thread Dest Job} :
      writer.point = .loopCondition →
      writer.runThread = false →
      Step context writer .other (writer.goTo (.dequeuing 0 true))
  | dequeue {writer : JobWriter Thread Dest Job} {counter : Nat}
      {afterLoop : Bool} {entry : Entry Thread (WriteJob Dest Job)}
      {rest : Queue Thread (WriteJob Dest Job)} :
      writer.point = .dequeuing counter afterLoop →
      Dequeue writer.writeJobs entry rest →
      Step context writer .other
        { writer with
          writeJobs := rest
          point := .running entry counter afterLoop }
  | wrote {writer : JobWriter Thread Dest Job} {caller : Thread}
      {message : Message Dest} {counter : Nat} {afterLoop : Bool}
      (outcome : WriteOutcome) :
      writer.point = .running ⟨caller, .writeMsg message⟩ counter afterLoop →
      Step context writer (.executed ⟨caller, .writeMsg message⟩)
        (writer.wrote message outcome counter afterLoop)
  | handled {writer handled : JobWriter Thread Dest Job}
      {message : Message Dest} {counter : Nat} {afterLoop : Bool} :
      writer.point = .handling message counter afterLoop →
      writer.handleWriterException context message.fbMsg = .ok handled →
      Step context writer .other (handled.goTo (afterJob counter afterLoop))
  | handlerThrows {writer : JobWriter Thread Dest Job}
      {message : Message Dest} {counter : Nat} {afterLoop : Bool}
      {thrown : RegisterException} :
      writer.point = .handling message counter afterLoop →
      writer.handleWriterException context message.fbMsg = .error thrown →
      Step context writer .other
        (writer.goTo (.terminated (.registerMetric thrown)))
  | ran {writer : JobWriter Thread Dest Job} {caller : Thread} {job : Job}
      {counter : Nat} {afterLoop : Bool} :
      writer.point = .running ⟨caller, .run job⟩ counter afterLoop →
      Step context writer (.executed ⟨caller, .run job⟩)
        (writer.goTo (afterJob counter afterLoop))
  | runThrows {writer : JobWriter Thread Dest Job} {caller : Thread}
      {job : Job} {counter : Nat} {afterLoop : Bool} :
      writer.point = .running ⟨caller, .run job⟩ counter afterLoop →
      Step context writer (.executed ⟨caller, .run job⟩)
        (writer.goTo (.terminated .runJob))
  | flushedJobs {writer : JobWriter Thread Dest Job} {afterLoop : Bool} :
      writer.point = .flushingJobs afterLoop →
      Step context writer .other (writer.goTo (.dequeuing 0 afterLoop))
  | flushJobsThrows {writer : JobWriter Thread Dest Job}
      {afterLoop : Bool} :
      writer.point = .flushingJobs afterLoop →
      Step context writer .other (writer.goTo (.terminated .flushData))
  | written {writer : JobWriter Thread Dest Job} {counter : Nat} :
      writer.point = .dequeuing counter false →
      writer.writeJobs = [] →
      Step context writer .other (writer.goTo .flushing)
  | flushed {writer : JobWriter Thread Dest Job} :
      writer.point = .flushing →
      Step context writer .other (writer.goTo .written)
  | flushThrows {writer : JobWriter Thread Dest Job} :
      writer.point = .flushing →
      Step context writer .other (writer.goTo (.terminated .flushData))
  | drained {writer : JobWriter Thread Dest Job} {counter : Nat} :
      writer.point = .dequeuing counter true →
      writer.writeJobs = [] →
      Step context writer .other (writer.goTo .exited)
  | breakLoop {writer : JobWriter Thread Dest Job} :
      writer.point = .written →
      writer.runThread = false →
      Step context writer .other (writer.goTo (.dequeuing 0 true))
  | sleep {writer : JobWriter Thread Dest Job} :
      writer.point = .written →
      writer.runThread = true →
      Step context writer .other (writer.goTo .sleeping)
  | wake {writer : JobWriter Thread Dest Job} :
      writer.point = .sleeping →
      Step context writer .other (writer.goTo .loopCondition)

/-! ## The handler of a `WriterException` -/

/-- Everything that the handler of a `WriterException` leaves alone. -/
structure SameJobs (writer next : JobWriter Thread Dest Job) : Prop where
  writeJobs : next.writeJobs = writer.writeJobs
  runThread : next.runThread = writer.runThread
  writesDone : next.writesDone = writer.writesDone
  writeErrors : next.writeErrors = writer.writeErrors
  registrar : next.registrar = writer.registrar

theorem sameJobs_handleWriterException
    {writer handled : JobWriter Thread Dest Job} {msg : FlatbufferMessage}
    (success : writer.handleWriterException context msg = .ok handled) :
    SameJobs writer handled := by
  unfold handleWriterException at success
  split at success
  · dsimp only at success
    split at success
    · cases success
      exact ⟨rfl, rfl, rfl, rfl, rfl⟩
    · split at success
      · cases success
      · cases success
        exact ⟨rfl, rfl, rfl, rfl, rfl⟩
  · cases success
    exact ⟨rfl, rfl, rfl, rfl, rfl⟩

end JobWriter

end KafkaToNexus.Stream
