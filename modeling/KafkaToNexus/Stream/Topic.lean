import KafkaToNexus.Stream.RunningPartition

/-!
# A topic on its executor

A `Topic` asks the broker for its partitions and their offsets, creates a
consumer for each partition and then looks again and again for partitions that
have finished.  All of this is done by tasks of its executor.  The calls of the
broker may fail; a task that fails is queued again until the topic gives up.

What the broker answers and what the clock says are inputs of the tasks.  The
tasks that run through the vector of partitions take one step for each of them,
so that the steps of the partitions and of other threads come in between.  A
partition that was erased from the vector is destroyed by the thread of the
topic before the task that has erased it goes on.
-/

namespace KafkaToNexus.Stream

open KafkaToNexus
open KafkaToNexus.Foundations

/-- The threads of a file writing job. -/
inductive Thread where
  | main
  | controller
  | topic (id : Nat)
  | partition (topic : Nat) (id : Int)
deriving DecidableEq, Repr

/-- The settings of the broker that topics use. -/
structure BrokerSettings where
  minMetadataTimeout : Duration := 400000000
  maxMetadataTimeout : Duration := 10000000000
  kafkaErrorTimeout : Duration := 30000000000
deriving DecidableEq, Repr

/-- The answer of the broker to a call for metadata. -/
inductive MetadataOutcome (Result : Type*) where
  | found (result : Result)
  | metadataException (what : String)
deriving DecidableEq, Repr

/-- A task of the executor of a topic, or what remains of a running one. -/
inductive TopicTask where
  | initMetadataCalls
  /-- Tasks that are queued again keep the time-out. -/
  | getPartitionsForTopic (resetTimeOut : Bool)
  | getOffsetsForPartitions (resetTimeOut : Bool) (partitions : List Int)
  /-- Inside `setErrorState`, after the flag was set. -/
  | storeErrorMessage (msg : String)
  | createStreams (partitionOffsets : List (Int × Int))
  /-- Inside the loop of `createStreams`. -/
  | creatingStreams (remaining : List (Int × Int))
  | setStopTime (stop : TimePoint)
  /-- Inside the loop of the task of `setStopTime`. -/
  | settingStopTime (stop : TimePoint) (index : Nat)
  | checkIfDone
  /-- Inside `remove_if`, at the partition with the index. -/
  | checkingIfDone (index : Nat)
  /-- Asleep at the end of `checkIfDone`. -/
  | sleeping
  /-- The task of the executor's destructor. -/
  | exitThread
deriving DecidableEq, Repr

/--
A partition of a topic.  The number of calls of `StreamController::setStopTime`
that were made before it was created is a history variable.
-/
structure OwnedPartition (Dest : Type*) where
  running : RunningPartition Thread Dest
  callsBefore : Nat
deriving DecidableEq, Repr

/-- How far the destructor of a topic has come. -/
inductive TopicLife where
  | alive
  /-- Waiting for the worker thread. -/
  | joining
  /-- Destroying the partitions. -/
  | destroying
  | destroyed
deriving DecidableEq, Repr

structure Topic (Dest : Type*) where
  id : Nat
  settings : BrokerSettings
  topicName : String
  dataMap : SrcToDst Dest
  startConsumeTime : TimePoint
  startLeeway : Duration
  stopConsumeTime : TimePoint
  stopLeeway : Duration
  currentMetadataTimeOut : Duration
  startMetaDataTime : TimePoint
  hasError : Bool := false
  errorMessage : String := ""
  isDoneFlag : Bool := false
  consumerThreads : List (OwnedPartition Dest) := []
  executor : ThreadedExecutor Thread TopicTask := {}
  /-- The erased partitions that are not yet destroyed. -/
  dying : List (OwnedPartition Dest) := []
  life : TopicLife := .alive
deriving DecidableEq, Repr

/-- One step of a topic, as it is seen from outside. -/
inductive TopicLabel (Dest : Type*) where
  | start
  | setStopTime (stop : TimePoint)
  /-- A step of the topic's own thread. -/
  | work
  /-- A thread takes a step in a partition. -/
  | partition (thread : Thread) (label : PartitionLabel Thread Dest)
  /-- `Topic::stop` calls `Partition::stop`, which sends two tasks. -/
  | stopPartition (caller : Thread) (index : Nat) (second : Bool)
  /-- A step of the destructor of the topic. -/
  | destruct (caller : Thread) (label : Option (PartitionLabel Thread Dest))
deriving DecidableEq, Repr

variable {Dest : Type*}

/-- The step is one of the partition's own thread. -/
def PartitionLabel.byWorker {Thread : Type*} :
    PartitionLabel Thread Dest → Bool
  | .start _ => false
  | .stopLow _ => false
  | .stopHigh _ => false
  | .setStopTime _ _ => false
  | .destroy _ => false
  | .join => false
  | .flush _ => false
  | .destroyed => false
  | _ => true

/-- The step is one of the partition's destructor, called by a thread. -/
def PartitionLabel.byDestructor {Thread : Type*} [DecidableEq Thread]
    (caller : Thread) : PartitionLabel Thread Dest → Bool
  | .destroy thread => thread = caller
  | .join => true
  | .flush _ => true
  | .destroyed => true
  | _ => false

/-- The calls on the writer that a step makes, with the calling thread. -/
def TopicLabel.sent : TopicLabel Dest → List (Thread × SendEvent Dest)
  | .partition thread label => label.sent.map (thread, ·)
  | .destruct caller (some label) => label.sent.map (caller, ·)
  | _ => []

namespace Topic

/-- The time after which a topic gives up on its broker. -/
def metaDataGiveUp : Duration := 60000000000

/-- The constructor; the clock is read for `StartMetaDataTime`. -/
def create
    (id : Nat) (settings : BrokerSettings) (topicName : String)
    (dataMap : SrcToDst Dest) (startTime : TimePoint)
    (startLeeway : Duration) (stopTime : TimePoint)
    (stopLeeway : Duration) (now : TimePoint) : Topic Dest :=
  { id, settings, topicName, dataMap
    startConsumeTime := startTime
    startLeeway
    stopConsumeTime := stopTime
    stopLeeway
    currentMetadataTimeOut := settings.minMetadataTimeout
    startMetaDataTime := now }

/-- The worker thread. -/
def self (topic : Topic Dest) : Thread :=
  .topic topic.id

/-- The worker thread goes on at another point of its work. -/
def goTo (topic : Topic Dest) (worker : Worker TopicTask) : Topic Dest :=
  { topic with executor := topic.executor.withWorker worker }

def sendWork
    (topic : Topic Dest) (caller : Thread) (task : TopicTask) : Topic Dest :=
  { topic with executor := topic.executor.sendWork caller task }

def sendLowPriorityWork
    (topic : Topic Dest) (caller : Thread) (task : TopicTask) : Topic Dest :=
  { topic with executor := topic.executor.sendLowPriorityWork caller task }

def start (topic : Topic Dest) : Topic Dest :=
  topic.sendWork .controller .initMetadataCalls

/-! ## The tasks that call the broker -/

def initMetadataCalls (topic : Topic Dest) : Topic Dest :=
  (topic.sendWork topic.self (.getPartitionsForTopic true)).goTo .ready

def shouldGiveUp (topic : Topic Dest) (now : TimePoint) : Bool :=
  TimePoint.add topic.startMetaDataTime metaDataGiveUp < now

/-- The first assignment of a task that was not queued again. -/
def resetTimeOut (topic : Topic Dest) (reset : Bool) : Topic Dest :=
  if reset then
    { topic with currentMetadataTimeOut := topic.settings.minMetadataTimeout }
  else
    topic

/-- The handler of an exception: give up, or queue the task again. -/
def retryOrGiveUp
    (topic : Topic Dest) (task : TopicTask) (what : String)
    (now : TimePoint) : Topic Dest :=
  if topic.shouldGiveUp now then
    { topic with hasError := true }.goTo (.running (.storeErrorMessage what))
  else
    let topic :=
      { topic with
        currentMetadataTimeOut :=
          topic.currentMetadataTimeOut.doubledUpTo
            topic.settings.maxMetadataTimeout }
    (topic.sendLowPriorityWork topic.self task).goTo .ready

def getPartitionsForTopic
    (topic : Topic Dest) (reset : Bool)
    (outcome : MetadataOutcome (List Int)) (now : TimePoint) : Topic Dest :=
  let topic := topic.resetTimeOut reset
  match outcome with
  | .found partitions =>
      (topic.sendWork topic.self
        (.getOffsetsForPartitions true partitions)).goTo .ready
  | .metadataException what =>
      topic.retryOrGiveUp (.getPartitionsForTopic false)
        ("Meta data call for retrieving partition IDs for topic \"" ++
          topic.topicName ++
          "\" from the broker failed. The failure message was: \"" ++ what ++
          "\". Abandoning attempt.") now

/-- A question to the broker for the offsets from which to read. -/
structure OffsetQuery where
  partitions : List Int
  /-- In milliseconds. -/
  usedTime : Int
  timeOut : Duration
deriving DecidableEq, Repr

/-- What `getOffsetsForPartitions` asks. -/
def offsetQuery
    (topic : Topic Dest) (reset : Bool) (partitions : List Int) :
    OffsetQuery where
  partitions
  usedTime :=
    TimePoint.toMilliSeconds
      (TimePoint.sub topic.startConsumeTime topic.startLeeway)
  timeOut := (topic.resetTimeOut reset).currentMetadataTimeOut

/-- The outcome is that of the question `offsetQuery`. -/
def getOffsetsForPartitions
    (topic : Topic Dest) (reset : Bool) (partitions : List Int)
    (outcome : MetadataOutcome (List (Int × Int))) (now : TimePoint) :
    Topic Dest :=
  let topic := topic.resetTimeOut reset
  match outcome with
  | .found partitionOffsets =>
      (topic.sendWork topic.self (.createStreams partitionOffsets)).goTo .ready
  | .metadataException what =>
      topic.retryOrGiveUp (.getOffsetsForPartitions false partitions)
        ("Meta data call for retrieving offsets for topic \"" ++
          topic.topicName ++
          "\" from the broker failed. The failure message was: \"" ++ what ++
          "\". Abandoning attempt.") now

/-! ## The partitions -/

def withPartitions
    (topic : Topic Dest) (consumerThreads : List (OwnedPartition Dest)) :
    Topic Dest :=
  { topic with consumerThreads }

/-- The partition that `createStreams` creates and starts. -/
def createPartition
    (topic : Topic Dest) (callsBefore : Nat) (partitionId : Int) :
    OwnedPartition Dest :=
  let partition :=
    Partition.create topic.dataMap topic.startConsumeTime
      topic.stopConsumeTime topic.stopLeeway topic.settings.kafkaErrorTimeout
  let running :=
    RunningPartition.ofPartition (.partition topic.id partitionId) partition
  ⟨running.addPollTask topic.self, callsBefore⟩

/-- The partition with an index has taken a step. -/
def setPartition
    (topic : Topic Dest) (index : Nat) (owned : OwnedPartition Dest)
    (next : RunningPartition Thread Dest) : Topic Dest :=
  { topic with
    consumerThreads :=
      topic.consumerThreads.set index { owned with running := next } }

/-- The erased partition with an index has taken a step. -/
def setDying
    (topic : Topic Dest) (index : Nat) (owned : OwnedPartition Dest)
    (next : RunningPartition Thread Dest) : Topic Dest :=
  { topic with
    dying := topic.dying.set index { owned with running := next } }

/-- What the threads can do to a topic. -/
inductive Step (context : MessageContext) (calls : Nat) :
    Topic Dest → TopicLabel Dest → Topic Dest → Prop where
  | start {topic : Topic Dest} :
      Step context calls topic .start topic.start
  | setStopTime {topic : Topic Dest} (stop : TimePoint) :
      Step context calls topic (.setStopTime stop)
        (topic.sendWork .controller (.setStopTime stop))
  | look {topic : Topic Dest} {found : Option TopicTask}
      {executor : ThreadedExecutor Thread TopicTask} :
      ThreadedExecutor.Look topic.executor found executor →
      Step context calls topic .work { topic with executor }
  | initMetadataCalls {topic : Topic Dest} :
      topic.executor.worker = .running .initMetadataCalls →
      Step context calls topic .work topic.initMetadataCalls
  | getPartitionsForTopic {topic : Topic Dest} {reset : Bool}
      (outcome : MetadataOutcome (List Int)) (now : TimePoint) :
      topic.executor.worker = .running (.getPartitionsForTopic reset) →
      Step context calls topic .work
        (topic.getPartitionsForTopic reset outcome now)
  | getOffsetsForPartitions {topic : Topic Dest} {reset : Bool}
      {partitions : List Int}
      (outcome : MetadataOutcome (List (Int × Int))) (now : TimePoint) :
      topic.executor.worker =
        .running (.getOffsetsForPartitions reset partitions) →
      Step context calls topic .work
        (topic.getOffsetsForPartitions reset partitions outcome now)
  | storeErrorMessage {topic : Topic Dest} {msg : String} :
      topic.executor.worker = .running (.storeErrorMessage msg) →
      Step context calls topic .work
        ({ topic with errorMessage := msg }.goTo .ready)
  | createStreams {topic : Topic Dest} {partitionOffsets : List (Int × Int)} :
      topic.executor.worker = .running (.createStreams partitionOffsets) →
      Step context calls topic .work
        ((topic.resetTimeOut true).goTo
          (.running (.creatingStreams partitionOffsets)))
  | createStream {topic : Topic Dest} {parOffset : Int × Int}
      {remaining : List (Int × Int)} :
      topic.executor.worker =
        .running (.creatingStreams (parOffset :: remaining)) →
      Step context calls topic .work
        ((topic.withPartitions
            (topic.consumerThreads ++
              [topic.createPartition calls parOffset.1])).goTo
          (.running (.creatingStreams remaining)))
  | streamsCreated {topic : Topic Dest} :
      topic.executor.worker = .running (.creatingStreams []) →
      Step context calls topic .work
        ((topic.sendLowPriorityWork topic.self .checkIfDone).goTo .ready)
  | beginStopTime {topic : Topic Dest} {stop : TimePoint} :
      topic.executor.worker = .running (.setStopTime stop) →
      Step context calls topic .work
        ({ topic with stopConsumeTime := stop }.goTo
          (.running (.settingStopTime stop 0)))
  | passStopTime {topic : Topic Dest} {stop : TimePoint} {index : Nat}
      {owned : OwnedPartition Dest} {next : RunningPartition Thread Dest} :
      topic.executor.worker = .running (.settingStopTime stop index) →
      topic.consumerThreads[index]? = some owned →
      RunningPartition.Step context owned.running
        (.setStopTime topic.self stop) next →
      Step context calls topic .work
        ((topic.setPartition index owned next).goTo
          (.running (.settingStopTime stop (index + 1))))
  | endStopTime {topic : Topic Dest} {stop : TimePoint} {index : Nat} :
      topic.executor.worker = .running (.settingStopTime stop index) →
      topic.consumerThreads.length ≤ index →
      Step context calls topic .work (topic.goTo .ready)
  | checkIfDone {topic : Topic Dest} :
      topic.executor.worker = .running .checkIfDone →
      Step context calls topic .work
        (topic.goTo (.running (.checkingIfDone 0)))
  | keepPartition {topic : Topic Dest} {index : Nat}
      {owned : OwnedPartition Dest} :
      topic.executor.worker = .running (.checkingIfDone index) →
      topic.consumerThreads[index]? = some owned →
      owned.running.partition.hasFinished = false →
      Step context calls topic .work
        (topic.goTo (.running (.checkingIfDone (index + 1))))
  | erasePartition {topic : Topic Dest} {index : Nat}
      {owned : OwnedPartition Dest} :
      topic.executor.worker = .running (.checkingIfDone index) →
      topic.consumerThreads[index]? = some owned →
      owned.running.partition.hasFinished = true →
      Step context calls topic .work
        { topic with
          consumerThreads := topic.consumerThreads.eraseIdx index
          dying := topic.dying ++ [owned] }
  | partitionsChecked {topic : Topic Dest} {index : Nat} :
      topic.executor.worker = .running (.checkingIfDone index) →
      topic.consumerThreads.length ≤ index →
      topic.dying = [] →
      Step context calls topic .work
        ({ topic with
           isDoneFlag :=
             topic.isDoneFlag || topic.consumerThreads.isEmpty }.goTo
          (.running .sleeping))
  | wake {topic : Topic Dest} :
      topic.executor.worker = .running .sleeping →
      Step context calls topic .work
        ((topic.sendLowPriorityWork topic.self .checkIfDone).goTo .ready)
  | exitThread {topic : Topic Dest} :
      topic.executor.worker = .running .exitThread →
      Step context calls topic .work (topic.goTo .exited)
  | partition {topic : Topic Dest} {index : Nat}
      {owned : OwnedPartition Dest} {label : PartitionLabel Thread Dest}
      {next : RunningPartition Thread Dest} :
      topic.consumerThreads[index]? = some owned →
      label.byWorker = true →
      RunningPartition.Step context owned.running label next →
      Step context calls topic (.partition owned.running.self label)
        (topic.setPartition index owned next)
  | dyingPartition {topic : Topic Dest} {index : Nat}
      {owned : OwnedPartition Dest} {label : PartitionLabel Thread Dest}
      {next : RunningPartition Thread Dest} :
      topic.dying[index]? = some owned →
      label.byWorker = true →
      RunningPartition.Step context owned.running label next →
      Step context calls topic (.partition owned.running.self label)
        (topic.setDying index owned next)
  | destroyPartition {topic : Topic Dest} {index : Nat}
      {owned : OwnedPartition Dest} {label : PartitionLabel Thread Dest}
      {next : RunningPartition Thread Dest} :
      topic.dying[index]? = some owned →
      label.byDestructor topic.self = true →
      RunningPartition.Step context owned.running label next →
      Step context calls topic (.partition topic.self label)
        (topic.setDying index owned next)
  | partitionDestroyed {topic : Topic Dest} {index : Nat}
      {owned : OwnedPartition Dest} :
      topic.dying[index]? = some owned →
      owned.running.life = .destroyed →
      Step context calls topic .work
        { topic with dying := topic.dying.eraseIdx index }
  | stopLow {topic : Topic Dest} {caller : Thread} {index : Nat}
      {owned : OwnedPartition Dest} {next : RunningPartition Thread Dest} :
      topic.consumerThreads[index]? = some owned →
      RunningPartition.Step context owned.running (.stopLow caller) next →
      Step context calls topic (.stopPartition caller index false)
        (topic.setPartition index owned next)
  | stopHigh {topic : Topic Dest} {caller : Thread} {index : Nat}
      {owned : OwnedPartition Dest} {next : RunningPartition Thread Dest} :
      topic.consumerThreads[index]? = some owned →
      RunningPartition.Step context owned.running (.stopHigh caller) next →
      Step context calls topic (.stopPartition caller index true)
        (topic.setPartition index owned next)
  | destroy {topic : Topic Dest} (caller : Thread) :
      topic.life = .alive →
      Step context calls topic (.destruct caller none)
        { topic.sendWork caller .exitThread with life := .joining }
  | join {topic : Topic Dest} (caller : Thread) :
      topic.life = .joining →
      topic.executor.worker = .exited →
      Step context calls topic (.destruct caller none)
        { topic with life := .destroying }
  | destroyMember {topic : Topic Dest} {caller : Thread} {index : Nat}
      {owned : OwnedPartition Dest} {label : PartitionLabel Thread Dest}
      {next : RunningPartition Thread Dest} :
      topic.life = .destroying →
      topic.consumerThreads[index]? = some owned →
      label.byDestructor caller = true →
      RunningPartition.Step context owned.running label next →
      Step context calls topic (.destruct caller (some label))
        (topic.setPartition index owned next)
  | destroyed {topic : Topic Dest} (caller : Thread) :
      topic.life = .destroying →
      (∀ owned ∈ topic.consumerThreads, owned.running.life = .destroyed) →
      Step context calls topic (.destruct caller none)
        { topic with life := .destroyed }

end Topic

end KafkaToNexus.Stream
