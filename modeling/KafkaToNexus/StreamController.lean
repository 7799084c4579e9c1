import KafkaToNexus.Stream.MessageWriter
import KafkaToNexus.Stream.Topic

/-!
# The stream controller

The controller of a file writing job owns the topics, the thread that writes
and an executor, whose tasks create the topics, pass stop times on to them and
look for topics that are done.  Its functions are called by the main thread,
which also destroys it: the executor first, then the writer thread, then the
topics and at last the writer modules.

`Streamers` is a vector of unique pointers.  A pointer that was moved from is
null; nothing is said about runs that dereference it.  The loops over the
vector and over the partitions of its topics take one step for each element.
-/

namespace KafkaToNexus

open KafkaToNexus.Foundations
open KafkaToNexus.Foundations.ProducerQueue
open KafkaToNexus.Stream

structure StreamerOptions where
  brokerSettings : BrokerSettings := {}
  startTimestamp : TimePoint
  beforeStartTime : Duration := 10000000000
  stopTimestamp : TimePoint
  afterStopTime : Duration
deriving DecidableEq, Repr

/-- A source of the job with the key under which its topic finds it. -/
structure Source (Dest : Type*) where
  topic : String
  sourcename : String
  key : SrcDstKey Dest
deriving DecidableEq, Repr

/-- The map from topics to their sources, in the order of the topics. -/
abbrev TopicSrcMap (Dest : Type*) := List (String × SrcToDst Dest)

/--
Where a call of `StreamController::stop` is.  Its loops run to the ends that
the vectors had when the loops began.
-/
inductive StopPoint where
  /-- At the topic with an index. -/
  | topic (index last : Nat)
  /-- At the partition with an index, of that topic. -/
  | partition (topic lastTopic index last : Nat)
  /-- Between the two tasks that are sent to the partition. -/
  | secondTask (topic lastTopic index last : Nat)
  | writer
  | flag
  | done
deriving DecidableEq, Repr

/-- A task of the executor, or what remains of a running one. -/
inductive ControllerTask (Dest : Type*) where
  | getTopicNames (resetTimeOut : Bool)
  | initStreams (knownTopicNames : List String)
  /-- At the end of `initStreams`, after the error message was stored. -/
  | flagError
  /-- Inside the loop of `initStreams`. -/
  | creatingTopics (remaining : TopicSrcMap Dest)
  /-- In the body of the loop, after the stop time was read. -/
  | creatingTopic (stopTime : TimePoint) (item : String × SrcToDst Dest)
      (remaining : TopicSrcMap Dest)
  | setStopTime (stop : TimePoint)
  /-- Inside the loop of the task of `setStopTime`. -/
  | settingStopTime (stop : TimePoint) (index : Nat)
  | performPeriodicChecks
  /-- Inside `remove_if`, with the ends of the kept and of the seen topics. -/
  | checkingStreams (result index : Nat)
  /-- The topics that are done were erased. -/
  | streamsErased
  /-- In the handler of the exception, after the flag was set. -/
  | storeError (msg : String)
  /-- In the handler of the exception, in the call of `stop`. -/
  | stopping (point : StopPoint)
  /-- Asleep at the end of `performPeriodicChecks`. -/
  | sleeping
  /-- The task of the executor's destructor. -/
  | exitThread
deriving DecidableEq, Repr

/-- Where the main thread is. -/
inductive MainPoint where
  | idle
  /-- In `setStopTime`, after the stop time was stored in the options. -/
  | sendStopTime (stop : TimePoint)
  /-- In `stop`, called on its own or by the destructor. -/
  | stopping (point : StopPoint) (destroying : Bool)
  /-- In the destructor of the executor. -/
  | joinExecutor
  /-- In the destructor of the writer. -/
  | stopWriter
  | joinWriter
  /-- In the destructor of the vector, at the topic with an index. -/
  | destroyTopics (index : Nat)
  /-- Before the destruction of the task with the writer modules. -/
  | destroyModules
  | gone
deriving DecidableEq, Repr

structure StreamController (Dest : Type*) where
  sources : List (Source Dest)
  streamerOptions : StreamerOptions
  currentMetadataTimeOut : Duration := 0
  streamersRemaining : Bool := true
  stopNow : Bool := false
  hasError : Bool := false
  errorMessage : String := ""
  streamers : List (Option (Topic Dest)) := []
  writerThread : MessageWriter Thread Dest := {}
  executor : ThreadedExecutor Thread (ControllerTask Dest) := {}
  /-- The topics that were erased and are not yet destroyed. -/
  retired : List (Topic Dest) := []
  main : MainPoint := .idle
  /-- The number of topics created so far. -/
  topicsCreated : Nat := 0
  /-- The number of calls of `setStopTime`, a history variable. -/
  calls : Nat := 0
deriving DecidableEq, Repr

/-- One step of the threads of a job. -/
inductive StreamLabel (Dest : Type*) where
  /-- A call of `setStopTime` begins. -/
  | setStopTime (stop : TimePoint)
  /-- A step in a topic or partition, with what it sends to the writer. -/
  | sent (events : List (Thread × SendEvent Dest))
  | writer (label : WriterLabel Dest)
  | other
deriving DecidableEq, Repr

variable {Dest : Type*}

/-- The message that an event hands to the writer. -/
def Stream.SendEvent.message? : SendEvent Dest → Option (Message Dest)
  | .transmitted _ => none
  | .addMessage message => some message

/-- The messages that a step hands to the writer. -/
def StreamLabel.handedOver : StreamLabel Dest → List (Message Dest)
  | .sent events => events.filterMap fun event => event.2.message?
  | _ => []

/-- The calls of `addMessage` among the events of a step. -/
def Stream.MessageWriter.receive
    (writer : MessageWriter Thread Dest)
    (events : List (Thread × SendEvent Dest)) : MessageWriter Thread Dest :=
  events.foldl
    (fun writer event =>
      match event.2.message? with
      | none => writer
      | some message => writer.addMessage event.1 message)
    writer

namespace StreamController

/-- The constructor. -/
def create
    (sources : List (Source Dest)) (settings : StreamerOptions) :
    StreamController Dest :=
  { sources
    streamerOptions := settings
    executor :=
      ThreadedExecutor.sendLowPriorityWork {} .main (.getTopicNames true) }

def goTo
    (controller : StreamController Dest)
    (worker : Worker (ControllerTask Dest)) : StreamController Dest :=
  { controller with executor := controller.executor.withWorker worker }

def sendWork
    (controller : StreamController Dest) (caller : Thread)
    (task : ControllerTask Dest) : StreamController Dest :=
  { controller with executor := controller.executor.sendWork caller task }

def sendLowPriorityWork
    (controller : StreamController Dest) (task : ControllerTask Dest) :
    StreamController Dest :=
  { controller with
    executor := controller.executor.sendLowPriorityWork .controller task }

def mainAt
    (controller : StreamController Dest) (main : MainPoint) :
    StreamController Dest :=
  { controller with main }

/-- A topic of the vector has taken a step. -/
def setTopic
    (controller : StreamController Dest) (index : Nat) (topic : Topic Dest) :
    StreamController Dest :=
  { controller with
    streamers := controller.streamers.set index (some topic) }

/-- An erased topic has taken a step. -/
def setRetired
    (controller : StreamController Dest) (index : Nat) (topic : Topic Dest) :
    StreamController Dest :=
  { controller with retired := controller.retired.set index topic }

def receive
    (controller : StreamController Dest)
    (events : List (Thread × SendEvent Dest)) : StreamController Dest :=
  { controller with writerThread := controller.writerThread.receive events }

def stopWriterThread
    (controller : StreamController Dest) : StreamController Dest :=
  { controller with writerThread := controller.writerThread.stop }

/-! ## The creation of topics -/

def getTopicNames
    (controller : StreamController Dest) (reset : Bool)
    (outcome : MetadataOutcome (List String)) : StreamController Dest :=
  let settings := controller.streamerOptions.brokerSettings
  let timeOut :=
    if reset then settings.minMetadataTimeout
    else controller.currentMetadataTimeOut
  match outcome with
  | .found topicNames =>
      ({ controller with
         currentMetadataTimeOut := timeOut }.sendLowPriorityWork
        (.initStreams topicNames)).goTo .ready
  | .metadataException _ =>
      ({ controller with
         currentMetadataTimeOut :=
           timeOut.doubledUpTo settings.maxMetadataTimeout }.sendLowPriorityWork
        (.getTopicNames false)).goTo .ready

/-- Append a key to those of a topic, as the subscript of a map does. -/
def pushBack (topic : String) (key : SrcDstKey Dest) :
    TopicSrcMap Dest → TopicSrcMap Dest
  | [] => [(topic, [key])]
  | (other, keys) :: rest =>
      if topic = other then (other, keys ++ [key]) :: rest
      else if topic < other then (topic, [key]) :: (other, keys) :: rest
      else (other, keys) :: pushBack topic key rest

def topicSrcMap (sources : List (Source Dest)) : TopicSrcMap Dest :=
  sources.foldl (fun map source => pushBack source.topic source.key map) []

/-- The text about the sources whose topics do not exist. -/
def getTopicsErrorString
    (sources : List (Source Dest)) (knownTopicNames : List String) : String :=
  sources.foldl
    (fun text source =>
      if source.topic ∈ knownTopicNames then text
      else
        text ++ "Unable to set up consumer for source " ++
          source.sourcename ++ " on topic " ++ source.topic ++
          " as this topic does not exist. ")
    ""

/-- `initStreams` up to its loop. -/
def initStreams
    (controller : StreamController Dest) (knownTopicNames : List String) :
    StreamController Dest :=
  let errorString := getTopicsErrorString controller.sources knownTopicNames
  if errorString ≠ "" then
    { controller with errorMessage := errorString }.goTo (.running .flagError)
  else
    controller.goTo
      (.running (.creatingTopics (topicSrcMap controller.sources)))

/-- The topic that is created and started in the loop of `initStreams`. -/
def newTopic
    (controller : StreamController Dest) (stopTime : TimePoint)
    (item : String × SrcToDst Dest) (now : TimePoint) : Topic Dest :=
  (Topic.create controller.topicsCreated
    controller.streamerOptions.brokerSettings item.1 item.2
    controller.streamerOptions.startTimestamp
    controller.streamerOptions.beforeStartTime stopTime
    controller.streamerOptions.afterStopTime now).start

def addTopic
    (controller : StreamController Dest) (topic : Topic Dest) :
    StreamController Dest :=
  { controller with
    streamers := controller.streamers ++ [some topic]
    topicsCreated := controller.topicsCreated + 1 }

/-! ## The removal of topics -/

/-- `remove_if` moves a topic to the front, over another one or a null. -/
def moveTopic
    (controller : StreamController Dest) (result index : Nat)
    (topic : Topic Dest) (overwritten : Option (Topic Dest)) :
    StreamController Dest :=
  { controller with
    streamers := (controller.streamers.set result (some topic)).set index none
    retired := overwritten.toList }

/-- `erase` destroys what lies behind the kept topics. -/
def eraseFrom
    (controller : StreamController Dest) (result : Nat) :
    StreamController Dest :=
  { controller with
    streamers := controller.streamers.take result
    retired := (controller.streamers.drop result).filterMap id }

/-! ## Steps -/

/-- Where a call of `stop` begins. -/
def firstTopic (controller : StreamController Dest) : StopPoint :=
  .topic 0 controller.streamers.length

/-- One step of a call of `stop` by a thread. -/
inductive StopStep (context : MessageContext) (caller : Thread) :
    StreamController Dest → StopPoint → StreamController Dest → StopPoint →
      Prop where
  | enterTopic {controller : StreamController Dest} {i n : Nat}
      {topic : Topic Dest} :
      i < n →
      controller.streamers[i]? = some (some topic) →
      StopStep context caller controller (.topic i n)
        controller (.partition i n 0 topic.consumerThreads.length)
  | firstTask {controller : StreamController Dest} {i n k m : Nat}
      {topic next : Topic Dest} :
      k < m →
      controller.streamers[i]? = some (some topic) →
      Topic.Step context controller.calls topic
        (.stopPartition caller k false) next →
      StopStep context caller controller (.partition i n k m)
        (controller.setTopic i next) (.secondTask i n k m)
  | secondTask {controller : StreamController Dest} {i n k m : Nat}
      {topic next : Topic Dest} :
      controller.streamers[i]? = some (some topic) →
      Topic.Step context controller.calls topic
        (.stopPartition caller k true) next →
      StopStep context caller controller (.secondTask i n k m)
        (controller.setTopic i next) (.partition i n (k + 1) m)
  | nextTopic {controller : StreamController Dest} {i n m : Nat} :
      StopStep context caller controller (.partition i n m m)
        controller (.topic (i + 1) n)
  | lastTopic {controller : StreamController Dest} {n : Nat} :
      StopStep context caller controller (.topic n n) controller .writer
  | writer {controller : StreamController Dest} :
      StopStep context caller controller .writer
        controller.stopWriterThread .flag
  | flag {controller : StreamController Dest} :
      StopStep context caller controller .flag
        { controller with stopNow := true } .done

/-- A call of `stop` moves neither the main thread nor the executor. -/
theorem StopStep.points
    {context : MessageContext} {caller : Thread}
    {controller next : StreamController Dest} {point after : StopPoint}
    (taken : StopStep context caller controller point next after) :
    next.executor = controller.executor ∧ next.main = controller.main := by
  cases taken <;> exact ⟨rfl, rfl⟩

/-- The step is one that a topic takes by itself. -/
def byTopic : TopicLabel Dest → Bool
  | .work => true
  | .partition _ _ => true
  | _ => false

/-- The step is one of the topic's destructor, called by a thread. -/
def byDestructor (caller : Thread) : TopicLabel Dest → Bool
  | .destruct thread _ => thread = caller
  | _ => false

/--
What the threads of a job do: first the main thread, then the thread of the
executor, and at last those of the topics, of their partitions and of the
writer.
-/
inductive Step (context : MessageContext) :
    StreamController Dest → StreamLabel Dest → StreamController Dest →
      Prop where
  | setStopTime {controller : StreamController Dest} (stop : TimePoint) :
      controller.main = .idle →
      Step context controller (.setStopTime stop)
        { controller with
          streamerOptions :=
            { controller.streamerOptions with stopTimestamp := stop }
          calls := controller.calls + 1
          main := .sendStopTime stop }
  | sendStopTime {controller : StreamController Dest} {stop : TimePoint} :
      controller.main = .sendStopTime stop →
      Step context controller .other
        ((controller.sendWork .main (.setStopTime stop)).mainAt .idle)
  | stop {controller : StreamController Dest} :
      controller.main = .idle →
      Step context controller .other
        (controller.mainAt (.stopping controller.firstTopic false))
  | destroy {controller : StreamController Dest} :
      controller.main = .idle →
      Step context controller .other
        (controller.mainAt (.stopping controller.firstTopic true))
  | mainStop {controller next : StreamController Dest}
      {point after : StopPoint} {destroying : Bool} :
      controller.main = .stopping point destroying →
      StopStep context .main controller point next after →
      Step context controller .other
        (next.mainAt (.stopping after destroying))
  | stopped {controller : StreamController Dest} :
      controller.main = .stopping .done false →
      Step context controller .other (controller.mainAt .idle)
  | exitExecutor {controller : StreamController Dest} :
      controller.main = .stopping .done true →
      Step context controller .other
        ((controller.sendWork .main .exitThread).mainAt .joinExecutor)
  | joinExecutor {controller : StreamController Dest} :
      controller.main = .joinExecutor →
      controller.executor.worker = .exited →
      Step context controller .other (controller.mainAt .stopWriter)
  | stopWriter {controller : StreamController Dest} :
      controller.main = .stopWriter →
      Step context controller .other
        (controller.stopWriterThread.mainAt .joinWriter)
  | joinWriter {controller : StreamController Dest} :
      controller.main = .joinWriter →
      controller.writerThread.point = .exited →
      Step context controller .other (controller.mainAt (.destroyTopics 0))
  | destroyTopic {controller : StreamController Dest} {index : Nat}
      {topic next : Topic Dest} {label : TopicLabel Dest} :
      controller.main = .destroyTopics index →
      controller.streamers[index]? = some (some topic) →
      byDestructor .main label = true →
      Topic.Step context controller.calls topic label next →
      Step context controller (.sent label.sent)
        ((controller.setTopic index next).receive label.sent)
  | topicDestroyed {controller : StreamController Dest} {index : Nat}
      {slot : Option (Topic Dest)} :
      controller.main = .destroyTopics index →
      controller.streamers[index]? = some slot →
      (∀ topic, slot = some topic → topic.life = .destroyed) →
      Step context controller .other
        (controller.mainAt (.destroyTopics (index + 1)))
  | topicsDestroyed {controller : StreamController Dest} {index : Nat} :
      controller.main = .destroyTopics index →
      controller.streamers.length ≤ index →
      Step context controller .other (controller.mainAt .destroyModules)
  | destroyModules {controller : StreamController Dest} :
      controller.main = .destroyModules →
      Step context controller .other (controller.mainAt .gone)
  | look {controller : StreamController Dest}
      {found : Option (ControllerTask Dest)}
      {executor : ThreadedExecutor Thread (ControllerTask Dest)} :
      ThreadedExecutor.Look controller.executor found executor →
      Step context controller .other { controller with executor }
  | getTopicNames {controller : StreamController Dest} {reset : Bool}
      (outcome : MetadataOutcome (List String)) :
      controller.executor.worker = .running (.getTopicNames reset) →
      Step context controller .other (controller.getTopicNames reset outcome)
  | initStreams {controller : StreamController Dest}
      {knownTopicNames : List String} :
      controller.executor.worker = .running (.initStreams knownTopicNames) →
      Step context controller .other (controller.initStreams knownTopicNames)
  | flagError {controller : StreamController Dest} :
      controller.executor.worker = .running .flagError →
      Step context controller .other
        ({ controller with hasError := true }.goTo .ready)
  | readStopTime {controller : StreamController Dest}
      {item : String × SrcToDst Dest} {remaining : TopicSrcMap Dest} :
      controller.executor.worker =
        .running (.creatingTopics (item :: remaining)) →
      Step context controller .other
        (controller.goTo
          (.running
            (.creatingTopic controller.streamerOptions.stopTimestamp item
              remaining)))
  | createTopic {controller : StreamController Dest} {stopTime : TimePoint}
      {item : String × SrcToDst Dest} {remaining : TopicSrcMap Dest}
      (now : TimePoint) :
      controller.executor.worker =
        .running (.creatingTopic stopTime item remaining) →
      Step context controller .other
        ((controller.addTopic
            (controller.newTopic stopTime item now)).goTo
          (.running (.creatingTopics remaining)))
  | topicsCreated {controller : StreamController Dest} :
      controller.executor.worker = .running (.creatingTopics []) →
      Step context controller .other
        ((controller.sendLowPriorityWork .performPeriodicChecks).goTo .ready)
  | beginStopTime {controller : StreamController Dest} {stop : TimePoint} :
      controller.executor.worker = .running (.setStopTime stop) →
      Step context controller .other
        (controller.goTo (.running (.settingStopTime stop 0)))
  | passStopTime {controller : StreamController Dest} {stop : TimePoint}
      {index : Nat} {topic next : Topic Dest} :
      controller.executor.worker = .running (.settingStopTime stop index) →
      controller.streamers[index]? = some (some topic) →
      Topic.Step context controller.calls topic (.setStopTime stop) next →
      Step context controller .other
        ((controller.setTopic index next).goTo
          (.running (.settingStopTime stop (index + 1))))
  | endStopTime {controller : StreamController Dest} {stop : TimePoint}
      {index : Nat} :
      controller.executor.worker = .running (.settingStopTime stop index) →
      controller.streamers.length ≤ index →
      Step context controller .other (controller.goTo .ready)
  | performPeriodicChecks {controller : StreamController Dest} :
      controller.executor.worker = .running .performPeriodicChecks →
      Step context controller .other
        (controller.goTo (.running (.checkingStreams 0 0)))
  | streamDone {controller : StreamController Dest} {result index : Nat}
      {topic : Topic Dest} :
      controller.executor.worker = .running (.checkingStreams result index) →
      controller.retired = [] →
      controller.streamers[index]? = some (some topic) →
      topic.hasError = false →
      topic.isDoneFlag = true →
      Step context controller .other
        (controller.goTo (.running (.checkingStreams result (index + 1))))
  | keepStream {controller : StreamController Dest} {index : Nat}
      {topic : Topic Dest} :
      controller.executor.worker = .running (.checkingStreams index index) →
      controller.retired = [] →
      controller.streamers[index]? = some (some topic) →
      topic.hasError = false →
      topic.isDoneFlag = false →
      Step context controller .other
        (controller.goTo
          (.running (.checkingStreams (index + 1) (index + 1))))
  | moveStream {controller : StreamController Dest} {result index : Nat}
      {topic : Topic Dest} {overwritten : Option (Topic Dest)} :
      controller.executor.worker = .running (.checkingStreams result index) →
      controller.retired = [] →
      result < index →
      controller.streamers[index]? = some (some topic) →
      controller.streamers[result]? = some overwritten →
      topic.hasError = false →
      topic.isDoneFlag = false →
      Step context controller .other
        ((controller.moveTopic result index topic overwritten).goTo
          (.running (.checkingStreams (result + 1) (index + 1))))
  | eraseStreams {controller : StreamController Dest} {result index : Nat} :
      controller.executor.worker = .running (.checkingStreams result index) →
      controller.retired = [] →
      controller.streamers.length ≤ index →
      Step context controller .other
        ((controller.eraseFrom result).goTo (.running .streamsErased))
  | streamsErased {controller : StreamController Dest} :
      controller.executor.worker = .running .streamsErased →
      controller.retired = [] →
      Step context controller .other
        ({ controller with
           streamersRemaining :=
             controller.streamersRemaining &&
               !controller.streamers.isEmpty }.goTo (.running .sleeping))
  | streamThrows {controller : StreamController Dest} {result index : Nat}
      {topic : Topic Dest} :
      controller.executor.worker = .running (.checkingStreams result index) →
      controller.retired = [] →
      controller.streamers[index]? = some (some topic) →
      topic.hasError = true →
      Step context controller .other
        ({ controller with hasError := true }.goTo
          (.running
            (.storeError
              ("Got stream error. The error message was: " ++
                topic.errorMessage))))
  | storeError {controller : StreamController Dest} {msg : String} :
      controller.executor.worker = .running (.storeError msg) →
      Step context controller .other
        ({ controller with errorMessage := msg }.goTo
          (.running (.stopping controller.firstTopic)))
  | controllerStop {controller next : StreamController Dest}
      {point after : StopPoint} :
      controller.executor.worker = .running (.stopping point) →
      StopStep context .controller controller point next after →
      Step context controller .other
        (next.goTo (.running (.stopping after)))
  | controllerStopped {controller : StreamController Dest} :
      controller.executor.worker = .running (.stopping .done) →
      Step context controller .other
        ({ controller with streamersRemaining := false }.goTo
          (.running .sleeping))
  | wake {controller : StreamController Dest} :
      controller.executor.worker = .running .sleeping →
      Step context controller .other
        ((controller.sendLowPriorityWork .performPeriodicChecks).goTo .ready)
  | exitThread {controller : StreamController Dest} :
      controller.executor.worker = .running .exitThread →
      Step context controller .other (controller.goTo .exited)
  | topic {controller : StreamController Dest} {index : Nat}
      {topic next : Topic Dest} {label : TopicLabel Dest} :
      controller.streamers[index]? = some (some topic) →
      byTopic label = true →
      Topic.Step context controller.calls topic label next →
      Step context controller (.sent label.sent)
        ((controller.setTopic index next).receive label.sent)
  | retiredTopic {controller : StreamController Dest} {index : Nat}
      {topic next : Topic Dest} {label : TopicLabel Dest} :
      controller.retired[index]? = some topic →
      (byTopic label || byDestructor .controller label) = true →
      Topic.Step context controller.calls topic label next →
      Step context controller (.sent label.sent)
        ((controller.setRetired index next).receive label.sent)
  | retiredDestroyed {controller : StreamController Dest} {index : Nat}
      {topic : Topic Dest} :
      controller.retired[index]? = some topic →
      topic.life = .destroyed →
      Step context controller .other
        { controller with retired := controller.retired.eraseIdx index }
  | writer {controller : StreamController Dest}
      {label : WriterLabel Dest} {next : MessageWriter Thread Dest} :
      MessageWriter.Step controller.writerThread label next →
      Step context controller (.writer label)
        { controller with writerThread := next }

/-! ## A job with one partition -/

/-- The settings of a job with one source, on a topic with one partition. -/
def sampleOptions (start : TimePoint) : StreamerOptions where
  startTimestamp := start
  stopTimestamp := 2000000000
  afterStopTime := 0

def sampleSource (key : SrcDstKey Nat) : Source Nat where
  topic := "topic"
  sourcename := "source"
  key

/-- The topic of the job, when it was created. -/
def newSampleTopic (key : SrcDstKey Nat) (start : TimePoint) : Topic Nat :=
  Topic.create 0 {} "topic" [key] start 10000000000 2000000000 0 0

/-- The topic, once its partition was created. -/
def sampleTopic (key : SrcDstKey Nat) (start : TimePoint) : Topic Nat :=
  { newSampleTopic key start with
    consumerThreads := [(newSampleTopic key start).createPartition 0 0]
    executor := { lowPriorityTaskQueue := [⟨.topic 0, .checkIfDone⟩] } }

/-- The job, once its topic was created. -/
def sampleJob
    (key : SrcDstKey Nat) (start : TimePoint) (topic : Topic Nat) :
    StreamController Nat :=
  { create [sampleSource key] (sampleOptions start) with
    currentMetadataTimeOut := 400000000
    streamers := [some topic]
    executor :=
      { lowPriorityTaskQueue := [⟨.controller, .performPeriodicChecks⟩] }
    topicsCreated := 1 }

def sampleTrace : List (StreamLabel Nat) :=
  List.replicate 9 .other ++ List.replicate 10 (.sent [])

/-- A step of the only topic of a job. -/
theorem step_onlyTopic
    {context : MessageContext} {controller : StreamController Dest}
    {topic next : Topic Dest} {label : TopicLabel Dest}
    (only : controller.streamers = [some topic])
    (own : byTopic label = true)
    (taken : Topic.Step context controller.calls topic label next) :
    Step context controller (.sent label.sent)
      ((controller.setTopic 0 next).receive label.sent) :=
  .topic (by rw [only]; rfl) own taken

/-- A step of the only partition of the only topic of a job. -/
theorem step_onlyPartition
    {context : MessageContext} {controller : StreamController Dest}
    {topic : Topic Dest} {owned : OwnedPartition Dest}
    {label : PartitionLabel Thread Dest}
    {next : RunningPartition Thread Dest}
    (only : controller.streamers = [some topic])
    (onlyPartition : topic.consumerThreads = [owned])
    (worker : label.byWorker = true)
    (taken : RunningPartition.Step context owned.running label next) :
    Step context controller
      (.sent (label.sent.map (owned.running.self, ·)))
      ((controller.setTopic 0 (topic.setPartition 0 owned next)).receive
        (label.sent.map (owned.running.self, ·))) :=
  step_onlyTopic only rfl
    (.partition (by rw [onlyPartition]; rfl) worker taken)

/-- The main thread destroys the only partition of the only topic of a job. -/
theorem destroy_onlyPartition
    {context : MessageContext} {controller : StreamController Dest}
    {topic : Topic Dest} {owned : OwnedPartition Dest}
    {label : PartitionLabel Thread Dest}
    {next : RunningPartition Thread Dest}
    (main : controller.main = .destroyTopics 0)
    (only : controller.streamers = [some topic])
    (destroying : topic.life = .destroying)
    (onlyPartition : topic.consumerThreads = [owned])
    (destructor : label.byDestructor .main = true)
    (taken : RunningPartition.Step context owned.running label next) :
    Step context controller (.sent (label.sent.map (.main, ·)))
      ((controller.setTopic 0 (topic.setPartition 0 owned next)).receive
        (label.sent.map (.main, ·))) :=
  .destroyTopic main (by rw [only]; rfl) (by simp [byDestructor])
    (.destroyMember destroying (by rw [onlyPartition]; rfl) destructor taken)

/-- The topic of the job takes a step of its own. -/
theorem step_sampleJob
    {context : MessageContext} {key : SrcDstKey Nat} {start : TimePoint}
    {topic next : Topic Nat}
    (taken : Topic.Step context 0 topic .work next) :
    Step context (sampleJob key start topic) (.sent [])
      (sampleJob key start next) := by
  have stepped :=
    step_onlyTopic (show (sampleJob key start topic).streamers = _ from rfl)
      rfl taken
  exact stepped

/-- The run that creates the topic and its partition. -/
theorem sampleJob_run
    (context : MessageContext) (key : SrcDstKey Nat) (start : TimePoint) :
    Execution (Step context) (create [sampleSource key] (sampleOptions start))
      sampleTrace (sampleJob key start (sampleTopic key start)) := by
  let Run :=
    Execution (Step context) (create [sampleSource key] (sampleOptions start))
  have created : Run [] _ := .refl
  have turned := created.snoc (.look (.highEmpty rfl rfl))
  have found := turned.snoc (.look (.takeLow rfl (dequeue_head _ [])))
  have named := found.snoc (.getTopicNames (.found ["topic"]) rfl)
  have turnedAgain := named.snoc (.look (.highEmpty rfl rfl))
  have initialises :=
    turnedAgain.snoc (.look (.takeLow rfl (dequeue_head _ [])))
  have initialised := initialises.snoc (.initStreams rfl)
  have read := initialised.snoc (.readStopTime rfl)
  have topic := read.snoc (.createTopic 0 rfl)
  have checks :
      Run (List.replicate 9 .other)
        (sampleJob key start (newSampleTopic key start).start) :=
    topic.snoc (.topicsCreated rfl)
  have started := checks.snoc
    (step_sampleJob (.look (.takeHigh rfl (dequeue_head _ []))))
  have called := started.snoc (step_sampleJob (.initMetadataCalls rfl))
  have asks := called.snoc
    (step_sampleJob (.look (.takeHigh rfl (dequeue_head _ []))))
  have asked := asks.snoc
    (step_sampleJob (.getPartitionsForTopic (.found [0]) 0 rfl))
  have seeks := asked.snoc
    (step_sampleJob (.look (.takeHigh rfl (dequeue_head _ []))))
  have sought := seeks.snoc
    (step_sampleJob (.getOffsetsForPartitions (.found [(0, 0)]) 0 rfl))
  have creates := sought.snoc
    (step_sampleJob (.look (.takeHigh rfl (dequeue_head _ []))))
  have began := creates.snoc (step_sampleJob (.createStreams rfl))
  have partition := began.snoc (step_sampleJob (.createStream rfl))
  have last := partition.snoc (step_sampleJob (.streamsCreated rfl))
  exact last

end StreamController

end KafkaToNexus
