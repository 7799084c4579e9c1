import KafkaToNexus.Stream.Topic

/-!
# Setting up a topic that fails

The calls that set a topic up may throw.  A `MetadataException` of the two
calls of the broker is caught by the task that makes the call, and `Topic`
shows what is done about it.  Any other exception of these calls, and every
exception of the calls that create the partitions, leaves the task.  Nothing
on the executor's thread catches it, so it ends the process.

This module adds those steps to the steps of a topic.  The steps also say in
their labels which call has failed.
-/

namespace KafkaToNexus.Stream

open KafkaToNexus
open KafkaToNexus.Foundations
open KafkaToNexus.Foundations.SignedWord
open KafkaToNexus.ThreadedExecutor

variable {Dest : Type*}

/-- The calls of the set-up that may throw. -/
inductive SetUpCall where
  | getPartitionsForTopicInternal
  | getOffsetForTimeInternal
  | createConsumer
  | addPartitionAtOffset
  /-- The constructor registers metrics. -/
  | partitionConstructor
deriving DecidableEq, Repr

namespace SetUpCall

/-- The calls that a task makes. -/
def madeBy : SetUpCall → TopicTask → Bool
  | .getPartitionsForTopicInternal, .getPartitionsForTopic _ => true
  | .getOffsetForTimeInternal, .getOffsetsForPartitions _ _ => true
  | .createConsumer, .creatingStreams (_ :: _) => true
  | .addPartitionAtOffset, .creatingStreams (_ :: _) => true
  | .partitionConstructor, .creatingStreams (_ :: _) => true
  | _, _ => false

end SetUpCall

/-- The task makes a call of the broker. -/
def TopicTask.callsBroker : TopicTask → Bool
  | .getPartitionsForTopic _ => true
  | .getOffsetsForPartitions _ _ => true
  | _ => false

/-- The task that tries the same step again. -/
def TopicTask.again : TopicTask → TopicTask
  | .getPartitionsForTopic _ => .getPartitionsForTopic false
  | .getOffsetsForPartitions _ partitions =>
      .getOffsetsForPartitions false partitions
  | task => task

/-- A topic in a process that may have been ended by an exception. -/
structure TopicSetUp (Dest : Type*) where
  topic : Topic Dest
  /-- An exception has left a task on the executor's thread. -/
  terminated : Bool := false
  /-- The failure that was not retried, a history variable. -/
  abandoned : Option String := none
deriving DecidableEq, Repr

inductive SetUpLabel (Dest : Type*) where
  /-- A call of the broker throws a `MetadataException`. -/
  | failed (what : String) (now : TimePoint)
  /-- A call throws an exception that the task does not catch. -/
  | escaped (call : SetUpCall) (what : String)
  | regular (label : TopicLabel Dest)
deriving DecidableEq, Repr

/-- `isDone` returns the flag, or throws the message. -/
def Topic.isDone (topic : Topic Dest) : Except String Bool :=
  if topic.hasError then .error topic.errorMessage else .ok topic.isDoneFlag

namespace TopicSetUp

/-- A topic whose `start` was called. -/
def create
    (id : Nat) (settings : BrokerSettings) (topicName : String)
    (dataMap : SrcToDst Dest) (startTime : TimePoint)
    (startLeeway : Duration) (stopTime : TimePoint)
    (stopLeeway : Duration) (now : TimePoint) : TopicSetUp Dest :=
  { topic :=
      (Topic.create id settings topicName dataMap startTime startLeeway
        stopTime stopLeeway now).start }

/-- A caught failure is history when it is not retried. -/
def afterFailure
    (setUp : TopicSetUp Dest) (what : String) (now : TimePoint)
    (next : Topic Dest) : TopicSetUp Dest :=
  { setUp with
    topic := next
    abandoned :=
      if setUp.topic.shouldGiveUp now then some what else setUp.abandoned }

inductive Step (context : MessageContext) :
    TopicSetUp Dest → SetUpLabel Dest → TopicSetUp Dest → Prop where
  | partitionsFailed {setUp : TopicSetUp Dest} {reset : Bool}
      (what : String) (now : TimePoint) :
      setUp.terminated = false →
      setUp.topic.executor.worker =
        .running (.getPartitionsForTopic reset) →
      Step context setUp (.failed what now)
        (setUp.afterFailure what now
          (setUp.topic.getPartitionsForTopic reset
            (.metadataException what) now))
  | partitionsFound {setUp : TopicSetUp Dest} {reset : Bool}
      (partitions : List Int) (now : TimePoint) :
      setUp.terminated = false →
      setUp.topic.executor.worker =
        .running (.getPartitionsForTopic reset) →
      Step context setUp (.regular .work)
        { setUp with
          topic :=
            setUp.topic.getPartitionsForTopic reset (.found partitions) now }
  | offsetsFailed {setUp : TopicSetUp Dest} {reset : Bool}
      {partitions : List Int} (what : String) (now : TimePoint) :
      setUp.terminated = false →
      setUp.topic.executor.worker =
        .running (.getOffsetsForPartitions reset partitions) →
      Step context setUp (.failed what now)
        (setUp.afterFailure what now
          (setUp.topic.getOffsetsForPartitions reset partitions
            (.metadataException what) now))
  | offsetsFound {setUp : TopicSetUp Dest} {reset : Bool}
      {partitions : List Int} (partitionOffsets : List (Int × Int))
      (now : TimePoint) :
      setUp.terminated = false →
      setUp.topic.executor.worker =
        .running (.getOffsetsForPartitions reset partitions) →
      Step context setUp (.regular .work)
        { setUp with
          topic :=
            setUp.topic.getOffsetsForPartitions reset partitions
              (.found partitionOffsets) now }
  | escaped {setUp : TopicSetUp Dest} {task : TopicTask}
      (call : SetUpCall) (what : String) :
      setUp.terminated = false →
      setUp.topic.executor.worker = .running task →
      call.madeBy task = true →
      Step context setUp (.escaped call what)
        { setUp with terminated := true, abandoned := some what }
  /-- `start` is called once, and the calls of the broker are above. -/
  | regular {setUp : TopicSetUp Dest} {calls : Nat}
      {label : TopicLabel Dest} {next : Topic Dest} :
      setUp.terminated = false →
      label ≠ .start →
      (label = .work →
        ∀ task, setUp.topic.executor.worker = .running task →
          task.callsBroker = false) →
      Topic.Step context calls setUp.topic label next →
      Step context setUp (.regular label) { setUp with topic := next }

/-- Every step without an exception is one of the topic. -/
theorem Step.refines
    {context : MessageContext} {setUp next : TopicSetUp Dest}
    {label : SetUpLabel Dest}
    (taken : Step context setUp label next) :
    (∃ calls own, Topic.Step context calls setUp.topic own next.topic) ∨
      next.terminated = true := by
  cases taken with
  | partitionsFailed what now _ running =>
      exact Or.inl
        ⟨0, .work, .getPartitionsForTopic (.metadataException what) now running⟩
  | partitionsFound partitions now _ running =>
      exact Or.inl
        ⟨0, .work, .getPartitionsForTopic (.found partitions) now running⟩
  | offsetsFailed what now _ running =>
      exact Or.inl
        ⟨0, .work,
          .getOffsetsForPartitions (.metadataException what) now running⟩
  | offsetsFound partitionOffsets now _ running =>
      exact Or.inl
        ⟨0, .work,
          .getOffsetsForPartitions (.found partitionOffsets) now running⟩
  | escaped _ _ _ _ _ => exact Or.inr rfl
  | regular _ _ _ step => exact Or.inl ⟨_, _, step⟩

/-! ## What is reported of a failure -/

/--
A failure is answered by one more task for the same step, or, once the time is
over, by the error state.
-/
inductive Answered
    (constructed : TimePoint) (what : String) (now : TimePoint)
    (topic next : Topic Dest) : Prop where
  | retried {task : TopicTask} :
      topic.executor.worker = .running task →
      next.executor.taskQueue = topic.executor.taskQueue →
      next.executor.lowPriorityTaskQueue =
        topic.executor.lowPriorityTaskQueue ++ [⟨topic.self, task.again⟩] →
      next.executor.worker = .ready →
      next.hasError = topic.hasError →
      Answered constructed what now topic next
  | abandoned {front back : String} :
      TimePoint.add constructed Topic.metaDataGiveUp < now →
      next.hasError = true →
      next.executor.taskQueue = topic.executor.taskQueue →
      next.executor.lowPriorityTaskQueue =
        topic.executor.lowPriorityTaskQueue →
      next.executor.worker =
        .running (.storeErrorMessage (front ++ what ++ back)) →
      Answered constructed what now topic next

/-- All failures of the set-up so far are reported, and the next one will be. -/
structure FailuresReported
    (context : MessageContext) (start final : TopicSetUp Dest) : Prop where
  noneEscaped : final.terminated = false
  timeOut :
    start.topic.settings.minMetadataTimeout ≤
        final.topic.currentMetadataTimeOut ∧
      final.topic.currentMetadataTimeOut ≤
        start.topic.settings.maxMetadataTimeout
  answered :
    ∀ what now next, Step context final (.failed what now) next →
      Answered start.topic.startMetaDataTime what now final.topic next.topic
  /-- The handler ends when it has stored the message. -/
  isDone :
    ∀ what, final.abandoned = some what →
      (∃ msg,
          final.topic.executor.worker = .running (.storeErrorMessage msg)) ∨
        ∃ front back,
          final.topic.isDone = .error (front ++ what ++ back)

/-- The time-out of the call of the broker that the running task makes. -/
def timeOutInUse (topic : Topic Dest) : Duration :=
  match topic.executor.worker with
  | .running (.getPartitionsForTopic reset) =>
      (topic.resetTimeOut reset).currentMetadataTimeOut
  | .running (.getOffsetsForPartitions reset _) =>
      (topic.resetTimeOut reset).currentMetadataTimeOut
  | _ => topic.currentMetadataTimeOut

/-- The steps whose exceptions are expected where they are thrown. -/
structure ExpectedStep
    (context : MessageContext) (setUp : TopicSetUp Dest)
    (label : SetUpLabel Dest) (next : TopicSetUp Dest) : Prop where
  step : Step context setUp label next
  caught : ∀ call what, label ≠ .escaped call what
  /-- The time-out of a call that is made again is doubled. -/
  doubles :
    ∀ what now, label = .failed what now →
      setUp.topic.shouldGiveUp now = false →
        0 ≤ timeOutInUse setUp.topic ∧
          InRange 64 (timeOutInUse setUp.topic * 2)

end TopicSetUp

end KafkaToNexus.Stream
