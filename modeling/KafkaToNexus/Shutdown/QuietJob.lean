import KafkaToNexus.StreamController
import KafkaToNexus.Stream.PollChain

/-!
# Jobs that hand over no more messages

A partition hands over messages when it polls and when its filters are
destroyed with a buffered message.  A job is quiet when none of this will
happen any more: no topic and no partition will be created, no partition will
poll, since it has no poll task or a stop comes first, and no filter holds a
buffered message.  The module shows that a quiet job stays quiet in every
interleaving, and that its steps hand over nothing.
-/

namespace KafkaToNexus.Shutdown

open KafkaToNexus
open KafkaToNexus.Foundations
open KafkaToNexus.Foundations.ProducerQueue
open KafkaToNexus.Stream
open KafkaToNexus.ThreadedExecutor

variable {Dest : Type*}

/-! ## Partitions -/

/-- What the destructor of a partition has still to hand over. -/
def leftToFlush (node : RunningPartition Thread Dest) :
    List (SendEvent Dest) :=
  match node.life with
  | .alive => node.partition.destroy
  | .joining => node.partition.destroy
  | .flushing events => events
  | .destroyed => []

/-- A poll task that has not yet looked for a request to stop. -/
def startsPoll : PartitionTask Dest → Bool
  | .pollForMessage => true
  | _ => false

/-- A poll task that may have calls to make. -/
def mayForward : PartitionTask Dest → Bool
  | .polling => true
  | .forwarding events _ => !events.isEmpty
  | _ => false

/-- The task keeps the poll tasks that come after it from polling. -/
def endsPolls : PartitionTask Dest → Bool
  | .forceStop => true
  | .exitThread => true
  | _ => false

/-- The poll tasks of a partition will not poll its consumer. -/
structure Halted (node : RunningPartition Thread Dest) : Prop where
  past : ThreadedExecutor.Without mayForward node.executor
  stop :
    node.partition.hasStopBeenRequested = true ∨
      ThreadedExecutor.Ahead endsPolls startsPoll node.executor

/-- A partition polls no more: it has no poll task, or a stop comes first. -/
def PollsNoMore (node : RunningPartition Thread Dest) : Prop :=
  Without PollChain.isPoll node.executor ∨ Halted node

/-- A partition hands over no message any more. -/
structure PartitionQuiet (node : RunningPartition Thread Dest) : Prop where
  polls : PollsNoMore node
  /-- No filter that is left holds a buffered message. -/
  buffers : leftToFlush node = []

/-- The stop time of a filter does not matter to its buffered message. -/
theorem destroy_setStopTime (filter : SourceFilter Dest) (stop : TimePoint) :
    (filter.setStopTime stop).destroy = filter.destroy := by
  unfold SourceFilter.destroy SourceFilter.sendBufferedMessage
    SourceFilter.setStopTime
  dsimp only
  split <;> rfl

theorem destroy_applyStopTime
    (partition : Partition Dest) (stop : TimePoint) :
    (partition.applyStopTime stop).destroy = partition.destroy := by
  simp only [Partition.destroy, Partition.applyStopTime, List.flatMap_map,
    destroy_setStopTime]

section PartitionStep

variable {context : MessageContext} {node next : RunningPartition Thread Dest}
  {label : PartitionLabel Thread Dest}

/-- But for the polls, only the destructor changes what is left to flush. -/
theorem leftToFlush_step
    (taken : RunningPartition.Step context node label next)
    (notPolling : PollChain.isPolling label = false) :
    label.sent ++ leftToFlush next = leftToFlush node := by
  cases taken with
  | applyStopTime running =>
      change leftToFlush _ = _
      unfold leftToFlush
      dsimp only [RunningPartition.goTo, RunningPartition.withPartition]
      rw [destroy_applyStopTime]
  | pollConsumer _ _ => cases notPolling
  | pollReturned _ _ _ _ => cases notPolling
  | forward _ => cases notPolling
  | destroy caller alive =>
      rw [leftToFlush.eq_def node, alive]
      rfl
  | join joining _ =>
      rw [leftToFlush.eq_def node, joining]
      rfl
  | flush flushing =>
      rw [leftToFlush.eq_def node, flushing]
      rfl
  | destroyed flushing =>
      rw [leftToFlush.eq_def node, flushing]
      rfl
  | _ => rfl

/-- A partition without poll tasks gets one from a call of `start` only. -/
theorem without_polls_step
    (polls : Without PollChain.isPoll node.executor)
    (taken : RunningPartition.Step context node label next)
    (notStarted : ∀ caller, label ≠ .start caller) :
    Without PollChain.isPoll next.executor ∧
      PollChain.isPolling label = false := by
  have noPoll :
      ∀ task, node.executor.worker = .running task →
        PollChain.isPoll task = true → False := by
    intro task running poll
    rw [polls.running running] at poll
    cases poll
  cases taken with
  | start caller _ => exact absurd rfl (notStarted caller)
  | stopLow caller _ => exact ⟨polls.sendLowPriorityWork caller rfl, rfl⟩
  | stopHigh _ => exact ⟨polls.sendWork _ rfl, rfl⟩
  | setStopTime caller stop _ => exact ⟨polls.sendWork caller rfl, rfl⟩
  | look look => exact ⟨look.without polls, rfl⟩
  | forceStop running => exact ⟨polls.withWorker running nofun, rfl⟩
  | applyStopTime running => exact ⟨polls.withWorker running nofun, rfl⟩
  | seeStop running _ => exact (noPoll _ running rfl).elim
  | pause running _ => exact (noPoll _ running rfl).elim
  | wake running => exact (noPoll _ running rfl).elim
  | pollConsumer running _ => exact (noPoll _ running rfl).elim
  | pollReturned _ _ _ running => exact (noPoll _ running rfl).elim
  | forward running => exact (noPoll _ running rfl).elim
  | finish running => exact (noPoll _ running rfl).elim
  | requeue running => exact (noPoll _ running rfl).elim
  | exitThread _ => exact ⟨Or.inl rfl, rfl⟩
  | destroy caller _ => exact ⟨polls.sendWork caller rfl, rfl⟩
  | join _ _ => exact ⟨polls, rfl⟩
  | flush _ => exact ⟨polls, rfl⟩
  | destroyed _ => exact ⟨polls, rfl⟩

/-- The worker of a halted partition goes on with something else. -/
theorem Halted.goTo
    (halted : Halted node) {task : PartitionTask Dest}
    (running : node.executor.worker = .running task)
    (passes : endsPolls task = false) :
    Halted (node.goTo .ready) :=
  ⟨halted.past.withWorker running nofun,
    halted.stop.imp id fun ahead =>
      ahead.withWorker running passes nofun nofun⟩

/-- A poll task that ends queues the next one behind the stop. -/
theorem Halted.requeue
    (halted : Halted node) {task : PartitionTask Dest}
    (running : node.executor.worker = .running task)
    (passes : endsPolls task = false) :
    Halted ((node.addPollTask node.self).goTo .ready) :=
  ⟨(halted.past.sendLowPriorityWork node.self rfl).withWorker running nofun,
    halted.stop.imp id fun ahead =>
      (ahead.sendLowPriorityWork node.self _).withWorker running passes
        nofun nofun⟩

theorem Halted.step
    (halted : Halted node)
    (taken : RunningPartition.Step context node label next) :
    PollsNoMore next ∧ PollChain.isPolling label = false := by
  rcases halted with ⟨past, stop⟩
  have noPoll :
      node.executor.worker = .running .pollForMessage →
        node.partition.hasStopBeenRequested = false → False := by
    intro running unrequested
    rcases stop with requested | ahead
    · rw [unrequested] at requested
      cases requested
    · have started : startsPoll _ = false :=
        Barred.running (Or.inr ahead) running
      cases started
  cases taken with
  | start caller _ =>
      exact ⟨Or.inr ⟨past.sendLowPriorityWork caller rfl,
        stop.imp id fun ahead => ahead.sendLowPriorityWork caller _⟩, rfl⟩
  | stopLow caller _ =>
      exact ⟨Or.inr ⟨past.sendLowPriorityWork caller rfl,
        stop.imp id fun ahead => ahead.sendLowPriorityWork caller _⟩, rfl⟩
  | stopHigh _ =>
      exact ⟨Or.inr ⟨past.sendWork _ rfl,
        stop.imp id fun ahead => ahead.sendWork _ rfl⟩, rfl⟩
  | setStopTime caller time _ =>
      exact ⟨Or.inr ⟨past.sendWork caller rfl,
        stop.imp id fun ahead => ahead.sendWork caller rfl⟩, rfl⟩
  | look look =>
      exact ⟨Or.inr ⟨look.without past, stop.imp id look.ahead⟩, rfl⟩
  | forceStop running =>
      exact ⟨Or.inr ⟨past.withWorker running nofun, Or.inl rfl⟩, rfl⟩
  | applyStopTime running =>
      exact ⟨Or.inr ⟨past.withWorker running nofun,
        stop.imp id fun ahead =>
          ahead.withWorker running rfl nofun nofun⟩, rfl⟩
  | seeStop running requested =>
      exact ⟨Or.inr ⟨past.withWorker running nofun, Or.inl requested⟩, rfl⟩
  | pause running unrequested => exact (noPoll running unrequested).elim
  | wake running =>
      exact ⟨Or.inr (Halted.requeue ⟨past, stop⟩ running rfl), rfl⟩
  | pollConsumer running unrequested =>
      exact (noPoll running unrequested).elim
  | pollReturned _ _ _ running => cases past.running running
  | forward running => cases past.running running
  | finish running =>
      have ready := Halted.goTo ⟨past, stop⟩ running rfl
      exact ⟨Or.inr ⟨ready.past, ready.stop⟩, rfl⟩
  | requeue running =>
      exact ⟨Or.inr (Halted.requeue ⟨past, stop⟩ running rfl), rfl⟩
  | exitThread _ => exact ⟨Or.inl (Or.inl rfl), rfl⟩
  | destroy caller _ =>
      exact ⟨Or.inr ⟨past.sendWork caller rfl,
        stop.imp id fun ahead => ahead.sendWork caller rfl⟩, rfl⟩
  | join _ _ => exact ⟨Or.inr ⟨past, stop⟩, rfl⟩
  | flush _ => exact ⟨Or.inr ⟨past, stop⟩, rfl⟩
  | destroyed _ => exact ⟨Or.inr ⟨past, stop⟩, rfl⟩

theorem PartitionQuiet.step
    (quiet : PartitionQuiet node)
    (taken : RunningPartition.Step context node label next)
    (notStarted : ∀ caller, label ≠ .start caller) :
    PartitionQuiet next ∧ label.sent = [] := by
  have polls : PollsNoMore next ∧ PollChain.isPolling label = false := by
    rcases quiet.polls with without | halted
    · have stepped := without_polls_step without taken notStarted
      exact ⟨Or.inl stepped.1, stepped.2⟩
    · exact halted.step taken
  have flushed := leftToFlush_step taken polls.2
  rw [quiet.buffers, List.append_eq_nil_iff] at flushed
  exact ⟨⟨polls.1, flushed.2⟩, flushed.1⟩

end PartitionStep

/-! ## Topics -/

/-- The task may create partitions. -/
def createsPartitions : TopicTask → Bool
  | .initMetadataCalls => true
  | .getPartitionsForTopic _ => true
  | .getOffsetsForPartitions _ _ => true
  | .createStreams partitionOffsets => !partitionOffsets.isEmpty
  | .creatingStreams remaining => !remaining.isEmpty
  | _ => false

/-- The task with which a topic's executor ends. -/
def exitsTopic : TopicTask → Bool
  | .exitThread => true
  | _ => false

/-- A topic creates no partition any more, and all that it has are quiet. -/
structure TopicQuiet (topic : Topic Dest) : Prop where
  creation : Barred exitsTopic createsPartitions topic.executor
  partitions :
    ∀ owned ∈ topic.consumerThreads, PartitionQuiet owned.running
  dying : ∀ owned ∈ topic.dying, PartitionQuiet owned.running

theorem not_start_of_byWorker
    {label : PartitionLabel Thread Dest} (worker : label.byWorker = true)
    (caller : Thread) :
    label ≠ .start caller := by
  rintro rfl
  cases worker

theorem not_start_of_byDestructor
    {label : PartitionLabel Thread Dest} {thread : Thread}
    (destructor : label.byDestructor thread = true) (caller : Thread) :
    label ≠ .start caller := by
  rintro rfl
  cases destructor

/-- A quiet partition of a list has taken a step. -/
theorem quiet_of_set
    {context : MessageContext} {list : List (OwnedPartition Dest)}
    {index : Nat} {owned : OwnedPartition Dest}
    {label : PartitionLabel Thread Dest}
    {next : RunningPartition Thread Dest}
    (quiet : ∀ owned ∈ list, PartitionQuiet owned.running)
    (found : list[index]? = some owned)
    (taken : RunningPartition.Step context owned.running label next)
    (notStarted : ∀ caller, label ≠ .start caller) :
    (∀ other ∈ list.set index { owned with running := next },
      PartitionQuiet other.running) ∧ label.sent = [] := by
  have stepped :=
    (quiet owned (List.mem_of_getElem? found)).step taken notStarted
  refine ⟨?_, stepped.2⟩
  intro other member
  rcases List.mem_or_eq_of_mem_set member with old | rfl
  · exact quiet other old
  · exact stepped.1

theorem TopicQuiet.step
    {context : MessageContext} {calls : Nat} {topic next : Topic Dest}
    {label : TopicLabel Dest}
    (quiet : TopicQuiet topic)
    (taken : Topic.Step context calls topic label next)
    (notStarted : label ≠ .start) :
    TopicQuiet next ∧ label.sent = [] := by
  rcases quiet with ⟨creation, partitions, dying⟩
  have noCreation :
      ∀ task, topic.executor.worker = .running task →
        createsPartitions task = true → False := by
    intro task running creates
    rw [creation.running running] at creates
    cases creates
  cases taken with
  | start => exact absurd rfl notStarted
  | setStopTime stop =>
      exact ⟨⟨creation.sendWork _ rfl, partitions, dying⟩, rfl⟩
  | look look => exact ⟨⟨look.barred creation, partitions, dying⟩, rfl⟩
  | initMetadataCalls running => exact (noCreation _ running rfl).elim
  | getPartitionsForTopic _ _ running =>
      exact (noCreation _ running rfl).elim
  | getOffsetsForPartitions _ _ running =>
      exact (noCreation _ running rfl).elim
  | storeErrorMessage running =>
      exact ⟨⟨creation.goReady running rfl, partitions, dying⟩, rfl⟩
  | createStreams running =>
      have empty := creation.running running
      exact ⟨⟨creation.goOn running rfl empty, partitions, dying⟩, rfl⟩
  | createStream running => exact (noCreation _ running rfl).elim
  | streamsCreated running =>
      exact ⟨⟨(creation.sendLowPriorityWork _ rfl).goReady running rfl,
        partitions, dying⟩, rfl⟩
  | beginStopTime running =>
      exact ⟨⟨creation.goOn running rfl rfl, partitions, dying⟩, rfl⟩
  | passStopTime running found taken =>
      have stepped := quiet_of_set partitions found taken fun _ => nofun
      exact ⟨⟨creation.goOn running rfl rfl, stepped.1, dying⟩, rfl⟩
  | endStopTime running _ =>
      exact ⟨⟨creation.goReady running rfl, partitions, dying⟩, rfl⟩
  | checkIfDone running =>
      exact ⟨⟨creation.goOn running rfl rfl, partitions, dying⟩, rfl⟩
  | keepPartition running _ _ =>
      exact ⟨⟨creation.goOn running rfl rfl, partitions, dying⟩, rfl⟩
  | erasePartition running found _ =>
      refine ⟨⟨creation, ?_, ?_⟩, rfl⟩
      · intro owned member
        exact partitions owned (List.mem_of_mem_eraseIdx member)
      · intro owned member
        rcases List.mem_append.mp member with old | new
        · exact dying owned old
        · rw [List.mem_singleton] at new
          subst new
          exact partitions _ (List.mem_of_getElem? found)
  | partitionsChecked running _ _ =>
      exact ⟨⟨creation.goOn running rfl rfl, partitions, dying⟩, rfl⟩
  | wake running =>
      exact ⟨⟨(creation.sendLowPriorityWork _ rfl).goReady running rfl,
        partitions, dying⟩, rfl⟩
  | exitThread _ =>
      exact ⟨⟨Or.inl (Or.inl rfl), partitions, dying⟩, rfl⟩
  | partition found worker taken =>
      have stepped :=
        quiet_of_set partitions found taken (not_start_of_byWorker worker)
      refine ⟨⟨creation, stepped.1, dying⟩, ?_⟩
      rw [TopicLabel.sent, stepped.2]
      rfl
  | dyingPartition found worker taken =>
      have stepped :=
        quiet_of_set dying found taken (not_start_of_byWorker worker)
      refine ⟨⟨creation, partitions, stepped.1⟩, ?_⟩
      rw [TopicLabel.sent, stepped.2]
      rfl
  | destroyPartition found destructor taken =>
      have stepped :=
        quiet_of_set dying found taken (not_start_of_byDestructor destructor)
      refine ⟨⟨creation, partitions, stepped.1⟩, ?_⟩
      rw [TopicLabel.sent, stepped.2]
      rfl
  | partitionDestroyed _ _ =>
      refine ⟨⟨creation, partitions, ?_⟩, rfl⟩
      intro owned member
      exact dying owned (List.mem_of_mem_eraseIdx member)
  | stopLow found taken =>
      have stepped := quiet_of_set partitions found taken fun _ => nofun
      exact ⟨⟨creation, stepped.1, dying⟩, rfl⟩
  | stopHigh found taken =>
      have stepped := quiet_of_set partitions found taken fun _ => nofun
      exact ⟨⟨creation, stepped.1, dying⟩, rfl⟩
  | destroy caller _ =>
      exact ⟨⟨creation.sendWork caller rfl, partitions, dying⟩, rfl⟩
  | join _ _ _ => exact ⟨⟨creation, partitions, dying⟩, rfl⟩
  | destroyMember _ found destructor taken =>
      have stepped :=
        quiet_of_set partitions found taken
          (not_start_of_byDestructor destructor)
      refine ⟨⟨creation, stepped.1, dying⟩, ?_⟩
      rw [TopicLabel.sent, stepped.2]
      rfl
  | destroyed _ _ _ => exact ⟨⟨creation, partitions, dying⟩, rfl⟩

/-! ## The controller -/

/-- The task may create topics. -/
def createsTopics : ControllerTask Dest → Bool
  | .getTopicNames _ => true
  | .initStreams _ => true
  | .creatingTopics remaining => !remaining.isEmpty
  | .creatingTopic _ _ _ => true
  | _ => false

/-- The task with which the controller's executor ends. -/
def exitsController : ControllerTask Dest → Bool
  | .exitThread => true
  | _ => false

/-- The controller creates no topic any more, and all that it has are quiet. -/
structure Quiet (controller : StreamController Dest) : Prop where
  creation : Barred exitsController createsTopics controller.executor
  streamers : ∀ topic, some topic ∈ controller.streamers → TopicQuiet topic
  retired : ∀ topic ∈ controller.retired, TopicQuiet topic

/-- Nothing else matters to whether a job is quiet. -/
theorem Quiet.of_fields
    {controller next : StreamController Dest} (quiet : Quiet controller)
    (executor : Barred exitsController createsTopics next.executor)
    (streamers : next.streamers = controller.streamers)
    (retired : next.retired = controller.retired) :
    Quiet next := by
  refine ⟨executor, ?_, ?_⟩
  · rw [streamers]
    exact quiet.streamers
  · rw [retired]
    exact quiet.retired

/-- A quiet topic of the vector has taken a step. -/
theorem Quiet.setTopic
    {context : MessageContext} {controller next : StreamController Dest}
    {index : Nat} {topic after : Topic Dest} {label : TopicLabel Dest}
    (quiet : Quiet controller)
    (found : controller.streamers[index]? = some (some topic))
    (taken : Topic.Step context controller.calls topic label after)
    (notStarted : label ≠ .start)
    (executor : Barred exitsController createsTopics next.executor)
    (streamers : next.streamers = controller.streamers.set index (some after))
    (retired : next.retired = controller.retired) :
    Quiet next ∧ label.sent = [] := by
  have stepped :=
    (quiet.streamers topic (List.mem_of_getElem? found)).step taken notStarted
  refine ⟨⟨executor, ?_, ?_⟩, stepped.2⟩
  · rw [streamers]
    intro other member
    rcases List.mem_or_eq_of_mem_set member with old | new
    · exact quiet.streamers other old
    · cases new
      exact stepped.1
  · rw [retired]
    exact quiet.retired

theorem not_start_of_byTopic
    {label : TopicLabel Dest}
    (own : StreamController.byTopic label = true) :
    label ≠ .start := by
  rintro rfl
  cases own

theorem not_start_of_topicDestructor
    {label : TopicLabel Dest} {caller : Thread}
    (destructor : StreamController.byDestructor caller label = true) :
    label ≠ .start := by
  rintro rfl
  cases destructor

/-- A step of a call of `stop` keeps the job quiet, after its caller's step. -/
theorem Quiet.stopStep
    {context : MessageContext} {caller : Thread}
    {controller next last : StreamController Dest} {point after : StopPoint}
    (quiet : Quiet controller)
    (taken :
      StreamController.StopStep context caller controller point next after)
    (executor : Barred exitsController createsTopics last.executor)
    (streamers : last.streamers = next.streamers)
    (retired : last.retired = next.retired) :
    Quiet last := by
  cases taken with
  | enterTopic _ _ => exact quiet.of_fields executor streamers retired
  | firstTask _ found taken =>
      exact (quiet.setTopic found taken nofun executor streamers retired).1
  | secondTask found taken =>
      exact (quiet.setTopic found taken nofun executor streamers retired).1
  | nextTopic => exact quiet.of_fields executor streamers retired
  | lastTopic => exact quiet.of_fields executor streamers retired
  | writer => exact quiet.of_fields executor streamers retired
  | flag => exact quiet.of_fields executor streamers retired

/-- What a step sends to the writer. -/
def sentBy : StreamLabel Dest → List (Thread × SendEvent Dest)
  | .sent events => events
  | _ => []

/-- A quiet job stays quiet and hands over no message. -/
theorem Quiet.step
    {context : MessageContext} {controller next : StreamController Dest}
    {label : StreamLabel Dest}
    (quiet : Quiet controller)
    (taken : StreamController.Step context controller label next) :
    Quiet next ∧ sentBy label = [] := by
  have creation := quiet.creation
  have noCreation :
      ∀ task, controller.executor.worker = .running task →
        createsTopics task = true → False := by
    intro task running creates
    rw [creation.running running] at creates
    cases creates
  cases taken with
  | setStopTime _ _ => exact ⟨quiet.of_fields creation rfl rfl, rfl⟩
  | sendStopTime _ =>
      exact ⟨quiet.of_fields (creation.sendWork _ rfl) rfl rfl, rfl⟩
  | stop _ => exact ⟨quiet.of_fields creation rfl rfl, rfl⟩
  | destroy _ => exact ⟨quiet.of_fields creation rfl rfl, rfl⟩
  | mainStop _ taken =>
      refine ⟨quiet.stopStep taken ?_ rfl rfl, rfl⟩
      have same := taken.points.1
      exact same ▸ creation
  | stopped _ => exact ⟨quiet.of_fields creation rfl rfl, rfl⟩
  | exitExecutor _ =>
      exact ⟨quiet.of_fields (creation.sendWork _ rfl) rfl rfl, rfl⟩
  | joinExecutor _ _ => exact ⟨quiet.of_fields creation rfl rfl, rfl⟩
  | stopWriter _ => exact ⟨quiet.of_fields creation rfl rfl, rfl⟩
  | joinWriter _ _ => exact ⟨quiet.of_fields creation rfl rfl, rfl⟩
  | destroyTopic _ found destructor taken =>
      exact quiet.setTopic found taken
        (not_start_of_topicDestructor destructor) creation rfl rfl
  | topicDestroyed _ _ _ => exact ⟨quiet.of_fields creation rfl rfl, rfl⟩
  | topicsDestroyed _ _ => exact ⟨quiet.of_fields creation rfl rfl, rfl⟩
  | destroyModules _ => exact ⟨quiet.of_fields creation rfl rfl, rfl⟩
  | look look =>
      exact ⟨quiet.of_fields (look.barred creation) rfl rfl, rfl⟩
  | getTopicNames _ running => exact (noCreation _ running rfl).elim
  | initStreams running => exact (noCreation _ running rfl).elim
  | flagError running =>
      exact ⟨quiet.of_fields (creation.goReady running rfl) rfl rfl, rfl⟩
  | readStopTime running => exact (noCreation _ running rfl).elim
  | createTopic _ running => exact (noCreation _ running rfl).elim
  | topicsCreated running =>
      exact ⟨quiet.of_fields
        ((creation.sendLowPriorityWork _ rfl).goReady running rfl)
        rfl rfl, rfl⟩
  | beginStopTime running =>
      exact ⟨quiet.of_fields (creation.goOn running rfl rfl) rfl rfl, rfl⟩
  | passStopTime running found taken =>
      have stepped :=
        (quiet.setTopic found taken nofun creation rfl rfl :
          Quiet (controller.setTopic _ _) ∧ _).1
      exact ⟨stepped.of_fields (creation.goOn running rfl rfl) rfl rfl, rfl⟩
  | endStopTime running _ =>
      exact ⟨quiet.of_fields (creation.goReady running rfl) rfl rfl, rfl⟩
  | performPeriodicChecks running =>
      exact ⟨quiet.of_fields (creation.goOn running rfl rfl) rfl rfl, rfl⟩
  | streamDone running _ _ _ _ =>
      exact ⟨quiet.of_fields (creation.goOn running rfl rfl) rfl rfl, rfl⟩
  | keepStream running _ _ _ _ =>
      exact ⟨quiet.of_fields (creation.goOn running rfl rfl) rfl rfl, rfl⟩
  | moveStream running _ _ found overwrites _ _ =>
      refine ⟨⟨creation.goOn running rfl rfl, ?_, ?_⟩, rfl⟩
      · intro other member
        rcases List.mem_or_eq_of_mem_set member with set_ | null
        · rcases List.mem_or_eq_of_mem_set set_ with old | moved
          · exact quiet.streamers other old
          · cases moved
            exact quiet.streamers _ (List.mem_of_getElem? found)
        · cases null
      · intro other member
        have moved := Option.mem_toList.mp member
        cases moved
        exact quiet.streamers other (List.mem_of_getElem? overwrites)
  | eraseStreams running _ _ =>
      refine ⟨⟨creation.goOn running rfl rfl, ?_, ?_⟩, rfl⟩
      · intro other member
        exact quiet.streamers other (List.mem_of_mem_take member)
      · intro other member
        rcases List.mem_filterMap.mp member with ⟨slot, dropped, rfl⟩
        exact quiet.streamers other (List.mem_of_mem_drop dropped)
  | streamsErased running _ =>
      exact ⟨quiet.of_fields (creation.goOn running rfl rfl) rfl rfl, rfl⟩
  | streamThrows running _ _ _ =>
      exact ⟨quiet.of_fields (creation.goOn running rfl rfl) rfl rfl, rfl⟩
  | storeError running =>
      exact ⟨quiet.of_fields (creation.goOn running rfl rfl) rfl rfl, rfl⟩
  | controllerStop running taken =>
      refine ⟨quiet.stopStep taken ?_ rfl rfl, rfl⟩
      have same := taken.points.1
      exact Barred.goOn (same ▸ creation) (same ▸ running) rfl rfl
  | controllerStopped running =>
      exact ⟨quiet.of_fields (creation.goOn running rfl rfl) rfl rfl, rfl⟩
  | wake running =>
      exact ⟨quiet.of_fields
        ((creation.sendLowPriorityWork _ rfl).goReady running rfl)
        rfl rfl, rfl⟩
  | exitThread running =>
      exact ⟨quiet.of_fields (Or.inl (Or.inl rfl)) rfl rfl, rfl⟩
  | topic found own taken =>
      exact quiet.setTopic found taken (not_start_of_byTopic own) creation
        rfl rfl
  | @retiredTopic _ _ _ label found own taken =>
      have notStarted : label ≠ .start := by
        rcases Bool.or_eq_true_iff.mp own with topic | destructor
        · exact not_start_of_byTopic topic
        · exact not_start_of_topicDestructor destructor
      have stepped :=
        (quiet.retired _ (List.mem_of_getElem? found)).step taken notStarted
      refine ⟨⟨creation, quiet.streamers, ?_⟩, stepped.2⟩
      intro other member
      rcases List.mem_or_eq_of_mem_set member with old | rfl
      · exact quiet.retired other old
      · exact stepped.1
  | retiredDestroyed _ _ =>
      refine ⟨⟨creation, quiet.streamers, ?_⟩, rfl⟩
      intro other member
      exact quiet.retired other (List.mem_of_mem_eraseIdx member)
  | writer _ => exact ⟨quiet.of_fields creation rfl rfl, rfl⟩

/-- A quiet job with one topic that has one partition. -/
theorem quiet_of_onlyPartition
    {controller : StreamController Dest} {topic : Topic Dest}
    {owned : OwnedPartition Dest}
    (only : controller.streamers = [some topic])
    (retired : controller.retired = [])
    (onlyPartition : topic.consumerThreads = [owned])
    (dying : topic.dying = [])
    (topics : ThreadedExecutor.Without createsTopics controller.executor)
    (partitions : ThreadedExecutor.Without createsPartitions topic.executor)
    (quiet : PartitionQuiet owned.running) :
    Quiet controller := by
  refine ⟨Or.inl topics, ?_, ?_⟩
  · rw [only]
    intro other member
    cases List.mem_singleton.mp member
    refine ⟨Or.inl partitions, ?_, ?_⟩
    · rw [onlyPartition]
      intro other member
      cases List.mem_singleton.mp member
      exact quiet
    · rw [dying]
      exact fun _ member => absurd member List.not_mem_nil
  · rw [retired]
    exact fun _ member => absurd member List.not_mem_nil

end KafkaToNexus.Shutdown
