import KafkaToNexus.StopTimePropagation.PartitionStops

/-!
# Stop times on their way through a topic

The executor of a topic takes the stop times that the controller sends, keeps
each of them and passes it on to the partitions, one after the other.  A
partition is created with the value that the topic has at that time.  The
values on their way to a partition are those in its own executor, then the
value that the topic is passing on if it has not come to the partition, and at
last those in the executor of the topic.
-/

namespace KafkaToNexus.StopTimePropagation

open KafkaToNexus
open KafkaToNexus.Foundations
open KafkaToNexus.Foundations.ProducerQueue
open KafkaToNexus.Stream
open KafkaToNexus.ThreadedExecutor

variable {Dest : Type*}

/-- What is found in an extended list was there before or is the new element. -/
theorem found_of_concat
    {Element : Type*} {list : List Element} {index : Nat}
    {last found : Element}
    (at_ : (list ++ [last])[index]? = some found) :
    list[index]? = some found ∨ found = last := by
  rw [List.getElem?_append] at at_
  split at at_
  · exact Or.inl at_
  · right
    have member := List.mem_of_getElem? at_
    exact List.mem_singleton.mp member

/-- What is found in a changed list is the new element or was there before. -/
theorem found_of_set
    {Element : Type*} {list : List Element} {index other : Nat}
    {value found : Element}
    (at_ : (list.set index value)[other]? = some found) :
    (other = index ∧ found = value) ∨
      (other ≠ index ∧ list[other]? = some found) := by
  rw [List.getElem?_set] at at_
  split at at_
  · rename_i same
    split at at_
    · cases at_
      exact Or.inl ⟨same.symm, rfl⟩
    · cases at_
  · rename_i different
    exact Or.inr ⟨Ne.symm different, at_⟩

/-! ## Topics -/

/-- The stop time that a task of a topic sets. -/
def topicStop : TopicTask → Option TimePoint
  | .setStopTime stop => some stop
  | _ => none

/--
The stop times that the running task has still to pass on: to the partition
with an index or, without an index, to the field for later partitions.
-/
def topicRun (index : Option Nat) : TopicTask → List TimePoint
  | .setStopTime stop => [stop]
  | .settingStopTime stop next =>
      match index with
      | none => []
      | some index => if next ≤ index then [stop] else []
  | _ => []

theorem topicRun_settingStopTime (index next : Nat) (stop : TimePoint) :
    topicRun (some index) (.settingStopTime stop next) =
      if next ≤ index then [stop] else [] :=
  rfl

/-- The stop times in the executor of a topic. -/
def topicPending (index : Option Nat) (topic : Topic Dest) : List TimePoint :=
  topic.executor.pendingValues (topicRun index) topicStop

/-- The stop times in the executor of a topic all come from the controller. -/
def TopicInOrder (topic : Topic Dest) : Prop :=
  ∀ index, InOrder (topicRun index) topicStop .controller topic.executor

/-- The stop time that a call sends to a topic. -/
def sentToTopic : TopicLabel Dest → List TimePoint
  | .setStopTime stop => [stop]
  | _ => []

/-- A task that has nothing to do with stop times. -/
structure Silent (task : TopicTask) : Prop where
  run : ∀ index, topicRun index task = []
  stop : topicStop task = none

theorem silent_getPartitionsForTopic (reset : Bool) :
    Silent (.getPartitionsForTopic reset) :=
  ⟨fun _ => rfl, rfl⟩

theorem silent_getOffsetsForPartitions
    (reset : Bool) (partitions : List Int) :
    Silent (.getOffsetsForPartitions reset partitions) :=
  ⟨fun _ => rfl, rfl⟩

theorem silent_createStreams (partitionOffsets : List (Int × Int)) :
    Silent (.createStreams partitionOffsets) :=
  ⟨fun _ => rfl, rfl⟩

/-- The topic is the same and its stop times are in order. -/
structure Continues (topic next : Topic Dest) : Prop where
  id : next.id = topic.id
  inOrder : TopicInOrder topic → TopicInOrder next

/-- The stop time of the topic and those on their way are the same. -/
structure SameStops (topic next : Topic Dest) : Prop
    extends Continues topic next where
  stop : next.stopConsumeTime = topic.stopConsumeTime
  pending : ∀ index, topicPending index next = topicPending index topic

theorem SameStops.trans
    {first second third : Topic Dest}
    (before : SameStops first second) (after : SameStops second third) :
    SameStops first third :=
  ⟨⟨after.id.trans before.id,
      fun inOrder => after.inOrder (before.inOrder inOrder)⟩,
    after.stop.trans before.stop,
    fun index => (after.pending index).trans (before.pending index)⟩

/-- Nothing else matters to the stop times. -/
theorem sameStops_of_fields
    {topic next : Topic Dest} (id : next.id = topic.id)
    (stop : next.stopConsumeTime = topic.stopConsumeTime)
    (executor : next.executor = topic.executor) :
    SameStops topic next := by
  refine ⟨⟨id, ?_⟩, stop, ?_⟩
  · intro inOrder index
    rw [executor]
    exact inOrder index
  · intro index
    rw [topicPending, executor]
    rfl

theorem sameStops_sendWork
    (topic : Topic Dest) (caller : Thread) {task : TopicTask}
    (silent : Silent task) :
    SameStops topic (topic.sendWork caller task) := by
  refine ⟨⟨rfl, ?_⟩, rfl, ?_⟩
  · intro inOrder index
    apply (inOrder index).sendWork
    · rw [silent.stop]
      intro contrary
      cases contrary
    · rw [silent.run, silent.stop]
      rfl
  · intro index
    refine (pendingValues_sendWork _ _).trans ?_
    rw [silent.stop]
    exact List.append_nil _

theorem sameStops_sendLowPriorityWork
    (topic : Topic Dest) (caller : Thread) {task : TopicTask}
    (silent : Silent task) :
    SameStops topic (topic.sendLowPriorityWork caller task) :=
  ⟨⟨rfl, fun inOrder index =>
      (inOrder index).sendLowPriorityWork caller (silent.run index)⟩,
    rfl, fun _ => rfl⟩

/-- The worker goes on from one point to another without stop times. -/
theorem sameStops_goTo
    {topic : Topic Dest} {task : TopicTask} {worker : Worker TopicTask}
    (running : topic.executor.worker = .running task)
    (before : ∀ index, topicRun index task = [])
    (after : ∀ index, runningValues (topicRun index) worker = []) :
    SameStops topic (topic.goTo worker) := by
  refine ⟨⟨rfl, fun inOrder index => (inOrder index).withWorker worker⟩,
    rfl, ?_⟩
  intro index
  refine (pendingValues_withWorker worker).trans ?_
  rw [topicPending, pendingValues_of_running running, before, after]

theorem sameStops_look
    {topic : Topic Dest} {found : Option TopicTask}
    {executor : ThreadedExecutor Thread TopicTask}
    (inOrder : TopicInOrder topic)
    (look : Look topic.executor found executor) :
    SameStops topic { topic with executor } :=
  ⟨⟨rfl, fun inOrder index => look.inOrder (inOrder index)⟩,
    rfl, fun index => look.pendingValues (inOrder index)⟩

theorem sameStops_retryOrGiveUp
    {topic : Topic Dest} {running task : TopicTask}
    (worker : topic.executor.worker = .running running)
    (before : ∀ index, topicRun index running = [])
    (silent : Silent task) (what : String) (now : TimePoint) :
    SameStops topic (topic.retryOrGiveUp task what now) ∧
      (topic.retryOrGiveUp task what now).consumerThreads =
        topic.consumerThreads := by
  unfold Topic.retryOrGiveUp
  split
  · let failed : Topic Dest := { topic with hasError := true }
    have failedWorker : failed.executor.worker = .running running := worker
    have same : SameStops topic failed := sameStops_of_fields rfl rfl rfl
    exact ⟨same.trans (sameStops_goTo failedWorker before fun _ => rfl), rfl⟩
  · dsimp only
    generalize topic.currentMetadataTimeOut.doubledUpTo _ = timeOut
    let delayed : Topic Dest := { topic with currentMetadataTimeOut := timeOut }
    have queued := sameStops_sendLowPriorityWork delayed delayed.self silent
    have queuedWorker :
        (delayed.sendLowPriorityWork delayed.self task).executor.worker =
          .running running := worker
    have same : SameStops topic delayed := sameStops_of_fields rfl rfl rfl
    exact ⟨(same.trans queued).trans
      (sameStops_goTo queuedWorker before fun _ => rfl), rfl⟩

theorem sameStops_resetTimeOut (topic : Topic Dest) (reset : Bool) :
    SameStops topic (topic.resetTimeOut reset) ∧
      (topic.resetTimeOut reset).consumerThreads = topic.consumerThreads ∧
      (topic.resetTimeOut reset).executor = topic.executor := by
  cases reset <;> exact ⟨sameStops_of_fields rfl rfl rfl, rfl, rfl⟩

theorem sameStops_getPartitionsForTopic
    {topic : Topic Dest} {reset : Bool}
    (running :
      topic.executor.worker = .running (.getPartitionsForTopic reset))
    (outcome : MetadataOutcome (List Int)) (now : TimePoint) :
    SameStops topic (topic.getPartitionsForTopic reset outcome now) ∧
      (topic.getPartitionsForTopic reset outcome now).consumerThreads =
        topic.consumerThreads := by
  rcases sameStops_resetTimeOut topic reset with ⟨same, threads, executor⟩
  have worker := (congrArg ThreadedExecutor.worker executor).trans running
  cases outcome with
  | found partitions =>
      have sent :=
        sameStops_sendWork (topic.resetTimeOut reset)
          (topic.resetTimeOut reset).self
          (silent_getOffsetsForPartitions true partitions)
      exact ⟨(same.trans sent).trans
        (sameStops_goTo worker (fun _ => rfl) fun _ => rfl), threads⟩
  | metadataException what =>
      rcases sameStops_retryOrGiveUp worker (fun _ => rfl)
          (silent_getPartitionsForTopic false) _ now with ⟨retried, kept⟩
      exact ⟨same.trans retried, kept.trans threads⟩

theorem sameStops_getOffsetsForPartitions
    {topic : Topic Dest} {reset : Bool} {partitions : List Int}
    (running :
      topic.executor.worker =
        .running (.getOffsetsForPartitions reset partitions))
    (outcome : MetadataOutcome (List (Int × Int))) (now : TimePoint) :
    SameStops topic
        (topic.getOffsetsForPartitions reset partitions outcome now) ∧
      (topic.getOffsetsForPartitions reset partitions outcome
        now).consumerThreads = topic.consumerThreads := by
  rcases sameStops_resetTimeOut topic reset with ⟨same, threads, executor⟩
  have worker := (congrArg ThreadedExecutor.worker executor).trans running
  cases outcome with
  | found partitionOffsets =>
      have sent :=
        sameStops_sendWork (topic.resetTimeOut reset)
          (topic.resetTimeOut reset).self
          (silent_createStreams partitionOffsets)
      exact ⟨(same.trans sent).trans
        (sameStops_goTo worker (fun _ => rfl) fun _ => rfl), threads⟩
  | metadataException what =>
      rcases sameStops_retryOrGiveUp worker (fun _ => rfl)
          (silent_getOffsetsForPartitions false partitions) _ now with ⟨retried, kept⟩
      exact ⟨same.trans retried, kept.trans threads⟩

/--
What a step can do to the stop times of a topic and of its partitions.  The
list holds the stop time that the step sends to the topic, if it does.
-/
inductive TopicEffect
    (context : MessageContext) (calls : Nat) (topic next : Topic Dest) :
    List TimePoint → Prop where
  | same :
      SameStops topic next →
      next.consumerThreads = topic.consumerThreads →
      TopicEffect context calls topic next []
  | received {stop : TimePoint} :
      Continues topic next →
      next.stopConsumeTime = topic.stopConsumeTime →
      next.consumerThreads = topic.consumerThreads →
      (∀ index,
        topicPending index next = topicPending index topic ++ [stop]) →
      TopicEffect context calls topic next [stop]
  | created {id : Int} :
      SameStops topic next →
      (∀ index, topicPending index topic = topicPending none topic) →
      next.consumerThreads =
        topic.consumerThreads ++ [topic.createPartition calls id] →
      TopicEffect context calls topic next []
  | began {stop : TimePoint} :
      Continues topic next →
      next.stopConsumeTime = stop →
      next.consumerThreads = topic.consumerThreads →
      topicPending none topic = stop :: topicPending none next →
      (∀ index,
        topicPending (some index) next = topicPending (some index) topic) →
      TopicEffect context calls topic next []
  | passed {stop : TimePoint} {index : Nat} {owned : OwnedPartition Dest}
      {running : RunningPartition Thread Dest} :
      Continues topic next →
      next.stopConsumeTime = topic.stopConsumeTime →
      topic.consumerThreads[index]? = some owned →
      RunningPartition.Step context owned.running
        (.setStopTime topic.self stop) running →
      next.consumerThreads =
        topic.consumerThreads.set index { owned with running } →
      topicPending none next = topicPending none topic →
      topicPending (some index) topic =
        stop :: topicPending (some index) next →
      (∀ other, other ≠ index →
        topicPending (some other) next = topicPending (some other) topic) →
      TopicEffect context calls topic next []
  | ended :
      Continues topic next →
      next.stopConsumeTime = topic.stopConsumeTime →
      next.consumerThreads = topic.consumerThreads →
      topicPending none next = topicPending none topic →
      (∀ index, index < topic.consumerThreads.length →
        topicPending (some index) next = topicPending (some index) topic) →
      (∀ index, topicPending index next = topicPending none next) →
      TopicEffect context calls topic next []
  | erased {index : Nat} :
      SameStops topic next →
      (∀ index, topicPending index topic = topicPending none topic) →
      next.consumerThreads = topic.consumerThreads.eraseIdx index →
      TopicEffect context calls topic next []
  | stepped {index : Nat} {owned : OwnedPartition Dest}
      {label : PartitionLabel Thread Dest}
      {running : RunningPartition Thread Dest} :
      SameStops topic next →
      topic.consumerThreads[index]? = some owned →
      RunningPartition.Step context owned.running label running →
      (∀ caller stop, label ≠ .setStopTime caller stop) →
      next.consumerThreads =
        topic.consumerThreads.set index { owned with running } →
      TopicEffect context calls topic next []

theorem topicPending_of_running
    {topic : Topic Dest} {task : TopicTask}
    (running : topic.executor.worker = .running task)
    (index : Option Nat) :
    topicPending index topic =
      topicRun index task ++ selectItems topicStop topic.executor.taskQueue :=
  pendingValues_of_running running

/-- A running task without stop times leaves the queued ones alone. -/
theorem topicPending_eq_none
    {topic : Topic Dest} {task : TopicTask}
    (running : topic.executor.worker = .running task)
    (silent : ∀ index, topicRun index task = []) (index : Option Nat) :
    topicPending index topic = topicPending none topic := by
  rw [topicPending_of_running running, topicPending_of_running running,
    silent, silent]

theorem continues_withWorker
    {topic next : Topic Dest} {worker : Worker TopicTask}
    (id : next.id = topic.id)
    (executor : next.executor = topic.executor.withWorker worker) :
    Continues topic next := by
  refine ⟨id, ?_⟩
  intro inOrder index
  rw [executor]
  exact (inOrder index).withWorker worker

theorem not_setStopTime_of_byWorker
    {label : PartitionLabel Thread Dest} (worker : label.byWorker = true)
    (caller : Thread) (stop : TimePoint) :
    label ≠ .setStopTime caller stop := by
  rintro rfl
  cases worker

theorem not_setStopTime_of_byDestructor
    {label : PartitionLabel Thread Dest} {thread : Thread}
    (destructor : label.byDestructor thread = true)
    (caller : Thread) (stop : TimePoint) :
    label ≠ .setStopTime caller stop := by
  rintro rfl
  cases destructor

/-- The topic has taken the stop time, and has it for every partition. -/
theorem topic_beginStopTime
    {context : MessageContext} {calls : Nat} {topic : Topic Dest}
    {stop : TimePoint}
    (running : topic.executor.worker = .running (.setStopTime stop)) :
    TopicEffect context calls topic
      ({ topic with stopConsumeTime := stop }.goTo
        (.running (.settingStopTime stop 0))) [] := by
  refine .began (continues_withWorker rfl rfl) rfl rfl ?_ ?_
  · exact topicPending_of_running running none
  · intro index
    refine Eq.trans ?_ (topicPending_of_running running _).symm
    refine (topicPending_of_running rfl (some index)).trans ?_
    rw [topicRun_settingStopTime, if_pos (Nat.zero_le index)]
    rfl

/-- One partition gets the stop time, which the others have or will get. -/
theorem topic_passStopTime
    {context : MessageContext} {calls : Nat} {topic : Topic Dest}
    {stop : TimePoint} {index : Nat} {owned : OwnedPartition Dest}
    {next : RunningPartition Thread Dest}
    (running : topic.executor.worker = .running (.settingStopTime stop index))
    (found : topic.consumerThreads[index]? = some owned)
    (taken :
      RunningPartition.Step context owned.running
        (.setStopTime topic.self stop) next) :
    TopicEffect context calls topic
      ((topic.setPartition index owned next).goTo
        (.running (.settingStopTime stop (index + 1)))) [] := by
  refine .passed (continues_withWorker rfl rfl) rfl found taken rfl ?_ ?_ ?_
  · exact (topicPending_of_running running none).symm
  · refine (topicPending_of_running running _).trans ?_
    rw [topicRun_settingStopTime, if_pos (Nat.le_refl index)]
    refine congrArg (stop :: ·) ?_
    refine Eq.trans ?_ (topicPending_of_running rfl (some index)).symm
    rw [topicRun_settingStopTime, if_neg (Nat.not_succ_le_self index)]
    rfl
  · intro other different
    refine Eq.trans ?_ (topicPending_of_running running _).symm
    refine (topicPending_of_running rfl (some other)).trans ?_
    have later : index + 1 ≤ other ↔ index ≤ other := by omega
    simp only [topicRun_settingStopTime, later]
    rfl

/-- Behind the last partition the stop time has been passed on. -/
theorem topic_endStopTime
    {context : MessageContext} {calls : Nat} {topic : Topic Dest}
    {stop : TimePoint} {index : Nat}
    (running : topic.executor.worker = .running (.settingStopTime stop index))
    (past : topic.consumerThreads.length ≤ index) :
    TopicEffect context calls topic (topic.goTo .ready) [] := by
  refine .ended (continues_withWorker rfl rfl) rfl rfl ?_ ?_ ?_
  · exact (topicPending_of_running running none).symm
  · intro other inside
    refine Eq.trans ?_ (topicPending_of_running running _).symm
    have passed : ¬ index ≤ other := by omega
    rw [topicRun_settingStopTime, if_neg passed]
    rfl
  · intro other
    rfl

/-- What every step of a topic does to the stop times. -/
theorem topic_step
    {context : MessageContext} {calls : Nat} {topic next : Topic Dest}
    {label : TopicLabel Dest}
    (taken : Topic.Step context calls topic label next)
    (inOrder : TopicInOrder topic) :
    TopicEffect context calls topic next (sentToTopic label) := by
  cases taken with
  | start =>
      exact .same (sameStops_sendWork topic .controller ⟨fun _ => rfl, rfl⟩)
        rfl
  | setStopTime stop =>
      refine .received ⟨rfl, ?_⟩ rfl rfl ?_
      · intro _ index
        exact (inOrder index).sendWork (fun _ => rfl) rfl
      · intro index
        exact pendingValues_sendWork _ _
  | look look => exact .same (sameStops_look inOrder look) rfl
  | initMetadataCalls running =>
      have sent :=
        sameStops_sendWork topic topic.self (silent_getPartitionsForTopic true)
      exact .same
        (sent.trans (sameStops_goTo running (fun _ => rfl) fun _ => rfl)) rfl
  | getPartitionsForTopic outcome now running =>
      rcases sameStops_getPartitionsForTopic running outcome now with
        ⟨same, threads⟩
      exact .same same threads
  | getOffsetsForPartitions outcome now running =>
      rcases sameStops_getOffsetsForPartitions running outcome now with
        ⟨same, threads⟩
      exact .same same threads
  | @storeErrorMessage msg running =>
      have stored : SameStops topic { topic with errorMessage := msg } :=
        sameStops_of_fields rfl rfl rfl
      exact .same
        (stored.trans (sameStops_goTo running (fun _ => rfl) fun _ => rfl))
        rfl
  | createStreams running =>
      rcases sameStops_resetTimeOut topic true with ⟨same, threads, executor⟩
      have worker :=
        (congrArg ThreadedExecutor.worker executor).trans running
      exact .same
        (same.trans (sameStops_goTo worker (fun _ => rfl) fun _ => rfl))
        threads
  | @createStream parOffset remaining running =>
      have extended : SameStops topic
          (topic.withPartitions
            (topic.consumerThreads ++
              [topic.createPartition calls parOffset.1])) :=
        sameStops_of_fields rfl rfl rfl
      exact .created
        (extended.trans (sameStops_goTo running (fun _ => rfl) fun _ => rfl))
        (topicPending_eq_none running fun _ => rfl) rfl
  | streamsCreated running =>
      have sent : SameStops topic
          (topic.sendLowPriorityWork topic.self .checkIfDone) :=
        sameStops_sendLowPriorityWork topic topic.self ⟨fun _ => rfl, rfl⟩
      exact .same
        (sent.trans (sameStops_goTo running (fun _ => rfl) fun _ => rfl)) rfl
  | beginStopTime running => exact topic_beginStopTime running
  | passStopTime running found taken =>
      exact topic_passStopTime running found taken
  | endStopTime running past => exact topic_endStopTime running past
  | checkIfDone running =>
      exact .same (sameStops_goTo running (fun _ => rfl) fun _ => rfl) rfl
  | keepPartition running _ _ =>
      exact .same (sameStops_goTo running (fun _ => rfl) fun _ => rfl) rfl
  | erasePartition running _ _ =>
      exact .erased (sameStops_of_fields rfl rfl rfl)
        (topicPending_eq_none running fun _ => rfl) rfl
  | partitionsChecked running _ _ =>
      have checked : SameStops topic
          { topic with
            isDoneFlag :=
              topic.isDoneFlag || topic.consumerThreads.isEmpty } :=
        sameStops_of_fields rfl rfl rfl
      exact .same
        (checked.trans (sameStops_goTo running (fun _ => rfl) fun _ => rfl))
        rfl
  | wake running =>
      have sent : SameStops topic
          (topic.sendLowPriorityWork topic.self .checkIfDone) :=
        sameStops_sendLowPriorityWork topic topic.self ⟨fun _ => rfl, rfl⟩
      exact .same
        (sent.trans (sameStops_goTo running (fun _ => rfl) fun _ => rfl)) rfl
  | exitThread running =>
      exact .same (sameStops_goTo running (fun _ => rfl) fun _ => rfl) rfl
  | partition found worker taken =>
      exact .stepped (sameStops_of_fields rfl rfl rfl) found taken
        (not_setStopTime_of_byWorker worker) rfl
  | dyingPartition _ _ _ => exact .same (sameStops_of_fields rfl rfl rfl) rfl
  | destroyPartition _ _ _ =>
      exact .same (sameStops_of_fields rfl rfl rfl) rfl
  | partitionDestroyed _ _ =>
      exact .same (sameStops_of_fields rfl rfl rfl) rfl
  | stopLow found taken =>
      exact .stepped (sameStops_of_fields rfl rfl rfl) found taken
        (fun _ _ => nofun) rfl
  | stopHigh found taken =>
      exact .stepped (sameStops_of_fields rfl rfl rfl) found taken
        (fun _ _ => nofun) rfl
  | destroy caller _ =>
      have sent : SameStops topic (topic.sendWork caller .exitThread) :=
        sameStops_sendWork topic caller ⟨fun _ => rfl, rfl⟩
      exact .same (sent.trans (sameStops_of_fields rfl rfl rfl)) rfl
  | join _ _ _ => exact .same (sameStops_of_fields rfl rfl rfl) rfl
  | destroyMember _ found destructor taken =>
      exact .stepped (sameStops_of_fields rfl rfl rfl) found taken
        (not_setStopTime_of_byDestructor destructor) rfl
  | destroyed _ _ _ => exact .same (sameStops_of_fields rfl rfl rfl) rfl

/--
The latest stop time is on its way to a topic, to its field and to each of its
partitions, or has arrived there.
-/
structure TopicFollows
    (calls : Nat) (latest : TimePoint) (rest : List TimePoint)
    (topic : Topic Dest) : Prop where
  inOrder : TopicInOrder topic
  own :
    (topicPending none topic ++ rest).getLastD topic.stopConsumeTime = latest
  partitions :
    ∀ index owned, topic.consumerThreads[index]? = some owned →
      Follows calls latest topic.self
        (topicPending (some index) topic ++ rest) owned

/-- A partition that was just created follows what its topic follows. -/
theorem follows_createPartition
    {calls : Nat} {latest : TimePoint} {rest : List TimePoint}
    {topic : Topic Dest}
    (own : rest.getLastD topic.stopConsumeTime = latest) (id : Int) :
    Follows calls latest topic.self rest
      (topic.createPartition calls id) := by
  refine ⟨InOrder.empty.sendLowPriorityWork _ rfl, topic.stopConsumeTime,
    Or.inr ⟨startedFrom_create _ _ _ _ _, fun _ => rfl⟩, own⟩

section Effect

variable {context : MessageContext} {calls : Nat} {latest : TimePoint}
  {sent rest : List TimePoint} {topic next : Topic Dest}

/-- A topic follows when its partitions do, under the thread that it keeps. -/
theorem TopicFollows.of_continues
    (continues : Continues topic next) (inOrder : TopicInOrder topic)
    (own :
      (topicPending none next ++ rest).getLastD next.stopConsumeTime = latest)
    (partitions :
      ∀ index owned, next.consumerThreads[index]? = some owned →
        Follows calls latest topic.self
          (topicPending (some index) next ++ rest) owned) :
    TopicFollows calls latest rest next := by
  have self : next.self = topic.self := congrArg Thread.topic continues.id
  refine ⟨continues.inOrder inOrder, own, ?_⟩
  rw [self]
  exact partitions

/-- Where nothing moves in a topic, only its partitions may have changed. -/
theorem TopicFollows.of_same
    (follows : TopicFollows calls latest rest topic)
    (same : SameStops topic next)
    (partitions :
      ∀ index owned, next.consumerThreads[index]? = some owned →
        Follows calls latest topic.self
          (topicPending (some index) topic ++ rest) owned) :
    TopicFollows calls latest rest next := by
  apply TopicFollows.of_continues same.toContinues follows.inOrder
  · rw [same.pending, same.stop]
    exact follows.own
  · intro index owned found
    rw [same.pending]
    exact partitions index owned found

theorem TopicFollows.effect
    (follows : TopicFollows calls latest (sent ++ rest) topic)
    (effect : TopicEffect context calls topic next sent) :
    TopicFollows calls latest rest next := by
  have own := follows.own
  have partitions := follows.partitions
  cases effect with
  | same same threads =>
      apply TopicFollows.of_same follows same
      rw [threads]
      exact partitions
  | received continues stop threads pending =>
      apply TopicFollows.of_continues continues follows.inOrder
      · rw [pending, stop, List.append_assoc]
        exact own
      · rw [threads]
        intro index owned found
        rw [pending, List.append_assoc]
        exact partitions index owned found
  | created same pending threads =>
      apply TopicFollows.of_same follows same
      rw [threads]
      intro index owned found
      rcases found_of_concat found with old | rfl
      · exact partitions index owned old
      · apply follows_createPartition
        rw [pending]
        exact own
  | began continues stop threads ownPending pending =>
      apply TopicFollows.of_continues continues follows.inOrder
      · rw [ownPending, List.cons_append, List.getLastD_cons] at own
        rw [stop]
        exact own
      · rw [threads]
        intro index owned found
        rw [pending]
        exact partitions index owned found
  | passed continues stop found taken threads ownPending pending others =>
      apply TopicFollows.of_continues continues follows.inOrder
      · rw [ownPending, stop]
        exact own
      · rw [threads]
        intro other current otherFound
        rcases found_of_set otherFound with ⟨rfl, rfl⟩ | ⟨different, old⟩
        · have before := partitions _ _ found
          rw [pending] at before
          apply Follows.step before taken
          rintro caller _ ⟨⟩
          rfl
        · rw [others other different]
          exact partitions other current old
  | ended continues stop threads ownPending pending _ =>
      apply TopicFollows.of_continues continues follows.inOrder
      · rw [ownPending, stop]
        exact own
      · rw [threads]
        intro index owned found
        have inside : index < topic.consumerThreads.length :=
          (List.getElem?_eq_some_iff.mp found).1
        rw [pending index inside]
        exact partitions index owned found
  | erased same pending threads =>
      apply TopicFollows.of_same follows same
      rw [threads]
      intro index owned found
      have member := List.mem_of_mem_eraseIdx (List.mem_of_getElem? found)
      rcases List.getElem?_of_mem member with ⟨old, oldFound⟩
      have before := partitions old owned oldFound
      rw [pending] at before
      rw [pending]
      exact before
  | stepped same found taken noCall threads =>
      apply TopicFollows.of_same follows same
      rw [threads]
      intro other current otherFound
      rcases found_of_set otherFound with ⟨rfl, rfl⟩ | ⟨_, old⟩
      · refine Follows.step ?_ taken fun caller stop call =>
          absurd call (noCall caller stop)
        have silent := sentToPartition_of_noCall noCall
        rw [silent]
        exact partitions _ _ found
      · exact partitions other current old

end Effect

/-- No stop time is on its way inside a topic. -/
structure TopicDone (topic : Topic Dest) : Prop where
  own : ∀ index, topicPending index topic = []
  partitions :
    ∀ owned ∈ topic.consumerThreads, partitionPending owned.running = []

/-- Without a call no stop time gets on its way inside a topic. -/
theorem TopicDone.effect
    {context : MessageContext} {calls : Nat} {latest : TimePoint}
    {rest : List TimePoint} {topic next : Topic Dest}
    (done : TopicDone topic)
    (follows : TopicFollows calls latest rest topic)
    (effect : TopicEffect context calls topic next []) :
    TopicDone next := by
  cases effect with
  | same same threads =>
      constructor
      · intro index
        exact (same.pending index).trans (done.own index)
      · rw [threads]
        exact done.partitions
  | created same _ threads =>
      constructor
      · intro index
        exact (same.pending index).trans (done.own index)
      · rw [threads]
        intro owned member
        rcases List.mem_append.mp member with old | new
        · exact done.partitions owned old
        · rw [List.mem_singleton] at new
          subst new
          rfl
  | began _ _ _ ownPending _ =>
      rw [done.own] at ownPending
      cases ownPending
  | passed _ _ _ _ _ _ pending _ =>
      rw [done.own] at pending
      cases pending
  | ended _ _ threads ownPending _ equal =>
      constructor
      · intro index
        rw [equal, ownPending, done.own]
      · rw [threads]
        exact done.partitions
  | erased same _ threads =>
      constructor
      · intro index
        exact (same.pending index).trans (done.own index)
      · rw [threads]
        intro owned member
        exact done.partitions owned (List.mem_of_mem_eraseIdx member)
  | stepped same found taken noCall threads =>
      constructor
      · intro index
        exact (same.pending index).trans (done.own index)
      · rw [threads]
        intro owned member
        rcases List.mem_or_eq_of_mem_set member with old | rfl
        · exact done.partitions owned old
        · have before := done.partitions _ (List.mem_of_getElem? found)
          have inOrder := (follows.partitions _ _ found).inOrder
          rcases partition_step taken inOrder
              (fun caller stop call => absurd call (noCall caller stop)) with
            ⟨_, ⟨stop, pending, _⟩ | ⟨pending, _⟩⟩
          · rw [before] at pending
            cases pending
          · rw [before, sentToPartition_of_noCall noCall] at pending
            exact pending

/-- A topic that has no task with a stop time has the latest one. -/
theorem TopicFollows.settled
    {calls : Nat} {latest : TimePoint} {topic : Topic Dest}
    (follows : TopicFollows calls latest [] topic) (done : TopicDone topic) :
    topic.stopConsumeTime = latest ∧
      ∀ owned ∈ topic.consumerThreads,
        HasStopTime owned.running.partition latest ∨
          (StartedFrom owned.running.partition latest ∧
            owned.callsBefore = calls) := by
  constructor
  · have own := follows.own
    rw [done.own] at own
    exact own
  · intro owned member
    rcases List.getElem?_of_mem member with ⟨index, found⟩
    rcases (follows.partitions index owned found).value with
      ⟨stop, from_, last⟩
    have empty :
        partitionPending owned.running ++
          (topicPending (some index) topic ++ []) = [] := by
      rw [done.partitions owned member, done.own]
      rfl
    rw [empty] at last
    have same : stop = latest := last
    subst same
    rcases from_ with has | ⟨started, born⟩
    · exact Or.inl has
    · exact Or.inr ⟨started, born empty⟩

end KafkaToNexus.StopTimePropagation
