import KafkaToNexus.Foundations.Populations
import KafkaToNexus.StreamController

/-!
# The partitions of a topic

A step of a topic creates a partition, takes one step in a partition, drops a
partition that was destroyed, or leaves the partitions as they are.  The
partitions of a topic that was destroyed are destroyed as well.
-/

namespace KafkaToNexus.JobDelivery

open KafkaToNexus
open KafkaToNexus.Foundations
open KafkaToNexus.Foundations.Populations
open KafkaToNexus.Stream
open KafkaToNexus.ThreadedExecutor

variable {Dest : Type*}

/-- A partition with the name of its topic. -/
structure JobPartition (Dest : Type*) where
  topicName : String
  running : RunningPartition Thread Dest
deriving DecidableEq, Repr

/--
The partition as `Topic::createStreams` hands it to its thread, from the map
of its topic and the stop time that the topic had.
-/
structure CreatedWith
    (sources : List (Source Dest)) (settings : StreamerOptions)
    (stop : TimePoint) (part : JobPartition Dest) : Prop where
  created :
    ∃ (map : SrcToDst Dest) (kafkaErrorTimeout : Duration)
      (self caller : Thread),
      (part.topicName, map) ∈ StreamController.topicSrcMap sources ∧
        part.running =
          (RunningPartition.ofPartition self
            (Partition.create map settings.startTimestamp stop
              settings.afterStopTime kafkaErrorTimeout)).addPollTask caller

/-- The partitions of a job. -/
def partitionKind
    (context : MessageContext) (sources : List (Source Dest))
    (settings : StreamerOptions) :
    Kind (JobPartition Dest) (PartitionLabel Thread Dest) where
  begins part := ∃ stop, CreatedWith sources settings stop part
  step part label next :=
    next.topicName = part.topicName ∧
      RunningPartition.Step context part.running label next.running
  ended part := part.running.life = .destroyed

/-- What a topic keeps of the job it was created for. -/
structure OfJob
    (sources : List (Source Dest)) (settings : StreamerOptions)
    (topic : Topic Dest) : Prop where
  known :
    (topic.topicName, topic.dataMap) ∈ StreamController.topicSrcMap sources
  start : topic.startConsumeTime = settings.startTimestamp
  leeway : topic.stopLeeway = settings.afterStopTime
  /-- Erased partitions are destroyed before the topic goes on. -/
  dying :
    topic.dying = [] ∨
      ∃ index, topic.executor.worker = .running (.checkingIfDone index)
  joined :
    topic.life = .destroying ∨ topic.life = .destroyed →
      topic.executor.worker = .exited
  destroyed :
    topic.life = .destroyed →
      ∀ owned ∈ topic.consumerThreads, owned.running.life = .destroyed

/-- The partition of an owner, with the name of the topic. -/
def ownedPart
    (topic : Topic Dest) (owned : OwnedPartition Dest) :
    List (JobPartition Dest) :=
  [⟨topic.topicName, owned.running⟩]

/-- The partitions of a topic. -/
def topicParts (topic : Topic Dest) : List (JobPartition Dest) :=
  topic.consumerThreads.flatMap (ownedPart topic) ++
    topic.dying.flatMap (ownedPart topic)

/-- A partition that was destroyed stays so. -/
theorem destroyed_step
    {context : MessageContext} {node next : RunningPartition Thread Dest}
    {label : PartitionLabel Thread Dest}
    (taken : RunningPartition.Step context node label next)
    (destroyed : node.life = .destroyed) :
    next.life = .destroyed := by
  cases taken with
  | destroy _ alive =>
      rw [destroyed] at alive
      cases alive
  | join joining _ =>
      rw [destroyed] at joining
      cases joining
  | flush flushing =>
      rw [destroyed] at flushing
      cases flushing
  | destroyed _ => rfl
  | _ => exact destroyed

/-- All partitions of a topic that was destroyed are destroyed. -/
theorem OfJob.ended
    {sources : List (Source Dest)} {settings : StreamerOptions}
    {topic : Topic Dest} (ofJob : OfJob sources settings topic)
    (destroyed : topic.life = .destroyed) :
    ∀ part ∈ topicParts topic, part.running.life = .destroyed := by
  have noDying : topic.dying = [] := by
    rcases ofJob.dying with none | ⟨index, running⟩
    · exact none
    · rw [ofJob.joined (.inr destroyed)] at running
      cases running
  intro part member
  rw [topicParts, noDying, List.flatMap_nil, List.append_nil] at member
  rcases List.mem_flatMap.mp member with ⟨owned, known, same⟩
  rw [List.mem_singleton.mp same]
  exact ofJob.destroyed destroyed owned known

/-! ## Topics stay what they are -/

section Steps

variable {context : MessageContext} {sources : List (Source Dest)}
  {settings : StreamerOptions} {calls : Nat} {topic next : Topic Dest}
  {label : TopicLabel Dest}

/-- What a topic got from its job is not changed. -/
structure SameJob (topic next : Topic Dest) : Prop where
  name : next.topicName = topic.topicName
  map : next.dataMap = topic.dataMap
  start : next.startConsumeTime = topic.startConsumeTime
  leeway : next.stopLeeway = topic.stopLeeway

/-- A topic has the partitions that it had. -/
structure SameParts (topic next : Topic Dest) : Prop
    extends SameJob topic next where
  life : next.life = topic.life
  consumerThreads : next.consumerThreads = topic.consumerThreads
  dying : next.dying = topic.dying

theorem sameParts_resetTimeOut (topic : Topic Dest) (reset : Bool) :
    SameParts topic (topic.resetTimeOut reset) := by
  unfold Topic.resetTimeOut
  split <;> exact ⟨⟨rfl, rfl, rfl, rfl⟩, rfl, rfl, rfl⟩

theorem SameParts.trans
    {first second third : Topic Dest}
    (before : SameParts first second) (after : SameParts second third) :
    SameParts first third :=
  ⟨⟨after.name.trans before.name, after.map.trans before.map,
      after.start.trans before.start, after.leeway.trans before.leeway⟩,
    after.life.trans before.life,
    after.consumerThreads.trans before.consumerThreads,
    after.dying.trans before.dying⟩

theorem sameParts_retryOrGiveUp
    (topic : Topic Dest) (task : TopicTask) (what : String)
    (now : TimePoint) :
    SameParts topic (topic.retryOrGiveUp task what now) := by
  unfold Topic.retryOrGiveUp
  split <;> exact ⟨⟨rfl, rfl, rfl, rfl⟩, rfl, rfl, rfl⟩

theorem sameParts_getPartitionsForTopic
    (topic : Topic Dest) (reset : Bool)
    (outcome : MetadataOutcome (List Int)) (now : TimePoint) :
    SameParts topic (topic.getPartitionsForTopic reset outcome now) := by
  have told := sameParts_resetTimeOut topic reset
  cases outcome with
  | found partitions =>
      exact told.trans ⟨⟨rfl, rfl, rfl, rfl⟩, rfl, rfl, rfl⟩
  | metadataException what =>
      exact told.trans (sameParts_retryOrGiveUp _ _ _ _)

theorem sameParts_getOffsetsForPartitions
    (topic : Topic Dest) (reset : Bool) (partitions : List Int)
    (outcome : MetadataOutcome (List (Int × Int))) (now : TimePoint) :
    SameParts topic
      (topic.getOffsetsForPartitions reset partitions outcome now) := by
  have told := sameParts_resetTimeOut topic reset
  cases outcome with
  | found partitionOffsets =>
      exact told.trans ⟨⟨rfl, rfl, rfl, rfl⟩, rfl, rfl, rfl⟩
  | metadataException what =>
      exact told.trans (sameParts_retryOrGiveUp _ _ _ _)

/-- While the worker runs a task, the topic is not being destroyed. -/
theorem OfJob.not_joined
    (ofJob : OfJob sources settings topic) {task : TopicTask}
    (running : topic.executor.worker = .running task) :
    ¬ (topic.life = .destroying ∨ topic.life = .destroyed) := by
  intro joined
  rw [ofJob.joined joined] at running
  cases running

/-- Only in the search for finished partitions there are erased ones. -/
theorem OfJob.dying_of_running
    (ofJob : OfJob sources settings topic) {task : TopicTask}
    (running : topic.executor.worker = .running task)
    (notChecking : ∀ index, task ≠ .checkingIfDone index) :
    topic.dying = [] := by
  rcases ofJob.dying with none | ⟨index, checking⟩
  · exact none
  · rw [running] at checking
    cases checking
    exact absurd rfl (notChecking index)

/-- The worker has gone on, with no erased partition or in its search. -/
theorem OfJob.goesOn
    (ofJob : OfJob sources settings topic) {task : TopicTask}
    (running : topic.executor.worker = .running task)
    (same : SameJob topic next) (life : next.life = topic.life)
    (dying :
      next.dying = [] ∨
        ∃ index, next.executor.worker = .running (.checkingIfDone index)) :
    OfJob sources settings next := by
  have busy := ofJob.not_joined running
  rw [← life] at busy
  refine ⟨?_, ?_, ?_, dying, fun joined => absurd joined busy,
    fun destroyed => absurd (.inr destroyed) busy⟩
  · rw [same.name, same.map]
    exact ofJob.known
  · rw [same.start, ofJob.start]
  · rw [same.leeway, ofJob.leeway]

/-- The worker has gone on from a task in which no partition is erased. -/
theorem OfJob.leaves
    (ofJob : OfJob sources settings topic) {task : TopicTask}
    (running : topic.executor.worker = .running task)
    (notChecking : ∀ index, task ≠ .checkingIfDone index)
    (same : SameJob topic next) (life : next.life = topic.life)
    (dying : next.dying = topic.dying) :
    OfJob sources settings next :=
  ofJob.goesOn running same life
    (.inl (dying.trans (ofJob.dying_of_running running notChecking)))

/-- Something else than the worker has changed the topic. -/
theorem OfJob.stays
    (ofJob : OfJob sources settings topic)
    (same : SameJob topic next) (life : next.life = topic.life)
    (worker : next.executor.worker = topic.executor.worker)
    (dying : topic.dying = [] → next.dying = [])
    (partitions :
      (∀ owned ∈ topic.consumerThreads, owned.running.life = .destroyed) →
        ∀ owned ∈ next.consumerThreads, owned.running.life = .destroyed) :
    OfJob sources settings next := by
  refine ⟨?_, ?_, ?_, ?_, ?_, ?_⟩
  · rw [same.name, same.map]
    exact ofJob.known
  · rw [same.start, ofJob.start]
  · rw [same.leeway, ofJob.leeway]
  · rw [worker]
    exact ofJob.dying.imp_left dying
  · rw [worker, life]
    exact ofJob.joined
  · rw [life]
    exact fun destroyed => partitions (ofJob.destroyed destroyed)

/-- A partition of a list has taken a step. -/
theorem destroyed_set
    {list : List (OwnedPartition Dest)} {index : Nat}
    {owned : OwnedPartition Dest} {label : PartitionLabel Thread Dest}
    {next : RunningPartition Thread Dest}
    (found : list[index]? = some owned)
    (taken : RunningPartition.Step context owned.running label next)
    (destroyed : ∀ owned ∈ list, owned.running.life = .destroyed) :
    ∀ other ∈ list.set index { owned with running := next },
      other.running.life = .destroyed := by
  intro other member
  rcases List.mem_or_eq_of_mem_set member with old | rfl
  · exact destroyed other old
  · exact destroyed_step taken (destroyed owned (List.mem_of_getElem? found))

theorem set_eq_nil {Item : Type*} {list : List Item} (index : Nat) (item : Item)
    (empty : list = []) : list.set index item = [] := by
  rw [empty]
  rfl

/-- A topic keeps what it got from its job. -/
theorem OfJob.step
    (ofJob : OfJob sources settings topic)
    (taken : Topic.Step context calls topic label next) :
    OfJob sources settings next := by
  cases taken with
  | start => exact ofJob.stays ⟨rfl, rfl, rfl, rfl⟩ rfl rfl id id
  | setStopTime stop =>
      exact ofJob.stays ⟨rfl, rfl, rfl, rfl⟩ rfl rfl id id
  | look look =>
      have free : topic.executor.worker = .ready ∨
          topic.executor.worker = .lowTurn := by
        cases look with
        | takeHigh ready _ => exact .inl ready
        | highEmpty ready _ => exact .inl ready
        | takeLow turn _ => exact .inr turn
        | lowEmpty turn _ => exact .inr turn
      have busy : topic.executor.worker ≠ .exited := by
        rcases free with ready | turn
        · rw [ready]
          nofun
        · rw [turn]
          nofun
      have none : topic.dying = [] := by
        rcases ofJob.dying with none | ⟨index, checking⟩
        · exact none
        · rw [checking] at free
          rcases free with ready | turn <;> contradiction
      exact ⟨ofJob.known, ofJob.start, ofJob.leeway, .inl none,
        fun joined => absurd (ofJob.joined joined) busy, ofJob.destroyed⟩
  | initMetadataCalls running =>
      exact ofJob.leaves running nofun ⟨rfl, rfl, rfl, rfl⟩ rfl rfl
  | @getPartitionsForTopic reset outcome now running =>
      have same := sameParts_getPartitionsForTopic topic reset outcome now
      exact ofJob.leaves running nofun same.toSameJob same.life same.dying
  | @getOffsetsForPartitions reset partitions outcome now running =>
      have same :=
        sameParts_getOffsetsForPartitions topic reset partitions outcome now
      exact ofJob.leaves running nofun same.toSameJob same.life same.dying
  | storeErrorMessage running =>
      exact ofJob.leaves running nofun ⟨rfl, rfl, rfl, rfl⟩ rfl rfl
  | createStreams running =>
      exact ofJob.leaves running nofun ⟨rfl, rfl, rfl, rfl⟩ rfl rfl
  | createStream running =>
      exact ofJob.leaves running nofun ⟨rfl, rfl, rfl, rfl⟩ rfl rfl
  | streamsCreated running =>
      exact ofJob.leaves running nofun ⟨rfl, rfl, rfl, rfl⟩ rfl rfl
  | beginStopTime running =>
      exact ofJob.leaves running nofun ⟨rfl, rfl, rfl, rfl⟩ rfl rfl
  | passStopTime running _ _ =>
      exact ofJob.leaves running nofun ⟨rfl, rfl, rfl, rfl⟩ rfl rfl
  | endStopTime running _ =>
      exact ofJob.leaves running nofun ⟨rfl, rfl, rfl, rfl⟩ rfl rfl
  | checkIfDone running =>
      exact ofJob.goesOn running ⟨rfl, rfl, rfl, rfl⟩ rfl (.inr ⟨_, rfl⟩)
  | keepPartition running _ _ =>
      exact ofJob.goesOn running ⟨rfl, rfl, rfl, rfl⟩ rfl (.inr ⟨_, rfl⟩)
  | erasePartition running _ _ =>
      exact ofJob.goesOn running ⟨rfl, rfl, rfl, rfl⟩ rfl (.inr ⟨_, running⟩)
  | partitionsChecked running _ none =>
      exact ofJob.goesOn running ⟨rfl, rfl, rfl, rfl⟩ rfl (.inl none)
  | wake running =>
      exact ofJob.leaves running nofun ⟨rfl, rfl, rfl, rfl⟩ rfl rfl
  | exitThread running =>
      exact ofJob.leaves running nofun ⟨rfl, rfl, rfl, rfl⟩ rfl rfl
  | partition found _ taken =>
      exact ofJob.stays ⟨rfl, rfl, rfl, rfl⟩ rfl rfl id
        (destroyed_set found taken)
  | dyingPartition _ _ _ =>
      exact ofJob.stays ⟨rfl, rfl, rfl, rfl⟩ rfl rfl (set_eq_nil _ _) id
  | destroyPartition _ _ _ =>
      exact ofJob.stays ⟨rfl, rfl, rfl, rfl⟩ rfl rfl (set_eq_nil _ _) id
  | partitionDestroyed found _ =>
      refine ofJob.stays ⟨rfl, rfl, rfl, rfl⟩ rfl rfl ?_ id
      intro none
      rw [none] at found
      cases found
  | stopLow found taken =>
      exact ofJob.stays ⟨rfl, rfl, rfl, rfl⟩ rfl rfl id
        (destroyed_set found taken)
  | stopHigh found taken =>
      exact ofJob.stays ⟨rfl, rfl, rfl, rfl⟩ rfl rfl id
        (destroyed_set found taken)
  | destroy caller _ =>
      exact ⟨ofJob.known, ofJob.start, ofJob.leeway, ofJob.dying, nofun, nofun⟩
  | join caller _ exited =>
      exact ⟨ofJob.known, ofJob.start, ofJob.leeway, ofJob.dying,
        fun _ => exited, nofun⟩
  | destroyMember _ found _ taken =>
      exact ofJob.stays ⟨rfl, rfl, rfl, rfl⟩ rfl rfl id
        (destroyed_set found taken)
  | destroyed caller destroying destroyed =>
      exact ⟨ofJob.known, ofJob.start, ofJob.leeway, ofJob.dying,
        fun _ => ofJob.joined (.inl destroying), fun _ => destroyed⟩

/-! ## What a step does to the partitions -/

/-- The partitions are named alike. -/
theorem SameJob.ownedPart (same : SameJob topic next) :
    ownedPart next = ownedPart topic := by
  funext owned
  rw [JobDelivery.ownedPart, JobDelivery.ownedPart, same.name]

theorem SameParts.topicParts (same : SameParts topic next) :
    topicParts next = topicParts topic := by
  rw [JobDelivery.topicParts, JobDelivery.topicParts, same.consumerThreads,
    same.dying, same.ownedPart]

/-- What a step of a topic does to its partitions, with what it sends. -/
def TopicChange
    (context : MessageContext) (sources : List (Source Dest))
    (settings : StreamerOptions) (topic : Topic Dest)
    (label : TopicLabel Dest) (next : Topic Dest) : Prop :=
  ∃ labels : List (PartitionLabel Thread Dest),
    label.sent.map Prod.snd = labels.flatMap PartitionLabel.sent ∧
      Change (partitionKind context sources settings) (topicParts topic) labels
        (topicParts next)

theorem topicChange_same
    (silent : label.sent = []) (same : SameParts topic next) :
    TopicChange context sources settings topic label next := by
  refine ⟨[], by rw [silent]; rfl, ?_⟩
  rw [same.topicParts]
  exact .same (List.Perm.refl _)

/-- The steps that send nothing and are no step of a partition. -/
theorem topicChange_other
    (silent : label.sent = [])
    (change :
      Change (partitionKind context sources settings) (topicParts topic) []
        (topicParts next)) :
    TopicChange context sources settings topic label next :=
  ⟨[], by rw [silent]; rfl, change⟩

/-- The partition of an owner takes a step. -/
theorem change_owned
    (topic : Topic Dest) {owned : OwnedPartition Dest}
    {partitionLabel : PartitionLabel Thread Dest}
    {running : RunningPartition Thread Dest}
    (taken :
      RunningPartition.Step context owned.running partitionLabel running) :
    Change (partitionKind context sources settings) (ownedPart topic owned)
      [partitionLabel] (ownedPart topic { owned with running }) := by
  apply Change.one
  exact ⟨rfl, taken⟩

/-- A partition of the vector takes a step. -/
theorem topicChange_partition
    {index : Nat} {owned : OwnedPartition Dest}
    {partitionLabel : PartitionLabel Thread Dest}
    {running : RunningPartition Thread Dest}
    (found : topic.consumerThreads[index]? = some owned)
    (taken :
      RunningPartition.Step context owned.running partitionLabel running)
    (sent : label.sent.map Prod.snd = partitionLabel.sent)
    (same : SameJob topic next)
    (partitions :
      next.consumerThreads =
        topic.consumerThreads.set index { owned with running })
    (dying : next.dying = topic.dying) :
    TopicChange context sources settings topic label next := by
  refine ⟨[partitionLabel], by rw [sent, List.flatMap_singleton], ?_⟩
  rw [topicParts, topicParts, partitions, dying, same.ownedPart]
  apply Change.append_right
  exact Change.set (ownedPart topic) found (change_owned topic taken)

/-- An erased partition takes a step. -/
theorem topicChange_dying
    {index : Nat} {owned : OwnedPartition Dest}
    {partitionLabel : PartitionLabel Thread Dest}
    {running : RunningPartition Thread Dest}
    (found : topic.dying[index]? = some owned)
    (taken :
      RunningPartition.Step context owned.running partitionLabel running)
    (sent : label.sent.map Prod.snd = partitionLabel.sent)
    (same : SameJob topic next)
    (partitions : next.consumerThreads = topic.consumerThreads)
    (dying : next.dying = topic.dying.set index { owned with running }) :
    TopicChange context sources settings topic label next := by
  refine ⟨[partitionLabel], by rw [sent, List.flatMap_singleton], ?_⟩
  rw [topicParts, topicParts, partitions, dying, same.ownedPart]
  apply Change.append_left
  exact Change.set (ownedPart topic) found (change_owned topic taken)

/-- The calls of a step with its thread, without the thread. -/
theorem map_snd_sent
    (thread : Thread) (label : PartitionLabel Thread Dest) :
    (label.sent.map (thread, ·)).map Prod.snd = label.sent := by
  rw [List.map_map]
  exact List.map_id _

theorem topicChange_step
    (ofJob : OfJob sources settings topic)
    (taken : Topic.Step context calls topic label next) :
    TopicChange context sources settings topic label next := by
  cases taken with
  | start =>
      exact topicChange_same rfl ⟨⟨rfl, rfl, rfl, rfl⟩, rfl, rfl, rfl⟩
  | setStopTime stop =>
      exact topicChange_same rfl ⟨⟨rfl, rfl, rfl, rfl⟩, rfl, rfl, rfl⟩
  | look look =>
      exact topicChange_same rfl ⟨⟨rfl, rfl, rfl, rfl⟩, rfl, rfl, rfl⟩
  | initMetadataCalls _ =>
      exact topicChange_same rfl ⟨⟨rfl, rfl, rfl, rfl⟩, rfl, rfl, rfl⟩
  | @getPartitionsForTopic reset outcome now _ =>
      exact topicChange_same rfl
        (sameParts_getPartitionsForTopic topic reset outcome now)
  | @getOffsetsForPartitions reset partitions outcome now _ =>
      exact topicChange_same rfl
        (sameParts_getOffsetsForPartitions topic reset partitions outcome now)
  | createStreams _ =>
      exact topicChange_same rfl ⟨⟨rfl, rfl, rfl, rfl⟩, rfl, rfl, rfl⟩
  | @createStream parOffset remaining _ =>
      let created : JobPartition Dest :=
        ⟨topic.topicName, (topic.createPartition calls parOffset.1).running⟩
      have begins :
          (partitionKind context sources settings).begins created := by
        refine ⟨topic.stopConsumeTime, topic.dataMap,
          topic.settings.kafkaErrorTimeout, .partition topic.id parOffset.1,
          topic.self, ofJob.known, ?_⟩
        rw [← ofJob.start, ← ofJob.leeway]
        rfl
      refine topicChange_other rfl (.joins begins ?_)
      rw [topicParts, topicParts]
      dsimp only [Topic.withPartitions, Topic.goTo]
      rw [List.flatMap_append, List.append_assoc]
      exact List.perm_middle
  | passStopTime _ found taken =>
      exact topicChange_partition found taken rfl ⟨rfl, rfl, rfl, rfl⟩ rfl rfl
  | erasePartition _ found _ =>
      refine topicChange_other rfl (.same ?_)
      rw [topicParts, topicParts]
      dsimp only
      rw [List.flatMap_append]
      have moved := flatMap_perm_eraseIdx (ownedPart topic) found
      refine (moved.append_right _).trans ?_
      rw [List.append_assoc]
      refine List.perm_append_comm.trans ?_
      rw [List.append_assoc, List.flatMap_singleton]
      exact List.Perm.refl _
  | partition found _ taken =>
      exact topicChange_partition found taken (map_snd_sent _ _)
        ⟨rfl, rfl, rfl, rfl⟩ rfl rfl
  | dyingPartition found _ taken =>
      exact topicChange_dying found taken (map_snd_sent _ _)
        ⟨rfl, rfl, rfl, rfl⟩ rfl rfl
  | destroyPartition found _ taken =>
      exact topicChange_dying found taken (map_snd_sent _ _)
        ⟨rfl, rfl, rfl, rfl⟩ rfl rfl
  | partitionDestroyed found destroyed =>
      refine topicChange_other rfl ?_
      apply Change.append_left
      apply Change.eraseIdx _ found
      intro part member
      rw [List.mem_singleton.mp member]
      exact destroyed
  | stopLow found taken =>
      exact topicChange_partition found taken rfl ⟨rfl, rfl, rfl, rfl⟩ rfl rfl
  | stopHigh found taken =>
      exact topicChange_partition found taken rfl ⟨rfl, rfl, rfl, rfl⟩ rfl rfl
  | destroyMember _ found _ taken =>
      exact topicChange_partition found taken (map_snd_sent _ _)
        ⟨rfl, rfl, rfl, rfl⟩ rfl rfl
  | destroy _ _ => exact topicChange_other rfl (.same (List.Perm.refl _))
  | join _ _ _ => exact topicChange_other rfl (.same (List.Perm.refl _))
  | destroyed _ _ _ => exact topicChange_other rfl (.same (List.Perm.refl _))
  | _ => exact topicChange_same rfl ⟨⟨rfl, rfl, rfl, rfl⟩, rfl, rfl, rfl⟩

end Steps

end KafkaToNexus.JobDelivery
