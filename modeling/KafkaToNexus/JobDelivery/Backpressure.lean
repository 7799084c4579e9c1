import KafkaToNexus.JobDelivery.JobRecords
import KafkaToNexus.JobDelivery.PendingMessages
import KafkaToNexus.JobDelivery.TopicSources
import KafkaToNexus.Shutdown.WriterDrain

/-!
# Pausing the streamers of a job

The periodic checks of a job compare the length of the queue of write jobs
with a limit and set or clear a flag.  A partition reads the flag before it
polls its consumer, and sleeps instead while it is set.

`ThrottledStep` is a step of the job in which the partitions obey the flag,
or the part of the periodic checks that sets it.  The flag does not stop a
poll that has begun, so that the queue can still grow after the streamers were
paused; the module bounds by how much.
-/

namespace KafkaToNexus.JobDelivery

open KafkaToNexus
open KafkaToNexus.Foundations
open KafkaToNexus.Foundations.Populations
open KafkaToNexus.Shutdown
open KafkaToNexus.Stream
open KafkaToNexus.Stream.PartitionDelivery

variable {Dest : Type*}

/-! ## The flag -/

/-- When the streamers are paused and resumed. -/
structure ThrottleSettings where
  maxQueuedWrites : Nat := 1000
  /--
  Whether a number of writes is less than the product of the threshold and the
  maximum, which is computed with floating point numbers.
  -/
  belowThreshold : Nat → Bool

/-- The value of the flag after a look at the length of the queue. -/
def throttleIfWriteQueueIsFull
    (settings : ThrottleSettings) (queuedWrites : Nat)
    (streamersPaused : Bool) : Bool :=
  if settings.maxQueuedWrites < queuedWrites ∧ streamersPaused = false then
    true
  else if settings.belowThreshold queuedWrites = true ∧
      streamersPaused = true then
    false
  else
    streamersPaused

/-- A job with the flag that its streamers obey. -/
structure ThrottledJob (Dest : Type*) where
  controller : StreamController Dest
  streamersPaused : Bool := false

inductive ThrottledLabel (Dest : Type*) where
  | job (label : StreamLabel Dest)
  /-- The flag gets a value. -/
  | throttle (streamersPaused : Bool)
deriving DecidableEq, Repr

/-- The messages that a step hands to the writer. -/
def ThrottledLabel.handedOver : ThrottledLabel Dest → List (Message Dest)
  | .job label => label.handedOver
  | .throttle _ => []

/-- The streamers are told to go on. -/
def ThrottledLabel.resumes : ThrottledLabel Dest → Bool
  | .job _ => false
  | .throttle streamersPaused => !streamersPaused

/-- Only paused streamers sleep, and only others poll. -/
def obeys (streamersPaused : Bool) : PartitionLabel Thread Dest → Bool
  | .pause => streamersPaused
  | .pollConsumer => !streamersPaused
  | _ => true

/-- What the threads of a job do whose partitions obey the flag. -/
inductive ThrottledStep
    (context : MessageContext) (sources : List (Source Dest))
    (settings : StreamerOptions) (throttle : ThrottleSettings) :
    ThrottledJob Dest → ThrottledLabel Dest → ThrottledJob Dest →
      Prop where
  | job {job : ThrottledJob Dest} {label : StreamLabel Dest}
      {next : StreamController Dest}
      {labels : List (PartitionLabel Thread Dest)} :
      StreamController.Step context job.controller label next →
      shows label labels →
      Change (partitionKind context sources settings)
        (jobParts job.controller) labels (jobParts next) →
      (∀ own ∈ labels, obeys job.streamersPaused own = true) →
      ThrottledStep context sources settings throttle job (.job label)
        { job with controller := next }
  /--
  The end of `performPeriodicChecks`, before it sleeps.  The queue only
  estimates its length.
  -/
  | throttle {job : ThrottledJob Dest} (queuedWrites : Nat) :
      job.controller.executor.worker = .running .sleeping →
      ThrottledStep context sources settings throttle job
        (.throttle
          (throttleIfWriteQueueIsFull throttle queuedWrites
            job.streamersPaused))
        { job with
          streamersPaused :=
            throttleIfWriteQueueIsFull throttle queuedWrites
              job.streamersPaused }

/-- A job that was just created. -/
def newThrottledJob
    (sources : List (Source Dest)) (settings : StreamerOptions) :
    ThrottledJob Dest :=
  { controller := StreamController.create sources settings }

/-! ## The queue -/

/-- The number of write jobs in the queue. -/
def queuedWrites (controller : StreamController Dest) : Nat :=
  controller.writerThread.queued.length

/-- The thread of the writer only takes jobs out of the queue. -/
theorem queued_length_step
    {writer next : MessageWriter Thread Dest} {label : WriterLabel Dest}
    (taken : MessageWriter.Step writer label next) :
    next.queued.length ≤ writer.queued.length := by
  cases taken with
  | execute _ dequeued =>
      rcases dequeued with ⟨before, after, queue, _, rfl⟩
      simp [MessageWriter.queued, queue]
  | _ => exact Nat.le_refl _

/-- A step adds to the queue the messages that it hands over. -/
theorem queuedWrites_step
    {context : MessageContext} {controller next : StreamController Dest}
    {label : StreamLabel Dest}
    (taken : StreamController.Step context controller label next) :
    queuedWrites next ≤
      queuedWrites controller + label.handedOver.length := by
  rcases step_writer taken with ⟨own, rfl, step⟩ | ⟨_, received⟩
  · exact (queued_length_step step).trans (Nat.le_add_right _ _)
  · rw [queuedWrites, received.queued, List.length_append]
    exact Nat.le_refl _

/-- What a step hands over is handed over by the partitions. -/
theorem handedOver_length_of_shows
    {label : StreamLabel Dest} {labels : List (PartitionLabel Thread Dest)}
    (shown : shows label labels) :
    label.handedOver.length =
      (labels.map fun own => messageCount own.sent).sum := by
  rw [← messageCount_flatMap, ← shown, messageCount, List.filterMap_map]
  cases label with
  | sent events => rfl
  | _ => rfl

/-! ## The supply of a job -/

section Runs

variable [DecidableEq Dest] {context : MessageContext}
  {sources : List (Source Dest)} {settings : StreamerOptions}
  {throttle : ThrottleSettings}

/-- The messages that the partitions of a job can hand over unpolled. -/
def pendingInJob (controller : StreamController Dest) : Nat :=
  total (fun part => pendingMessages part.running) (jobParts controller)

/-- Twice the number of sources on the topic of each partition. -/
def supplyLimit
    (sources : List (Source Dest)) (parts : List (JobPartition Dest)) : Nat :=
  total (fun part => 2 * (keysOf sources part.topicName).length) parts

/-- A sound job whose partitions keep to their supply. -/
structure SuppliedJob
    (sources : List (Source Dest)) (settings : StreamerOptions)
    (controller : StreamController Dest) : Prop where
  sound : JobSound sources settings controller
  parts :
    ∀ part ∈ jobParts controller,
      Supplied (keysOf sources part.topicName).length part.running

omit [DecidableEq Dest] in
/-- A new partition has nothing pending. -/
theorem CreatedWith.supplied
    {stop : TimePoint} {part : JobPartition Dest}
    (created : CreatedWith sources settings stop part) :
    Supplied (keysOf sources part.topicName).length part.running ∧
      pendingMessages part.running = 0 := by
  rcases created.created with
    ⟨map, kafkaErrorTimeout, self, caller, known, same⟩
  rw [same, ← eq_keysOf_of_mem known]
  exact supplied_create self caller map _ stop _ kafkaErrorTimeout

theorem SuppliedJob.step
    {controller next : StreamController Dest} {label : StreamLabel Dest}
    {labels : List (PartitionLabel Thread Dest)}
    (supplied : SuppliedJob sources settings controller)
    (taken : StreamController.Step context controller label next)
    (change :
      Change (partitionKind context sources settings) (jobParts controller)
        labels (jobParts next)) :
    SuppliedJob sources settings next := by
  refine ⟨supplied.sound.step taken, change.all ?_ ?_ supplied.parts⟩
  · rintro part ⟨stop, created⟩
    exact created.supplied.1
  · rintro part label next before ⟨sameName, step⟩
    rw [sameName]
    exact before.step step

/-- While the streamers are paused, the job spends from its supply. -/
theorem SuppliedJob.spends
    {controller next : StreamController Dest} {label : StreamLabel Dest}
    {labels : List (PartitionLabel Thread Dest)}
    (supplied : SuppliedJob sources settings controller)
    (shown : shows label labels)
    (change :
      Change (partitionKind context sources settings) (jobParts controller)
        labels (jobParts next))
    (paused : ∀ own ∈ labels, obeys true own = true) :
    pendingInJob next + label.handedOver.length ≤
      pendingInJob controller := by
  rw [handedOver_length_of_shows shown]
  refine change.spends ?_ ?_
  · rintro part ⟨stop, created⟩
    exact created.supplied.2
  · rintro part known own inLabels next ⟨_, step⟩
    refine pendingMessages_spends (supplied.parts part known) step ?_
    have obeyed := paused own inLabels
    cases own with
    | pollConsumer => cases obeyed
    | _ => rfl

/-! ## Runs -/

/-- Every state of a throttled run is that of a supplied job. -/
theorem suppliedJob_run
    {job : ThrottledJob Dest} {trace : List (ThrottledLabel Dest)}
    (run :
      Execution (ThrottledStep context sources settings throttle)
        (newThrottledJob sources settings) trace job) :
    SuppliedJob sources settings job.controller := by
  refine run.invariant
    (fun job => SuppliedJob sources settings job.controller)
    ⟨sound_create, fun _ known => absurd known List.not_mem_nil⟩ ?_
  intro job label next supplied taken
  cases taken with
  | job step _ change _ => exact supplied.step step change
  | throttle _ _ => exact supplied

/-- What was handed over, and what can be, since the streamers were paused. -/
structure Paused
    (sources : List (Source Dest)) (settings : StreamerOptions)
    (first : StreamController Dest) (trace : List (ThrottledLabel Dest))
    (job : ThrottledJob Dest) : Prop where
  supplied : SuppliedJob sources settings job.controller
  flag : job.streamersPaused = true
  pending :
    pendingInJob job.controller +
        (trace.flatMap ThrottledLabel.handedOver).length ≤
      pendingInJob first
  queue :
    queuedWrites job.controller ≤
      queuedWrites first + (trace.flatMap ThrottledLabel.handedOver).length

theorem Paused.step
    {first : StreamController Dest} {trace : List (ThrottledLabel Dest)}
    {job next : ThrottledJob Dest} {label : ThrottledLabel Dest}
    (paused : Paused sources settings first trace job)
    (taken :
      ThrottledStep context sources settings throttle job label next)
    (notResumed : label.resumes = false) :
    Paused sources settings first (trace ++ [label]) next := by
  cases taken with
  | @job own after labels step shown change obeyed =>
      rw [paused.flag] at obeyed
      have spent := paused.supplied.spends shown change obeyed
      have grown := queuedWrites_step step
      have pending := paused.pending
      have queue := paused.queue
      refine ⟨paused.supplied.step step change, paused.flag, ?_, ?_⟩ <;>
        rw [List.flatMap_append, List.flatMap_singleton, List.length_append]
      · change pendingInJob after + (_ + own.handedOver.length) ≤ _
        omega
      · change queuedWrites after ≤ _ + (_ + own.handedOver.length)
        omega
  | throttle queuedWrites sleeping =>
      refine ⟨paused.supplied, ?_, ?_, ?_⟩
      · exact Bool.not_eq_eq_eq_not.mp notResumed
      · rw [List.flatMap_append, List.flatMap_singleton, List.length_append]
        exact paused.pending
      · rw [List.flatMap_append, List.flatMap_singleton, List.length_append]
        exact paused.queue

/-- A job can hand over two messages for each source of its partitions. -/
theorem SuppliedJob.pendingInJob_le
    {controller : StreamController Dest}
    (supplied : SuppliedJob sources settings controller) :
    pendingInJob controller ≤ supplyLimit sources (jobParts controller) :=
  List.sum_le_sum fun part known => (supplied.parts part known).supply

/--
In every run of a job whose partitions obey the flag of the periodic checks,
from the state in which the streamers are found paused until they are told to
go on, the partitions hand over at most two messages for each source on their
topic, counting the partitions that exist in that state only.  The queue of
write jobs exceeds the length that it had by no more than that.
-/
theorem paused_streamers_bounded
    {job last : ThrottledJob Dest} {before after : List (ThrottledLabel Dest)}
    (run :
      Execution (ThrottledStep context sources settings throttle)
        (newThrottledJob sources settings) before job)
    (paused : job.streamersPaused = true)
    (goesOn :
      Execution (ThrottledStep context sources settings throttle) job after
        last)
    (notResumed : ∀ label ∈ after, label.resumes = false) :
    let limit := supplyLimit sources (jobParts job.controller)
    (after.flatMap ThrottledLabel.handedOver).length ≤ limit ∧
      queuedWrites last.controller ≤ queuedWrites job.controller + limit := by
  intro limit
  have supplied := suppliedJob_run run
  have held : Paused sources settings job.controller after last := by
    refine goesOn.traceInvariant
      (fun trace state =>
        (∀ label ∈ trace, label.resumes = false) →
          Paused sources settings job.controller trace state)
      (fun _ => ⟨supplied, paused, Nat.le_refl _, Nat.le_refl _⟩) ?_
      notResumed
    intro trace state label next induction taken quiet
    have earlier := induction fun other member =>
      quiet other (List.mem_append_left _ member)
    exact earlier.step taken (quiet label (by simp))
  have bound := supplied.pendingInJob_le
  have pending := held.pending
  have queue := held.queue
  change pendingInJob job.controller ≤ limit at bound
  constructor <;> omega

open StreamController ProducerQueue

omit [DecidableEq Dest] in
/-- A step of the job that leaves its partitions alone. -/
theorem throttled_same
    {job : ThrottledJob Dest} {label : StreamLabel Dest}
    {next : StreamController Dest}
    (taken : Step context job.controller label next)
    (silent : sentBy label = [])
    (same : jobParts job.controller = jobParts next) :
    ThrottledStep context sources settings throttle job (.job label)
      { job with controller := next } :=
  .job taken ((congrArg _ silent).trans rfl) (.same (.of_eq same))
    fun _ member => absurd member List.not_mem_nil

omit [DecidableEq Dest] in
/-- A step of the job that creates a partition. -/
theorem throttled_joins
    {job : ThrottledJob Dest} {label : StreamLabel Dest}
    {next : StreamController Dest} {part : JobPartition Dest}
    (taken : Step context job.controller label next)
    (silent : sentBy label = [])
    (begins : (partitionKind context sources settings).begins part)
    (joins : jobParts next = part :: jobParts job.controller) :
    ThrottledStep context sources settings throttle job (.job label)
      { job with controller := next } :=
  .job taken ((congrArg _ silent).trans rfl) (.joins begins (.of_eq joins))
    fun _ member => absurd member List.not_mem_nil

omit [DecidableEq Dest] in
/-- A step of the only partition of a job. -/
theorem throttled_onlyPartition
    {job : ThrottledJob Dest} {topic : Topic Dest} {owned : OwnedPartition Dest}
    {own : PartitionLabel Thread Dest} {next : RunningPartition Thread Dest}
    (only : job.controller.streamers = [some topic])
    (kept : job.controller.retired = [])
    (onlyPartition : topic.consumerThreads = [owned])
    (alive : topic.dying = [])
    (worker : own.byWorker = true)
    (obeyed : obeys job.streamersPaused own = true)
    (taken : RunningPartition.Step context owned.running own next) :
    ThrottledStep context sources settings throttle job
      (.job (.sent (own.sent.map (owned.running.self, ·))))
      { job with
        controller :=
          (job.controller.setTopic 0 (topic.setPartition 0 owned next)).receive
            (own.sent.map (owned.running.self, ·)) } := by
  refine .job (step_onlyPartition only onlyPartition worker taken) ?_
    (@Change.moves _ _ (partitionKind context sources settings) _ _ []
      ⟨topic.topicName, owned.running⟩ ⟨topic.topicName, next⟩ _ ?_
      ⟨rfl, taken⟩ ?_)
    (fun other member => by rwa [List.mem_singleton.mp member])
  · simp [shows, sentBy]
  · simp [jobParts, slotParts, topicParts, ownedPart, only, kept, alive,
      onlyPartition]
  · simp [jobParts, slotParts, topicParts, ownedPart, StreamController.receive,
      StreamController.setTopic, Topic.setPartition, only, kept, alive,
      onlyPartition]

/-- A poll that has begun hands its message over to a paused job. -/
theorem paused_streamers_bounded_sample :
    ∃ job last before after,
      Execution
          (ThrottledStep sampleContext [sampleSource sampleEntry]
            (sampleOptions 0) ⟨1000, fun _ => false⟩)
          (newThrottledJob [sampleSource sampleEntry] (sampleOptions 0)) before
          job ∧
        job.streamersPaused = true ∧
        Execution
          (ThrottledStep sampleContext [sampleSource sampleEntry]
            (sampleOptions 0) ⟨1000, fun _ => false⟩) job after last ∧
        supplyLimit [sampleSource sampleEntry] (jobParts job.controller) = 2 ∧
        queuedWrites job.controller = 0 ∧
        queuedWrites last.controller = 1 ∧
        queuedWrites last.controller ≤ queuedWrites job.controller + 2 := by
  let Step :
      ThrottledJob Nat → ThrottledLabel Nat → ThrottledJob Nat → Prop :=
    ThrottledStep sampleContext [sampleSource sampleEntry] (sampleOptions 0)
      ⟨1000, fun _ => false⟩
  let Run :=
    Execution Step
      (newThrottledJob [sampleSource sampleEntry] (sampleOptions 0))
  have known :
      ("topic", [sampleEntry]) ∈ topicSrcMap [sampleSource sampleEntry] :=
    List.mem_singleton_self _
  have created : Run [] _ := .refl
  have turned := created.snoc
    (throttled_same (.look (.highEmpty rfl rfl)) rfl rfl)
  have found := turned.snoc
    (throttled_same (.look (.takeLow rfl (dequeue_head _ []))) rfl rfl)
  have named := found.snoc
    (throttled_same (.getTopicNames (.found ["topic"]) rfl) rfl rfl)
  have turnedAgain := named.snoc
    (throttled_same (.look (.highEmpty rfl rfl)) rfl rfl)
  have initialises := turnedAgain.snoc
    (throttled_same (.look (.takeLow rfl (dequeue_head _ []))) rfl rfl)
  have initialised := initialises.snoc
    (throttled_same (.initStreams rfl) rfl rfl)
  have read := initialised.snoc (throttled_same (.readStopTime rfl) rfl rfl)
  have topic := read.snoc (throttled_same (.createTopic 0 rfl) rfl rfl)
  have checks :
      Run _
        { controller :=
            sampleJob sampleEntry 0 (newSampleTopic sampleEntry 0).start } :=
    topic.snoc (throttled_same (.topicsCreated rfl) rfl rfl)
  have started := checks.snoc
    (throttled_same
      (step_sampleJob (.look (.takeHigh rfl (dequeue_head _ [])))) rfl rfl)
  have called := started.snoc
    (throttled_same (step_sampleJob (.initMetadataCalls rfl)) rfl rfl)
  have asks := called.snoc
    (throttled_same
      (step_sampleJob (.look (.takeHigh rfl (dequeue_head _ [])))) rfl rfl)
  have asked := asks.snoc
    (throttled_same
      (step_sampleJob (.getPartitionsForTopic (.found [0]) 0 rfl)) rfl rfl)
  have seeks := asked.snoc
    (throttled_same
      (step_sampleJob (.look (.takeHigh rfl (dequeue_head _ [])))) rfl rfl)
  have sought := seeks.snoc
    (throttled_same
      (step_sampleJob (.getOffsetsForPartitions (.found [(0, 0)]) 0 rfl)) rfl
      rfl)
  have creates := sought.snoc
    (throttled_same
      (step_sampleJob (.look (.takeHigh rfl (dequeue_head _ [])))) rfl rfl)
  have began := creates.snoc
    (throttled_same (step_sampleJob (.createStreams rfl)) rfl rfl)
  have partition := began.snoc
    (throttled_joins (step_sampleJob (.createStream rfl)) rfl
      ⟨2000000000, ⟨[sampleEntry], _, _, _, known, rfl⟩⟩ rfl)
  have job :
      Run _
        { controller :=
            sampleJob sampleEntry 0 (sampleTopic sampleEntry 0) } :=
    partition.snoc
      (throttled_same (step_sampleJob (.streamsCreated rfl)) rfl rfl)
  have partitionTurned := job.snoc
    (throttled_onlyPartition rfl rfl rfl rfl rfl rfl
      (.look (.highEmpty rfl rfl)))
  have partitionFound := partitionTurned.snoc
    (throttled_onlyPartition rfl rfl rfl rfl rfl rfl
      (.look (.takeLow rfl (dequeue_head _ []))))
  have polls := partitionFound.snoc
    (throttled_onlyPartition rfl rfl rfl rfl rfl rfl (.pollConsumer rfl rfl))
  have controllerTurned := polls.snoc
    (throttled_same (.look (.highEmpty rfl rfl)) rfl rfl)
  have performs := controllerTurned.snoc
    (throttled_same (.look (.takeLow rfl (dequeue_head _ []))) rfl rfl)
  have performed := performs.snoc
    (throttled_same (.performPeriodicChecks rfl) rfl rfl)
  have kept := performed.snoc
    (throttled_same (.keepStream rfl rfl rfl rfl rfl) rfl rfl)
  have erases := kept.snoc
    (throttled_same (.eraseStreams rfl rfl (Nat.le_refl 1)) rfl rfl)
  have erased := erases.snoc (throttled_same (.streamsErased rfl rfl) rfl rfl)
  have before := erased.snoc (.throttle 1001 rfl)
  have onwards {trace : List (ThrottledLabel Nat)} {job : ThrottledJob Nat}
      (_ : Run trace job) : Execution Step job [] job := .refl
  have polled := (onwards before).snoc
    (throttled_onlyPartition rfl rfl rfl rfl rfl rfl
      (.pollReturned .message ⟨sampleBuffer, ⟨1, 0⟩⟩ ⟨0, 0, 0⟩ rfl))
  have transmitted := polled.snoc
    (throttled_onlyPartition rfl rfl rfl rfl rfl rfl (.forward rfl))
  have after := transmitted.snoc
    (throttled_onlyPartition rfl rfl rfl rfl rfl rfl (.forward rfl))
  have bound := paused_streamers_bounded before rfl after
    (by simp [or_imp, forall_and, ThrottledLabel.resumes])
  exact ⟨_, _, _, _, before, rfl, after, rfl, rfl, rfl, bound.2⟩

end Runs

end KafkaToNexus.JobDelivery
