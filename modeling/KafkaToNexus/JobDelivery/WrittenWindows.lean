import KafkaToNexus.JobDelivery.JobRecords
import KafkaToNexus.JobDelivery.TopicSources
import KafkaToNexus.Shutdown.WriterDrain
import KafkaToNexus.Stream.PartitionInterleavings

/-!
# The windows that a job writes

Every run of a job can be recorded with the histories of its partitions.  Each
history is an execution of its partition alone, so that the partition delivers
windows of what it polled.  Together they are what the job hands over to its
writer, and, when the writer keeps all messages, what its modules get.
-/

namespace KafkaToNexus.JobDelivery

open KafkaToNexus
open KafkaToNexus.Foundations
open KafkaToNexus.Foundations.Populations
open KafkaToNexus.Shutdown
open KafkaToNexus.Stream
open KafkaToNexus.Stream.ChangingStopTimes
open KafkaToNexus.Stream.PartitionDelivery
open KafkaToNexus.Stream.PartitionInterleavings

variable {Dest : Type*}

abbrev PartitionHistory (Dest : Type*) :=
  History (JobPartition Dest) (PartitionLabel Thread Dest)

/-- The history of a partition and the stop time it was created with. -/
structure PartitionRecord (Dest : Type*) where
  stop : TimePoint
  history : PartitionHistory Dest

/-- The topic of the partition. -/
def PartitionRecord.topicName (record : PartitionRecord Dest) : String :=
  record.history.first.topicName

/-- What the partition polled, each message with its stop time. -/
def PartitionRecord.polled
    (record : PartitionRecord Dest) : List (TimePoint × Msg) :=
  (pollHistory record.stop record.history.labels).polled

/-- The record tells of a partition of the job from its creation on. -/
structure PartitionRecord.Complete
    (context : MessageContext) (sources : List (Source Dest))
    (settings : StreamerOptions) (record : PartitionRecord Dest) :
    Prop where
  created : CreatedWith sources settings record.stop record.history.first
  run :
    Execution (RunningPartition.Step context) record.history.first.running
      record.history.labels record.history.last.running
  destroyed : record.history.last.running.life = .destroyed

/-- The messages that a step of a partition hands over. -/
def handedOverBy
    (label : PartitionLabel Thread Dest) : List (Message Dest) :=
  label.sent.filterMap SendEvent.message?

/-- A step of the job hands over what the steps of its partitions do. -/
theorem handedOver_of_shows
    (label : StreamLabel Dest) (labels : List (PartitionLabel Thread Dest))
    (shown : shows label labels) :
    label.handedOver = labels.flatMap handedOverBy := by
  have all :
      label.handedOver =
        ((sentBy label).map Prod.snd).filterMap SendEvent.message? := by
    cases label with
    | sent events =>
        rw [sentBy, List.filterMap_map]
        rfl
    | _ => rfl
  rw [all, shown, List.filterMap_flatMap]
  rfl

section Destinations

variable [DecidableEq Dest]

/-- The messages for a destination, in their order. -/
def messagesFor
    (destination : Dest) (messages : List (Message Dest)) :
    List FlatbufferMessage :=
  (messages.filter fun message => message.destPtr = destination).map (·.fbMsg)

theorem deliveredTo_eq_messagesFor
    (destination : Dest) (events : List (SendEvent Dest)) :
    deliveredTo destination events =
      messagesFor destination (events.filterMap SendEvent.message?) := by
  induction events with
  | nil => rfl
  | cons event rest induction =>
      cases event with
      | transmitted msg => exact induction
      | addMessage message =>
          unfold deliveredTo messagesFor at induction ⊢
          by_cases same : message.destPtr = destination
          · simp [SendEvent.message?, same, induction]
          · simp [SendEvent.message?, same, induction]

theorem messagesFor_perm
    (destination : Dest) {first second : List (Message Dest)}
    (same : first.Perm second) :
    (messagesFor destination first).Perm (messagesFor destination second) :=
  (same.filter _).map _

theorem messagesFor_flatMap
    {Item : Type*} (destination : Dest)
    (messages : Item → List (Message Dest)) (items : List Item) :
    messagesFor destination (items.flatMap messages) =
      items.flatMap fun item => messagesFor destination (messages item) := by
  rw [messagesFor, List.filter_flatMap, List.map_flatMap]
  rfl

/-- What the partition of a record has delivered to a destination. -/
def PartitionRecord.deliveredTo
    (destination : Dest) (record : PartitionRecord Dest) :
    List FlatbufferMessage :=
  PartitionDelivery.deliveredTo destination
    (record.history.labels.flatMap PartitionLabel.sent)

theorem PartitionRecord.deliveredTo_eq
    (destination : Dest) (record : PartitionRecord Dest) :
    record.deliveredTo destination =
      messagesFor destination
        (record.history.labels.flatMap handedOverBy) := by
  rw [PartitionRecord.deliveredTo, deliveredTo_eq_messagesFor,
    List.filterMap_flatMap]
  rfl

section Complete

variable {context : MessageContext} {sources : List (Source Dest)}
  {settings : StreamerOptions} {record : PartitionRecord Dest}

/-- A complete record is an execution that begins with a call of `start`. -/
theorem PartitionRecord.Complete.delivers
    (complete : record.Complete context sources settings)
    (destination : Dest) :
    ∃ (created : TimedPartition Dest) (kafkaErrorTimeout : Duration)
      (turns : List PartitionTurn),
      created =
          ⟨record.stop,
            Partition.create (keysOf sources record.topicName)
              settings.startTimestamp record.stop settings.afterStopTime
              kafkaErrorTimeout⟩ ∧
        record.deliveredTo destination =
          deliveredInTurns context destination created turns ∧
        polledInTurns context created turns = record.polled := by
  rcases complete.created.created with
    ⟨map, kafkaErrorTimeout, self, caller, known, running⟩
  have keys : map = keysOf sources record.topicName := eq_keysOf_of_mem known
  subst keys
  let created : TimedPartition Dest :=
    ⟨record.stop,
      Partition.create (keysOf sources record.topicName)
        settings.startTimestamp record.stop settings.afterStopTime
        kafkaErrorTimeout⟩
  have run := complete.run
  rw [running] at run
  have whole := Execution.head (.start caller rfl) run
  have delivered :=
    deliveredTo_sent_of_destroyed self created destination whole
      complete.destroyed
  exact ⟨created, kafkaErrorTimeout, _, rfl, delivered.1, delivered.2⟩

/-- A partition on the topic of a source delivers windows of the source. -/
theorem PartitionRecord.Complete.deliveredTo_own
    (complete : record.Complete context sources settings)
    {source : Source Dest} (member : source ∈ sources)
    (distinct : (sources.map (·.key.destination)).Nodup)
    (consistent : Consistent (keysOf sources source.topic))
    (same : record.topicName = source.topic) :
    record.deliveredTo source.key.destination =
      timedSelection settings.startTimestamp
        source.key.acceptsRepeatedTimestamps
        (timedMessagesOfSource context source.key.srcHash record.polled) := by
  have inTopic : source.key ∈ keysOf sources record.topicName := by
    apply List.mem_map_of_mem
    exact List.mem_filter.mpr ⟨member, by rw [same]; simp⟩
  have unshared : Unshared (keysOf sources record.topicName) source.key := by
    have part :
        ((keysOf sources record.topicName).map (·.destination)).Nodup := by
      rw [keysOf, List.map_map]
      exact (List.filter_sublist.map _).nodup distinct
    exact List.count_eq_one_of_mem part (List.mem_map_of_mem inTopic)
  rw [← same] at consistent
  rcases complete.delivers source.key.destination with
    ⟨created, kafkaErrorTimeout, turns, rfl, delivered, polled⟩
  rw [delivered, ← polled]
  exact
    create_deliveredInTurns context settings.startTimestamp record.stop
      settings.afterStopTime kafkaErrorTimeout consistent inTopic unshared turns

/-- A partition on another topic delivers nothing of the source. -/
theorem PartitionRecord.Complete.deliveredTo_other
    (complete : record.Complete context sources settings)
    {source : Source Dest} (member : source ∈ sources)
    (distinct : (sources.map (·.key.destination)).Nodup)
    (other : record.topicName ≠ source.topic) :
    record.deliveredTo source.key.destination = [] := by
  have unknown :
      source.key.destination ∉
        (keysOf sources record.topicName).map (·.destination) := by
    intro known
    rw [keysOf, List.map_map] at known
    rcases List.mem_map.mp known with ⟨found, inTopic, sameDestination⟩
    rcases List.mem_filter.mp inTopic with ⟨foundIn, onTopic⟩
    have equal : found = source :=
      List.inj_on_of_nodup_map distinct foundIn member sameDestination
    rw [equal] at onTopic
    exact other (of_decide_eq_true onTopic).symm
  rcases complete.delivers source.key.destination with
    ⟨created, kafkaErrorTimeout, turns, rfl, delivered, _⟩
  rw [delivered]
  exact
    Unrouted.deliveredInTurns context _
      (unrouted_create settings.startTimestamp record.stop
        settings.afterStopTime kafkaErrorTimeout unknown) turns

end Complete

/-! ## Recorded runs -/

/-- The runs of a job with the histories of its partitions. -/
abbrev RecordedRun
    (context : MessageContext) (sources : List (Source Dest))
    (settings : StreamerOptions) (trace : List (StreamLabel Dest))
    (controller : StreamController Dest)
    (records : List (PartitionRecord Dest)) : Prop :=
  Execution
    (RecordedStep (partitionKind context sources settings)
      (StreamController.Step context) jobParts shows)
    ⟨StreamController.create sources settings, []⟩ trace
    ⟨controller, records.map (·.history)⟩

/-- Items without values may be left out. -/
theorem flatMap_filter_of_nil
    {Item Value : Type*} (keep : Item → Bool) (values : Item → List Value)
    {items : List Item}
    (none : ∀ item ∈ items, keep item = false → values item = []) :
    items.flatMap values = (items.filter keep).flatMap values := by
  induction items with
  | nil => rfl
  | cons item rest induction =>
      have later :=
        induction fun other member => none other (List.mem_cons_of_mem _ member)
      cases kept : keep item with
      | true => rw [List.filter_cons_of_pos kept, List.flatMap_cons, later,
          List.flatMap_cons]
      | false =>
          rw [List.filter_cons_of_neg (by simp [kept]), List.flatMap_cons,
            none item List.mem_cons_self kept, later, List.nil_append]

/-- Every run of a job that is gone has complete records. -/
theorem exists_records
    {context : MessageContext} {sources : List (Source Dest)}
    {settings : StreamerOptions} {trace : List (StreamLabel Dest)}
    {controller : StreamController Dest}
    (run :
      Execution (StreamController.Step context)
        (StreamController.create sources settings) trace controller)
    (gone : controller.main = .gone) :
    ∃ records : List (PartitionRecord Dest),
      RecordedRun context sources settings trace controller records ∧
        ∀ record ∈ records, record.Complete context sources settings := by
  have noParts :
      jobParts (StreamController.create sources settings) = [] := rfl
  have sound : JobSound sources settings controller :=
    run.invariant _ sound_create fun _ _ _ sound taken => sound.step taken
  have changes :
      ∀ state label next, JobSound sources settings state →
        StreamController.Step context state label next →
          JobSound sources settings next ∧
            JobChange context sources settings state label next :=
    fun _ _ _ sound taken => ⟨sound.step taken, jobChange_step sound taken⟩
  rcases exists_recorded _ changes run sound_create noParts with
    ⟨histories, recorded⟩
  have valid := valid_of_recorded recorded
  have ended := ended_of_recorded recorded noParts (sound.ended gone)
  have begun :
      ∀ history : { history // history ∈ histories },
        ∃ stop, CreatedWith sources settings stop history.1.first :=
    fun history => (valid history.1 history.2).begins
  choose stop created using begun
  refine ⟨histories.attach.map fun history => ⟨stop history, history.1⟩,
    ?_, ?_⟩
  · have same :
        (histories.attach.map fun history =>
          (⟨stop history, history.1⟩ : PartitionRecord Dest)).map
            (·.history) = histories := by
      rw [List.map_map]
      exact List.attach_map_subtype_val histories
    rw [RecordedRun, same]
    exact recorded
  · intro record member
    rcases List.mem_map.mp member with ⟨history, _, rfl⟩
    refine ⟨created history, ?_, ended history.1 history.2⟩
    exact (valid history.1 history.2).run.map (·.running)
      fun _ _ _ taken => taken.2

/-- The windows of a source in the partitions of its topic. -/
def windowsOf
    (context : MessageContext) (settings : StreamerOptions)
    (source : Source Dest) (records : List (PartitionRecord Dest)) :
    List FlatbufferMessage :=
  (records.filter fun record => record.topicName = source.topic).flatMap
    fun record =>
      timedSelection settings.startTimestamp
        source.key.acceptsRepeatedTimestamps
        (timedMessagesOfSource context source.key.srcHash record.polled)

/-- What complete records deliver of a source are its windows. -/
theorem handedOver_perm_windowsOf
    {context : MessageContext} {sources : List (Source Dest)}
    {settings : StreamerOptions} {trace : List (StreamLabel Dest)}
    {controller : StreamController Dest}
    {records : List (PartitionRecord Dest)}
    (recorded :
      RecordedRun context sources settings trace controller records)
    (complete :
      ∀ record ∈ records, record.Complete context sources settings)
    {source : Source Dest} (member : source ∈ sources)
    (distinct : (sources.map (·.key.destination)).Nodup)
    (consistent : Consistent (keysOf sources source.topic)) :
    (messagesFor source.key.destination
        (trace.flatMap StreamLabel.handedOver)).Perm
      (windowsOf context settings source records) := by
  have handed := outputs_of_recorded handedOver_of_shows recorded
  refine (messagesFor_perm _ handed).trans (List.Perm.of_eq ?_)
  rw [outputs, messagesFor_flatMap, List.flatMap_map]
  simp only [← PartitionRecord.deliveredTo_eq]
  rw [flatMap_filter_of_nil fun record =>
    decide (record.topicName = source.topic), windowsOf]
  · apply List.flatMap_congr
    intro record kept
    rcases List.mem_filter.mp kept with ⟨known, same⟩
    exact (complete record known).deliveredTo_own member distinct consistent
      (of_decide_eq_true same)
  · intro record known other
    exact (complete record known).deliveredTo_other member distinct
      (of_decide_eq_false other)

omit [DecidableEq Dest] in
/-- In a run that drains quietly every message that was handed over is kept. -/
theorem keepsMessages_of_drained
    {context : MessageContext} {sources : List (Source Dest)}
    {settings : StreamerOptions} {trace : List (StreamLabel Dest)}
    {controller : StreamController Dest}
    (run :
      Execution (DrainsQuietly context)
        (StreamController.create sources settings) trace controller)
    (destroyed : writerDestroyed controller.main = true) :
    controller.writerThread.executed.Perm
      (trace.flatMap StreamLabel.handedOver) := by
  have accounted : Accounted trace controller := by
    refine run.traceInvariant Accounted ?_ ?_
    · refine ⟨List.Perm.refl _, nofun, ?_, nofun, nofun⟩
      intro before after split
      simp at split
    · exact fun labels state label next before taken => before.step taken
  have jobs := accounted.jobs
  rw [(accounted.quiet (accounted.joined destroyed)).2, List.append_nil] at jobs
  exact jobs

/--
Let the sources of a job have writer modules of their own.  Every run of the
job's threads, up to the end of the controller's destructor, can be recorded
with the histories of all its partitions.  If the sources of a topic that
share a writer hash agree, the messages handed over to the writer for a source
are then, up to their order, the windows of the source in the partitions of
its topic: none is missing and none is there twice.  The module of the source
gets all of them in a run that drains quietly.
-/
theorem job_delivers_windows
    (context : MessageContext) (sources : List (Source Dest))
    (settings : StreamerOptions)
    (distinct : (sources.map (·.key.destination)).Nodup)
    {trace : List (StreamLabel Dest)} {controller : StreamController Dest}
    (run :
      Execution (StreamController.Step context)
        (StreamController.create sources settings) trace controller)
    (gone : controller.main = .gone) :
    ∃ records : List (PartitionRecord Dest),
      RecordedRun context sources settings trace controller records ∧
        (∀ record ∈ records, record.Complete context sources settings) ∧
        ∀ source ∈ sources, Consistent (keysOf sources source.topic) →
          (messagesFor source.key.destination
              (trace.flatMap StreamLabel.handedOver)).Perm
            (windowsOf context settings source records) ∧
          (Execution (DrainsQuietly context)
              (StreamController.create sources settings) trace controller →
            (messagesFor source.key.destination
                controller.writerThread.executed).Perm
              (windowsOf context settings source records)) := by
  rcases exists_records run gone with ⟨records, recorded, complete⟩
  refine ⟨records, recorded, complete, ?_⟩
  intro source member consistent
  have handed :=
    handedOver_perm_windowsOf recorded complete member distinct consistent
  refine ⟨handed, fun quietly => ?_⟩
  have kept := keepsMessages_of_drained quietly (by rw [gone]; rfl)
  exact (messagesFor_perm _ kept).trans handed

open StreamController ProducerQueue

omit [DecidableEq Dest] in
/-- A step without the writer does not end its last `WriteOperation`. -/
theorem quietly_other
    {context : MessageContext} {controller next : StreamController Dest}
    (taken : Step context controller .other next) :
    DrainsQuietly context controller .other next :=
  ⟨taken, fun same => by cases same⟩

omit [DecidableEq Dest] in
theorem quietly_sent
    {context : MessageContext} {controller next : StreamController Dest}
    {events : List (Thread × SendEvent Dest)}
    (taken : Step context controller (.sent events) next) :
    DrainsQuietly context controller (.sent events) next :=
  ⟨taken, fun same => by cases same⟩

/-- A run of a job, to its end, that polls and writes one message. -/
theorem sampleJob_gone :
    ∃ trace controller,
      Execution (DrainsQuietly sampleContext)
          (create [sampleSource sampleEntry] (sampleOptions 0)) trace
          controller ∧
        controller.main = .gone ∧
        controller.writerThread.executed = [⟨sampleMessage, 0⟩] := by
  have job := sampleJob_run sampleContext sampleEntry 0
  have turned := job.snoc
    (step_onlyPartition rfl rfl rfl (.look (.highEmpty rfl rfl)))
  have found := turned.snoc
    (step_onlyPartition rfl rfl rfl (.look (.takeLow rfl (dequeue_head _ []))))
  have polls := found.snoc
    (step_onlyPartition rfl rfl rfl (.pollConsumer rfl rfl))
  have polled := polls.snoc
    (step_onlyPartition rfl rfl rfl
      (.pollReturned .message ⟨sampleBuffer, ⟨1, 0⟩⟩ ⟨0, 0, 0⟩ rfl))
  have transmitted := polled.snoc
    (step_onlyPartition rfl rfl rfl (.forward rfl))
  have added := transmitted.snoc
    (step_onlyPartition rfl rfl rfl (.forward rfl))
  have requeued := added.snoc
    (step_onlyPartition rfl rfl rfl (.requeue (by decide)))
  have destroys := requeued.snoc (.destroy rfl)
  have enters := destroys.snoc
    (.mainStop rfl (.enterTopic Nat.one_pos rfl))
  have stopsLow := enters.snoc
    (.mainStop rfl
      (.firstTask Nat.one_pos rfl (.stopLow rfl (.stopLow _ rfl))))
  have stopsHigh := stopsLow.snoc
    (.mainStop rfl (.secondTask rfl
      (.stopHigh rfl (.stopHigh (List.mem_singleton_self _)))))
  have stopsNext := stopsHigh.snoc (.mainStop rfl .nextTopic)
  have stopsLast := stopsNext.snoc (.mainStop rfl .lastTopic)
  have stopsWriter := stopsLast.snoc (.mainStop rfl .writer)
  have stopped := stopsWriter.snoc (.mainStop rfl .flag)
  have leaves := stopped.snoc (.writer (.leaveLoop rfl rfl))
  have executed := leaves.snoc (.writer (.execute rfl (dequeue_head _ [])))
  have quietly := drainsQuietly_run executed (by decide)
  have drained := quietly.snoc ⟨.writer (.drained rfl rfl), fun _ =>
    quiet_of_onlyPartition rfl rfl rfl rfl (Or.inr ⟨rfl, rfl⟩)
      (Or.inr ⟨rfl, rfl⟩)
      ⟨Or.inr ⟨Or.inr ⟨rfl, rfl⟩,
        Or.inr ⟨rfl, rfl, Or.inr ⟨Nat.one_pos, by decide⟩⟩⟩, by decide⟩⟩
  have exits := drained.snoc (quietly_other (.exitExecutor rfl))
  have exitFound := exits.snoc
    (quietly_other (.look (.takeHigh rfl (dequeue_head _ []))))
  have exited := exitFound.snoc (quietly_other (.exitThread rfl))
  have joined := exited.snoc (quietly_other (.joinExecutor rfl rfl))
  have writerStopped := joined.snoc (quietly_other (.stopWriter rfl))
  have writerJoined := writerStopped.snoc
    (quietly_other (.joinWriter rfl rfl))
  have destroysTopic := writerJoined.snoc
    (quietly_sent (.destroyTopic rfl rfl rfl (.destroy .main rfl)))
  have topicFound := destroysTopic.snoc
    (quietly_sent
      (step_onlyTopic rfl rfl (.look (.takeHigh rfl (dequeue_head _ [])))))
  have topicExited := topicFound.snoc
    (quietly_sent (step_onlyTopic rfl rfl (.exitThread rfl)))
  have topicJoined := topicExited.snoc
    (quietly_sent (.destroyTopic rfl rfl rfl (.join .main rfl rfl)))
  have destroysPartition := topicJoined.snoc
    (quietly_sent
      (destroy_onlyPartition rfl rfl rfl rfl rfl (.destroy .main rfl)))
  have forceFound := destroysPartition.snoc
    (quietly_sent
      (step_onlyPartition rfl rfl rfl
        (.look (.takeHigh rfl (dequeue_head _ _)))))
  have forced := forceFound.snoc
    (quietly_sent (step_onlyPartition rfl rfl rfl (.forceStop rfl)))
  have partitionFound := forced.snoc
    (quietly_sent
      (step_onlyPartition rfl rfl rfl
        (.look (.takeHigh rfl (dequeue_head _ [])))))
  have partitionExited := partitionFound.snoc
    (quietly_sent (step_onlyPartition rfl rfl rfl (.exitThread rfl)))
  have partitionJoined := partitionExited.snoc
    (quietly_sent
      (destroy_onlyPartition rfl rfl rfl rfl rfl (.join rfl rfl)))
  have partitionDestroyed := partitionJoined.snoc
    (quietly_sent
      (destroy_onlyPartition rfl rfl rfl rfl rfl (.destroyed rfl)))
  have topicDestroyed := partitionDestroyed.snoc
    (quietly_sent (.destroyTopic rfl rfl rfl (.destroyed .main rfl (by
      intro owned member
      cases List.mem_singleton.mp member
      rfl))))
  have nextTopic := topicDestroyed.snoc
    (quietly_other (.topicDestroyed rfl rfl (by rintro _ ⟨⟩; rfl)))
  have topicsDestroyed := nextTopic.snoc
    (quietly_other (.topicsDestroyed rfl (Nat.le_refl 1)))
  have gone := topicsDestroyed.snoc (quietly_other (.destroyModules rfl))
  exact ⟨_, _, gone, rfl, rfl⟩

/-- The one message of a job is polled, written and its window. -/
theorem job_delivers_windows_sample :
    ∃ trace controller records,
      Execution (DrainsQuietly sampleContext)
          (create [sampleSource sampleEntry] (sampleOptions 0)) trace
          controller ∧
        RecordedRun sampleContext [sampleSource sampleEntry]
          (sampleOptions 0) trace controller records ∧
        controller.writerThread.executed = [⟨sampleMessage, 0⟩] ∧
        [sampleMessage].Perm
          (windowsOf sampleContext (sampleOptions 0)
            (sampleSource sampleEntry) records) := by
  rcases sampleJob_gone with ⟨trace, controller, run, gone, executed⟩
  rcases job_delivers_windows sampleContext [sampleSource sampleEntry]
      (sampleOptions 0) (by decide) (run.mono fun _ _ _ taken => taken.1) gone
    with ⟨records, recorded, _, windows⟩
  have written :=
    (windows _ (List.mem_singleton_self _) (by decide)).2 run
  rw [executed] at written
  exact ⟨trace, controller, records, run, recorded, executed, written⟩

end Destinations

end KafkaToNexus.JobDelivery
