import KafkaToNexus.Shutdown.QuietJob
import KafkaToNexus.Stream.PartitionDelivery

/-!
# The last look of the writer into its queue

The thread that writes empties its queue one last time after its flag was
cleared, which both `stop` and the destructor of the writer do before the
topics are destroyed.  A message that is handed over after that is lost.  The
module proves that no message is lost in the runs in which the job is quiet
when the last `WriteOperation` ends, and shows a run in which the destructor
of a filter comes too late.
-/

namespace KafkaToNexus.Shutdown

open KafkaToNexus
open KafkaToNexus.Foundations
open KafkaToNexus.Foundations.ProducerQueue
open KafkaToNexus.Stream

variable {Dest : Type*}

/-! ## What a step does to the writer -/

/-- A writer got messages, while its thread stayed where it was. -/
structure Receives
    (writer : MessageWriter Thread Dest) (messages : List (Message Dest))
    (next : MessageWriter Thread Dest) : Prop where
  point : next.point = writer.point
  executed : next.executed = writer.executed
  queued : next.queued = writer.queued ++ messages

/-- The queue and the thread are the same. -/
theorem Receives.nothing
    {writer next : MessageWriter Thread Dest}
    (point : next.point = writer.point)
    (executed : next.executed = writer.executed)
    (writeJobs : next.writeJobs = writer.writeJobs) :
    Receives writer [] next := by
  refine ⟨point, executed, ?_⟩
  rw [List.append_nil, MessageWriter.queued, writeJobs]
  rfl

theorem Receives.trans
    {writer middle next : MessageWriter Thread Dest}
    {first second : List (Message Dest)}
    (before : Receives writer first middle)
    (after : Receives middle second next) :
    Receives writer (first ++ second) next := by
  constructor
  · rw [after.point, before.point]
  · rw [after.executed, before.executed]
  · rw [after.queued, before.queued, List.append_assoc]

/-- The events of a step reach the queue in their order. -/
theorem receives_receive
    (writer : MessageWriter Thread Dest)
    (events : List (Thread × SendEvent Dest)) :
    Receives writer (events.filterMap fun event => event.2.message?)
      (writer.receive events) := by
  induction events generalizing writer with
  | nil => exact .nothing rfl rfl rfl
  | cons event rest induction =>
      rcases event with ⟨caller, event⟩
      cases event with
      | transmitted number => exact induction writer
      | addMessage message =>
          have added :
              Receives writer [message] (writer.addMessage caller message) :=
            ⟨rfl, rfl, writer.queued_addMessage caller message⟩
          exact added.trans (induction (writer.addMessage caller message))

theorem receives_stopStep
    {context : MessageContext} {caller : Thread}
    {controller next : StreamController Dest} {point after : StopPoint}
    (taken :
      StreamController.StopStep context caller controller point next after) :
    Receives controller.writerThread [] next.writerThread := by
  cases taken <;> exact .nothing rfl rfl rfl

theorem writerThread_getTopicNames
    (controller : StreamController Dest) (reset : Bool)
    (outcome : MetadataOutcome (List String)) :
    (controller.getTopicNames reset outcome).writerThread =
      controller.writerThread := by
  cases outcome <;> rfl

theorem writerThread_initStreams
    (controller : StreamController Dest) (knownTopicNames : List String) :
    (controller.initStreams knownTopicNames).writerThread =
      controller.writerThread := by
  unfold StreamController.initStreams
  dsimp only
  split <;> rfl

/-- A step is one of the writer's thread, or the writer gets its messages. -/
theorem step_writer
    {context : MessageContext} {controller next : StreamController Dest}
    {label : StreamLabel Dest}
    (taken : StreamController.Step context controller label next) :
    (∃ own, label = .writer own ∧
        MessageWriter.Step controller.writerThread own next.writerThread) ∨
      ((∀ own, label ≠ .writer own) ∧
        Receives controller.writerThread label.handedOver
          next.writerThread) := by
  cases taken with
  | writer taken => exact Or.inl ⟨_, rfl, taken⟩
  | mainStop _ taken =>
      have received := receives_stopStep taken
      exact Or.inr
        ⟨nofun, received.point, received.executed, received.queued⟩
  | controllerStop _ taken =>
      have received := receives_stopStep taken
      exact Or.inr
        ⟨nofun, received.point, received.executed, received.queued⟩
  | destroyTopic _ _ _ _ => exact Or.inr ⟨nofun, receives_receive _ _⟩
  | topic _ _ _ => exact Or.inr ⟨nofun, receives_receive _ _⟩
  | retiredTopic _ _ _ => exact Or.inr ⟨nofun, receives_receive _ _⟩
  | getTopicNames _ _ =>
      rw [writerThread_getTopicNames]
      exact Or.inr ⟨nofun, .nothing rfl rfl rfl⟩
  | initStreams _ =>
      rw [writerThread_initStreams]
      exact Or.inr ⟨nofun, .nothing rfl rfl rfl⟩
  | _ => exact Or.inr ⟨nofun, .nothing rfl rfl rfl⟩

/-- The main thread is past the destruction of the writer. -/
def writerDestroyed : MainPoint → Bool
  | .destroyTopics _ => true
  | .destroyModules => true
  | .gone => true
  | _ => false

/-- The main thread waits for the thread of the writer. -/
theorem step_writerDestroyed
    {context : MessageContext} {controller next : StreamController Dest}
    {label : StreamLabel Dest}
    (taken : StreamController.Step context controller label next)
    (destroyed : writerDestroyed next.main = true) :
    writerDestroyed controller.main = true ∨
      controller.writerThread.point = .exited := by
  cases taken with
  | joinWriter _ exited => exact Or.inr exited
  | topicDestroyed destroying _ _ => rw [destroying]; exact Or.inl rfl
  | topicsDestroyed destroying _ => rw [destroying]; exact Or.inl rfl
  | destroyModules destroying => rw [destroying]; exact Or.inl rfl
  | controllerStop _ taken =>
      left
      rw [← taken.points.2]
      exact destroyed
  | getTopicNames outcome _ =>
      left
      cases outcome <;> exact destroyed
  | @initStreams knownTopicNames _ =>
      left
      revert destroyed
      unfold StreamController.initStreams
      dsimp only
      split <;> exact id
  | setStopTime _ _ => cases destroyed
  | sendStopTime _ => cases destroyed
  | stop _ => cases destroyed
  | destroy _ => cases destroyed
  | mainStop _ _ => cases destroyed
  | stopped _ => cases destroyed
  | exitExecutor _ => cases destroyed
  | joinExecutor _ _ => cases destroyed
  | stopWriter _ => cases destroyed
  | _ => exact Or.inl destroyed

/-! ## Runs in which the job is quiet at the last look -/

/-- A step at which the job is quiet if it ends the last `WriteOperation`. -/
def DrainsQuietly
    (context : MessageContext) (controller : StreamController Dest)
    (label : StreamLabel Dest) (next : StreamController Dest) : Prop :=
  StreamController.Step context controller label next ∧
    (label = .writer .drained → Quiet controller)

/-- A run without a last look of the writer. -/
theorem drainsQuietly_run
    {context : MessageContext} {start final : StreamController Dest}
    {trace : List (StreamLabel Dest)}
    (run : Execution (StreamController.Step context) start trace final)
    (notDrained : StreamLabel.writer .drained ∉ trace) :
    Execution (DrainsQuietly context) start trace final := by
  induction run with
  | refl => exact .refl
  | snoc before taken induction =>
      rw [List.mem_append, not_or] at notDrained
      refine (induction notDrained.1).snoc ⟨taken, ?_⟩
      rintro rfl
      exact absurd (List.mem_singleton_self _) notDrained.2

/-- No message was handed over after the last `WriteOperation` had ended. -/
def NoneAfterDrain (trace : List (StreamLabel Dest)) : Prop :=
  ∀ before after, trace = before ++ .writer .drained :: after →
    after.flatMap StreamLabel.handedOver = []

/-- No message is lost in a run. -/
structure KeepsMessages
    (trace : List (StreamLabel Dest)) (controller : StreamController Dest) :
    Prop where
  noneAfterDrain : NoneAfterDrain trace
  /-- The jobs are done when the topics and the writer modules are destroyed. -/
  executed :
    writerDestroyed controller.main = true →
      controller.writerThread.executed.Perm
        (trace.flatMap StreamLabel.handedOver)

/-- What holds along the run. -/
structure Accounted
    (trace : List (StreamLabel Dest)) (controller : StreamController Dest) :
    Prop where
  jobs :
    (controller.writerThread.executed ++ controller.writerThread.queued).Perm
      (trace.flatMap StreamLabel.handedOver)
  drained :
    .writer .drained ∈ trace → controller.writerThread.point = .exited
  noneAfterDrain : NoneAfterDrain trace
  quiet :
    controller.writerThread.point = .exited →
      Quiet controller ∧ controller.writerThread.queued = []
  joined :
    writerDestroyed controller.main = true →
      controller.writerThread.point = .exited

theorem NoneAfterDrain.snoc
    {trace : List (StreamLabel Dest)} {label : StreamLabel Dest}
    (none_ : NoneAfterDrain trace)
    (silent : .writer .drained ∈ trace → label.handedOver = []) :
    NoneAfterDrain (trace ++ [label]) := by
  intro before after split
  rcases List.eq_nil_or_concat after with rfl | ⟨rest, last, rfl⟩
  · rfl
  · rw [List.concat_eq_append, ← List.cons_append, ← List.append_assoc] at split
    rcases List.append_inj' split rfl with ⟨same, lasts⟩
    cases lasts
    rw [List.concat_eq_append, List.flatMap_append, none_ _ _ same,
      List.flatMap_singleton, silent]
    · rfl
    · rw [same]
      simp

/-- A quiet job hands over nothing. -/
theorem handedOver_of_sentBy
    {label : StreamLabel Dest} (silent : sentBy label = []) :
    label.handedOver = [] := by
  cases label with
  | sent events =>
      change events = [] at silent
      rw [silent]
      rfl
  | _ => rfl

theorem Accounted.step
    {context : MessageContext} {trace : List (StreamLabel Dest)}
    {controller next : StreamController Dest} {label : StreamLabel Dest}
    (accounted : Accounted trace controller)
    (taken : DrainsQuietly context controller label next) :
    Accounted (trace ++ [label]) next := by
  rcases taken with ⟨taken, quietly⟩
  have handed :
      (trace ++ [label]).flatMap StreamLabel.handedOver =
        trace.flatMap StreamLabel.handedOver ++ label.handedOver := by
    rw [List.flatMap_append, List.flatMap_singleton]
  rcases step_writer taken with ⟨own, rfl, moved⟩ | ⟨notWriter, received⟩
  · have running := moved.not_exited
    constructor
    · rw [handed]
      exact (moved.jobs.trans accounted.jobs).trans
        (List.Perm.of_eq (List.append_nil _).symm)
    · intro member
      rcases List.mem_append.mp member with old | new
      · exact absurd (accounted.drained old) running
      · cases List.mem_singleton.mp new
        exact moved.drained_exited
    · exact accounted.noneAfterDrain.snoc fun _ => rfl
    · intro exited
      rcases moved.exited exited with ⟨rfl, empty⟩
      refine ⟨((quietly rfl).step taken).1, ?_⟩
      rw [MessageWriter.queued, empty]
      rfl
    · intro destroyed
      rcases step_writerDestroyed taken destroyed with already | exited
      · exact absurd (accounted.joined already) running
      · exact absurd exited running
  · constructor
    · rw [handed, received.executed, received.queued, ← List.append_assoc]
      exact accounted.jobs.append_right label.handedOver
    · intro member
      rw [received.point]
      rcases List.mem_append.mp member with old | new
      · exact accounted.drained old
      · exact absurd (List.mem_singleton.mp new).symm (notWriter _)
    · apply accounted.noneAfterDrain.snoc
      intro member
      have quiet := (accounted.quiet (accounted.drained member)).1
      exact handedOver_of_sentBy (quiet.step taken).2
    · intro exited
      rw [received.point] at exited
      rcases accounted.quiet exited with ⟨quiet, empty⟩
      have stepped := quiet.step taken
      refine ⟨stepped.1, ?_⟩
      rw [received.queued, empty, handedOver_of_sentBy stepped.2]
      rfl
    · intro destroyed
      rw [received.point]
      rcases step_writerDestroyed taken destroyed with already | exited
      · exact accounted.joined already
      · exact exited

/--
No message is lost in a run in which the job is quiet when the thread of the
writer ends its last `WriteOperation`.
-/
theorem no_message_lost_when_drained_quietly
    {context : MessageContext} {sources : List (Source Dest)}
    {settings : StreamerOptions} {trace : List (StreamLabel Dest)}
    {controller : StreamController Dest}
    (run :
      Execution (DrainsQuietly context)
        (StreamController.create sources settings) trace controller) :
    KeepsMessages trace controller := by
  have accounted : Accounted trace controller := by
    refine run.traceInvariant Accounted ?_ ?_
    · have noneAfterDrain : NoneAfterDrain ([] : List (StreamLabel Dest)) := by
        intro before after split
        simp at split
      exact ⟨List.Perm.refl _, nofun, noneAfterDrain, nofun, nofun⟩
    · intro labels state label next before taken
      exact before.step taken
  refine ⟨accounted.noneAfterDrain, ?_⟩
  intro destroyed
  have jobs := accounted.jobs
  rw [(accounted.quiet (accounted.joined destroyed)).2, List.append_nil] at jobs
  exact jobs

open PartitionDelivery

/-- A message is written although the partition has a poll task left. -/
theorem message_kept_ahead_of_stop :
    ∃ trace controller,
      Execution (DrainsQuietly sampleContext)
        (.create [StreamController.sampleSource sampleEntry]
          (StreamController.sampleOptions 0)) trace controller ∧
      controller.main = .destroyTopics 0 ∧
      controller.writerThread.executed = [⟨sampleMessage, 0⟩] ∧
      KeepsMessages trace controller := by
  have job := StreamController.sampleJob_run sampleContext sampleEntry 0
  have turned := job.snoc
    (StreamController.step_onlyPartition rfl rfl rfl
      (.look (.highEmpty rfl rfl)))
  have found := turned.snoc
    (StreamController.step_onlyPartition rfl rfl rfl
      (.look (.takeLow rfl (dequeue_head _ []))))
  have polls := found.snoc
    (StreamController.step_onlyPartition rfl rfl rfl (.pollConsumer rfl rfl))
  have polled := polls.snoc
    (StreamController.step_onlyPartition rfl rfl rfl
      (.pollReturned .message ⟨sampleBuffer, ⟨1, 0⟩⟩ ⟨0, 0, 0⟩ rfl))
  have transmitted := polled.snoc
    (StreamController.step_onlyPartition rfl rfl rfl (.forward rfl))
  have added := transmitted.snoc
    (StreamController.step_onlyPartition rfl rfl rfl (.forward rfl))
  have requeued := added.snoc
    (StreamController.step_onlyPartition rfl rfl rfl (.requeue (by decide)))
  have destroys := requeued.snoc (.destroy rfl)
  have enters := destroys.snoc (.mainStop rfl
    (.enterTopic Nat.one_pos rfl))
  have stopsLow := enters.snoc (.mainStop rfl
    (.firstTask Nat.one_pos rfl (.stopLow rfl (.stopLow _ rfl))))
  have stopsHigh := stopsLow.snoc (.mainStop rfl
    (.secondTask rfl (.stopHigh rfl (.stopHigh (List.mem_singleton_self _)))))
  have stopsNext := stopsHigh.snoc (.mainStop rfl .nextTopic)
  have stopsLast := stopsNext.snoc (.mainStop rfl .lastTopic)
  have stopsWriter := stopsLast.snoc (.mainStop rfl .writer)
  have stopped := stopsWriter.snoc (.mainStop rfl .flag)
  have leaves := stopped.snoc (.writer (.leaveLoop rfl rfl))
  have executed := leaves.snoc
    (.writer (.execute rfl (dequeue_head _ [])))
  have quietly := drainsQuietly_run executed (by decide)
  have drained := quietly.snoc ⟨.writer (.drained rfl rfl), fun _ =>
    quiet_of_onlyPartition rfl rfl rfl rfl (Or.inr ⟨rfl, rfl⟩)
      (Or.inr ⟨rfl, rfl⟩)
      ⟨Or.inr ⟨Or.inr ⟨rfl, rfl⟩,
        Or.inr ⟨rfl, rfl, Or.inr ⟨Nat.one_pos, nofun⟩⟩⟩, by decide⟩⟩
  have exits := drained.snoc ⟨.exitExecutor rfl, nofun⟩
  have exitFound := exits.snoc
    ⟨.look (.takeHigh rfl (dequeue_head _ [])), nofun⟩
  have exited := exitFound.snoc ⟨.exitThread rfl, nofun⟩
  have joined := exited.snoc ⟨.joinExecutor rfl rfl, nofun⟩
  have writerStopped := joined.snoc ⟨.stopWriter rfl, nofun⟩
  have writerJoined := writerStopped.snoc ⟨.joinWriter rfl rfl, nofun⟩
  have kept := no_message_lost_when_drained_quietly writerJoined
  exact ⟨_, _, writerJoined, rfl, rfl, kept⟩

/-! ## A message that is handed over too late -/

/--
The destructor of a filter hands over its buffered message when the thread of
the writer has ended.
-/
theorem buffered_message_lost :
    ∃ trace controller,
      Execution (StreamController.Step sampleContext)
        (.create [StreamController.sampleSource sampleEntry]
          (StreamController.sampleOptions 1000000000)) trace controller ∧
      controller.main = .gone ∧
      controller.writerThread.executed = [] ∧
      trace.flatMap StreamLabel.handedOver = [⟨sampleMessage, 0⟩] ∧
      ¬ KeepsMessages trace controller := by
  have job :=
    StreamController.sampleJob_run sampleContext sampleEntry 1000000000
  have turned := job.snoc
    (StreamController.step_onlyPartition rfl rfl rfl
      (.look (.highEmpty rfl rfl)))
  have found := turned.snoc
    (StreamController.step_onlyPartition rfl rfl rfl
      (.look (.takeLow rfl (dequeue_head _ []))))
  have polls := found.snoc
    (StreamController.step_onlyPartition rfl rfl rfl (.pollConsumer rfl rfl))
  have polled := polls.snoc
    (StreamController.step_onlyPartition rfl rfl rfl
      (.pollReturned .message ⟨sampleBuffer, ⟨1, 0⟩⟩ ⟨0, 0, 0⟩ rfl))
  have requeued := polled.snoc
    (StreamController.step_onlyPartition rfl rfl rfl (.requeue (by decide)))
  have destroys := requeued.snoc (.destroy rfl)
  have enters := destroys.snoc (.mainStop rfl
    (.enterTopic Nat.one_pos rfl))
  have stopsLow := enters.snoc (.mainStop rfl
    (.firstTask Nat.one_pos rfl (.stopLow rfl (.stopLow _ rfl))))
  have stopsHigh := stopsLow.snoc (.mainStop rfl
    (.secondTask rfl (.stopHigh rfl (.stopHigh (List.mem_singleton_self _)))))
  have stopsNext := stopsHigh.snoc (.mainStop rfl .nextTopic)
  have stopsLast := stopsNext.snoc (.mainStop rfl .lastTopic)
  have stopsWriter := stopsLast.snoc (.mainStop rfl .writer)
  have stopped := stopsWriter.snoc (.mainStop rfl .flag)
  have leaves := stopped.snoc (.writer (.leaveLoop rfl rfl))
  have drained := leaves.snoc (.writer (.drained rfl rfl))
  have exits := drained.snoc (.exitExecutor rfl)
  have exitFound := exits.snoc (.look (.takeHigh rfl (dequeue_head _ [])))
  have exited := exitFound.snoc (.exitThread rfl)
  have joined := exited.snoc (.joinExecutor rfl rfl)
  have writerStopped := joined.snoc (.stopWriter rfl)
  have writerJoined := writerStopped.snoc (.joinWriter rfl rfl)
  have destroysTopic := writerJoined.snoc
    (.destroyTopic rfl rfl rfl (.destroy .main rfl))
  have topicFound := destroysTopic.snoc
    (StreamController.step_onlyTopic rfl rfl
      (.look (.takeHigh rfl (dequeue_head _ []))))
  have topicExited := topicFound.snoc
    (StreamController.step_onlyTopic rfl rfl (.exitThread rfl))
  have topicJoined := topicExited.snoc
    (.destroyTopic rfl rfl rfl (.join .main rfl rfl))
  have destroysPartition := topicJoined.snoc
    (StreamController.destroy_onlyPartition rfl rfl rfl rfl rfl
      (.destroy .main rfl))
  have forceFound := destroysPartition.snoc
    (StreamController.step_onlyPartition rfl rfl rfl
      (.look (.takeHigh rfl (dequeue_head _ _))))
  have forced := forceFound.snoc
    (StreamController.step_onlyPartition rfl rfl rfl (.forceStop rfl))
  have partitionFound := forced.snoc
    (StreamController.step_onlyPartition rfl rfl rfl
      (.look (.takeHigh rfl (dequeue_head _ []))))
  have partitionExited := partitionFound.snoc
    (StreamController.step_onlyPartition rfl rfl rfl (.exitThread rfl))
  have partitionJoined := partitionExited.snoc
    (StreamController.destroy_onlyPartition rfl rfl rfl rfl rfl (.join rfl rfl))
  have transmitted := partitionJoined.snoc
    (StreamController.destroy_onlyPartition rfl rfl rfl rfl rfl (.flush rfl))
  have added := transmitted.snoc
    (StreamController.destroy_onlyPartition rfl rfl rfl rfl rfl (.flush rfl))
  have partitionDestroyed := added.snoc
    (StreamController.destroy_onlyPartition rfl rfl rfl rfl rfl
      (.destroyed rfl))
  have topicDestroyed := partitionDestroyed.snoc
    (.destroyTopic rfl rfl rfl (.destroyed .main rfl (by
      intro owned member
      cases List.mem_singleton.mp member
      rfl)))
  have nextTopic := topicDestroyed.snoc
    (.topicDestroyed rfl rfl (by rintro _ ⟨⟩; rfl))
  have topicsDestroyed := nextTopic.snoc
    (.topicsDestroyed rfl (Nat.le_refl 1))
  have gone := topicsDestroyed.snoc (.destroyModules rfl)
  refine ⟨_, _, gone, rfl, rfl, rfl, ?_⟩
  intro kept
  have lengths := (kept.executed rfl).length_eq
  cases lengths

end KafkaToNexus.Shutdown
