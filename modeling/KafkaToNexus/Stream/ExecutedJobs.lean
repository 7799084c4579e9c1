import KafkaToNexus.Stream.ModuleErrorMetrics
import KafkaToNexus.Stream.PartitionDelivery
import Mathlib.Data.List.Infix

/-!
# Every job is executed once

A job is in the queue, in the hand of the writer thread or executed, and it
moves only in this direction.  The jobs of one producer keep their order, so
those that were executed are a prefix of those that it enqueued; and the last
`WriteOperation` starts after the flag was cleared, so it leaves nothing that
was enqueued before.

The handler of a `WriterException` looks its metric up before it registers
it.  Two sources with the same metric have the same hash, because a schema id
has four characters, and no metric of another component ends like it.  The
registration therefore always succeeds.
-/

namespace KafkaToNexus.Stream

open KafkaToNexus
open KafkaToNexus.Foundations
open KafkaToNexus.Foundations.ProducerQueue
open KafkaToNexus.Metrics
open KafkaToNexus.Stream.PartitionDelivery

variable {Thread Dest Job : Type*}

namespace JobLabel

/-- The jobs that a producer enqueues in a step. -/
def enqueuedBy [DecidableEq Thread] (producer : Thread) :
    JobLabel Thread Dest Job → List (WriteJob Dest Job)
  | .enqueue caller job => (itemOf producer ⟨caller, job⟩).toList
  | _ => []

/-- The jobs of a producer that are executed in a step. -/
def executedBy [DecidableEq Thread] (producer : Thread) :
    JobLabel Thread Dest Job → List (WriteJob Dest Job)
  | .executed entry => (itemOf producer entry).toList
  | _ => []

/-- The messages whose writes are executed in a step. -/
def executedMessages : JobLabel Thread Dest Job → List (Message Dest)
  | .executed ⟨_, .writeMsg message⟩ => [message]
  | _ => []

end JobLabel

namespace JobWriter

variable {context : MessageContext}
variable {writer next : JobWriter Thread Dest Job}
variable {label : JobLabel Thread Dest Job}

/-! ## Jobs in their order -/

section Order

variable [DecidableEq Thread]

/-- The job of a producer that the writer thread is executing. -/
def inHand (producer : Thread) :
    JobPoint Thread Dest Job → List (WriteJob Dest Job)
  | .running entry _ _ => (itemOf producer entry).toList
  | _ => []

@[simp]
theorem inHand_afterJob
    (producer : Thread) (counter : Nat) (afterLoop : Bool) :
    inHand producer
      (afterJob counter afterLoop : JobPoint Thread Dest Job) = [] := by
  unfold afterJob
  split <;> rfl

/-- The jobs of a producer that are not executed yet, the oldest first. -/
def pendingOf
    (producer : Thread) (writer : JobWriter Thread Dest Job) :
    List (WriteJob Dest Job) :=
  inHand producer writer.point ++ itemsOf producer writer.writeJobs

/-- A step to a point without a job, from a point without one. -/
theorem pendingOf_goTo
    {producer : Thread} {point : JobPoint Thread Dest Job}
    (before : inHand producer writer.point = [])
    (after : inHand producer point = []) :
    pendingOf producer (writer.goTo point) = pendingOf producer writer := by
  rw [pendingOf, pendingOf, before]
  exact congrArg (· ++ itemsOf producer writer.writeJobs) after

theorem pendingOf_wrote
    {producer : Thread} {message : Message Dest} {outcome : WriteOutcome}
    {counter : Nat} {afterLoop : Bool} :
    pendingOf producer (writer.wrote message outcome counter afterLoop) =
      itemsOf producer writer.writeJobs := by
  cases outcome with
  | returned => simp [pendingOf, wrote]
  | writerException => rfl
  | stdException => simp [pendingOf, wrote]

/-- What a step enqueues comes last, and what it executes came first. -/
theorem Step.pendingOf
    (taken : Step context writer label next) (producer : Thread) :
    label.executedBy producer ++ pendingOf producer next =
      pendingOf producer writer ++ label.enqueuedBy producer := by
  have moves {point : JobPoint Thread Dest Job}
      (before : inHand producer writer.point = [])
      (after : inHand producer point = []) :
      [] ++ JobWriter.pendingOf producer (writer.goTo point) =
        JobWriter.pendingOf producer writer ++ [] := by
    rw [List.nil_append, List.append_nil]
    exact pendingOf_goTo before after
  cases taken with
  | addMessage caller message _ =>
      exact (congrArg (inHand producer writer.point ++ ·)
        (itemsOf_enqueue _ _ _ _)).trans (List.append_assoc _ _ _).symm
  | runJob caller job =>
      exact (congrArg (inHand producer writer.point ++ ·)
        (itemsOf_enqueue _ _ _ _)).trans (List.append_assoc _ _ _).symm
  | stop => exact (List.append_nil _).symm
  | registerOther _ _ _ => exact (List.append_nil _).symm
  | removeOther _ _ => exact (List.append_nil _).symm
  | dequeue point dequeued =>
      have before : inHand producer writer.point = [] := by
        rw [point]
        rfl
      rw [JobWriter.pendingOf, JobWriter.pendingOf, before,
        dequeued.itemsOf producer]
      exact (List.append_nil _).symm
  | wrote outcome point =>
      rw [pendingOf_wrote, JobWriter.pendingOf, point]
      exact (List.append_nil _).symm
  | handled point success =>
      have same := sameJobs_handleWriterException success
      have before : inHand producer writer.point = [] := by
        rw [point]
        rfl
      rw [JobWriter.pendingOf, JobWriter.pendingOf, before]
      simp only [JobLabel.executedBy, JobLabel.enqueuedBy, goTo,
        inHand_afterJob, same.writeJobs, List.nil_append, List.append_nil]
  | ran point =>
      rw [JobWriter.pendingOf, JobWriter.pendingOf, point]
      simp only [goTo, inHand_afterJob]
      exact (List.append_nil _).symm
  | runThrows point =>
      rw [JobWriter.pendingOf, JobWriter.pendingOf, point]
      exact (List.append_nil _).symm
  | enterLoop point _ => exact moves (by rw [point]; rfl) rfl
  | leaveLoop point _ => exact moves (by rw [point]; rfl) rfl
  | handlerThrows point _ => exact moves (by rw [point]; rfl) rfl
  | flushedJobs point => exact moves (by rw [point]; rfl) rfl
  | flushJobsThrows point => exact moves (by rw [point]; rfl) rfl
  | written point _ => exact moves (by rw [point]; rfl) rfl
  | flushed point => exact moves (by rw [point]; rfl) rfl
  | flushThrows point => exact moves (by rw [point]; rfl) rfl
  | drained point _ => exact moves (by rw [point]; rfl) rfl
  | breakLoop point _ => exact moves (by rw [point]; rfl) rfl
  | sleep point _ => exact moves (by rw [point]; rfl) rfl
  | wake point => exact moves (by rw [point]; rfl) rfl

/-- The executed jobs of a producer and the pending ones are the enqueued. -/
theorem run_pendingOf
    {start final : JobWriter Thread Dest Job}
    {trace : List (JobLabel Thread Dest Job)}
    (run : Execution (Step context) start trace final)
    (producer : Thread) :
    trace.flatMap (JobLabel.executedBy producer) ++
        pendingOf producer final =
      pendingOf producer start ++
        trace.flatMap (JobLabel.enqueuedBy producer) := by
  refine run.traceInvariant
    (fun labels state =>
      labels.flatMap (JobLabel.executedBy producer) ++
          pendingOf producer state =
        pendingOf producer start ++
          labels.flatMap (JobLabel.enqueuedBy producer))
    (List.append_nil _).symm ?_
  intro labels state label next same taken
  rw [List.flatMap_append, List.flatMap_append, List.flatMap_singleton,
    List.flatMap_singleton, List.append_assoc, taken.pendingOf producer,
    ← List.append_assoc, same, List.append_assoc]

end Order

/-! ## The last look into the queue -/

/-- The thread has left its loop. -/
def pastLoop : JobPoint Thread Dest Job → Bool
  | .dequeuing _ afterLoop => afterLoop
  | .running _ _ afterLoop => afterLoop
  | .handling _ _ afterLoop => afterLoop
  | .flushingJobs afterLoop => afterLoop
  | .exited => true
  | _ => false

@[simp]
theorem pastLoop_afterJob (counter : Nat) (afterLoop : Bool) :
    pastLoop (afterJob counter afterLoop : JobPoint Thread Dest Job) =
      afterLoop := by
  unfold afterJob
  split <;> rfl

/-- Only `stop` clears the flag. -/
theorem Step.runThread
    (taken : Step context writer label next)
    (cleared : next.runThread = false) :
    writer.runThread = false ∨ label = .stop := by
  cases taken with
  | stop => exact Or.inr rfl
  | handled _ success =>
      left
      rw [← (sameJobs_handleWriterException success).runThread]
      exact cleared
  | wrote outcome _ => cases outcome <;> exact Or.inl cleared
  | _ => exact Or.inl cleared

/-- The thread leaves its loop when it finds the flag cleared. -/
theorem Step.pastLoop
    (taken : Step context writer label next)
    (past : pastLoop next.point = true) :
    JobWriter.pastLoop writer.point = true ∨ writer.runThread = false := by
  cases taken with
  | leaveLoop _ cleared => exact Or.inr cleared
  | breakLoop _ cleared => exact Or.inr cleared
  | dequeue point _ => rw [point]; exact Or.inl past
  | wrote outcome point =>
      rw [point]
      left
      cases outcome with
      | returned => rw [← past]; exact (pastLoop_afterJob _ _).symm
      | writerException => exact past
      | stdException => rw [← past]; exact (pastLoop_afterJob _ _).symm
  | handled point _ =>
      rw [point]
      rw [goTo, pastLoop_afterJob] at past
      exact Or.inl past
  | ran point =>
      rw [point]
      rw [goTo, pastLoop_afterJob] at past
      exact Or.inl past
  | flushedJobs point => rw [point]; exact Or.inl past
  | drained point _ => rw [point]; exact Or.inl rfl
  | addMessage _ _ _ => exact Or.inl past
  | runJob _ _ => exact Or.inl past
  | stop => exact Or.inl past
  | registerOther _ _ _ => exact Or.inl past
  | removeOther _ _ => exact Or.inl past
  | enterLoop _ _ => cases past
  | handlerThrows _ _ => cases past
  | runThrows _ => cases past
  | flushJobsThrows _ => cases past
  | written _ _ => cases past
  | flushed _ => cases past
  | flushThrows _ => cases past
  | sleep _ _ => cases past
  | wake _ => cases past

/-- The thread ends when its last look finds nothing. -/
theorem Step.exited
    (taken : Step context writer label next)
    (exited : next.point = .exited) :
    writer.point = .exited ∨
      ∃ counter,
        writer.point = .dequeuing counter true ∧ writer.writeJobs = [] := by
  have notAfterJob (counter : Nat) (afterLoop : Bool) :
      (afterJob counter afterLoop : JobPoint Thread Dest Job) ≠ .exited := by
    unfold afterJob
    split <;> nofun
  cases taken with
  | drained point empty => exact Or.inr ⟨_, point, empty⟩
  | addMessage _ _ _ => exact Or.inl exited
  | runJob _ _ => exact Or.inl exited
  | stop => exact Or.inl exited
  | registerOther _ _ _ => exact Or.inl exited
  | removeOther _ _ => exact Or.inl exited
  | wrote outcome _ =>
      cases outcome with
      | returned => exact absurd exited (notAfterJob _ _)
      | writerException => cases exited
      | stdException => exact absurd exited (notAfterJob _ _)
  | handled _ _ => exact absurd exited (notAfterJob _ _)
  | ran _ => exact absurd exited (notAfterJob _ _)
  | _ => cases exited

/-- A thread that was just started. -/
structure Fresh (writer : JobWriter Thread Dest Job) : Prop where
  point : writer.point = .loopCondition
  writeJobs : writer.writeJobs = []
  runThread : writer.runThread = true
  writesDone : writer.writesDone = 0
  writeErrors : writer.writeErrors = 0

theorem fresh_create
    {metricReg : Registrar} {reporters : Reporters}
    (created : create context metricReg reporters = .ok writer) :
    Fresh writer := by
  rcases create_ok created with ⟨_, _, rfl⟩
  exact ⟨rfl, rfl, rfl, rfl, rfl⟩

section Runs

variable {start final : JobWriter Thread Dest Job}
variable {trace : List (JobLabel Thread Dest Job)}

/-- After the loop, and when the flag is cleared, `stop` has been called. -/
theorem run_stopped
    (fresh : Fresh start)
    (run : Execution (Step context) start trace final) :
    (final.runThread = false → .stop ∈ trace) ∧
      (pastLoop final.point = true → .stop ∈ trace) := by
  refine run.traceInvariant
    (fun labels state =>
      (state.runThread = false → .stop ∈ labels) ∧
        (pastLoop state.point = true → .stop ∈ labels)) ?_ ?_
  · constructor
    · intro cleared
      rw [fresh.runThread] at cleared
      cases cleared
    · intro past
      rw [fresh.point] at past
      cases past
  · intro labels state label next stopped taken
    constructor
    · intro cleared
      rcases taken.runThread cleared with before | rfl
      · exact List.mem_append_left _ (stopped.1 before)
      · exact List.mem_append_right _ (List.mem_singleton_self _)
    · intro past
      rcases taken.pastLoop past with before | cleared
      · exact List.mem_append_left _ (stopped.2 before)
      · exact List.mem_append_left _ (stopped.1 cleared)

/--
When the thread has ended, some moment after a `stop` was the last at which
all jobs that had been enqueued were executed.
-/
theorem run_exited
    [DecidableEq Thread] (fresh : Fresh start)
    (run : Execution (Step context) start trace final)
    (exited : final.point = .exited) :
    ∃ before after,
      trace = before ++ after ∧ .stop ∈ before ∧
        ∀ producer,
          before.flatMap (JobLabel.executedBy producer) =
            before.flatMap (JobLabel.enqueuedBy producer) := by
  induction run with
  | refl =>
      rw [fresh.point] at exited
      cases exited
  | @snoc labels state next label earlier taken induction =>
      rcases taken.exited exited with already | ⟨counter, point, empty⟩
      · rcases induction already with ⟨before, after, rfl, stopped, drained⟩
        exact
          ⟨before, after ++ [label], List.append_assoc _ _ _, stopped, drained⟩
      · refine ⟨labels, [label], rfl, ?_, ?_⟩
        · apply (run_stopped fresh earlier).2
          rw [point]
          rfl
        · intro producer
          have order := run_pendingOf earlier producer
          simp only [pendingOf, point, empty, inHand, fresh.point,
            fresh.writeJobs, itemsOf_nil, List.append_nil,
            List.nil_append] at order
          exact order

/-- What was enqueued before the first `stop` is executed by the end. -/
theorem run_drained
    [DecidableEq Thread] (fresh : Fresh start)
    (run : Execution (Step context) start trace final)
    (exited : final.point = .exited)
    {before after : List (JobLabel Thread Dest Job)}
    (split_ : trace = before ++ .stop :: after)
    (first : JobLabel.stop ∉ before) (producer : Thread) :
    before.flatMap (JobLabel.enqueuedBy producer) <+:
      trace.flatMap (JobLabel.executedBy producer) := by
  rcases run_exited fresh run exited with
    ⟨drained, rest, whole, stopped, complete⟩
  have earlier : before <+: drained := by
    rcases List.prefix_or_prefix_of_prefix
        (whole ▸ List.prefix_append drained rest)
        (split_ ▸ List.prefix_append before (.stop :: after))
      with drainedFirst | stopFirst
    · exact absurd (drainedFirst.subset stopped) first
    · exact stopFirst
  calc
    before.flatMap (JobLabel.enqueuedBy producer)
      <+: drained.flatMap (JobLabel.enqueuedBy producer) :=
        earlier.flatMap _
    _ = drained.flatMap (JobLabel.executedBy producer) :=
        (complete producer).symm
    _ <+: trace.flatMap (JobLabel.executedBy producer) := by
        rw [whole]
        exact (List.prefix_append drained rest).flatMap _

/-! ## Counting the writes -/

/-- A write is counted when it has come to its end. -/
theorem Step.counts
    {writer next : JobWriter Thread Dest Job}
    {label : JobLabel Thread Dest Job}
    (taken : Step context writer label next) :
    next.writesDone + next.writeErrors =
      writer.writesDone + writer.writeErrors +
        label.executedMessages.length := by
  cases taken with
  | wrote outcome _ =>
      cases outcome with
      | returned => exact Nat.add_right_comm _ _ _
      | writerException => rfl
      | stdException => rfl
  | handled _ success =>
      have same := sameJobs_handleWriterException success
      rw [← same.writesDone, ← same.writeErrors]
      rfl
  | _ => rfl

theorem run_counts
    (fresh : Fresh start)
    (run : Execution (Step context) start trace final) :
    (trace.flatMap JobLabel.executedMessages).length =
      final.writesDone + final.writeErrors := by
  refine run.traceInvariant
    (fun labels state =>
      (labels.flatMap JobLabel.executedMessages).length =
        state.writesDone + state.writeErrors) ?_ ?_
  · rw [fresh.writesDone, fresh.writeErrors]
    rfl
  · intro labels state label next counted taken
    rw [List.flatMap_append, List.flatMap_singleton, List.length_append,
      counted, taken.counts]

/--
Every job is executed once and in its producer's order, what was enqueued
before `stop` is executed when the thread has ended, every write is counted,
and no exception of a writer module ends the thread.
-/
theorem jobs_executed_once
    [DecidableEq Thread] {metricReg : Registrar} {reporters : Reporters}
    (others : ∀ name ∈ reporters .logMsg, OtherMetric name)
    (created : create context metricReg reporters = .ok start)
    (run : Execution (Step context) start trace final) :
    (∀ producer,
        trace.flatMap (JobLabel.executedBy producer) <+:
          trace.flatMap (JobLabel.enqueuedBy producer)) ∧
      (final.point = .exited →
        ∀ before after, trace = before ++ .stop :: after →
          .stop ∉ before →
            ∀ producer,
              before.flatMap (JobLabel.enqueuedBy producer) <+:
                trace.flatMap (JobLabel.executedBy producer)) ∧
      (trace.flatMap JobLabel.executedMessages).length =
        final.writesDone + final.writeErrors ∧
      ∀ thrower, final.point = .terminated thrower →
        thrower = .runJob ∨ thrower = .flushData := by
  have fresh := fresh_create created
  refine ⟨?_, ?_, run_counts fresh run, ?_⟩
  · intro producer
    have order := run_pendingOf run producer
    have idle : pendingOf producer start = [] := by
      rw [pendingOf, fresh.point, fresh.writeJobs]
      rfl
    rw [idle, List.nil_append] at order
    exact ⟨_, order⟩
  · intro exited before after whole first producer
    exact run_drained fresh run exited whole first producer
  · intro thrower terminated
    have registrable := run_registrable others created run
    cases thrower with
    | runJob => exact Or.inl rfl
    | flushData => exact Or.inr rfl
    | registerMetric thrown =>
        exact absurd terminated (registrable.notThrown thrown)

/-- A registrar with a reporter of log messages. -/
def sampleRegistrar : Registrar :=
  ⟨"kafka-to-nexus", [.logMsg], List.nodup_singleton _⟩

/-- The writer of a new job. -/
def sampleWriter : JobWriter Bool Nat Nat :=
  match create sampleContext sampleRegistrar (fun _ => []) with
  | .ok writer => writer
  | .error _ => { registrar := sampleRegistrar, reporters := fun _ => [] }

/--
The writer module throws, a metric is registered for its source, and a job is
executed that was enqueued by another thread.
-/
theorem sample_jobs_executed_once :
    ∃ (final : JobWriter Bool Nat Nat)
      (trace : List (JobLabel Bool Nat Nat)),
      Execution (Step sampleContext) sampleWriter trace final ∧
      final.point = .exited ∧
      final.writeErrors = 1 ∧
      [.run 7] <+: trace.flatMap (JobLabel.executedBy false) ∧
      (trace.flatMap JobLabel.executedMessages).length = 1 ∧
      (∀ thrower, final.point ≠ .terminated thrower) := by
  have created :
      create sampleContext sampleRegistrar (fun _ => []) =
        .ok sampleWriter := rfl
  have built :
      FlatbufferMessage.ofKafkaMessage sampleContext ⟨sampleBuffer, {}⟩ =
        .ok sampleMessage := rfl
  have added :
      Execution (Step sampleContext) sampleWriter _ _ :=
    Execution.refl.snoc
      (.addMessage true ⟨sampleMessage, 0⟩ (.ofKafkaMessage built))
  have enters := added.snoc (.enterLoop rfl rfl)
  have begins := enters.snoc (.dequeue rfl (dequeue_head _ []))
  have threw := begins.snoc (.wrote .writerException rfl)
  have handled := threw.snoc (.handled rfl rfl)
  have enqueued := handled.snoc (.runJob false 7)
  have stopped := enqueued.snoc .stop
  have runs := stopped.snoc (.dequeue rfl (dequeue_head _ []))
  have ran := runs.snoc (.ran rfl)
  have written := ran.snoc (.written rfl rfl)
  have flushed := written.snoc (.flushed rfl)
  have leaves := flushed.snoc (.breakLoop rfl rfl)
  have exited := leaves.snoc (.drained rfl rfl)
  have kept :=
    jobs_executed_once
      (fun _ member => absurd member List.not_mem_nil) created exited
  refine ⟨_, _, exited, rfl, rfl, ?_, kept.2.2.1, ?_⟩
  · exact
      kept.2.1 rfl
        [.enqueue true (.writeMsg ⟨sampleMessage, 0⟩), .other, .other,
          .executed ⟨true, .writeMsg ⟨sampleMessage, 0⟩⟩, .other,
          .enqueue false (.run 7)]
        _ rfl (by simp) false
  · intro thrower terminated
    cases terminated

end Runs

end JobWriter

end KafkaToNexus.Stream
