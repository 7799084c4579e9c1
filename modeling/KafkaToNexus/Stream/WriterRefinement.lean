import KafkaToNexus.Stream.ExecutedJobs
import Mathlib.Logic.Relation

/-!
# Jobs and messages

`MessageWriter` is the writer thread as the queue of messages sees it: a write
is one step and cannot fail.  The module shows that the writer of jobs refines
it.  A job of `runJob`, the handling of an exception and the flushing of the
file are not seen there, and a write is executed when it begins.
-/

namespace KafkaToNexus.Stream

open KafkaToNexus
open KafkaToNexus.Foundations
open KafkaToNexus.Foundations.ProducerQueue

variable {Thread Dest Job : Type*}

/-- The message that a job writes. -/
def WriteJob.message? : WriteJob Dest Job → Option (Message Dest)
  | .writeMsg message => some message
  | .run _ => none

/-- What can happen to a writer of messages. -/
inductive WriterMove :
    MessageWriter Thread Dest → MessageWriter Thread Dest → Prop where
  | stutter {writer : MessageWriter Thread Dest} : WriterMove writer writer
  | addMessage {writer : MessageWriter Thread Dest} (caller : Thread)
      (message : Message Dest) :
      WriterMove writer (writer.addMessage caller message)
  | stop {writer : MessageWriter Thread Dest} : WriterMove writer writer.stop
  | own {writer next : MessageWriter Thread Dest} {label : WriterLabel Dest} :
      MessageWriter.Step writer label next → WriterMove writer next

namespace JobWriter

/--
Where the thread is when a write is one step.  A thread that was terminated
takes no step any more.
-/
def messagePoint (counter : Nat) :
    JobPoint Thread Dest Job → Option WriterPoint
  | .loopCondition => some .loopCondition
  | .dequeuing _ afterLoop => some (.writing counter afterLoop)
  | .running _ _ afterLoop => some (.writing counter afterLoop)
  | .handling _ _ afterLoop => some (.writing counter afterLoop)
  | .flushingJobs afterLoop => some (.writing counter afterLoop)
  | .flushing => some .written
  | .written => some .written
  | .sleeping => some .sleeping
  | .exited => some .exited
  | .terminated _ => none

theorem messagePoint_afterJob
    (counter checkTimeCounter : Nat) (afterLoop : Bool) :
    messagePoint counter
        (afterJob checkTimeCounter afterLoop : JobPoint Thread Dest Job) =
      some (.writing counter afterLoop) := by
  unfold afterJob
  split <;> rfl

/-- The messages whose writes have begun but are not counted. -/
def begunMessages : JobPoint Thread Dest Job → List (Message Dest)
  | .running ⟨_, .writeMsg message⟩ _ _ => [message]
  | _ => []

theorem begunMessages_afterJob (checkTimeCounter : Nat) (afterLoop : Bool) :
    begunMessages
      (afterJob checkTimeCounter afterLoop : JobPoint Thread Dest Job) =
        [] := by
  unfold afterJob
  split <;> rfl

/-- The thread of the writer of messages is at the same point. -/
def AtPoint
    (point : JobPoint Thread Dest Job)
    (messageWriter : MessageWriter Thread Dest) : Prop :=
  ∃ counter, ∀ same,
    messagePoint counter point = some same → messageWriter.point = same

theorem AtPoint.of_eq
    {point : JobPoint Thread Dest Job}
    {messageWriter : MessageWriter Thread Dest} (counter : Nat)
    (same : messagePoint counter point = some messageWriter.point) :
    AtPoint point messageWriter := by
  refine ⟨counter, ?_⟩
  intro other found
  rw [same] at found
  exact Option.some.inj found

/--
The writer of messages that a writer of jobs refines, after the writes of some
messages have come to their end.
-/
structure Refines
    (ended : List (Message Dest)) (writer : JobWriter Thread Dest Job)
    (messageWriter : MessageWriter Thread Dest) : Prop where
  writeJobs :
    messageWriter.writeJobs =
      selectEntries WriteJob.message? writer.writeJobs
  runThread : messageWriter.runThread = writer.runThread
  point : AtPoint writer.point messageWriter
  executed : messageWriter.executed = ended ++ begunMessages writer.point

variable {context : MessageContext}
variable {writer next : JobWriter Thread Dest Job}
variable {label : JobLabel Thread Dest Job}
variable {ended : List (Message Dest)}
variable {messageWriter : MessageWriter Thread Dest}

/-- A step that the writer of messages does not see. -/
theorem Refines.stutter
    (refines : Refines ended writer messageWriter)
    (writeJobs : next.writeJobs = writer.writeJobs)
    (runThread : next.runThread = writer.runThread)
    (point :
      ∀ counter same, messagePoint counter next.point = some same →
        messagePoint counter writer.point = some same)
    (executed :
      ended ++ begunMessages writer.point =
        ended ++ label.executedMessages ++ begunMessages next.point) :
    ∃ after,
      WriterMove messageWriter after ∧
        Refines (ended ++ label.executedMessages) next after := by
  rcases refines.point with ⟨counter, at_⟩
  refine ⟨messageWriter, .stutter, ?_, ?_, ?_, ?_⟩
  · rw [writeJobs]
    exact refines.writeJobs
  · rw [runThread]
    exact refines.runThread
  · exact ⟨counter, fun same found => at_ same (point counter same found)⟩
  · rw [refines.executed, executed]

/-- A step that the writer of messages does not see and that ends no write. -/
theorem Refines.unseen
    (refines : Refines ended writer messageWriter)
    (writeJobs : next.writeJobs = writer.writeJobs)
    (runThread : next.runThread = writer.runThread)
    (point :
      ∀ counter same, messagePoint counter next.point = some same →
        messagePoint counter writer.point = some same)
    (begun : begunMessages next.point = begunMessages writer.point) :
    ∃ after,
      WriterMove messageWriter after ∧
        Refines (ended ++ []) next after := by
  show ∃ after, WriterMove messageWriter after ∧
    Refines
      (ended ++ (JobLabel.other : JobLabel Thread Dest Job).executedMessages)
      next after
  apply refines.stutter writeJobs runThread point
  rw [begun]
  exact congrArg (· ++ _) (List.append_nil ended).symm

/-- A step of the thread to another point without a write. -/
theorem Refines.moved
    {after : MessageWriter Thread Dest} {point : JobPoint Thread Dest Job}
    (refines : Refines ended writer messageWriter) (counter : Nat)
    (own : WriterMove messageWriter after)
    (writeJobs : after.writeJobs = messageWriter.writeJobs)
    (runThread : after.runThread = messageWriter.runThread)
    (executed : after.executed = messageWriter.executed)
    (same : messagePoint counter point = some after.point)
    (idle : begunMessages writer.point = [])
    (begun : begunMessages point = []) :
    ∃ after,
      WriterMove messageWriter after ∧
        Refines (ended ++ []) (writer.goTo point) after := by
  refine ⟨after, own, ?_, ?_, .of_eq counter same, ?_⟩
  · rw [writeJobs]
    exact refines.writeJobs
  · rw [runThread]
    exact refines.runThread
  · rw [executed, refines.executed, idle]
    show ended ++ [] = ended ++ [] ++ begunMessages point
    rw [begun, List.append_nil, List.append_nil]

theorem Refines.addJob
    (refines : Refines ended writer messageWriter)
    (caller : Thread) (job : WriteJob Dest Job) :
    ∃ after,
      WriterMove messageWriter after ∧
        Refines (ended ++ []) (writer.addJob caller job) after := by
  rw [List.append_nil]
  cases job with
  | writeMsg message =>
      refine
        ⟨messageWriter.addMessage caller message, .addMessage caller message,
          ?_, refines.runThread, refines.point, refines.executed⟩
      show enqueue _ _ _ = selectEntries _ (enqueue _ _ _)
      rw [selectEntries_enqueue, refines.writeJobs]
      rfl
  | run job =>
      refine
        ⟨messageWriter, .stutter, ?_, refines.runThread, refines.point,
          refines.executed⟩
      show _ = selectEntries _ (enqueue _ _ _)
      rw [selectEntries_enqueue, refines.writeJobs]
      exact (List.append_nil _).symm

/-- The write of a message is executed when it is taken out of the queue. -/
theorem Refines.dequeue
    {counter : Nat} {afterLoop : Bool}
    {entry : Entry Thread (WriteJob Dest Job)}
    {rest : Queue Thread (WriteJob Dest Job)}
    (refines : Refines ended writer messageWriter)
    (point : writer.point = .dequeuing counter afterLoop)
    (dequeued : Dequeue writer.writeJobs entry rest) :
    ∃ after,
      WriterMove messageWriter after ∧
        Refines (ended ++ [])
          { writer with
            writeJobs := rest
            point := .running entry counter afterLoop } after := by
  have executed := refines.executed
  rcases refines.point with ⟨other, at_⟩
  have writing : messageWriter.point = .writing other afterLoop :=
    at_ _ (by rw [point]; rfl)
  rw [point] at executed
  rw [List.append_nil]
  rcases entry with ⟨caller, job⟩
  cases job with
  | writeMsg message =>
      have selected :
          WriteJob.message? (.writeMsg message : WriteJob Dest Job) =
            some message := rfl
      have taken := dequeued.selectEntries selected
      rw [← refines.writeJobs] at taken
      refine
        ⟨_, .own (.execute writing taken), rfl, refines.runThread,
          .of_eq _ rfl, ?_⟩
      rw [executed]
      exact congrArg (· ++ [message]) (List.append_nil ended)
  | run job =>
      have skipped :
          WriteJob.message? (.run job : WriteJob Dest Job) = none := rfl
      have same := dequeued.selectEntries_none skipped
      refine
        ⟨messageWriter, .stutter, ?_, refines.runThread, ⟨other, ?_⟩,
          executed⟩
      · rw [same]
        exact refines.writeJobs
      · intro found selected
        rw [writing]
        exact Option.some.inj selected

theorem Refines.wrote
    {caller : Thread} {message : Message Dest} {counter : Nat}
    {afterLoop : Bool}
    (refines : Refines ended writer messageWriter)
    (point :
      writer.point = .running ⟨caller, .writeMsg message⟩ counter afterLoop)
    (outcome : WriteOutcome) :
    ∃ after,
      WriterMove messageWriter after ∧
        Refines (ended ++ [message])
          (writer.wrote message outcome counter afterLoop) after := by
  let executed : JobLabel Thread Dest Job :=
    .executed ⟨caller, .writeMsg message⟩
  show ∃ after, WriterMove messageWriter after ∧
    Refines (ended ++ executed.executedMessages)
      (writer.wrote message outcome counter afterLoop) after
  apply refines.stutter
  · cases outcome <;> rfl
  · cases outcome <;> rfl
  · intro other same found
    rw [point]
    cases outcome with
    | returned => rw [← found]; exact (messagePoint_afterJob _ _ _).symm
    | writerException => exact found
    | stdException => rw [← found]; exact (messagePoint_afterJob _ _ _).symm
  · rw [point]
    have idle :
        begunMessages (writer.wrote message outcome counter afterLoop).point =
          [] := by
      cases outcome with
      | returned => exact begunMessages_afterJob _ _
      | writerException => rfl
      | stdException => exact begunMessages_afterJob _ _
    rw [idle, List.append_nil]
    rfl

/-- Every step of the writer of jobs is one of the writer of messages. -/
theorem Step.refines
    (taken : Step context writer label next)
    (refines : Refines ended writer messageWriter) :
    ∃ after,
      WriterMove messageWriter after ∧
        Refines (ended ++ label.executedMessages) next after := by
  have at_ {point : WriterPoint}
      (same : ∀ counter, messagePoint counter writer.point = some point) :
      messageWriter.point = point := by
    rcases refines.point with ⟨counter, found⟩
    exact found point (same counter)
  have runThread := refines.runThread
  cases taken with
  | addMessage caller message _ => exact refines.addJob caller _
  | runJob caller job => exact refines.addJob caller _
  | stop =>
      refine
        ⟨messageWriter.stop, .stop, refines.writeJobs, rfl, refines.point, ?_⟩
      show _ = ended ++ [] ++ _
      rw [List.append_nil]
      exact refines.executed
  | registerOther _ _ _ => exact refines.unseen rfl rfl (fun _ _ => id) rfl
  | removeOther _ _ => exact refines.unseen rfl rfl (fun _ _ => id) rfl
  | dequeue point dequeued => exact refines.dequeue point dequeued
  | wrote outcome point => exact refines.wrote point outcome
  | handled point success =>
      have same := sameJobs_handleWriterException success
      refine refines.unseen same.writeJobs same.runThread ?_ ?_
      · intro counter found selected
        rw [point, ← selected]
        exact (messagePoint_afterJob _ _ _).symm
      · rw [point]
        exact begunMessages_afterJob _ _
  | ran point =>
      refine refines.unseen rfl rfl ?_ ?_
      · intro counter found selected
        rw [point, ← selected]
        exact (messagePoint_afterJob _ _ _).symm
      · rw [point]
        exact begunMessages_afterJob _ _
  | handlerThrows point _ =>
      exact refines.unseen rfl rfl nofun (by rw [point]; rfl)
  | runThrows point => exact refines.unseen rfl rfl nofun (by rw [point]; rfl)
  | flushJobsThrows point =>
      exact refines.unseen rfl rfl nofun (by rw [point]; rfl)
  | flushThrows point =>
      exact refines.unseen rfl rfl nofun (by rw [point]; rfl)
  | flushedJobs point =>
      refine refines.unseen rfl rfl ?_ (by rw [point]; rfl)
      intro counter same found
      rw [point]
      exact found
  | flushed point =>
      refine refines.unseen rfl rfl ?_ (by rw [point]; rfl)
      intro counter same found
      rw [point]
      exact found
  | enterLoop point running =>
      have loop := at_ (fun _ => by rw [point]; rfl)
      exact refines.moved 0 (.own (.enterLoop loop (runThread.trans running)))
        rfl rfl rfl rfl (by rw [point]; rfl) rfl
  | leaveLoop point cleared =>
      have loop := at_ (fun _ => by rw [point]; rfl)
      exact refines.moved 0 (.own (.leaveLoop loop (runThread.trans cleared)))
        rfl rfl rfl rfl (by rw [point]; rfl) rfl
  | written point empty =>
      rcases refines.point with ⟨counter, found⟩
      have writing : messageWriter.point = .writing counter false :=
        found _ (by rw [point]; rfl)
      have none_ : messageWriter.writeJobs = [] := by
        rw [refines.writeJobs, empty]
        rfl
      exact refines.moved 0 (.own (.written writing none_))
        rfl rfl rfl rfl (by rw [point]; rfl) rfl
  | drained point empty =>
      rcases refines.point with ⟨counter, found⟩
      have writing : messageWriter.point = .writing counter true :=
        found _ (by rw [point]; rfl)
      have none_ : messageWriter.writeJobs = [] := by
        rw [refines.writeJobs, empty]
        rfl
      exact refines.moved 0 (.own (.drained writing none_))
        rfl rfl rfl rfl (by rw [point]; rfl) rfl
  | breakLoop point cleared =>
      have written := at_ (fun _ => by rw [point]; rfl)
      exact refines.moved 0
        (.own (.breakLoop written (runThread.trans cleared)))
        rfl rfl rfl rfl (by rw [point]; rfl) rfl
  | sleep point running =>
      have written := at_ (fun _ => by rw [point]; rfl)
      exact refines.moved 0
        (.own (.sleep written (runThread.trans running)))
        rfl rfl rfl rfl (by rw [point]; rfl) rfl
  | wake point =>
      have sleeping := at_ (fun _ => by rw [point]; rfl)
      exact refines.moved 0 (.own (.wake sleeping))
        rfl rfl rfl rfl (by rw [point]; rfl) rfl

/-- A run of the writer of jobs is one of the writer of messages. -/
theorem run_refines
    {start final : JobWriter Thread Dest Job}
    {trace : List (JobLabel Thread Dest Job)}
    (fresh : Fresh start)
    (run : Execution (Step context) start trace final) :
    ∃ after,
      Relation.ReflTransGen WriterMove {} after ∧
        Refines (trace.flatMap JobLabel.executedMessages) final after := by
  refine run.traceInvariant
    (fun labels state =>
      ∃ after,
        Relation.ReflTransGen WriterMove {} after ∧
          Refines (labels.flatMap JobLabel.executedMessages) state after)
    ⟨{}, .refl, ?_, fresh.runThread.symm, ?_, ?_⟩ ?_
  · rw [fresh.writeJobs]
    rfl
  · rw [fresh.point]
    exact .of_eq 0 rfl
  · rw [fresh.point]
    rfl
  · rintro labels state label next ⟨before, reached, refines⟩ taken
    rcases taken.refines refines with ⟨after, move, refined⟩
    refine ⟨after, reached.tail move, ?_⟩
    rw [List.flatMap_append, List.flatMap_singleton]
    exact refined

end JobWriter

end KafkaToNexus.Stream
