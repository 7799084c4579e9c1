import KafkaToNexus.Foundations.ProducerQueue
import KafkaToNexus.Stream.SourceFilter

/-!
# The writer thread

`MessageWriter` owns a queue of write jobs and one thread that executes them.
The thread empties the queue again and again until its flag is cleared, and
then once more.  What a job does to the file, and the flushing of the file in
between, do not matter to the queue and are left out.
-/

namespace KafkaToNexus.Stream

open KafkaToNexus
open KafkaToNexus.Foundations.ProducerQueue

variable {Thread Dest : Type*}

/-- Where the writer thread is in `threadFunction`. -/
inductive WriterPoint where
  /-- At the condition of the loop. -/
  | loopCondition
  /-- In `WriteOperation`, called in the loop or after it. -/
  | writing (checkTimeCounter : Nat) (afterLoop : Bool)
  /-- Between `WriteOperation` and the second look at the flag. -/
  | written
  | sleeping
  | exited
deriving DecidableEq, Repr

structure MessageWriter (Thread Dest : Type*) where
  writeJobs : Queue Thread (Message Dest) := []
  runThread : Bool := true
  point : WriterPoint := .loopCondition
  /-- The messages whose jobs were executed, a history variable. -/
  executed : List (Message Dest) := []
deriving DecidableEq, Repr

/-- A step of the writer thread, as it is seen from outside. -/
inductive WriterLabel (Dest : Type*) where
  | execute (message : Message Dest)
  /-- The last `WriteOperation` ends, and with it the thread. -/
  | drained
  | other
deriving DecidableEq, Repr

namespace MessageWriter

def maxTimeCheckCounter : Nat := 200

/-- `addMessage`, called by a thread. -/
def addMessage
    (writer : MessageWriter Thread Dest) (caller : Thread)
    (message : Message Dest) : MessageWriter Thread Dest :=
  { writer with writeJobs := enqueue writer.writeJobs caller message }

def stop (writer : MessageWriter Thread Dest) : MessageWriter Thread Dest :=
  { writer with runThread := false }

def goTo
    (writer : MessageWriter Thread Dest) (point : WriterPoint) :
    MessageWriter Thread Dest :=
  { writer with point }

/-- What the writer thread does. -/
inductive Step :
    MessageWriter Thread Dest → WriterLabel Dest →
      MessageWriter Thread Dest → Prop where
  | enterLoop {writer : MessageWriter Thread Dest} :
      writer.point = .loopCondition →
      writer.runThread = true →
      Step writer .other (writer.goTo (.writing 0 false))
  | leaveLoop {writer : MessageWriter Thread Dest} :
      writer.point = .loopCondition →
      writer.runThread = false →
      Step writer .other (writer.goTo (.writing 0 true))
  | execute {writer : MessageWriter Thread Dest} {counter : Nat}
      {afterLoop : Bool} {entry : Entry Thread (Message Dest)}
      {rest : Queue Thread (Message Dest)} :
      writer.point = .writing counter afterLoop →
      Dequeue writer.writeJobs entry rest →
      Step writer (.execute entry.item)
        { writer with
          writeJobs := rest
          executed := writer.executed ++ [entry.item]
          point :=
            .writing
              (if maxTimeCheckCounter < counter + 1 then 0 else counter + 1)
              afterLoop }
  | written {writer : MessageWriter Thread Dest} {counter : Nat} :
      writer.point = .writing counter false →
      writer.writeJobs = [] →
      Step writer .other (writer.goTo .written)
  | drained {writer : MessageWriter Thread Dest} {counter : Nat} :
      writer.point = .writing counter true →
      writer.writeJobs = [] →
      Step writer .drained (writer.goTo .exited)
  | breakLoop {writer : MessageWriter Thread Dest} :
      writer.point = .written →
      writer.runThread = false →
      Step writer .other (writer.goTo (.writing 0 true))
  | sleep {writer : MessageWriter Thread Dest} :
      writer.point = .written →
      writer.runThread = true →
      Step writer .other (writer.goTo .sleeping)
  | wake {writer : MessageWriter Thread Dest} :
      writer.point = .sleeping →
      Step writer .other (writer.goTo .loopCondition)

/-! ## What a step does to the jobs -/

/-- The messages that wait in the queue. -/
def queued (writer : MessageWriter Thread Dest) : List (Message Dest) :=
  writer.writeJobs.map Entry.item

theorem queued_addMessage
    (writer : MessageWriter Thread Dest) (caller : Thread)
    (message : Message Dest) :
    (writer.addMessage caller message).queued = writer.queued ++ [message] := by
  simp [queued, addMessage, enqueue]

/-- A step executes at most the job that it takes out of the queue. -/
theorem Step.jobs
    {writer next : MessageWriter Thread Dest} {label : WriterLabel Dest}
    (taken : Step writer label next) :
    (next.executed ++ next.queued).Perm
      (writer.executed ++ writer.queued) := by
  cases taken with
  | execute _ dequeued =>
      rcases dequeued with ⟨before, after, queue, _, rfl⟩
      simp only [queued, queue, List.map_append, List.map_cons,
        List.append_assoc, List.singleton_append]
      exact List.Perm.append_left _ List.perm_middle.symm
  | _ => exact List.Perm.refl _

/-- The thread ends with an empty queue. -/
theorem Step.exited
    {writer next : MessageWriter Thread Dest} {label : WriterLabel Dest}
    (taken : Step writer label next) (exited : next.point = .exited) :
    label = .drained ∧ next.writeJobs = [] := by
  cases taken with
  | drained _ empty => exact ⟨rfl, empty⟩
  | _ => cases exited

theorem Step.drained_exited
    {writer next : MessageWriter Thread Dest}
    (taken : Step writer .drained next) :
    next.point = .exited := by
  cases taken
  rfl

/-- The thread that has ended takes no step. -/
theorem Step.not_exited
    {writer next : MessageWriter Thread Dest} {label : WriterLabel Dest}
    (taken : Step writer label next) :
    writer.point ≠ .exited := by
  intro exited
  cases taken with
  | enterLoop point _ => rw [exited] at point; cases point
  | leaveLoop point _ => rw [exited] at point; cases point
  | execute point _ => rw [exited] at point; cases point
  | written point _ => rw [exited] at point; cases point
  | drained point _ => rw [exited] at point; cases point
  | breakLoop point _ => rw [exited] at point; cases point
  | sleep point _ => rw [exited] at point; cases point
  | wake point => rw [exited] at point; cases point

end MessageWriter

end KafkaToNexus.Stream
