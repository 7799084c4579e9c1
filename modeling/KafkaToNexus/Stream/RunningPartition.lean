import KafkaToNexus.Foundations.Execution
import KafkaToNexus.Stream.Partition
import KafkaToNexus.ThreadedExecutor

/-!
# A partition on its executor

The calls on a partition come from other threads and only add tasks to its
executor; the tasks change the partition, one at a time, on the worker thread.
`pollForMessage` is taken apart at the points where other threads can observe
it or interfere: before the consumer is polled, while it is being polled, and
before each call of `MessageWriter::addMessage`.

The destructor stops the executor, waits for the worker and then destroys the
remaining filters on the thread that called it.
-/

namespace KafkaToNexus.Stream

open KafkaToNexus
open KafkaToNexus.Foundations

/-- A task of the executor of a partition, or what remains of a running one. -/
inductive PartitionTask (Dest : Type*) where
  | pollForMessage
  /-- Asleep because the streamers are paused. -/
  | sleeping
  /-- Blocked in the poll of the consumer. -/
  | polling
  /-- After the poll, with calls to make and the final value of the flag. -/
  | forwarding (events : List (SendEvent Dest)) (finished : Bool)
  | forceStop
  | setStopTime (stop : TimePoint)
  /-- The task of the executor's destructor. -/
  | exitThread
deriving DecidableEq, Repr

/-- How far the destructor of a partition has come. -/
inductive PartitionLife (Dest : Type*) where
  | alive
  /-- Waiting for the worker thread. -/
  | joining
  /-- Destroying the filters, with calls to make. -/
  | flushing (events : List (SendEvent Dest))
  | destroyed
deriving DecidableEq, Repr

structure RunningPartition (Thread Dest : Type*) where
  /-- The worker thread. -/
  self : Thread
  partition : Partition Dest
  executor : ThreadedExecutor Thread (PartitionTask Dest) := {}
  /-- The threads that are between the two steps of `stop`. -/
  stopping : List Thread := []
  life : PartitionLife Dest := .alive
deriving DecidableEq, Repr

/-- One step of a partition, as it is seen from outside. -/
inductive PartitionLabel (Thread Dest : Type*) where
  | start (caller : Thread)
  /-- The first and the second task sent by `stop`. -/
  | stopLow (caller : Thread)
  | stopHigh (caller : Thread)
  | setStopTime (caller : Thread) (stop : TimePoint)
  | look (found : Option (PartitionTask Dest))
  | forceStop
  | applyStopTime (stop : TimePoint)
  /-- A poll task finds that a stop was requested. -/
  | seeStop
  | pause
  | wake
  | pollConsumer
  | pollReturned (status : PollStatus) (message : Msg) (clock : PollClock)
  /-- A poll task makes a call on the writer. -/
  | forward (event : SendEvent Dest)
  | finish
  | requeue
  | exitThread
  | destroy (caller : Thread)
  | join
  /-- The destructor makes a call on the writer. -/
  | flush (event : SendEvent Dest)
  | destroyed
deriving DecidableEq, Repr

namespace RunningPartition

variable {Thread Dest : Type*}

/-- The worker thread goes on at another point of its work. -/
def goTo
    (node : RunningPartition Thread Dest)
    (worker : Worker (PartitionTask Dest)) : RunningPartition Thread Dest :=
  { node with executor := node.executor.withWorker worker }

/-- `addPollTask`, called by a thread. -/
def addPollTask
    (node : RunningPartition Thread Dest) (caller : Thread) :
    RunningPartition Thread Dest :=
  { node with
    executor := node.executor.sendLowPriorityWork caller .pollForMessage }

def withPartition
    (node : RunningPartition Thread Dest) (partition : Partition Dest) :
    RunningPartition Thread Dest :=
  { node with partition }

/-- The partition has finished. -/
def setFinished
    (node : RunningPartition Thread Dest) : RunningPartition Thread Dest :=
  node.withPartition { node.partition with hasFinished := true }

/--
The state after the poll has returned and before its calls are made.  The flag
`hasFinished` is set after the calls, although the outcome already says so.
-/
def afterPoll
    (node : RunningPartition Thread Dest)
    (outcome : Partition.PollOutcome Dest) : RunningPartition Thread Dest :=
  (node.withPartition
      { outcome.partition with
        hasFinished := node.partition.hasFinished }).goTo
    (.running (.forwarding outcome.events (!outcome.requeued)))

variable [DecidableEq Thread]

/-- What the threads can do to a partition. -/
inductive Step (context : MessageContext) :
    RunningPartition Thread Dest → PartitionLabel Thread Dest →
      RunningPartition Thread Dest → Prop where
  | start {node : RunningPartition Thread Dest} (caller : Thread) :
      node.life = .alive →
      Step context node (.start caller) (node.addPollTask caller)
  | stopLow {node : RunningPartition Thread Dest} (caller : Thread) :
      node.life = .alive →
      Step context node (.stopLow caller)
        { node with
          executor := node.executor.sendLowPriorityWork caller .forceStop
          stopping := caller :: node.stopping }
  | stopHigh {node : RunningPartition Thread Dest} {caller : Thread} :
      caller ∈ node.stopping →
      Step context node (.stopHigh caller)
        { node with
          executor := node.executor.sendWork caller .forceStop
          stopping := node.stopping.erase caller }
  | setStopTime {node : RunningPartition Thread Dest}
      (caller : Thread) (stop : TimePoint) :
      node.life = .alive →
      Step context node (.setStopTime caller stop)
        { node with
          executor := node.executor.sendWork caller (.setStopTime stop) }
  | look {node : RunningPartition Thread Dest}
      {found : Option (PartitionTask Dest)}
      {executor : ThreadedExecutor Thread (PartitionTask Dest)} :
      ThreadedExecutor.Look node.executor found executor →
      Step context node (.look found) { node with executor }
  | forceStop {node : RunningPartition Thread Dest} :
      node.executor.worker = .running .forceStop →
      Step context node .forceStop
        ((node.withPartition node.partition.forceStop).goTo .ready)
  | applyStopTime {node : RunningPartition Thread Dest} {stop : TimePoint} :
      node.executor.worker = .running (.setStopTime stop) →
      Step context node (.applyStopTime stop)
        ((node.withPartition (node.partition.applyStopTime stop)).goTo .ready)
  | seeStop {node : RunningPartition Thread Dest} :
      node.executor.worker = .running .pollForMessage →
      node.partition.hasStopBeenRequested = true →
      Step context node .seeStop (node.setFinished.goTo .ready)
  | pause {node : RunningPartition Thread Dest} :
      node.executor.worker = .running .pollForMessage →
      node.partition.hasStopBeenRequested = false →
      Step context node .pause (node.goTo (.running .sleeping))
  | wake {node : RunningPartition Thread Dest} :
      node.executor.worker = .running .sleeping →
      Step context node .wake ((node.addPollTask node.self).goTo .ready)
  | pollConsumer {node : RunningPartition Thread Dest} :
      node.executor.worker = .running .pollForMessage →
      node.partition.hasStopBeenRequested = false →
      Step context node .pollConsumer (node.goTo (.running .polling))
  | pollReturned {node : RunningPartition Thread Dest}
      (status : PollStatus) (message : Msg) (clock : PollClock) :
      node.executor.worker = .running .polling →
      Step context node (.pollReturned status message clock)
        (node.afterPoll
          (Partition.handlePoll context node.partition status message clock))
  | forward {node : RunningPartition Thread Dest} {event : SendEvent Dest}
      {events : List (SendEvent Dest)} {finished : Bool} :
      node.executor.worker = .running (.forwarding (event :: events) finished) →
      Step context node (.forward event)
        (node.goTo (.running (.forwarding events finished)))
  | finish {node : RunningPartition Thread Dest} :
      node.executor.worker = .running (.forwarding [] true) →
      Step context node .finish (node.setFinished.goTo .ready)
  | requeue {node : RunningPartition Thread Dest} :
      node.executor.worker = .running (.forwarding [] false) →
      Step context node .requeue ((node.addPollTask node.self).goTo .ready)
  | exitThread {node : RunningPartition Thread Dest} :
      node.executor.worker = .running .exitThread →
      Step context node .exitThread (node.goTo .exited)
  | destroy {node : RunningPartition Thread Dest} (caller : Thread) :
      node.life = .alive →
      Step context node (.destroy caller)
        { node with
          executor := node.executor.sendWork caller .exitThread
          life := .joining }
  | join {node : RunningPartition Thread Dest} :
      node.life = .joining →
      node.executor.worker = .exited →
      Step context node .join
        { node with
          partition := { node.partition with msgFilters := [] }
          life := .flushing node.partition.destroy }
  | flush {node : RunningPartition Thread Dest} {event : SendEvent Dest}
      {events : List (SendEvent Dest)} :
      node.life = .flushing (event :: events) →
      Step context node (.flush event) { node with life := .flushing events }
  | destroyed {node : RunningPartition Thread Dest} :
      node.life = .flushing [] →
      Step context node .destroyed { node with life := .destroyed }

/-- A partition that was constructed and whose executor has no task. -/
def ofPartition
    (self : Thread) (partition : Partition Dest) :
    RunningPartition Thread Dest :=
  { self, partition }

end RunningPartition

/-- The call on the writer that a step makes. -/
def PartitionLabel.sent {Thread Dest : Type*} :
    PartitionLabel Thread Dest → List (SendEvent Dest)
  | .forward event => [event]
  | .flush event => [event]
  | _ => []

namespace RunningPartition

variable {Thread Dest : Type*} [DecidableEq Thread]

/-! ## A poll task from begin to end -/

/-- The node after a poll task with the given outcome. -/
def afterTask
    (node : RunningPartition Thread Dest)
    (outcome : Partition.PollOutcome Dest) : RunningPartition Thread Dest :=
  let node := node.withPartition outcome.partition
  if outcome.requeued then (node.addPollTask node.self).goTo .ready
  else node.goTo .ready

/-- The calls that follow a poll can be made one after the other. -/
theorem forward_execution
    (context : MessageContext) (node : RunningPartition Thread Dest)
    (events : List (SendEvent Dest)) (finished : Bool) :
    Execution (Step context)
      (node.goTo (.running (.forwarding events finished)))
      (events.map .forward)
      (node.goTo (.running (.forwarding [] finished))) := by
  induction events with
  | nil => exact .refl
  | cons event rest induction => exact .head (.forward rfl) induction

/-- The labels of a poll task that polls the consumer, but for its end. -/
def pollLabels
    (input : PollInput) (events : List (SendEvent Dest)) :
    List (PartitionLabel Thread Dest) :=
  .pollConsumer :: .pollReturned input.status input.message input.clock ::
    events.map .forward

omit [DecidableEq Thread] in
theorem sent_pollLabels
    (input : PollInput) (events : List (SendEvent Dest)) :
    (pollLabels input events :
      List (PartitionLabel Thread Dest)).flatMap PartitionLabel.sent =
        events := by
  simp [pollLabels, PartitionLabel.sent, List.flatMap_map]

/-- The steps of a poll task once it has decided to poll. -/
theorem handlePoll_execution
    (context : MessageContext) (node : RunningPartition Thread Dest)
    (input : PollInput)
    (running : node.executor.worker = .running .pollForMessage)
    (free : node.partition.hasStopBeenRequested = false) :
    let outcome :=
      node.partition.handlePoll context input.status input.message input.clock
    ∃ last : PartitionLabel Thread Dest,
      Execution (Step context) node
          (pollLabels input outcome.events ++ [last])
          (node.afterTask outcome) ∧
        last.sent = [] := by
  intro outcome
  have flag : outcome.partition.hasFinished =
      (node.partition.hasFinished || !outcome.requeued) :=
    node.partition.handlePoll_hasFinished context _ _ _
  let called : RunningPartition Thread Dest :=
    (node.afterPoll outcome).goTo
      (.running (.forwarding [] (!outcome.requeued)))
  have polled :
      Execution (Step context) node (pollLabels input outcome.events) called :=
    .head (.pollConsumer running free)
      (.head (.pollReturned _ _ _ rfl)
        (forward_execution context (node.afterPoll outcome) outcome.events
          (!outcome.requeued)))
  cases requeued : outcome.requeued with
  | true =>
      rw [requeued, Bool.not_true, Bool.or_false] at flag
      have done : (called.addPollTask called.self).goTo .ready =
          node.afterTask outcome := by
        have same : { outcome.partition with
            hasFinished := node.partition.hasFinished } =
              outcome.partition := by
          rw [← flag]
        simp only [afterTask, requeued, if_true, called, afterPoll, same]
        rfl
      refine ⟨.requeue, polled.snoc ?_, rfl⟩
      rw [← done]
      exact .requeue (by simp only [called, requeued]; rfl)
  | false =>
      rw [requeued, Bool.not_false, Bool.or_true] at flag
      have done : called.setFinished.goTo .ready = node.afterTask outcome := by
        have same : { outcome.partition with hasFinished := true } =
            outcome.partition := by
          rw [← flag]
        change (node.withPartition
          { outcome.partition with hasFinished := true }).goTo .ready = _
        simp only [afterTask, requeued, Bool.false_eq_true, if_false, same]
      refine ⟨.finish, polled.snoc ?_, rfl⟩
      rw [← done]
      exact .finish (by simp only [called, requeued]; rfl)

/--
`pollForMessage` as one function describes what the steps of a poll task that
is not interfered with lead to, and the calls that they make.
-/
theorem pollForMessage_execution
    (context : MessageContext) (node : RunningPartition Thread Dest)
    (input : PollInput)
    (running : node.executor.worker = .running .pollForMessage) :
    let outcome := node.partition.pollForMessage context input
    ∃ trace,
      Execution (Step context) node trace (node.afterTask outcome) ∧
        trace.flatMap PartitionLabel.sent = outcome.events := by
  unfold Partition.pollForMessage
  cases requested : node.partition.hasStopBeenRequested with
  | true => exact ⟨[.seeStop], .single (.seeStop running requested), rfl⟩
  | false =>
      cases paused : input.streamersPaused with
      | true =>
          refine ⟨[.pause, .wake], ?_, rfl⟩
          exact .head (.pause running requested) (.single (.wake rfl))
      | false =>
          rcases handlePoll_execution context node input running requested with
            ⟨last, run, silent⟩
          refine ⟨_, run, ?_⟩
          rw [List.flatMap_append, sent_pollLabels]
          simp [silent]

end RunningPartition

end KafkaToNexus.Stream
