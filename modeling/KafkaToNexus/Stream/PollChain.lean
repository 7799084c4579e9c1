import KafkaToNexus.Stream.RunningPartition

/-!
# The chain of poll tasks

Every poll task of a partition either queues the next one or sets
`hasFinished`.  For a partition that was started once, the number of poll
tasks in the queues and on the worker thread and the flag therefore always add
up to one.  The module proves this for every interleaving, and what follows
from it for a partition that has finished or was told to stop.
-/

namespace KafkaToNexus.Stream.PollChain

open KafkaToNexus
open KafkaToNexus.Foundations

variable {Thread Dest : Type*}

/-- A poll task, queued or at any point of its execution. -/
def isPoll : PartitionTask Dest → Bool
  | .pollForMessage => true
  | .sleeping => true
  | .polling => true
  | .forwarding _ _ => true
  | .forceStop => false
  | .setStopTime _ => false
  | .exitThread => false

/-- The poll tasks that are queued. -/
def queuedPolls (node : RunningPartition Thread Dest) : Nat :=
  node.executor.queuedTasks isPoll

/-- The poll tasks that are queued or running. -/
def pollTasks (node : RunningPartition Thread Dest) : Nat :=
  queuedPolls node + node.executor.runningTasks isPoll

/-- The poll tasks and the flag of a partition that has finished. -/
def chainLength (node : RunningPartition Thread Dest) : Nat :=
  pollTasks node + node.partition.hasFinished.toNat

/-- The step is a call of `start`. -/
def isStart : PartitionLabel Thread Dest → Bool
  | .start _ => true
  | _ => false

/-- The number of calls of `start`. -/
def starts (trace : List (PartitionLabel Thread Dest)) : Nat :=
  trace.countP isStart

/-- The execution of a poll task begins. -/
def beginsPoll : PartitionLabel Thread Dest → Bool
  | .look (some task) => isPoll task
  | _ => false

/-- The step polls the consumer or belongs to what follows the poll. -/
def isPolling : PartitionLabel Thread Dest → Bool
  | .pollConsumer => true
  | .pollReturned _ _ _ => true
  | .forward _ => true
  | _ => false

/-! ## Counting the poll tasks of one step -/

@[simp]
theorem chainLength_goTo
    (node : RunningPartition Thread Dest)
    (worker : Worker (PartitionTask Dest)) :
    chainLength (node.goTo worker) =
      queuedPolls node +
        (node.executor.withWorker worker).runningTasks isPoll +
          node.partition.hasFinished.toNat :=
  rfl

theorem queuedPolls_addPollTask
    (node : RunningPartition Thread Dest) (caller : Thread) :
    queuedPolls (node.addPollTask caller) = queuedPolls node + 1 :=
  node.executor.queuedTasks_sendLowPriorityWork isPoll caller .pollForMessage

/-- A poll task is running. -/
theorem chainLength_of_running
    {node : RunningPartition Thread Dest} {task : PartitionTask Dest}
    (running : node.executor.worker = .running task) :
    chainLength node =
      queuedPolls node + (isPoll task).toNat +
        node.partition.hasFinished.toNat := by
  simp [chainLength, pollTasks, ThreadedExecutor.runningTasks, running]

/-- In a chain of one, a running poll task means that nothing else is left. -/
theorem alone_of_running
    {node : RunningPartition Thread Dest} {task : PartitionTask Dest}
    (running : node.executor.worker = .running task)
    (poll : isPoll task = true)
    (short : chainLength node ≤ 1) :
    queuedPolls node = 0 ∧ node.partition.hasFinished = false := by
  rw [chainLength_of_running running, poll] at short
  cases finished : node.partition.hasFinished with
  | true =>
      rw [finished] at short
      simp at short
  | false =>
      simp only [finished, Bool.toNat_true, Bool.toNat_false] at short
      exact ⟨by omega, rfl⟩

variable [DecidableEq Thread] {context : MessageContext}

/-- A step lengthens the chain exactly when it is a call of `start`. -/
theorem chainLength_step
    {node next : RunningPartition Thread Dest}
    {label : PartitionLabel Thread Dest}
    (taken : RunningPartition.Step context node label next)
    (short : chainLength node ≤ 1) :
    chainLength next = chainLength node + (isStart label).toNat := by
  cases taken with
  | start caller _ =>
      have queued := queuedPolls_addPollTask node caller
      simp only [chainLength, pollTasks, queued, isStart, Bool.toNat_true]
      change _ + node.executor.runningTasks isPoll + _ = _
      simp only [RunningPartition.addPollTask]
      omega
  | stopLow caller _ =>
      simp [chainLength, pollTasks, queuedPolls, isStart, isPoll]
      rfl
  | stopHigh _ =>
      simp [chainLength, pollTasks, queuedPolls, isStart, isPoll]
      rfl
  | setStopTime caller stop _ =>
      simp [chainLength, pollTasks, queuedPolls, isStart, isPoll]
      rfl
  | look look =>
      have queued := look.queuedTasks isPoll
      have running := look.runningTasks isPoll
      simp only [chainLength, pollTasks, queuedPolls, isStart, queued,
        running.1, running.2, Bool.toNat_false]
      omega
  | forceStop running =>
      rw [chainLength_of_running running]
      rfl
  | applyStopTime running =>
      rw [chainLength_of_running running]
      rfl
  | seeStop running _ =>
      have alone := alone_of_running running rfl short
      rw [chainLength_of_running running, alone.2]
      rfl
  | pause running _ =>
      rw [chainLength_of_running running]
      rfl
  | wake running =>
      rw [chainLength_of_running running, chainLength_goTo,
        queuedPolls_addPollTask]
      rfl
  | pollConsumer running _ =>
      rw [chainLength_of_running running]
      rfl
  | pollReturned status message clock running =>
      rw [chainLength_of_running running]
      rfl
  | forward running =>
      rw [chainLength_of_running running]
      rfl
  | finish running =>
      have alone := alone_of_running running rfl short
      rw [chainLength_of_running running, alone.2]
      rfl
  | requeue running =>
      rw [chainLength_of_running running, chainLength_goTo,
        queuedPolls_addPollTask]
      rfl
  | exitThread running =>
      rw [chainLength_of_running running]
      rfl
  | destroy caller _ =>
      simp [chainLength, pollTasks, queuedPolls, isStart, isPoll]
      rfl
  | join _ _ => rfl
  | flush _ => rfl
  | destroyed _ => rfl

omit [DecidableEq Thread] in
theorem countP_concat
    (property : PartitionLabel Thread Dest → Bool)
    (trace : List (PartitionLabel Thread Dest))
    (label : PartitionLabel Thread Dest) :
    (trace ++ [label]).countP property =
      trace.countP property + (property label).toNat := by
  rw [List.countP_append, List.countP_singleton]
  cases property label <;> rfl

/-- The chain is as long as `start` was called often, if this was once. -/
theorem chainLength_run
    {start final : RunningPartition Thread Dest}
    {trace : List (PartitionLabel Thread Dest)}
    (run : Execution (RunningPartition.Step context) start trace final)
    (short : chainLength start + starts trace ≤ 1) :
    chainLength final = chainLength start + starts trace := by
  refine run.traceInvariant
    (fun labels node =>
      chainLength start + starts labels ≤ 1 →
        chainLength node = chainLength start + starts labels)
    (fun _ => rfl) ?_ short
  intro labels node label next before taken short
  have counted : starts (labels ++ [label]) =
      starts labels + (isStart label).toNat :=
    countP_concat isStart labels label
  rw [counted, ← Nat.add_assoc] at short
  have length := before (Nat.le_of_add_right_le short)
  rw [counted, ← Nat.add_assoc, ← length]
  apply chainLength_step taken
  rw [length]
  exact Nat.le_of_add_right_le short

/-! ## After the partition has finished -/

/-- The flag is never reset. -/
theorem hasFinished_step
    {node next : RunningPartition Thread Dest}
    {label : PartitionLabel Thread Dest}
    (taken : RunningPartition.Step context node label next)
    (finished : node.partition.hasFinished = true) :
    next.partition.hasFinished = true := by
  cases taken <;> first | exact finished | rfl

/-- Nothing is polled or forwarded once the partition has finished. -/
theorem not_polling_of_finished
    {node next : RunningPartition Thread Dest}
    {label : PartitionLabel Thread Dest}
    (taken : RunningPartition.Step context node label next)
    (short : chainLength node ≤ 1)
    (finished : node.partition.hasFinished = true) :
    isPolling label = false := by
  have notRunning :
      ∀ task, isPoll task = true → node.executor.worker ≠ .running task := by
    intro task poll running
    have alone := alone_of_running running poll short
    rw [finished] at alone
    exact Bool.noConfusion alone.2
  cases taken with
  | pollConsumer running _ => exact absurd running (notRunning _ rfl)
  | pollReturned _ _ _ running => exact absurd running (notRunning _ rfl)
  | forward running => exact absurd running (notRunning _ rfl)
  | _ => rfl

/-- The rest of a run in which the partition has finished. -/
theorem finished_run
    {middle final : RunningPartition Thread Dest}
    {after : List (PartitionLabel Thread Dest)}
    (run : Execution (RunningPartition.Step context) middle after final)
    (length : chainLength middle = 1) (noMore : starts after = 0)
    (finished : middle.partition.hasFinished = true) :
    final.partition.hasFinished = true ∧
      ∀ label ∈ after, isPolling label = false := by
  induction run with
  | refl => exact ⟨finished, by simp⟩
  | snoc before taken induction =>
      rw [starts, countP_concat, Nat.add_eq_zero_iff] at noMore
      rcases induction noMore.1 with ⟨still, quiet⟩
      have none : starts _ = 0 := noMore.1
      have short := chainLength_run before
      rw [length, none] at short
      refine ⟨hasFinished_step taken still, ?_⟩
      intro label member
      rcases List.mem_append.mp member with old | new
      · exact quiet label old
      · rw [List.mem_singleton.mp new]
        exact not_polling_of_finished taken
          (Nat.le_of_eq (short (Nat.le_refl 1))) still

/-! ## After a forced stop -/

/-- What remains of a poll task that has found no request to stop. -/
def isPastCheck : PartitionTask Dest → Bool
  | .sleeping => true
  | .polling => true
  | .forwarding _ _ => true
  | _ => false

/--
No task in the queues has begun, and no poll task is past its check once a
stop was requested.
-/
structure Obedient (node : RunningPartition Thread Dest) : Prop where
  queued : node.executor.queuedTasks isPastCheck = 0
  running :
    node.partition.hasStopBeenRequested = true →
      node.executor.runningTasks isPastCheck = 0

omit [DecidableEq Thread] in
/-- A poll task past its check runs only where no stop was requested. -/
theorem Obedient.free_of_running
    {node : RunningPartition Thread Dest} {task : PartitionTask Dest}
    (obedient : Obedient node)
    (running : node.executor.worker = .running task)
    (past : isPastCheck task = true) :
    node.partition.hasStopBeenRequested = false := by
  by_contra requested
  have none := obedient.running (Bool.of_not_eq_false requested)
  simp [ThreadedExecutor.runningTasks, running, past] at none

/-- A poll does not request a stop. -/
theorem hasStopBeenRequested_handlePoll
    (partition : Partition Dest)
    (status : PollStatus) (message : Msg) (clock : PollClock) :
    (partition.handlePoll context status message
        clock).partition.hasStopBeenRequested =
      partition.hasStopBeenRequested :=
  congrArg Prod.fst
    (partition.handlePoll_stopSettings context status message clock)

theorem Obedient.step
    {node next : RunningPartition Thread Dest}
    {label : PartitionLabel Thread Dest}
    (obedient : Obedient node)
    (taken : RunningPartition.Step context node label next) :
    Obedient next := by
  have leaves :
      ∀ other : RunningPartition Thread Dest,
        other.executor.queuedTasks isPastCheck = 0 → Obedient (other.goTo .ready) :=
    fun other queued => ⟨queued, fun _ => rfl⟩
  have requeues :
      Obedient ((node.addPollTask node.self).goTo .ready) := by
    apply leaves
    rw [RunningPartition.addPollTask,
      ThreadedExecutor.queuedTasks_sendLowPriorityWork, obedient.queued]
    rfl
  have unrequested :
      ∀ (other : RunningPartition Thread Dest),
        other.executor.queuedTasks isPastCheck = 0 →
          other.partition.hasStopBeenRequested = false → Obedient other := by
    intro other queued free
    exact ⟨queued, fun requested => by rw [free] at requested; cases requested⟩
  cases taken with
  | start caller _ =>
      refine ⟨?_, obedient.running⟩
      rw [RunningPartition.addPollTask,
        ThreadedExecutor.queuedTasks_sendLowPriorityWork, obedient.queued]
      rfl
  | stopLow caller _ =>
      refine ⟨?_, obedient.running⟩
      rw [ThreadedExecutor.queuedTasks_sendLowPriorityWork, obedient.queued]
      rfl
  | stopHigh _ =>
      refine ⟨?_, obedient.running⟩
      rw [ThreadedExecutor.queuedTasks_sendWork, obedient.queued]
      rfl
  | setStopTime caller stop _ =>
      refine ⟨?_, obedient.running⟩
      rw [ThreadedExecutor.queuedTasks_sendWork, obedient.queued]
      rfl
  | look look =>
      have queued := look.queuedTasks isPastCheck
      rw [obedient.queued] at queued
      rcases Nat.add_eq_zero_iff.mp queued.symm with ⟨none, notFound⟩
      exact ⟨none, fun _ => (look.runningTasks isPastCheck).2.trans notFound⟩
  | forceStop _ => exact leaves _ obedient.queued
  | applyStopTime _ => exact leaves _ obedient.queued
  | seeStop _ _ => exact leaves _ obedient.queued
  | pause _ free => exact unrequested _ obedient.queued free
  | wake _ => exact requeues
  | pollConsumer _ free => exact unrequested _ obedient.queued free
  | pollReturned status message clock running =>
      refine unrequested (node.afterPoll _) obedient.queued ?_
      exact (hasStopBeenRequested_handlePoll node.partition status message
        clock).trans (obedient.free_of_running running rfl)
  | forward running =>
      exact unrequested _ obedient.queued
        (obedient.free_of_running running rfl)
  | finish _ => exact leaves _ obedient.queued
  | requeue _ => exact requeues
  | exitThread _ => exact ⟨obedient.queued, fun _ => rfl⟩
  | destroy caller _ =>
      refine ⟨?_, obedient.running⟩
      rw [ThreadedExecutor.queuedTasks_sendWork, obedient.queued]
      rfl
  | join _ _ => exact ⟨obedient.queued, obedient.running⟩
  | flush _ => exact ⟨obedient.queued, obedient.running⟩
  | destroyed _ => exact ⟨obedient.queued, obedient.running⟩

/-- A request to stop is never withdrawn. -/
theorem hasStopBeenRequested_step
    {node next : RunningPartition Thread Dest}
    {label : PartitionLabel Thread Dest}
    (taken : RunningPartition.Step context node label next)
    (requested : node.partition.hasStopBeenRequested = true) :
    next.partition.hasStopBeenRequested = true := by
  cases taken with
  | forceStop _ => rfl
  | pollReturned status message clock _ =>
      exact (hasStopBeenRequested_handlePoll node.partition status message
        clock).trans requested
  | _ => exact requested

/-- The run of a `forceStop` task requests a stop. -/
theorem requested_of_forceStop
    {start final : RunningPartition Thread Dest}
    {trace : List (PartitionLabel Thread Dest)}
    (run : Execution (RunningPartition.Step context) start trace final)
    (ran : .forceStop ∈ trace) :
    final.partition.hasStopBeenRequested = true := by
  refine run.traceInvariant
    (fun labels node =>
      .forceStop ∈ labels → node.partition.hasStopBeenRequested = true)
    (fun member => absurd member (by simp)) ?_ ran
  intro labels node label next before taken member
  rcases List.mem_append.mp member with old | new
  · exact hasStopBeenRequested_step taken (before old)
  · rw [← List.mem_singleton.mp new] at taken
    cases taken
    rfl

/-- After a request to stop a step polls nothing and queues no poll task. -/
theorem step_of_requested
    {node next : RunningPartition Thread Dest}
    {label : PartitionLabel Thread Dest}
    (taken : RunningPartition.Step context node label next)
    (obedient : Obedient node)
    (requested : node.partition.hasStopBeenRequested = true)
    (notStart : isStart label = false) :
    isPolling label = false ∧
      queuedPolls next + (beginsPoll label).toNat = queuedPolls node := by
  have notPast :
      ∀ task, isPastCheck task = true →
        node.executor.worker ≠ .running task := by
    intro task past running
    have free := obedient.free_of_running running past
    rw [requested] at free
    cases free
  cases taken with
  | start caller _ => cases notStart
  | stopLow caller _ => exact ⟨rfl, by simp [queuedPolls, isPoll, beginsPoll]⟩
  | stopHigh _ => exact ⟨rfl, by simp [queuedPolls, isPoll, beginsPoll]⟩
  | setStopTime caller stop _ =>
      exact ⟨rfl, by simp [queuedPolls, isPoll, beginsPoll]⟩
  | @look found _ look =>
      refine ⟨rfl, ?_⟩
      rw [queuedPolls, queuedPolls, look.queuedTasks isPoll]
      cases found <;> rfl
  | pollConsumer _ free =>
      rw [requested] at free
      cases free
  | pollReturned _ _ _ running => exact absurd running (notPast _ rfl)
  | forward running => exact absurd running (notPast _ rfl)
  | wake running => exact absurd running (notPast _ rfl)
  | requeue running => exact absurd running (notPast _ rfl)
  | destroy caller _ => exact ⟨rfl, by simp [queuedPolls, isPoll, beginsPoll]⟩
  | _ => exact ⟨rfl, rfl⟩

/-- The rest of a run after a request to stop. -/
theorem requested_run
    {middle final : RunningPartition Thread Dest}
    {after : List (PartitionLabel Thread Dest)}
    (run : Execution (RunningPartition.Step context) middle after final)
    (obedient : Obedient middle)
    (requested : middle.partition.hasStopBeenRequested = true)
    (noMore : starts after = 0) :
    (∀ label ∈ after, isPolling label = false) ∧
      queuedPolls final + after.countP beginsPoll = queuedPolls middle := by
  induction run with
  | refl => exact ⟨by simp, rfl⟩
  | @snoc trace node next label before taken induction =>
      rw [starts, countP_concat, Nat.add_eq_zero_iff] at noMore
      rcases induction noMore.1 with ⟨quiet, counted⟩
      have still :=
        before.invariant (fun node => node.partition.hasStopBeenRequested = true)
          requested
          (fun _ _ _ held taken => hasStopBeenRequested_step taken held)
      have obedientThere :=
        before.invariant Obedient obedient
          (fun _ _ _ held taken => held.step taken)
      have notStart : isStart label = false := by
        by_contra started
        simp [Bool.of_not_eq_false started] at noMore
      rcases step_of_requested taken obedientThere still notStart with
        ⟨silent, stepCounted⟩
      constructor
      · intro other member
        rcases List.mem_append.mp member with old | new
        · exact quiet other old
        · rw [List.mem_singleton.mp new]
          exact silent
      · rw [← counted, ← stepCounted, countP_concat]
        omega

/-! ## The poll chain -/

/--
The poll chain of a partition whose `start` was called once, in every
interleaving.  The number of poll tasks queued or running and the flag
`hasFinished` add up to one.  Once the flag is set it stays set, nothing more
is polled and no poll task forwards a message.  Once a `forceStop` task has
run, at most one more poll task begins to run, and nothing more is polled.
-/
theorem poll_chain
    (context : MessageContext) (self : Thread) (map : SrcToDst Dest)
    (start stop : TimePoint) (leeway kafkaErrorTimeout : Duration)
    (before after : List (PartitionLabel Thread Dest))
    (middle final : RunningPartition Thread Dest)
    (first :
      Execution (RunningPartition.Step context)
        (.ofPartition self
          (Partition.create map start stop leeway kafkaErrorTimeout))
        before middle)
    (once : starts before = 1)
    (second :
      Execution (RunningPartition.Step context) middle after final)
    (noMore : starts after = 0) :
    pollTasks middle + middle.partition.hasFinished.toNat = 1 ∧
      (middle.partition.hasFinished = true →
        final.partition.hasFinished = true ∧
          ∀ label ∈ after, isPolling label = false) ∧
      (.forceStop ∈ before →
        after.countP beginsPoll ≤ 1 ∧
          ∀ label ∈ after, isPolling label = false) := by
  have length : chainLength middle = 1 := by
    have grown := chainLength_run first
    rw [once] at grown
    exact grown (Nat.le_refl 1)
  have obedient : Obedient middle :=
    first.invariant Obedient ⟨rfl, fun _ => rfl⟩
      (fun _ _ _ held taken => held.step taken)
  refine ⟨length, ?_, ?_⟩
  · intro finished
    exact finished_run second length noMore finished
  · intro ran
    have requested := requested_of_forceStop first ran
    rcases requested_run second obedient requested noMore with
      ⟨quiet, counted⟩
    refine ⟨?_, quiet⟩
    have queued : queuedPolls middle ≤ 1 := by
      rw [← length, chainLength, pollTasks, Nat.add_assoc]
      exact Nat.le_add_right _ _
    calc
      after.countP beginsPoll
          ≤ queuedPolls final + after.countP beginsPoll := Nat.le_add_left _ _
      _ = queuedPolls middle := counted
      _ ≤ 1 := queued

/-- A partition without sources. -/
def samplePartition : Partition Nat :=
  Partition.create [] 0 100 5 10

/-- The partition after it was started, and stopped before its first poll. -/
def stoppedAtOnce : RunningPartition Nat Nat :=
  { self := 1
    partition := samplePartition.forceStop
    executor :=
      { lowPriorityTaskQueue := [⟨0, .pollForMessage⟩, ⟨0, .forceStop⟩] } }

/-- The partition after its poll task has seen the request to stop. -/
def finishedAtOnce : RunningPartition Nat Nat :=
  { self := 1
    partition := { samplePartition.forceStop with hasFinished := true }
    executor := { lowPriorityTaskQueue := [⟨0, .forceStop⟩] } }

/-- A partition that is stopped before its first poll runs one poll task. -/
theorem poll_chain_stopped_at_once :
    pollTasks stoppedAtOnce = 1 ∧
      finishedAtOnce.partition.hasFinished = true := by
  let context : MessageContext := ⟨fun _ => none, fun _ => 0⟩
  let Run (node : RunningPartition Nat Nat) :=
    Execution (RunningPartition.Step context) node
  have created : Run (.ofPartition 1 samplePartition) [] _ := .refl
  have started := created.snoc (.start 0 rfl)
  have stopping := started.snoc (.stopLow 0 rfl)
  have told := stopping.snoc (.stopHigh List.mem_cons_self)
  have found :=
    told.snoc (.look (.takeHigh rfl (ProducerQueue.dequeue_head _ [])))
  have stopped : Run _ _ stoppedAtOnce := found.snoc (.forceStop rfl)
  have rested : Run stoppedAtOnce [] _ := .refl
  have turned := rested.snoc (.look (.highEmpty rfl rfl))
  have polls :=
    turned.snoc (.look (.takeLow rfl (ProducerQueue.dequeue_head _ _)))
  have finished : Run _ _ finishedAtOnce := polls.snoc (.seeStop rfl rfl)
  have chain :=
    poll_chain context 1 [] 0 100 5 10 _ _ _ _ stopped rfl finished rfl
  exact ⟨chain.1, rfl⟩

end KafkaToNexus.Stream.PollChain
