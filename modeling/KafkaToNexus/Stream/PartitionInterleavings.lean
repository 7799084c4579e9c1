import KafkaToNexus.Stream.ChangingStopTimes
import KafkaToNexus.Stream.PollChain

/-!
# Deliveries of a partition in every interleaving

Only the worker thread changes a partition, so the labels of an execution name
the turns of a sequential run: the tasks that changed the partition, in the
order in which they took effect.  The partition of a node is the one that the
sequential run reaches, up to a flag that a poll task sets after its calls,
and the calls made so far are those of the sequential run except for those
that the worker still has to make.

Every interleaving of the calls on a partition with the work of its thread
therefore delivers what the sequential run delivers.
-/

namespace KafkaToNexus.Stream.PartitionInterleavings

open KafkaToNexus
open KafkaToNexus.Foundations
open KafkaToNexus.Foundations.Windowing
open KafkaToNexus.Stream.ChangingStopTimes
open KafkaToNexus.Stream.PartitionDelivery
open KafkaToNexus.Stream.PollChain

variable {Thread Dest : Type*}

/-! ## What the labels tell -/

/-- A poll task of a partition that was told to stop reads nothing else. -/
def stoppedPoll : PollInput :=
  ⟨false, .timedOut, ⟨[], ⟨0, 0⟩⟩, ⟨0, 0, 0⟩⟩

/-- The turn of the sequential run that a step stands for, if there is one. -/
def turnOf : PartitionLabel Thread Dest → List PartitionTurn
  | .forceStop => [.forceStop]
  | .applyStopTime stop => [.applyStopTime stop]
  | .seeStop => [.poll stoppedPoll]
  | .pollReturned status message clock =>
      [.poll ⟨false, status, message, clock⟩]
  | _ => []

/-- The messages polled so far and the stop time that is in force. -/
structure PollHistory where
  stop : TimePoint
  polled : List (TimePoint × Msg) := []
deriving DecidableEq, Repr

def PollHistory.record
    (history : PollHistory) :
    PartitionLabel Thread Dest → PollHistory
  | .applyStopTime stop => { history with stop }
  | .pollReturned .message message _ =>
      { history with
        polled := history.polled ++ [(history.stop, message)] }
  | _ => history

/-- What was polled in an execution, each message with its stop time. -/
def pollHistory
    (stop : TimePoint) (labels : List (PartitionLabel Thread Dest)) :
    PollHistory :=
  labels.foldl PollHistory.record ⟨stop, []⟩

theorem pollHistory_concat
    (stop : TimePoint) (labels : List (PartitionLabel Thread Dest))
    (label : PartitionLabel Thread Dest) :
    pollHistory stop (labels ++ [label]) =
      (pollHistory stop labels).record label := by
  rw [pollHistory, List.foldl_append]
  rfl

/-! ## What a node has still to do -/

/-- The partition as it is after the calls that the worker has still to make. -/
def settled (node : RunningPartition Thread Dest) : Partition Dest :=
  match node.executor.worker with
  | .running (.forwarding _ finished) =>
      { node.partition with
        hasFinished := node.partition.hasFinished || finished }
  | _ => node.partition

/-- The calls that the worker has still to make. -/
def unsent (node : RunningPartition Thread Dest) : List (SendEvent Dest) :=
  match node.executor.worker with
  | .running (.forwarding events _) => events
  | _ => []

/-- The calls that follow a poll are being made. -/
def isForwarding : PartitionTask Dest → Bool
  | .forwarding _ _ => true
  | _ => false

/-- The worker is not in the middle of the calls that follow a poll. -/
theorem settled_of_not_past
    {node : RunningPartition Thread Dest}
    (notPast : node.executor.runningTasks isPastCheck = 0) :
    settled node = node.partition ∧ unsent node = [] := by
  unfold settled unsent
  cases worker : node.executor.worker with
  | running task =>
      cases task with
      | forwarding events finished =>
          simp [ThreadedExecutor.runningTasks, worker, isPastCheck] at notPast
      | _ => exact ⟨rfl, rfl⟩
  | _ => exact ⟨rfl, rfl⟩

theorem settled_of_running
    {node : RunningPartition Thread Dest} {task : PartitionTask Dest}
    (running : node.executor.worker = .running task)
    (other : isForwarding task = false) :
    settled node = node.partition ∧ unsent node = [] := by
  unfold settled unsent
  rw [running]
  cases task with
  | forwarding _ _ => cases other
  | _ => exact ⟨rfl, rfl⟩

theorem settled_of_forwarding
    {node : RunningPartition Thread Dest} {events : List (SendEvent Dest)}
    {finished : Bool}
    (running :
      node.executor.worker = .running (.forwarding events finished)) :
    settled node =
        { node.partition with
          hasFinished := node.partition.hasFinished || finished } ∧
      unsent node = events := by
  unfold settled unsent
  rw [running]
  exact ⟨rfl, rfl⟩

/-! ## One step -/

/-- The sequential machine takes the turns of a step. -/
def turnsTaken
    (context : MessageContext) (timed : TimedPartition Dest)
    (label : PartitionLabel Thread Dest) :
    TimedPartition Dest × List (TurnOutput Dest) :=
  Mealy.run (turn context) timed (turnOf label)

/-- The destructor has not got beyond waiting for the worker. -/
def Joinable (node : RunningPartition Thread Dest) : Prop :=
  node.life = .alive ∨ node.life = .joining

theorem not_joinable_of_flushing
    {node : RunningPartition Thread Dest} {events : List (SendEvent Dest)}
    (flushing : node.life = .flushing events) :
    ¬ Joinable node := by
  rintro (alive | joining)
  · rw [flushing] at alive
    cases alive
  · rw [flushing] at joining
    cases joining

/--
A step is matched by the sequential machine: it reaches the settled partition
of the next node, polls what the history says and makes the calls of the step
and those that the step leaves to be made.
-/
structure Matched
    (context : MessageContext) (history : PollHistory)
    (node : RunningPartition Thread Dest)
    (label : PartitionLabel Thread Dest)
    (next : RunningPartition Thread Dest) : Prop where
  state :
    (turnsTaken context ⟨history.stop, settled node⟩ label).1 =
      ⟨(history.record label).stop, settled next⟩
  polled :
    (history.record label).polled =
      history.polled ++
        timedPolledOf
          (turnsTaken context ⟨history.stop, settled node⟩ label).2
  sent :
    label.sent ++ unsent next =
      unsent node ++
        timedSentOf
          (turnsTaken context ⟨history.stop, settled node⟩ label).2

/-- A step that is no turn and keeps the partition and what is to be sent. -/
theorem Matched.of_quiet
    {context : MessageContext} {history : PollHistory}
    {node next : RunningPartition Thread Dest}
    {label : PartitionLabel Thread Dest}
    (noTurn : turnOf label = [])
    (sameHistory : history.record label = history)
    (silent : label.sent = [])
    (same : settled next = settled node) (left : unsent next = unsent node) :
    Matched context history node label next := by
  constructor
  · rw [turnsTaken, noTurn, sameHistory, same]
    rfl
  · rw [turnsTaken, noTurn, sameHistory]
    simp [timedPolledOf]
  · rw [turnsTaken, noTurn, silent, left]
    simp [timedSentOf]

/-- A step that is one turn, of which nothing was sent before. -/
theorem Matched.of_turn
    {context : MessageContext} {history : PollHistory}
    {node next : RunningPartition Thread Dest}
    {label : PartitionLabel Thread Dest} {taken : PartitionTurn}
    (isTurn : turnOf label = [taken])
    (same : settled node = node.partition) (none : unsent node = [])
    (silent : label.sent = [])
    (state :
      (turn context ⟨history.stop, node.partition⟩ taken).1 =
        ⟨(history.record label).stop, settled next⟩)
    (polled :
      (history.record label).polled =
        history.polled ++
          timedPolledOf
            (turn context ⟨history.stop, node.partition⟩ taken).2)
    (left :
      unsent next =
        timedSentOf (turn context ⟨history.stop, node.partition⟩ taken).2) :
    Matched context history node label next := by
  have outputs :
      turnsTaken context ⟨history.stop, settled node⟩ label =
        turn context ⟨history.stop, node.partition⟩ taken := by
    rw [turnsTaken, isTurn, same, Mealy.run_cons, Mealy.run_nil,
      List.append_nil]
  constructor
  · rw [outputs, state]
  · rw [outputs, polled]
  · rw [outputs, silent, none, left]

variable [DecidableEq Thread] {context : MessageContext}

/-- What a poll turn of a running poll task is. -/
theorem turn_pollReturned
    {partition : Partition Dest} (stop : TimePoint)
    (free : partition.hasStopBeenRequested = false)
    (status : PollStatus) (message : Msg) (clock : PollClock) :
    let outcome := partition.handlePoll context status message clock
    turn context ⟨stop, partition⟩ (.poll ⟨false, status, message, clock⟩) =
      (⟨stop, outcome.partition⟩,
        (if status = .message then [message] else []).map (.polled stop) ++
          outcome.events.map .sent) := by
  intro outcome
  have whole :
      partition.pollForMessage context ⟨false, status, message, clock⟩ =
        outcome := by
    simp [Partition.pollForMessage, free, outcome]
  have polled : outcome.polled = true :=
    partition.handlePoll_polled context status message clock
  simp [turn, whole, polledMessage, polled]

omit [DecidableEq Thread] in
/-- When its calls are made, a node has the partition that the poll leaves. -/
theorem settled_afterPoll
    (node : RunningPartition Thread Dest)
    (status : PollStatus) (message : Msg) (clock : PollClock) :
    let outcome := node.partition.handlePoll context status message clock
    settled (node.afterPoll outcome) = outcome.partition := by
  intro outcome
  have flag : outcome.partition.hasFinished =
      (node.partition.hasFinished || !outcome.requeued) :=
    node.partition.handlePoll_hasFinished context status message clock
  change
    { outcome.partition with
      hasFinished := node.partition.hasFinished || !outcome.requeued } = _
  rw [← flag]

/-- Every step before the destructor goes on is matched. -/
theorem matched_of_step
    {node next : RunningPartition Thread Dest}
    {label : PartitionLabel Thread Dest}
    (history : PollHistory) (obedient : Obedient node)
    (taken : RunningPartition.Step context node label next)
    (joinable : Joinable next) :
    Matched context history node label next := by
  cases taken with
  | start caller _ => exact .of_quiet rfl rfl rfl rfl rfl
  | stopLow caller _ => exact .of_quiet rfl rfl rfl rfl rfl
  | stopHigh _ => exact .of_quiet rfl rfl rfl rfl rfl
  | setStopTime caller stop _ => exact .of_quiet rfl rfl rfl rfl rfl
  | destroy caller _ => exact .of_quiet rfl rfl rfl rfl rfl
  | look look =>
      have before := look.runningTasks isPastCheck
      have queued := look.queuedTasks isPastCheck
      rw [obedient.queued] at queued
      have notFound := (Nat.add_eq_zero_iff.mp queued.symm).2
      have old := settled_of_not_past before.1
      have new :=
        @settled_of_not_past _ _ { node with executor := _ }
          (before.2.trans notFound)
      exact .of_quiet rfl rfl rfl (new.1.trans old.1.symm)
        (new.2.trans old.2.symm)
  | forceStop running =>
      rcases settled_of_running running rfl with ⟨same, none⟩
      exact .of_turn rfl same none rfl rfl (List.append_nil _).symm rfl
  | applyStopTime running =>
      rcases settled_of_running running rfl with ⟨same, none⟩
      exact .of_turn rfl same none rfl rfl (List.append_nil _).symm rfl
  | seeStop running requested =>
      rcases settled_of_running running rfl with ⟨same, none⟩
      have stopped :
          turn context ⟨history.stop, node.partition⟩ (.poll stoppedPoll) =
            (⟨history.stop, { node.partition with hasFinished := true }⟩,
              []) := by
        simp [turn, Partition.pollForMessage, requested, polledMessage]
      refine .of_turn rfl same none rfl ?_ ?_ ?_
      · rw [stopped]
        rfl
      · rw [stopped]
        exact (List.append_nil _).symm
      · rw [stopped]
        rfl
  | pause running _ =>
      rcases settled_of_running running rfl with ⟨same, none⟩
      exact .of_quiet rfl rfl rfl same.symm none.symm
  | wake running =>
      rcases settled_of_running running rfl with ⟨same, none⟩
      exact .of_quiet rfl rfl rfl same.symm none.symm
  | pollConsumer running _ =>
      rcases settled_of_running running rfl with ⟨same, none⟩
      exact .of_quiet rfl rfl rfl same.symm none.symm
  | exitThread running =>
      rcases settled_of_running running rfl with ⟨same, none⟩
      exact .of_quiet rfl rfl rfl same.symm none.symm
  | pollReturned status message clock running =>
      rcases settled_of_running running rfl with ⟨same, none⟩
      have free := obedient.free_of_running running rfl
      have polled :=
        @turn_pollReturned _ context _ history.stop free status message clock
      have kept :
          (history.record (.pollReturned status message clock :
            PartitionLabel Thread Dest)).stop = history.stop := by
        cases status <;> rfl
      refine .of_turn rfl same none rfl ?_ ?_ ?_
      · rw [polled, kept, settled_afterPoll]
      · rw [polled, timedPolledOf_poll]
        cases status <;> simp [PollHistory.record]
      · rw [polled, timedSentOf_poll]
        rfl
  | forward running =>
      rcases settled_of_forwarding running with ⟨same, left⟩
      constructor
      · rw [same]
        rfl
      · exact (List.append_nil _).symm
      · rw [left]
        exact (List.append_nil _).symm
  | finish running =>
      rcases settled_of_forwarding running with ⟨same, left⟩
      rw [Bool.or_true] at same
      exact .of_quiet rfl rfl rfl same.symm left.symm
  | requeue running =>
      rcases settled_of_forwarding running with ⟨same, left⟩
      rw [Bool.or_false] at same
      exact .of_quiet rfl rfl rfl same.symm left.symm
  | join _ _ => rcases joinable with alive | joining <;> contradiction
  | flush _ => rcases joinable with alive | joining <;> contradiction
  | destroyed _ => rcases joinable with alive | joining <;> contradiction

/-! ## Executions -/

/-- The sequential run that an execution stands for. -/
def sequentialRun
    (context : MessageContext) (created : TimedPartition Dest)
    (labels : List (PartitionLabel Thread Dest)) :
    TimedPartition Dest × List (TurnOutput Dest) :=
  Mealy.run (turn context) created (labels.flatMap turnOf)

omit [DecidableEq Thread] in
theorem sequentialRun_concat
    (created : TimedPartition Dest)
    (labels : List (PartitionLabel Thread Dest))
    (label : PartitionLabel Thread Dest) :
    let before := sequentialRun context created labels
    sequentialRun context created (labels ++ [label]) =
      ((turnsTaken context before.1 label).1,
        before.2 ++ (turnsTaken context before.1 label).2) := by
  intro before
  rw [sequentialRun, List.flatMap_append, Mealy.run_append,
    List.flatMap_singleton]
  rfl

/-- The calls that the destructor has still to make. -/
def toFlush : PartitionLife Dest → List (SendEvent Dest)
  | .flushing events => events
  | _ => []

/-- Before the worker has been joined, the sequential run is at the node. -/
structure Working
    (context : MessageContext) (created : TimedPartition Dest)
    (labels : List (PartitionLabel Thread Dest))
    (node : RunningPartition Thread Dest) : Prop where
  joinable : Joinable node
  state :
    (sequentialRun context created labels).1 =
      ⟨(pollHistory created.stop labels).stop, settled node⟩
  sent :
    labels.flatMap PartitionLabel.sent ++ unsent node =
      timedSentOf (sequentialRun context created labels).2

/-- After that, the filters of the sequential run are destroyed. -/
structure Leaving
    (context : MessageContext) (created : TimedPartition Dest)
    (labels : List (PartitionLabel Thread Dest))
    (node : RunningPartition Thread Dest) : Prop where
  exited : node.executor.worker = .exited
  joined : ¬ Joinable node
  sent :
    labels.flatMap PartitionLabel.sent ++ toFlush node.life =
      timedSentOf (sequentialRun context created labels).2 ++
        (sequentialRun context created labels).1.partition.destroy

/-- An execution and the sequential run agree. -/
structure Followed
    (context : MessageContext) (created : TimedPartition Dest)
    (labels : List (PartitionLabel Thread Dest))
    (node : RunningPartition Thread Dest) : Prop where
  obedient : Obedient node
  polled :
    timedPolledOf (sequentialRun context created labels).2 =
      (pollHistory created.stop labels).polled
  phase :
    Working context created labels node ∨
      Leaving context created labels node

/-- A step before the worker is joined is taken by the sequential run. -/
theorem Followed.step_joinable
    {created : TimedPartition Dest}
    {labels : List (PartitionLabel Thread Dest)}
    {node next : RunningPartition Thread Dest}
    {label : PartitionLabel Thread Dest}
    (followed : Followed context created labels node)
    (working : Working context created labels node)
    (taken : RunningPartition.Step context node label next)
    (joinable : Joinable next) :
    Followed context created (labels ++ [label]) next := by
  rcases matched_of_step (pollHistory created.stop labels) followed.obedient
    taken joinable with ⟨state, polled, sent⟩
  rw [← working.state] at state polled sent
  refine ⟨followed.obedient.step taken, ?_, .inl ⟨joinable, ?_, ?_⟩⟩
  · rw [sequentialRun_concat, timedPolledOf_append, followed.polled,
      pollHistory_concat, polled]
  · rw [sequentialRun_concat, pollHistory_concat, state]
  · rw [sequentialRun_concat, timedSentOf_append, ← working.sent,
      List.flatMap_append, List.flatMap_singleton, List.append_assoc, sent,
      List.append_assoc]

omit [DecidableEq Thread] in
/-- A step that is no turn of the sequential run. -/
theorem sequentialRun_quiet
    (created : TimedPartition Dest)
    (labels : List (PartitionLabel Thread Dest))
    {label : PartitionLabel Thread Dest} (noTurn : turnOf label = []) :
    sequentialRun context created (labels ++ [label]) =
      sequentialRun context created labels := by
  rw [sequentialRun_concat, turnsTaken, noTurn, Mealy.run_nil,
    List.append_nil]

/-- What can still happen when the worker has been joined. -/
theorem step_of_joined
    {node next : RunningPartition Thread Dest}
    {label : PartitionLabel Thread Dest}
    (taken : RunningPartition.Step context node label next)
    (exited : node.executor.worker = .exited) (joined : ¬ Joinable node) :
    next.executor.worker = .exited ∧ ¬ Joinable next ∧
      turnOf label = [] ∧
      (∀ history : PollHistory, history.record label = history) ∧
      label.sent ++ toFlush next.life = toFlush node.life := by
  have idle :
      ∀ task, node.executor.worker ≠ .running task := by
    intro task running
    rw [exited] at running
    cases running
  cases taken with
  | start _ alive => exact absurd (.inl alive) joined
  | stopLow _ alive => exact absurd (.inl alive) joined
  | setStopTime _ _ alive => exact absurd (.inl alive) joined
  | destroy _ alive => exact absurd (.inl alive) joined
  | join joining _ => exact absurd (.inr joining) joined
  | stopHigh _ => exact ⟨exited, joined, rfl, fun _ => rfl, rfl⟩
  | look look =>
      cases look with
      | takeHigh ready _ => rw [exited] at ready; cases ready
      | highEmpty ready _ => rw [exited] at ready; cases ready
      | takeLow turn _ => rw [exited] at turn; cases turn
      | lowEmpty turn _ => rw [exited] at turn; cases turn
  | flush flushing =>
      refine ⟨exited, ?_, rfl, fun _ => rfl, ?_⟩
      · rintro (alive | joining) <;> contradiction
      · rw [flushing]
        rfl
  | destroyed flushing =>
      refine ⟨exited, ?_, rfl, fun _ => rfl, ?_⟩
      · rintro (alive | joining) <;> contradiction
      · rw [flushing]
        rfl
  | forceStop running => exact absurd running (idle _)
  | applyStopTime running => exact absurd running (idle _)
  | seeStop running _ => exact absurd running (idle _)
  | pause running _ => exact absurd running (idle _)
  | wake running => exact absurd running (idle _)
  | pollConsumer running _ => exact absurd running (idle _)
  | pollReturned _ _ _ running => exact absurd running (idle _)
  | forward running => exact absurd running (idle _)
  | finish running => exact absurd running (idle _)
  | requeue running => exact absurd running (idle _)
  | exitThread running => exact absurd running (idle _)

theorem Followed.step_joined
    {created : TimedPartition Dest}
    {labels : List (PartitionLabel Thread Dest)}
    {node next : RunningPartition Thread Dest}
    {label : PartitionLabel Thread Dest}
    (followed : Followed context created labels node)
    (leaving : Leaving context created labels node)
    (taken : RunningPartition.Step context node label next) :
    Followed context created (labels ++ [label]) next := by
  rcases step_of_joined taken leaving.exited leaving.joined with
    ⟨exited, joined, noTurn, sameHistory, flushed⟩
  have same := @sequentialRun_quiet _ _ context created labels _ noTurn
  refine ⟨followed.obedient.step taken, ?_, .inr ⟨exited, joined, ?_⟩⟩
  · rw [same, pollHistory_concat, sameHistory, followed.polled]
  · rw [same, ← leaving.sent, List.flatMap_append, List.flatMap_singleton,
      List.append_assoc, flushed]

/-- The worker is joined: what the filters still hold is sent next. -/
theorem Followed.join
    {created : TimedPartition Dest}
    {labels : List (PartitionLabel Thread Dest)}
    {node next : RunningPartition Thread Dest}
    {label : PartitionLabel Thread Dest}
    (followed : Followed context created labels node)
    (working : Working context created labels node)
    (taken : RunningPartition.Step context node label next)
    (joined : ¬ Joinable next) :
    Followed context created (labels ++ [label]) next := by
  have obedient := followed.obedient.step taken
  cases taken with
  | join joining exited =>
      have noTurn : turnOf (.join : PartitionLabel Thread Dest) = [] := rfl
      have none := @sequentialRun_quiet _ _ context created labels _ noTurn
      have idle : node.executor.runningTasks isPastCheck = 0 := by
        rw [ThreadedExecutor.runningTasks, exited]
      rcases settled_of_not_past idle with ⟨same, nothing⟩
      refine ⟨obedient, ?_, .inr ⟨exited, joined, ?_⟩⟩
      · rw [none, pollHistory_concat, followed.polled]
        rfl
      · have sent := working.sent
        rw [nothing, List.append_nil] at sent
        rw [none, List.flatMap_append, ← sent, working.state, same]
        simp [PartitionLabel.sent, toFlush]
  | flush flushing =>
      exact absurd working.joinable (not_joinable_of_flushing flushing)
  | destroyed flushing =>
      exact absurd working.joinable (not_joinable_of_flushing flushing)
  | destroy _ _ => exact absurd (.inr rfl) joined
  | _ => exact absurd working.joinable joined

/-- Every execution agrees with its sequential run. -/
theorem followed
    (self : Thread) (created : TimedPartition Dest)
    {labels : List (PartitionLabel Thread Dest)}
    {node : RunningPartition Thread Dest}
    (run :
      Execution (RunningPartition.Step context)
        (.ofPartition self created.partition) labels node) :
    Followed context created labels node := by
  refine run.traceInvariant (Followed context created) ?_ ?_
  · exact ⟨⟨rfl, fun _ => rfl⟩, rfl, .inl ⟨.inl rfl, rfl, rfl⟩⟩
  · intro labels node label next followed taken
    rcases followed.phase with working | leaving
    · by_cases joinable : Joinable next
      · exact followed.step_joinable working taken joinable
      · exact followed.join working taken joinable
    · exact followed.step_joined leaving taken

/-- Nobody but the worker sets the flag. -/
theorem hasFinished_of_exited
    {node next : RunningPartition Thread Dest}
    {label : PartitionLabel Thread Dest}
    (taken : RunningPartition.Step context node label next)
    (exited : node.executor.worker = .exited) :
    next.partition.hasFinished = node.partition.hasFinished := by
  have idle :
      ∀ task, node.executor.worker ≠ .running task := by
    intro task running
    rw [exited] at running
    cases running
  cases taken with
  | forceStop running => exact absurd running (idle _)
  | applyStopTime running => exact absurd running (idle _)
  | seeStop running _ => exact absurd running (idle _)
  | pollReturned _ _ _ running => exact absurd running (idle _)
  | finish running => exact absurd running (idle _)
  | _ => rfl

omit [DecidableEq Thread] in
theorem settled_of_exited
    {node : RunningPartition Thread Dest}
    (exited : node.executor.worker = .exited) :
    settled node = node.partition := by
  rw [settled, exited]

/-- In every state the sequential run knows whether the partition is done. -/
theorem sequentialRun_hasFinished
    (self : Thread) (created : TimedPartition Dest)
    {labels : List (PartitionLabel Thread Dest)}
    {node : RunningPartition Thread Dest}
    (run :
      Execution (RunningPartition.Step context)
        (.ofPartition self created.partition) labels node) :
    (sequentialRun context created labels).1.partition.hasFinished =
      (settled node).hasFinished := by
  induction run with
  | refl => rfl
  | @snoc labels node next label before taken induction =>
      have agreed := followed self created (before.snoc taken)
      rcases agreed.phase with working | leaving
      · rw [working.state]
      · rcases (followed self created before).phase with working | earlier
        · cases taken with
          | join joining exited =>
              rw [sequentialRun_quiet created labels rfl, induction,
                settled_of_exited exited, settled_of_exited leaving.exited]
          | flush flushing =>
              exact absurd working.joinable (not_joinable_of_flushing flushing)
          | destroyed flushing =>
              exact absurd working.joinable (not_joinable_of_flushing flushing)
          | destroy _ _ => exact absurd (.inr rfl) leaving.joined
          | _ => exact absurd working.joinable leaving.joined
        · rcases step_of_joined taken earlier.exited earlier.joined with
            ⟨exited, _, noTurn, _⟩
          rw [sequentialRun_quiet created labels noTurn, induction,
            settled_of_exited exited, settled_of_exited earlier.exited,
            hasFinished_of_exited taken earlier.exited]

theorem leaving_of_destroyed
    (self : Thread) (created : TimedPartition Dest)
    {labels : List (PartitionLabel Thread Dest)}
    {node : RunningPartition Thread Dest}
    (run :
      Execution (RunningPartition.Step context)
        (.ofPartition self created.partition) labels node)
    (gone : node.life = .destroyed) :
    Leaving context created labels node := by
  rcases (followed self created run).phase with working | leaving
  · rcases working.joinable with alive | joining
    · rw [gone] at alive
      cases alive
    · rw [gone] at joining
      cases joining
  · exact leaving

/--
The calls of a partition that has been destroyed are those of the sequential
run, and so are the messages that it polled.
-/
theorem destroyed_sequentialRun
    (self : Thread) (created : TimedPartition Dest)
    {labels : List (PartitionLabel Thread Dest)}
    {node : RunningPartition Thread Dest}
    (run :
      Execution (RunningPartition.Step context)
        (.ofPartition self created.partition) labels node)
    (gone : node.life = .destroyed) :
    let result := sequentialRun context created labels
    labels.flatMap PartitionLabel.sent =
        timedSentOf result.2 ++ result.1.partition.destroy ∧
      timedPolledOf result.2 = (pollHistory created.stop labels).polled := by
  have sent := (leaving_of_destroyed self created run gone).sent
  refine ⟨?_, (followed self created run).polled⟩
  rw [gone] at sent
  rw [← sent]
  exact (List.append_nil _).symm

/-! ## The delivery theorem -/

variable [DecidableEq Dest]

/--
What a partition that has been destroyed has passed on for a destination is
what the sequential run delivers, of the same polled messages.
-/
theorem deliveredTo_sent_of_destroyed
    (self : Thread) (created : TimedPartition Dest) (destination : Dest)
    {labels : List (PartitionLabel Thread Dest)}
    {node : RunningPartition Thread Dest}
    (run :
      Execution (RunningPartition.Step context)
        (.ofPartition self created.partition) labels node)
    (gone : node.life = .destroyed) :
    deliveredTo destination (labels.flatMap PartitionLabel.sent) =
        deliveredInTurns context destination created
          (labels.flatMap turnOf) ∧
      polledInTurns context created (labels.flatMap turnOf) =
        (pollHistory created.stop labels).polled := by
  rcases destroyed_sequentialRun self created run gone with ⟨sent, polled⟩
  exact ⟨congrArg (deliveredTo destination) sent, polled⟩

/--
Let a partition be built from a map whose entries agree within each writer
hash.  In every interleaving of its worker with any calls of `start`, `stop`
and `setStopTime` from other threads, until its destructor has returned, the
messages passed to the writer for a destination that one entry names are the
window of the polled messages of its source, each taken with the stop time
that was in force when it was polled: without repeated timestamps, unless
these are accepted, they are the last of the messages from before the start
time and, in the order in which they were polled, the messages from the start
time on up to the first from after its stop time.
-/
theorem interleavings_deliver_timedSelection
    (context : MessageContext) (self : Thread) (map : SrcToDst Dest)
    (start stop : TimePoint) (leeway kafkaErrorTimeout : Duration)
    (consistent : Consistent map)
    (entry : SrcDstKey Dest) (member : entry ∈ map)
    (unshared : Unshared map entry)
    {labels : List (PartitionLabel Thread Dest)}
    {node : RunningPartition Thread Dest}
    (run :
      Execution (RunningPartition.Step context)
        (.ofPartition self
          (Partition.create map start stop leeway kafkaErrorTimeout))
        labels node)
    (gone : node.life = .destroyed) :
    deliveredTo entry.destination (labels.flatMap PartitionLabel.sent) =
      timedSelection start entry.acceptsRepeatedTimestamps
        (timedMessagesOfSource context entry.srcHash
          (pollHistory stop labels).polled) := by
  let created : TimedPartition Dest :=
    ⟨stop, Partition.create map start stop leeway kafkaErrorTimeout⟩
  rcases deliveredTo_sent_of_destroyed self created entry.destination run gone
    with ⟨sent, polled⟩
  rw [sent, ← polled]
  exact
    create_deliveredInTurns context start stop leeway kafkaErrorTimeout
      consistent member unshared (labels.flatMap turnOf)

/-- The partition of the one entry, on a worker thread of its own. -/
def sampleNode : RunningPartition Nat Nat :=
  .ofPartition 0 (Partition.create [sampleEntry] 0 1000000000 0 0)

/-- The one buffer is delivered while a stop time is set. -/
theorem interleavings_deliver_timedSelection_sample :
    ∃ labels node,
      Execution (RunningPartition.Step sampleContext) sampleNode labels node ∧
        .applyStopTime 500 ∈ labels ∧
        deliveredTo 0 (labels.flatMap PartitionLabel.sent) =
          [sampleMessage] := by
  let Run (node : RunningPartition Nat Nat) :=
    Execution (RunningPartition.Step sampleContext) node
  have created : Run sampleNode [] _ := .refl
  have started := created.snoc (.start 1 rfl)
  have turned := started.snoc (.look (.highEmpty rfl rfl))
  have setting := turned.snoc (.setStopTime 2 500 rfl)
  have polls :=
    setting.snoc (.look (.takeLow rfl (ProducerQueue.dequeue_head _ [])))
  have polling := polls.snoc (.pollConsumer rfl rfl)
  have returned :=
    polling.snoc
      (.pollReturned .message ⟨sampleBuffer, ⟨1, 0⟩⟩ ⟨0, 0, 0⟩ rfl)
  have counted := returned.snoc (.forward rfl)
  have forwarded := counted.snoc (.forward rfl)
  have queued := forwarded.snoc (.requeue rfl)
  have applies :=
    queued.snoc (.look (.takeHigh rfl (ProducerQueue.dequeue_head _ [])))
  have applied := applies.snoc (.applyStopTime rfl)
  have destroying := applied.snoc (.destroy 1 rfl)
  have exits :=
    destroying.snoc (.look (.takeHigh rfl (ProducerQueue.dequeue_head _ [])))
  have exited := exits.snoc (.exitThread rfl)
  have joined := exited.snoc (.join rfl rfl)
  have destroyed := joined.snoc (.destroyed rfl)
  have delivered :=
    interleavings_deliver_timedSelection sampleContext 0 [sampleEntry] 0
      1000000000 0 0 (by decide) sampleEntry (by decide) (by decide) destroyed
      rfl
  exact ⟨_, _, destroyed, by decide, delivered.trans (by decide)⟩

end KafkaToNexus.Stream.PartitionInterleavings
