import KafkaToNexus.Stream.Topic

/-!
# Stop times on their way to a partition

A partition gets its stop times from the thread that owns it, as tasks of high
priority of its executor, so that they take effect in the order of the calls.
The invariant follows the values that are on their way: the last of them, or
else the value that the partition has, is the one that was last sent.
-/

namespace KafkaToNexus.StopTimePropagation

open KafkaToNexus
open KafkaToNexus.Foundations
open KafkaToNexus.Foundations.ProducerQueue
open KafkaToNexus.Stream
open KafkaToNexus.ThreadedExecutor

variable {Dest : Type*}

/-! ## Partitions -/

/-- The stop time that a task of a partition sets. -/
def partitionStop : PartitionTask Dest → Option TimePoint
  | .setStopTime stop => some stop
  | _ => none

def partitionRun (task : PartitionTask Dest) : List TimePoint :=
  (partitionStop task).toList

/-- The stop times in the executor of a partition. -/
def partitionPending (node : RunningPartition Thread Dest) :
    List TimePoint :=
  node.executor.pendingValues partitionRun partitionStop

/-- The stop times in the executor of a partition all come from its owner. -/
def PartitionInOrder
    (owner : Thread) (node : RunningPartition Thread Dest) : Prop :=
  InOrder partitionRun partitionStop owner node.executor

/-- The partition, its stop logic and its filters have a stop time. -/
structure HasStopTime (partition : Partition Dest) (stop : TimePoint) :
    Prop where
  own : partition.stopTime = stop
  tester : partition.stopTester.stopTime = stop
  filters : ∀ item ∈ partition.msgFilters, item.2.stop = stop

/--
The partition has the stop time that its constructor was given: moved back by
the leeway where adding the leeway would overflow, but not in the filters.
-/
structure StartedFrom (partition : Partition Dest) (stop : TimePoint) :
    Prop where
  own :
    partition.stopTime = backOffStopTime stop partition.stopTimeLeeway
  tester :
    partition.stopTester.stopTime =
      backOffStopTime stop partition.stopTimeLeeway
  filters : ∀ item ∈ partition.msgFilters, item.2.stop = stop

/-- The filters that are left have the stop times that they had. -/
structure KeepsStopTimes (partition next : Partition Dest) : Prop where
  own : next.stopTime = partition.stopTime
  leeway : next.stopTimeLeeway = partition.stopTimeLeeway
  tester : next.stopTester.stopTime = partition.stopTester.stopTime
  filters :
    ∀ item ∈ next.msgFilters,
      ∃ old ∈ partition.msgFilters, item.2.stop = old.2.stop

theorem KeepsStopTimes.rfl (partition : Partition Dest) :
    KeepsStopTimes partition partition := by
  refine ⟨Eq.refl _, Eq.refl _, Eq.refl _, ?_⟩
  intro item member
  exact ⟨item, member, Eq.refl _⟩

theorem KeepsStopTimes.hasStopTime
    {partition next : Partition Dest} {stop : TimePoint}
    (keeps : KeepsStopTimes partition next)
    (has : HasStopTime partition stop) :
    HasStopTime next stop := by
  refine ⟨keeps.own.trans has.own, keeps.tester.trans has.tester, ?_⟩
  intro item member
  rcases keeps.filters item member with ⟨old, oldMember, same⟩
  exact same.trans (has.filters old oldMember)

theorem KeepsStopTimes.startedFrom
    {partition next : Partition Dest} {stop : TimePoint}
    (keeps : KeepsStopTimes partition next)
    (started : StartedFrom partition stop) :
    StartedFrom next stop := by
  constructor
  · rw [keeps.own, keeps.leeway]
    exact started.own
  · rw [keeps.tester, keeps.leeway]
    exact started.tester
  · intro item member
    rcases keeps.filters item member with ⟨old, oldMember, same⟩
    exact same.trans (started.filters old oldMember)

theorem hasStopTime_applyStopTime
    (partition : Partition Dest) (stop : TimePoint) :
    HasStopTime (partition.applyStopTime stop) stop := by
  refine ⟨rfl, rfl, ?_⟩
  intro item member
  rcases List.mem_map.mp member with ⟨_, _, rfl⟩
  rfl

theorem keepsStopTimes_handlePoll
    (context : MessageContext) (partition : Partition Dest)
    (status : PollStatus) (message : Msg) (clock : PollClock) :
    KeepsStopTimes partition
      (partition.handlePoll context status message clock).partition := by
  have settings :=
    Partition.handlePoll_stopSettings context partition status message clock
  simp only [Partition.stopSettings, Prod.mk.injEq] at settings
  rcases settings with ⟨_, own, leeway, tester⟩
  exact ⟨own, leeway, tester, fun _ => Partition.handlePoll_stop⟩

theorem startedFrom_create
    (map : SrcToDst Dest) (start stop : TimePoint)
    (leeway kafkaErrorTimeout : Duration) :
    StartedFrom (Partition.create map start stop leeway kafkaErrorTimeout)
      stop :=
  ⟨rfl, rfl, fun _ => Partition.stop_of_mem_create⟩

/-- The stop time that a call sends to a partition. -/
def sentToPartition : PartitionLabel Thread Dest → List TimePoint
  | .setStopTime _ stop => [stop]
  | _ => []

theorem sentToPartition_of_noCall
    {label : PartitionLabel Thread Dest}
    (noCall : ∀ caller stop, label ≠ .setStopTime caller stop) :
    sentToPartition label = [] := by
  cases label with
  | setStopTime caller stop => exact absurd rfl (noCall caller stop)
  | _ => rfl

/-- The stop times on their way stay in their order while a worker goes on. -/
theorem partitionPending_goTo
    {node : RunningPartition Thread Dest} {task : PartitionTask Dest}
    {worker : Worker (PartitionTask Dest)}
    (running : node.executor.worker = .running task)
    (same : runningValues partitionRun worker = partitionRun task) :
    (node.executor.withWorker worker).pendingValues partitionRun
        partitionStop = partitionPending node ++ [] := by
  rw [List.append_nil, pendingValues_withWorker, partitionPending,
    pendingValues_of_running running, same]

/--
A step of a partition sends it a stop time, if the step is such a call, or
applies the first stop time on its way, or changes no stop time.
-/
theorem partition_step
    {context : MessageContext} {owner : Thread}
    {node next : RunningPartition Thread Dest}
    {label : PartitionLabel Thread Dest}
    (taken : RunningPartition.Step context node label next)
    (inOrder : PartitionInOrder owner node)
    (sender :
      ∀ caller stop, label = .setStopTime caller stop → caller = owner) :
    PartitionInOrder owner next ∧
      ((∃ stop, partitionPending node = stop :: partitionPending next ∧
          sentToPartition label = [] ∧ HasStopTime next.partition stop) ∨
        (partitionPending next =
            partitionPending node ++ sentToPartition label ∧
          KeepsStopTimes node.partition next.partition)) := by
  have unchanged := KeepsStopTimes.rfl node.partition
  cases taken with
  | start caller _ =>
      refine ⟨inOrder.sendLowPriorityWork caller rfl, Or.inr ⟨?_, unchanged⟩⟩
      exact (List.append_nil _).symm
  | stopLow caller _ =>
      refine ⟨inOrder.sendLowPriorityWork caller rfl, Or.inr ⟨?_, unchanged⟩⟩
      exact (List.append_nil _).symm
  | stopHigh _ =>
      refine ⟨InOrder.sendWork inOrder (by rintro ⟨⟩) rfl,
        Or.inr ⟨?_, unchanged⟩⟩
      exact pendingValues_sendWork _ _
  | setStopTime caller stop _ =>
      refine ⟨InOrder.sendWork inOrder ?_ rfl, Or.inr ⟨?_, unchanged⟩⟩
      · intro _
        exact sender caller stop rfl
      · exact pendingValues_sendWork _ _
  | look look =>
      refine ⟨look.inOrder inOrder, Or.inr ⟨?_, unchanged⟩⟩
      exact (look.pendingValues inOrder).trans (List.append_nil _).symm
  | forceStop running =>
      refine ⟨inOrder.withWorker _, Or.inr ⟨?_, ?_⟩⟩
      · exact partitionPending_goTo running rfl
      · exact ⟨rfl, rfl, rfl, unchanged.filters⟩
  | @applyStopTime stop running =>
      refine ⟨inOrder.withWorker _, Or.inl ⟨stop, ?_, rfl, ?_⟩⟩
      · exact pendingValues_of_running running
      · exact hasStopTime_applyStopTime _ _
  | seeStop running _ =>
      refine ⟨inOrder.withWorker _, Or.inr ⟨?_, ?_⟩⟩
      · exact partitionPending_goTo running rfl
      · exact ⟨rfl, rfl, rfl, unchanged.filters⟩
  | pause running _ =>
      refine ⟨inOrder.withWorker _, Or.inr ⟨?_, unchanged⟩⟩
      exact partitionPending_goTo running rfl
  | wake running =>
      refine ⟨(inOrder.sendLowPriorityWork _ rfl).withWorker _,
        Or.inr ⟨?_, unchanged⟩⟩
      exact partitionPending_goTo running rfl
  | pollConsumer running _ =>
      refine ⟨inOrder.withWorker _, Or.inr ⟨?_, unchanged⟩⟩
      exact partitionPending_goTo running rfl
  | pollReturned status message clock running =>
      refine ⟨inOrder.withWorker _, Or.inr ⟨?_, ?_⟩⟩
      · exact partitionPending_goTo running rfl
      · rcases keepsStopTimes_handlePoll context node.partition status message
          clock with ⟨own, leeway, tester, filters⟩
        exact ⟨own, leeway, tester, filters⟩
  | forward running =>
      refine ⟨inOrder.withWorker _, Or.inr ⟨?_, unchanged⟩⟩
      exact partitionPending_goTo running rfl
  | finish running =>
      refine ⟨inOrder.withWorker _, Or.inr ⟨?_, ?_⟩⟩
      · exact partitionPending_goTo running rfl
      · exact ⟨rfl, rfl, rfl, unchanged.filters⟩
  | requeue running =>
      refine ⟨(inOrder.sendLowPriorityWork _ rfl).withWorker _,
        Or.inr ⟨?_, unchanged⟩⟩
      exact partitionPending_goTo running rfl
  | exitThread running =>
      refine ⟨inOrder.withWorker _, Or.inr ⟨?_, unchanged⟩⟩
      exact partitionPending_goTo running rfl
  | destroy caller _ =>
      refine ⟨InOrder.sendWork inOrder (by rintro ⟨⟩) rfl,
        Or.inr ⟨?_, unchanged⟩⟩
      exact pendingValues_sendWork _ _
  | join _ _ =>
      refine ⟨inOrder, Or.inr ⟨(List.append_nil _).symm, ?_⟩⟩
      exact ⟨rfl, rfl, rfl, fun _ member => nomatch member⟩
  | flush _ =>
      exact ⟨inOrder, Or.inr ⟨(List.append_nil _).symm, unchanged⟩⟩
  | destroyed _ =>
      exact ⟨inOrder, Or.inr ⟨(List.append_nil _).symm, unchanged⟩⟩

/-! ## A partition and the stop times on their way to it -/

/--
The last of the stop times on their way to a partition, or else the one that
it has, is the latest.  `rest` holds the values that have not reached its
executor.  A partition that keeps what its constructor was given, and that no
value is on its way to, was created after the last call.
-/
structure Follows
    (calls : Nat) (latest : TimePoint) (owner : Thread)
    (rest : List TimePoint) (owned : OwnedPartition Dest) : Prop where
  inOrder : PartitionInOrder owner owned.running
  value :
    ∃ stop,
      (HasStopTime owned.running.partition stop ∨
        StartedFrom owned.running.partition stop ∧
          (partitionPending owned.running ++ rest = [] →
            owned.callsBefore = calls)) ∧
      (partitionPending owned.running ++ rest).getLastD stop = latest

theorem Follows.step
    {context : MessageContext} {calls : Nat} {latest : TimePoint}
    {owner : Thread} {rest : List TimePoint} {owned : OwnedPartition Dest}
    {label : PartitionLabel Thread Dest}
    {next : RunningPartition Thread Dest}
    (follows :
      Follows calls latest owner (sentToPartition label ++ rest) owned)
    (taken : RunningPartition.Step context owned.running label next)
    (sender :
      ∀ caller stop, label = .setStopTime caller stop → caller = owner) :
    Follows calls latest owner rest { owned with running := next } := by
  rcases follows with ⟨inOrder, stop, from_, last⟩
  rcases partition_step taken inOrder sender with
    ⟨nextInOrder, ⟨applied, pending, silent, has⟩ | ⟨pending, keeps⟩⟩
  · refine ⟨nextInOrder, applied, Or.inl has, ?_⟩
    rw [pending, silent, List.nil_append, List.cons_append,
      List.getLastD_cons] at last
    exact last
  · have path :
        partitionPending next ++ rest =
          partitionPending owned.running ++
            (sentToPartition label ++ rest) := by
      rw [pending, List.append_assoc]
    refine ⟨nextInOrder, stop, ?_, ?_⟩
    · rcases from_ with has | ⟨started, born⟩
      · exact Or.inl (keeps.hasStopTime has)
      · refine Or.inr ⟨keeps.startedFrom started, ?_⟩
        intro empty
        exact born (path.symm.trans empty)
    · exact (congrArg (fun path => path.getLastD stop) path).trans last

/-- A new call is on its way to every partition. -/
theorem Follows.newCall
    {calls : Nat} {latest : TimePoint} {owner : Thread}
    {rest : List TimePoint} {owned : OwnedPartition Dest}
    (follows : Follows calls latest owner rest owned) (stop : TimePoint) :
    Follows (calls + 1) stop owner (rest ++ [stop]) owned := by
  rcases follows with ⟨inOrder, current, from_, _⟩
  refine ⟨inOrder, current, ?_, ?_⟩
  · rcases from_ with has | ⟨started, _⟩
    · exact Or.inl has
    · refine Or.inr ⟨started, ?_⟩
      intro empty
      simp at empty
  · rw [← List.append_assoc, List.getLastD_concat]

end KafkaToNexus.StopTimePropagation
