import KafkaToNexus.StopTimePropagation.TopicStops

/-!
# A call of `stop` on a topic

`Topic::stop` tells the partitions that the topic has when it is called, one
after the other, while the executor of the topic may create and erase
partitions.  A partition has been told when a task with `forceStop` waits in
its executor or has run, and this stays so until it is destroyed.

The walk of `stop` is disturbed when a partition is created after the call, or
when one is erased that the walk has left behind or is at.  The module proves
that a call that is not disturbed tells every partition.
-/

namespace KafkaToNexus.Stopping

open KafkaToNexus
open KafkaToNexus.Foundations
open KafkaToNexus.Foundations.ProducerQueue
open KafkaToNexus.Stream
open KafkaToNexus.StopTimePropagation
open KafkaToNexus.ThreadedExecutor

variable {Dest : Type*}

/-! ## Partitions that were told to stop -/

/-- The task tells a partition to stop. -/
def forcesStop : PartitionTask Dest → Bool
  | .forceStop => true
  | _ => false

/-- `Partition::stop` has been called, or the partition has finished. -/
def Reached (node : RunningPartition Thread Dest) : Prop :=
  node.partition.hasFinished = true ∨
    node.partition.hasStopBeenRequested = true ∨
      0 < leftTasks forcesStop node.executor

section Partition

variable {context : MessageContext} {node next : RunningPartition Thread Dest}
  {label : PartitionLabel Thread Dest}

/-- The flags are the same, and no task is lost. -/
theorem Reached.of_tasks
    (reached : Reached node)
    (finished : next.partition.hasFinished = node.partition.hasFinished)
    (requested :
      next.partition.hasStopBeenRequested =
        node.partition.hasStopBeenRequested)
    (tasks :
      leftTasks forcesStop node.executor ≤
        leftTasks forcesStop next.executor) :
    Reached next := by
  rcases reached with done | requests | waits
  · exact Or.inl (finished.trans done)
  · exact Or.inr (Or.inl (requested.trans requests))
  · exact Or.inr (Or.inr (Nat.lt_of_lt_of_le waits tasks))

/-- The task that ends its run was not `forceStop`. -/
theorem leftTasks_goTo
    {executor : ThreadedExecutor Thread (PartitionTask Dest)}
    {task : PartitionTask Dest}
    (running : executor.worker = .running task)
    (other : forcesStop task = false)
    (worker : Worker (PartitionTask Dest)) :
    leftTasks forcesStop executor ≤
      leftTasks forcesStop (executor.withWorker worker) := by
  have replaced := leftTasks_withWorker _ running forcesStop worker
  rw [other] at replaced
  exact Nat.le.intro replaced.symm

theorem leftTasks_send
    (executor : ThreadedExecutor Thread (PartitionTask Dest))
    (caller : Thread) (task : PartitionTask Dest) :
    leftTasks forcesStop executor ≤
      leftTasks forcesStop (executor.sendWork caller task) := by
  rw [leftTasks_sendWork]
  exact Nat.le_add_right _ _

theorem leftTasks_sendLow
    (executor : ThreadedExecutor Thread (PartitionTask Dest))
    (caller : Thread) (task : PartitionTask Dest) :
    leftTasks forcesStop executor ≤
      leftTasks forcesStop (executor.sendLowPriorityWork caller task) := by
  rw [leftTasks_sendLowPriorityWork]
  exact Nat.le_add_right _ _

/-- A poll task that is not done queues another one. -/
theorem Reached.requeue
    {task : PartitionTask Dest}
    (reached : Reached node)
    (running : node.executor.worker = .running task)
    (other : forcesStop task = false) :
    Reached ((node.addPollTask node.self).goTo .ready) := by
  have sent :
      leftTasks forcesStop node.executor ≤
        leftTasks forcesStop (node.addPollTask node.self).executor :=
    leftTasks_sendLow _ _ _
  have still : (node.addPollTask node.self).executor.worker = .running task :=
    running
  exact reached.of_tasks rfl rfl
    (Nat.le_trans sent (leftTasks_goTo still other .ready))

/-- No step of a partition undoes a call of `stop`. -/
theorem Reached.step
    (reached : Reached node)
    (taken : RunningPartition.Step context node label next) :
    Reached next := by
  cases taken with
  | start caller _ => exact reached.of_tasks rfl rfl (leftTasks_sendLow _ _ _)
  | stopLow caller _ =>
      exact reached.of_tasks rfl rfl (leftTasks_sendLow _ _ _)
  | stopHigh _ => exact reached.of_tasks rfl rfl (leftTasks_send _ _ _)
  | setStopTime _ _ _ => exact reached.of_tasks rfl rfl (leftTasks_send _ _ _)
  | look look =>
      exact reached.of_tasks rfl rfl (Nat.le_of_eq (look.leftTasks _).symm)
  | forceStop _ => exact Or.inr (Or.inl rfl)
  | applyStopTime running =>
      exact reached.of_tasks rfl rfl (leftTasks_goTo running rfl _)
  | seeStop _ _ => exact Or.inl rfl
  | pause running _ =>
      exact reached.of_tasks rfl rfl (leftTasks_goTo running rfl _)
  | wake running => exact reached.requeue running rfl
  | pollConsumer running _ =>
      exact reached.of_tasks rfl rfl (leftTasks_goTo running rfl _)
  | pollReturned status message clock running =>
      have settings :=
        Partition.handlePoll_stopSettings context node.partition status
          message clock
      exact reached.of_tasks rfl (Prod.mk.inj settings).1
        (leftTasks_goTo running rfl _)
  | forward running =>
      exact reached.of_tasks rfl rfl (leftTasks_goTo running rfl _)
  | finish _ => exact Or.inl rfl
  | requeue running => exact reached.requeue running rfl
  | exitThread running =>
      exact reached.of_tasks rfl rfl (leftTasks_goTo running rfl _)
  | destroy _ _ => exact reached.of_tasks rfl rfl (leftTasks_send _ _ _)
  | join _ _ => exact reached.of_tasks rfl rfl (Nat.le_refl _)
  | flush _ => exact reached.of_tasks rfl rfl (Nat.le_refl _)
  | destroyed _ => exact reached.of_tasks rfl rfl (Nat.le_refl _)

/-- The first task that `stop` sends tells the partition. -/
theorem reached_stopLow
    {caller : Thread}
    (taken : RunningPartition.Step context node (.stopLow caller) next) :
    Reached next := by
  cases taken
  right
  right
  show 0 < leftTasks forcesStop (node.executor.sendLowPriorityWork _ _)
  rw [leftTasks_sendLowPriorityWork]
  exact Nat.succ_pos _

end Partition

/-! ## Topics some of whose partitions were told -/

/-- The partitions in some places have been told. -/
def Covered (places : Nat → Prop) (topic : Topic Dest) : Prop :=
  ∀ index owned, places index →
    topic.consumerThreads[index]? = some owned → Reached owned.running

theorem Covered.of_places
    {places fewer : Nat → Prop} {topic next : Topic Dest}
    (covered : Covered places topic)
    (inside : ∀ index, fewer index → places index)
    (same : next.consumerThreads = topic.consumerThreads) :
    Covered fewer next := by
  intro index owned place found
  rw [same] at found
  exact covered index owned (inside index place) found

/-- One partition has taken a step. -/
theorem Covered.set
    {places : Nat → Prop} {topic next : Topic Dest} {index : Nat}
    {owned : OwnedPartition Dest} {running : RunningPartition Thread Dest}
    (covered : Covered places topic)
    (found : topic.consumerThreads[index]? = some owned)
    (keeps : Reached owned.running → Reached running)
    (changed :
      next.consumerThreads =
        topic.consumerThreads.set index { owned with running }) :
    Covered places next := by
  intro place other inside present
  rw [changed, List.getElem?_set] at present
  split at present
  · rename_i same
    subst same
    split at present
    · rw [← Option.some.inj present]
      exact keeps (covered index owned inside found)
    · cases present
  · exact covered place other inside present

/-- A partition is erased, and those behind it move one place. -/
theorem Covered.erase
    {places : Nat → Prop} {topic next : Topic Dest} {index : Nat}
    (covered : Covered places topic)
    (shifted : ∀ place, index ≤ place → places place → places (place + 1))
    (erased : next.consumerThreads = topic.consumerThreads.eraseIdx index) :
    Covered places next := by
  intro place owned inside found
  rw [erased, List.getElem?_eraseIdx] at found
  split at found
  · exact covered place owned inside found
  · rename_i behind
    exact covered (place + 1) owned
      (shifted place (Nat.le_of_not_lt behind) inside) found

/-- The task of the topic is about to create a partition. -/
def AboutToCreate (topic : Topic Dest) : Prop :=
  ∃ parOffset remaining,
    topic.executor.worker =
      .running (.creatingStreams (parOffset :: remaining))

/-- The task of the topic is about to erase the partition in a place. -/
def AboutToErase (topic : Topic Dest) (index : Nat) : Prop :=
  ∃ owned,
    topic.executor.worker = .running (.checkingIfDone index) ∧
      topic.consumerThreads[index]? = some owned ∧
        owned.running.partition.hasFinished = true

/-- A step that does not disturb the partitions that were told. -/
theorem Covered.step
    {context : MessageContext} {calls : Nat} {topic next : Topic Dest}
    {label : TopicLabel Dest} {places : Nat → Prop}
    (covered : Covered places topic)
    (taken : Topic.Step context calls topic label next)
    (noCreation : ¬ AboutToCreate topic)
    (noErasure :
      ∀ index, AboutToErase topic index →
        ∀ place, index ≤ place → places place → places (place + 1)) :
    Covered places next := by
  have same {after : Topic Dest}
      (partitions : after.consumerThreads = topic.consumerThreads) :
      Covered places after :=
    covered.of_places (fun _ => id) partitions
  cases taken with
  | createStream running => exact absurd ⟨_, _, running⟩ noCreation
  | erasePartition running found finished =>
      exact covered.erase
        (noErasure _ ⟨_, running, found, finished⟩) rfl
  | passStopTime _ found taken =>
      exact covered.set found (fun reached => reached.step taken) rfl
  | partition found _ taken =>
      exact covered.set found (fun reached => reached.step taken) rfl
  | stopLow found taken =>
      exact covered.set found (fun reached => reached.step taken) rfl
  | stopHigh found taken =>
      exact covered.set found (fun reached => reached.step taken) rfl
  | destroyMember _ found _ taken =>
      exact covered.set found (fun reached => reached.step taken) rfl
  | getPartitionsForTopic outcome now running =>
      exact same (sameStops_getPartitionsForTopic running outcome now).2
  | getOffsetsForPartitions outcome now running =>
      exact same (sameStops_getOffsetsForPartitions running outcome now).2
  | _ => exact same rfl

/-- The first task for a partition adds its place to those that were told. -/
theorem Covered.stopLow
    {context : MessageContext} {calls : Nat} {topic next : Topic Dest}
    {caller : Thread} {index : Nat}
    (covered : Covered (· < index) topic)
    (taken :
      Topic.Step context calls topic (.stopPartition caller index false)
        next) :
    Covered (· < index + 1) next := by
  cases taken with
  | stopLow found told =>
      intro place owned inside present
      rw [Topic.setPartition, List.getElem?_set] at present
      split at present
      · split at present
        · rw [← Option.some.inj present]
          exact reached_stopLow told
        · cases present
      · rename_i other
        have before : place < index := by omega
        exact covered place owned before present

/-- Every partition of the topic has been told. -/
def AllReached (topic : Topic Dest) : Prop :=
  ∀ owned ∈ topic.consumerThreads, Reached owned.running

/-- A walk that has come to the end has told every partition. -/
theorem Covered.all
    {topic : Topic Dest} {index : Nat}
    (covered : Covered (· < index) topic)
    (ended : topic.consumerThreads.length ≤ index) :
    AllReached topic := by
  intro owned member
  rcases List.mem_iff_getElem?.mp member with ⟨place, found⟩
  have inside : place < topic.consumerThreads.length :=
    (List.getElem?_eq_some_iff.mp found).1
  exact covered place owned (Nat.lt_of_lt_of_le inside ended) found

theorem AllReached.covered
    {topic : Topic Dest} (all : AllReached topic) (places : Nat → Prop) :
    Covered places topic := by
  intro index owned _ found
  exact all owned (List.mem_of_getElem? found)

/-- A topic that does not create a partition gets no more partitions. -/
theorem length_step
    {context : MessageContext} {calls : Nat} {topic next : Topic Dest}
    {label : TopicLabel Dest}
    (taken : Topic.Step context calls topic label next)
    (noCreation : ¬ AboutToCreate topic) :
    next.consumerThreads.length ≤ topic.consumerThreads.length := by
  cases taken with
  | createStream running => exact absurd ⟨_, _, running⟩ noCreation
  | erasePartition _ _ _ => exact List.length_eraseIdx_le _ _
  | passStopTime _ _ _ => exact Nat.le_of_eq List.length_set
  | partition _ _ _ => exact Nat.le_of_eq List.length_set
  | stopLow _ _ => exact Nat.le_of_eq List.length_set
  | stopHigh _ _ => exact Nat.le_of_eq List.length_set
  | destroyMember _ _ _ _ => exact Nat.le_of_eq List.length_set
  | getPartitionsForTopic outcome now running =>
      exact Nat.le_of_eq
        (congrArg List.length
          (sameStops_getPartitionsForTopic running outcome now).2)
  | getOffsetsForPartitions outcome now running =>
      exact Nat.le_of_eq
        (congrArg List.length
          (sameStops_getOffsetsForPartitions running outcome now).2)
  | _ => exact Nat.le_refl _

/-! ## Runs with a call of `stop` -/

/--
Where the call of `Topic::stop` is.  Its loop runs to the end that the vector
had when the loop began.
-/
inductive TopicStopPoint where
  | notCalled
  /-- At the partition with an index. -/
  | walking (index last : Nat)
  /-- Between the two tasks that are sent to the partition. -/
  | secondTask (index last : Nat)
  | returned
deriving DecidableEq, Repr

/-- A topic and one call of its `stop`. -/
structure StoppingTopic (Dest : Type*) where
  topic : Topic Dest
  point : TopicStopPoint := .notCalled
deriving DecidableEq, Repr

inductive StoppingLabel (Dest : Type*) where
  | call
  /-- A step of the call. -/
  | walk
  /-- A step of the topic or of its partitions. -/
  | topic (label : TopicLabel Dest)
deriving DecidableEq, Repr

namespace StoppingTopic

/-- The steps of the topic and those of a call of `stop` by a thread. -/
inductive Step (context : MessageContext) (caller : Thread) :
    StoppingTopic Dest → StoppingLabel Dest → StoppingTopic Dest → Prop where
  | topic {state : StoppingTopic Dest} {calls : Nat}
      {label : TopicLabel Dest} {next : Topic Dest} :
      (∀ thread index second, label ≠ .stopPartition thread index second) →
      Topic.Step context calls state.topic label next →
      Step context caller state (.topic label) { state with topic := next }
  | call {state : StoppingTopic Dest} :
      state.point = .notCalled →
      Step context caller state .call
        { state with point := .walking 0 state.topic.consumerThreads.length }
  | firstTask {state : StoppingTopic Dest} {calls index last : Nat}
      {next : Topic Dest} :
      state.point = .walking index last →
      index < last →
      Topic.Step context calls state.topic
        (.stopPartition caller index false) next →
      Step context caller state .walk
        { topic := next, point := .secondTask index last }
  | secondTask {state : StoppingTopic Dest} {calls index last : Nat}
      {next : Topic Dest} :
      state.point = .secondTask index last →
      Topic.Step context calls state.topic
        (.stopPartition caller index true) next →
      Step context caller state .walk
        { topic := next, point := .walking (index + 1) last }
  | returned {state : StoppingTopic Dest} {last : Nat} :
      state.point = .walking last last →
      Step context caller state .walk { state with point := .returned }

/--
Nothing that the topic is about to do disturbs the call: it does not create a
partition, nor erase one that is not in front of the loop.
-/
def Undisturbed (state : StoppingTopic Dest) : Prop :=
  match state.point with
  | .notCalled => True
  | .walking index _ =>
      ¬ AboutToCreate state.topic ∧
        ∀ erased, AboutToErase state.topic erased → index ≤ erased
  | .secondTask index _ =>
      ¬ AboutToCreate state.topic ∧
        ∀ erased, AboutToErase state.topic erased → index < erased
  | .returned => ¬ AboutToCreate state.topic

/-- A step from a state in which nothing disturbs the call. -/
structure UndisturbedStep
    (context : MessageContext) (caller : Thread)
    (state : StoppingTopic Dest) (label : StoppingLabel Dest)
    (next : StoppingTopic Dest) : Prop where
  step : Step context caller state label next
  undisturbed : Undisturbed state

/-- What the call has achieved. -/
def Progress (state : StoppingTopic Dest) : Prop :=
  match state.point with
  | .notCalled => True
  | .walking index last =>
      Covered (· < index) state.topic ∧
        state.topic.consumerThreads.length ≤ last
  | .secondTask index last =>
      Covered (· < index + 1) state.topic ∧
        state.topic.consumerThreads.length ≤ last
  | .returned => AllReached state.topic

variable {context : MessageContext} {caller : Thread}
  {state next : StoppingTopic Dest} {label : StoppingLabel Dest}

/-- Places before a bound are not moved by an erasure behind it. -/
theorem shift_of_le
    {bound index place : Nat} (behind : bound ≤ index) (from_ : index ≤ place)
    (inside : place < bound) : place + 1 < bound :=
  absurd inside (Nat.not_lt.mpr (Nat.le_trans behind from_))

/-- The steps of the topic keep what the call has achieved. -/
theorem Progress.topic
    {calls : Nat} {own : TopicLabel Dest} {topic : Topic Dest}
    (progress : Progress state)
    (undisturbed : Undisturbed state)
    (taken : Topic.Step context calls state.topic own topic) :
    Progress { state with topic } := by
  rcases state with ⟨old, point⟩
  cases point with
  | notCalled => trivial
  | walking index last =>
      rcases progress with ⟨covered, short⟩
      rcases undisturbed with ⟨noCreation, noErasure⟩
      constructor
      · apply covered.step taken noCreation
        intro erased about place
        exact shift_of_le (noErasure erased about)
      · exact Nat.le_trans (length_step taken noCreation) short
  | secondTask index last =>
      rcases progress with ⟨covered, short⟩
      rcases undisturbed with ⟨noCreation, noErasure⟩
      constructor
      · apply covered.step taken noCreation
        intro erased about place
        exact shift_of_le (noErasure erased about)
      · exact Nat.le_trans (length_step taken noCreation) short
  | returned =>
      have covered := AllReached.covered progress fun _ => True
      have kept :=
        covered.step taken undisturbed fun _ _ _ _ _ => trivial
      intro owned member
      rcases List.mem_iff_getElem?.mp member with ⟨place, found⟩
      exact kept place owned trivial found

theorem Progress.step
    (progress : Progress state)
    (taken : UndisturbedStep context caller state label next) :
    Progress next := by
  rcases taken with ⟨taken, undisturbed⟩
  cases taken with
  | topic _ taken => exact progress.topic undisturbed taken
  | call _ =>
      constructor
      · intro index owned inside
        exact absurd inside (Nat.not_lt_zero index)
      · exact Nat.le_refl _
  | firstTask point _ taken =>
      rcases state with ⟨topic, _⟩
      cases point
      rcases progress with ⟨covered, short⟩
      constructor
      · exact covered.stopLow taken
      · exact Nat.le_trans (length_step taken undisturbed.1) short
  | secondTask point taken =>
      rcases state with ⟨topic, _⟩
      cases point
      have kept := progress.topic undisturbed taken
      exact ⟨kept.1, kept.2⟩
  | returned point =>
      rw [Progress, point] at progress
      exact progress.1.all progress.2

/-- Once an undisturbed call has returned, every partition was told. -/
theorem told_of_returned
    {topic : Topic Dest} {trace : List (StoppingLabel Dest)}
    {final : StoppingTopic Dest}
    (run :
      Execution (UndisturbedStep context caller) { topic } trace final)
    (returned : final.point = .returned) :
    AllReached final.topic := by
  have progress : Progress final :=
    run.invariant Progress trivial fun _ _ _ progress taken =>
      progress.step taken
  rw [Progress, returned] at progress
  exact progress

end StoppingTopic

end KafkaToNexus.Stopping
