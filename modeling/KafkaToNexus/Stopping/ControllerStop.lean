import KafkaToNexus.Stopping.TopicStop
import KafkaToNexus.StreamController

/-!
# A call of `stop` on the stream controller

`StreamController::stop` stops the topics in its vector, one after the other,
and each of them the partitions that it has.  It is called by the main thread,
and by the executor when a topic has failed.  The walk is disturbed when a
topic or a partition is created after the call, and when topics or partitions
that it has not told move to where it has been.

The module proves that a call of either thread that is not disturbed tells
every partition of every topic.
-/

namespace KafkaToNexus.Stopping

open KafkaToNexus
open KafkaToNexus.Foundations
open KafkaToNexus.Foundations.ProducerQueue
open KafkaToNexus.Stream
open KafkaToNexus.ThreadedExecutor

variable {Dest : Type*}

/-! ## Where a call is -/

/-- The callers of `StreamController::stop`. -/
inductive StopCaller where
  | main
  | executor
deriving DecidableEq, Repr

def StopCaller.thread : StopCaller → Thread
  | .main => .main
  | .executor => .controller

/-- A caller is at a point of `stop`. -/
inductive StopsAt (controller : StreamController Dest) :
    StopCaller → StopPoint → Prop where
  | main {point : StopPoint} {destroying : Bool} :
      controller.main = .stopping point destroying →
      StopsAt controller .main point
  | executor {point : StopPoint} :
      controller.executor.worker = .running (.stopping point) →
      StopsAt controller .executor point

section Points

variable {context : MessageContext} {controller next : StreamController Dest}
  {label : StreamLabel Dest} {caller : StopCaller} {point : StopPoint}

/-- What a step means for a call that is being made. -/
inductive CallEffect
    (context : MessageContext) (caller : StopCaller)
    (controller : StreamController Dest) (point : StopPoint)
    (next : StreamController Dest) : Prop where
  | still : StopsAt next caller point → CallEffect context caller controller
      point next
  | walks {walked : StreamController Dest} {after : StopPoint} :
      StreamController.StopStep context caller.thread controller point walked
        after →
      next.streamers = walked.streamers →
      StopsAt next caller after →
      CallEffect context caller controller point next
  | returns : point = .done → CallEffect context caller controller point next

theorem main_getTopicNames
    (reset : Bool) (outcome : MetadataOutcome (List String)) :
    (controller.getTopicNames reset outcome).main = controller.main := by
  cases outcome <;> rfl

theorem main_initStreams (known : List String) :
    (controller.initStreams known).main = controller.main := by
  unfold StreamController.initStreams
  dsimp only
  split <;> rfl

/-- The executor and the other threads do not move a call of the main thread. -/
theorem callEffect_main
    {destroying : Bool}
    (stops : controller.main = .stopping point destroying)
    (taken : StreamController.Step context controller label next) :
    CallEffect context .main controller point next := by
  have elsewhere {main : MainPoint}
      (other : controller.main = main)
      (differs : main ≠ .stopping point destroying) :
      CallEffect context .main controller point next :=
    absurd (other.symm.trans stops) differs
  cases taken with
  | setStopTime _ idle => exact elsewhere idle nofun
  | sendStopTime sending => exact elsewhere sending nofun
  | stop idle => exact elsewhere idle nofun
  | destroy idle => exact elsewhere idle nofun
  | mainStop here taken =>
      rw [here, MainPoint.stopping.injEq] at stops
      rcases stops with ⟨rfl, rfl⟩
      exact .walks taken rfl (.main rfl)
  | stopped here =>
      rw [here, MainPoint.stopping.injEq] at stops
      exact .returns stops.1.symm
  | exitExecutor here =>
      rw [here, MainPoint.stopping.injEq] at stops
      exact .returns stops.1.symm
  | joinExecutor joining _ => exact elsewhere joining nofun
  | stopWriter stopping => exact elsewhere stopping nofun
  | joinWriter joining _ => exact elsewhere joining nofun
  | destroyTopic destroying _ _ _ => exact elsewhere destroying nofun
  | topicDestroyed destroying _ _ => exact elsewhere destroying nofun
  | topicsDestroyed destroying _ => exact elsewhere destroying nofun
  | destroyModules destroying => exact elsewhere destroying nofun
  | getTopicNames outcome _ =>
      exact .still (.main ((main_getTopicNames _ outcome).trans stops))
  | initStreams _ =>
      exact .still (.main ((main_initStreams _).trans stops))
  | controllerStop _ taken =>
      exact .still (.main (taken.points.2.trans stops))
  | _ => exact .still (.main stops)

/-- The other threads do not move a call of the executor. -/
theorem callEffect_executor
    (stops : controller.executor.worker = .running (.stopping point))
    (taken : StreamController.Step context controller label next) :
    CallEffect context .executor controller point next := by
  have elsewhere {worker : Worker (ControllerTask Dest)}
      (other : controller.executor.worker = worker)
      (differs : worker ≠ .running (.stopping point)) :
      CallEffect context .executor controller point next :=
    absurd (other.symm.trans stops) differs
  cases taken with
  | mainStop _ taken =>
      have same := congrArg (fun executor => executor.worker) taken.points.1
      exact .still (.executor (same.trans stops))
  | look look =>
      cases look with
      | takeHigh ready _ => exact elsewhere ready nofun
      | highEmpty ready _ => exact elsewhere ready nofun
      | takeLow turn _ => exact elsewhere turn nofun
      | lowEmpty turn _ => exact elsewhere turn nofun
  | getTopicNames _ running => exact elsewhere running nofun
  | initStreams running => exact elsewhere running nofun
  | flagError running => exact elsewhere running nofun
  | readStopTime running => exact elsewhere running nofun
  | createTopic _ running => exact elsewhere running nofun
  | topicsCreated running => exact elsewhere running nofun
  | beginStopTime running => exact elsewhere running nofun
  | passStopTime running _ _ => exact elsewhere running nofun
  | endStopTime running _ => exact elsewhere running nofun
  | performPeriodicChecks running => exact elsewhere running nofun
  | streamDone running _ _ _ _ => exact elsewhere running nofun
  | keepStream running _ _ _ _ => exact elsewhere running nofun
  | moveStream running _ _ _ _ _ _ => exact elsewhere running nofun
  | eraseStreams running _ _ => exact elsewhere running nofun
  | streamsErased running _ => exact elsewhere running nofun
  | streamThrows running _ _ _ => exact elsewhere running nofun
  | storeError running => exact elsewhere running nofun
  | controllerStop running taken =>
      rw [running, Worker.running.injEq, ControllerTask.stopping.injEq]
        at stops
      subst stops
      exact .walks taken rfl (.executor rfl)
  | controllerStopped running =>
      rw [running, Worker.running.injEq, ControllerTask.stopping.injEq]
        at stops
      exact .returns stops.symm
  | wake running => exact elsewhere running nofun
  | exitThread running => exact elsewhere running nofun
  | _ => exact .still (.executor stops)

theorem callEffect
    (stops : StopsAt controller caller point)
    (taken : StreamController.Step context controller label next) :
    CallEffect context caller controller point next := by
  cases stops with
  | main stops => exact callEffect_main stops taken
  | executor stops => exact callEffect_executor stops taken

end Points

/-! ## Topics whose partitions were told -/

/-- The partitions in some places of the topics have been told. -/
def CoveredTopics
    (places : Nat → Nat → Prop) (controller : StreamController Dest) : Prop :=
  ∀ index topic, controller.streamers[index]? = some (some topic) →
    Covered (places index) topic

/-- A topic has no more partitions than some number. -/
def PartitionsWithin
    (streamers : List (Option (Topic Dest))) (index end_ : Nat) : Prop :=
  ∀ topic, streamers[index]? = some (some topic) →
    topic.consumerThreads.length ≤ end_

/-- The places that a call has told when it is at a point. -/
def Passed : StopPoint → Nat → Nat → Prop
  | .topic i _, index, _ => index < i
  | .partition i _ k _, index, place => index < i ∨ (index = i ∧ place < k)
  | .secondTask i _ k _, index, place =>
      index < i ∨ (index = i ∧ place < k + 1)
  | _, _, _ => True

/-- The place of the topic whose partitions a call is telling. -/
def Entered : StopPoint → Nat → Prop
  | .partition i _ _ _, index => index = i
  | .secondTask i _ _ _, index => index = i
  | _, _ => False

/-- The vectors are not longer than a call found them. -/
def WithinEnds (streamers : List (Option (Topic Dest))) : StopPoint → Prop
  | .topic _ last => streamers.length ≤ last
  | .partition i last _ end_ =>
      streamers.length ≤ last ∧ PartitionsWithin streamers i end_
  | .secondTask i last _ end_ =>
      streamers.length ≤ last ∧ PartitionsWithin streamers i end_
  | _ => True

/-- `remove_if` is about to move a topic to the front. -/
def AboutToMove
    (controller : StreamController Dest) (result index : Nat) : Prop :=
  controller.executor.worker = .running (.checkingStreams result index) ∧
    result < index ∧
      ∃ topic, controller.streamers[index]? = some (some topic) ∧
        topic.hasError = false ∧ topic.isDoneFlag = false

/-- Neither the controller nor a topic is about to create anything. -/
structure NothingCreated (controller : StreamController Dest) : Prop where
  noTopic :
    ∀ stopTime item remaining,
      controller.executor.worker ≠
        .running (.creatingTopic stopTime item remaining)
  noPartition :
    ∀ topic, some topic ∈ controller.streamers → ¬ AboutToCreate topic

/-- Nothing is about to be moved to the places that were told. -/
structure NothingMoved
    (places : Nat → Nat → Prop) (controller : StreamController Dest) :
    Prop where
  erased :
    ∀ (index : Nat) (topic : Topic Dest) (erased : Nat),
      controller.streamers[index]? = some (some topic) →
      AboutToErase topic erased →
      ∀ place, erased ≤ place → places index place → places index (place + 1)
  moved :
    ∀ result index, AboutToMove controller result index →
      ∀ place, places result place → places index place

/-- How a step changes the topics, as long as nothing is created. -/
inductive StreamersChange
    (context : MessageContext) (controller : StreamController Dest) :
    List (Option (Topic Dest)) → Prop where
  | same : StreamersChange context controller controller.streamers
  | topic {calls index : Nat} {topic after : Topic Dest}
      {label : TopicLabel Dest} :
      controller.streamers[index]? = some (some topic) →
      Topic.Step context calls topic label after →
      StreamersChange context controller
        (controller.streamers.set index (some after))
  | move {result index : Nat} {topic : Topic Dest} :
      AboutToMove controller result index →
      controller.streamers[index]? = some (some topic) →
      StreamersChange context controller
        ((controller.streamers.set result (some topic)).set index none)
  | erase (result : Nat) :
      StreamersChange context controller (controller.streamers.take result)

section Coverage

variable {context : MessageContext} {controller next : StreamController Dest}
  {places : Nat → Nat → Prop}

theorem StreamersChange.of_eq
    {streamers : List (Option (Topic Dest))}
    (same : streamers = controller.streamers) :
    StreamersChange context controller streamers :=
  same ▸ .same

theorem streamers_getTopicNames
    (reset : Bool) (outcome : MetadataOutcome (List String)) :
    (controller.getTopicNames reset outcome).streamers =
      controller.streamers := by
  cases outcome <;> rfl

theorem streamers_initStreams (known : List String) :
    (controller.initStreams known).streamers = controller.streamers := by
  unfold StreamController.initStreams
  dsimp only
  split <;> rfl

theorem streamersChange_stopStep
    {caller : Thread} {point after : StopPoint}
    (taken :
      StreamController.StopStep context caller controller point next after) :
    StreamersChange context controller next.streamers := by
  cases taken with
  | enterTopic _ _ => exact .same
  | firstTask _ found taken => exact .topic found taken
  | secondTask found taken => exact .topic found taken
  | nextTopic => exact .same
  | lastTopic => exact .same
  | writer => exact .same
  | flag => exact .same

theorem streamersChange
    {label : StreamLabel Dest}
    (created : NothingCreated controller)
    (taken : StreamController.Step context controller label next) :
    StreamersChange context controller next.streamers := by
  cases taken with
  | mainStop _ taken =>
      have change := streamersChange_stopStep taken
      exact change
  | controllerStop _ taken =>
      have change := streamersChange_stopStep taken
      exact change
  | destroyTopic _ found _ taken => exact .topic found taken
  | passStopTime _ found taken => exact .topic found taken
  | topic found _ taken => exact .topic found taken
  | getTopicNames outcome _ =>
      exact .of_eq (streamers_getTopicNames _ outcome)
  | initStreams _ => exact .of_eq (streamers_initStreams _)
  | createTopic _ running => exact absurd running (created.noTopic _ _ _)
  | moveStream running _ before found _ noError notDone =>
      exact .move ⟨running, before, _, found, noError, notDone⟩ found
  | eraseStreams _ _ _ => exact .erase _
  | _ => exact .same

/-- The vector does not get longer. -/
theorem StreamersChange.length_le
    {streamers : List (Option (Topic Dest))}
    (change : StreamersChange context controller streamers) :
    streamers.length ≤ controller.streamers.length := by
  cases change with
  | same => exact Nat.le_refl _
  | topic _ _ => exact Nat.le_of_eq List.length_set
  | move _ _ =>
      rw [List.length_set, List.length_set]
  | erase result => exact List.length_take_le' _ _

/-- A topic gets no more partitions, and no other one takes its place. -/
theorem PartitionsWithin.change
    {streamers : List (Option (Topic Dest))} {place end_ : Nat}
    (within : PartitionsWithin controller.streamers place end_)
    (created : NothingCreated controller)
    (stays : ∀ index, ¬ AboutToMove controller place index)
    (change : StreamersChange context controller streamers) :
    PartitionsWithin streamers place end_ := by
  intro present found
  cases change with
  | same => exact within present found
  | @topic _ index topic after _ foundTopic taken =>
      rw [List.getElem?_set] at found
      split at found
      · rename_i same
        subst same
        split at found
        · cases found
          exact Nat.le_trans
            (length_step taken
              (created.noPartition topic (List.mem_of_getElem? foundTopic)))
            (within topic foundTopic)
        · cases found
      · exact within present found
  | move about foundTopic =>
      rw [List.getElem?_set] at found
      split at found
      · split at found <;> cases found
      · rw [List.getElem?_set] at found
        split at found
        · rename_i same
          subst same
          exact absurd about (stays _)
        · exact within present found
  | erase result =>
      rw [List.getElem?_take] at found
      split at found
      · exact within present found
      · cases found

theorem WithinEnds.change
    {streamers : List (Option (Topic Dest))} {point : StopPoint}
    (within : WithinEnds controller.streamers point)
    (created : NothingCreated controller)
    (stays :
      ∀ result index, AboutToMove controller result index →
        ¬ Entered point result)
    (change : StreamersChange context controller streamers) :
    WithinEnds streamers point := by
  cases point with
  | topic i last => exact Nat.le_trans change.length_le within
  | partition i last k end_ =>
      exact ⟨Nat.le_trans change.length_le within.1,
        within.2.change created (fun index about => stays _ index about rfl)
          change⟩
  | secondTask i last k end_ =>
      exact ⟨Nat.le_trans change.length_le within.1,
        within.2.change created (fun index about => stays _ index about rfl)
          change⟩
  | _ => trivial

/-- A call enters a topic, and goes on to the next one at its end. -/
theorem WithinEnds.walk
    {thread : Thread} {point after : StopPoint}
    (within : WithinEnds controller.streamers point)
    (created : NothingCreated controller)
    (stays :
      ∀ result index, AboutToMove controller result index →
        ¬ Entered point result)
    (taken :
      StreamController.StopStep context thread controller point next after) :
    WithinEnds next.streamers after := by
  have change := streamersChange_stopStep taken
  cases taken with
  | enterTopic _ found =>
      refine ⟨within, fun present presentFound => ?_⟩
      rw [found] at presentFound
      cases presentFound
      exact Nat.le_refl _
  | firstTask _ _ _ => exact within.change created stays change
  | secondTask _ _ => exact within.change created stays change
  | nextTopic => exact within.1
  | lastTopic => trivial
  | writer => trivial
  | flag => trivial

theorem CoveredTopics.of_streamers
    (covered : CoveredTopics places controller)
    (same : next.streamers = controller.streamers) :
    CoveredTopics places next := by
  intro index topic found
  rw [same] at found
  exact covered index topic found

theorem CoveredTopics.of_places
    {fewer : Nat → Nat → Prop}
    (covered : CoveredTopics places controller)
    (inside : ∀ index place, fewer index place → places index place) :
    CoveredTopics fewer controller := by
  intro index topic found
  exact (covered index topic found).of_places (inside index) rfl

/-- A topic of the vector has taken a step. -/
theorem CoveredTopics.set
    {more : Nat → Nat → Prop} {index : Nat} {topic after : Topic Dest}
    (covered : CoveredTopics places controller)
    (found : controller.streamers[index]? = some (some topic))
    (stepped : Covered (places index) topic → Covered (more index) after)
    (others : ∀ other place, other ≠ index → more other place →
      places other place)
    (changed :
      next.streamers = controller.streamers.set index (some after)) :
    CoveredTopics more next := by
  intro other present present_found
  rw [changed, List.getElem?_set] at present_found
  split at present_found
  · rename_i same
    subst same
    split at present_found
    · cases present_found
      exact stepped (covered index topic found)
    · cases present_found
  · rename_i different
    have kept := covered other present present_found
    exact kept.of_places (fun place => others other place (Ne.symm different))
      rfl

/-- A topic of the vector has taken a step that does not disturb the walk. -/
theorem CoveredTopics.topic
    {calls index : Nat} {topic after : Topic Dest} {label : TopicLabel Dest}
    (covered : CoveredTopics places controller)
    (created : NothingCreated controller)
    (moved : NothingMoved places controller)
    (found : controller.streamers[index]? = some (some topic))
    (taken : Topic.Step context calls topic label after)
    (changed :
      next.streamers = controller.streamers.set index (some after)) :
    CoveredTopics places next := by
  apply covered.set found ?_ (fun _ _ _ => id) changed
  intro told
  apply told.step taken
  · exact created.noPartition topic (List.mem_of_getElem? found)
  · intro erased about
    exact moved.erased index topic erased found about

/-- `remove_if` has moved a topic. -/
theorem CoveredTopics.move
    {result index : Nat} {topic : Topic Dest}
    (covered : CoveredTopics places controller)
    (found : controller.streamers[index]? = some (some topic))
    (inside : ∀ place, places result place → places index place)
    (changed :
      next.streamers =
        (controller.streamers.set result (some topic)).set index none) :
    CoveredTopics places next := by
  intro other present present_found
  rw [changed, List.getElem?_set] at present_found
  split at present_found
  · split at present_found <;> cases present_found
  · rw [List.getElem?_set] at present_found
    split at present_found
    · rename_i same
      subst same
      split at present_found
      · cases present_found
        exact (covered index topic found).of_places inside rfl
      · cases present_found
    · exact covered other present present_found

/-- A step keeps what was told. -/
theorem CoveredTopics.change
    (covered : CoveredTopics places controller)
    (created : NothingCreated controller)
    (moved : NothingMoved places controller)
    (change : StreamersChange context controller next.streamers) :
    CoveredTopics places next := by
  generalize changed : next.streamers = streamers at change
  cases change with
  | same => exact covered.of_streamers changed
  | topic found taken => exact covered.topic created moved found taken changed
  | move about found =>
      exact covered.move found (moved.moved _ _ about) changed
  | erase result =>
      intro index topic found
      rw [changed, List.getElem?_take] at found
      split at found
      · exact covered index topic found
      · cases found

end Coverage

/-! ## Runs with a call of `stop` -/

/--
Nothing that a thread is about to do disturbs a call: no topic and no partition
is created, and none is moved to where the walk is or has been.
-/
structure Undisturbed
    (caller : StopCaller) (controller : StreamController Dest) : Prop where
  created : NothingCreated controller
  moved :
    ∀ point, StopsAt controller caller point →
      NothingMoved (Passed point) controller
  entered :
    ∀ point, StopsAt controller caller point →
      ∀ result index, AboutToMove controller result index →
        ¬ Entered point result

/-- A step from a state in which nothing disturbs a call. -/
structure UndisturbedStep
    (context : MessageContext) (caller : StopCaller)
    (controller : StreamController Dest) (label : StreamLabel Dest)
    (next : StreamController Dest) : Prop where
  step : StreamController.Step context controller label next
  undisturbed : Undisturbed caller controller

/-- A step from a state in which nothing is about to be created. -/
structure NoCreationStep
    (context : MessageContext) (controller : StreamController Dest)
    (label : StreamLabel Dest) (next : StreamController Dest) : Prop where
  step : StreamController.Step context controller label next
  created : NothingCreated controller

/-- All partitions of all topics have been told. -/
def AllTopicsReached (controller : StreamController Dest) : Prop :=
  ∀ topic, some topic ∈ controller.streamers → AllReached topic

section Runs

variable {context : MessageContext} {controller next : StreamController Dest}
  {caller : StopCaller}

theorem AllTopicsReached.covered
    (all : AllTopicsReached controller) (places : Nat → Nat → Prop) :
    CoveredTopics places controller := by
  intro index topic found
  exact (all topic (List.mem_of_getElem? found)).covered (places index)

theorem CoveredTopics.all
    (covered : CoveredTopics (fun _ _ => True) controller) :
    AllTopicsReached controller := by
  intro topic member owned present
  rcases List.mem_iff_getElem?.mp member with ⟨index, found⟩
  rcases List.mem_iff_getElem?.mp present with ⟨place, foundOwned⟩
  exact covered index topic found place owned trivial foundOwned

/-- What was told stays told, as long as nothing is created. -/
theorem AllTopicsReached.step
    {label : StreamLabel Dest}
    (all : AllTopicsReached controller)
    (taken : NoCreationStep context controller label next) :
    AllTopicsReached next := by
  have nothing : NothingMoved (fun _ _ => True) controller :=
    ⟨fun _ _ _ _ _ _ _ _ => trivial, fun _ _ _ _ _ => trivial⟩
  exact ((all.covered _).change taken.created nothing
    (streamersChange taken.created taken.step)).all

/-- One step of the call tells one more place. -/
theorem CoveredTopics.walk
    {thread : Thread} {point after : StopPoint}
    (covered : CoveredTopics (Passed point) controller)
    (within : WithinEnds controller.streamers point)
    (created : NothingCreated controller)
    (moved : NothingMoved (Passed point) controller)
    (taken :
      StreamController.StopStep context thread controller point next after) :
    CoveredTopics (Passed after) next := by
  cases taken with
  | enterTopic _ _ =>
      apply covered.of_places
      rintro index place (before | ⟨_, impossible⟩)
      · exact before
      · exact absurd impossible (Nat.not_lt_zero place)
  | @firstTask i n k m topic after _ found taken =>
      apply covered.set found ?_ ?_ rfl
      · intro told
        have here : Covered (· < k) topic :=
          told.of_places (fun place inside => Or.inr ⟨rfl, inside⟩) rfl
        apply (here.stopLow taken).of_places ?_ rfl
        rintro place (before | ⟨_, inside⟩)
        · exact absurd before (Nat.lt_irrefl i)
        · exact inside
      · rintro other place different (before | ⟨same, _⟩)
        · exact Or.inl before
        · exact absurd same different
  | secondTask found taken =>
      exact covered.topic created moved found taken rfl
  | @nextTopic i n m =>
      intro other present presentFound place owned inside foundOwned
      apply covered other present presentFound place owned ?_ foundOwned
      rcases Nat.lt_succ_iff_lt_or_eq.mp inside with earlier | same
      · exact Or.inl earlier
      · have bound := (List.getElem?_eq_some_iff.mp foundOwned).1
        have short := within.2 present (same ▸ presentFound)
        exact Or.inr ⟨same, Nat.lt_of_lt_of_le bound short⟩
  | @lastTopic n =>
      intro other present presentFound place owned _ foundOwned
      have bound := (List.getElem?_eq_some_iff.mp presentFound).1
      exact covered other present presentFound place owned
        (Nat.lt_of_lt_of_le bound within) foundOwned
  | writer => exact covered.of_streamers rfl
  | flag => exact covered.of_streamers rfl

/-- What a call has achieved when it is at a point, or after it. -/
inductive Told (caller : StopCaller) (controller : StreamController Dest) :
    Prop where
  | walking {point : StopPoint} :
      StopsAt controller caller point →
      CoveredTopics (Passed point) controller →
      WithinEnds controller.streamers point →
      Told caller controller
  | all : AllTopicsReached controller → Told caller controller

theorem Told.step
    {label : StreamLabel Dest}
    (told : Told caller controller)
    (taken : UndisturbedStep context caller controller label next) :
    Told caller next := by
  rcases taken with ⟨taken, created, moved, entered⟩
  cases told with
  | all all => exact .all (all.step ⟨taken, created⟩)
  | walking stops covered within =>
      have change := streamersChange created taken
      have stays := covered.change created (moved _ stops) change
      cases callEffect stops taken with
      | still stopsStill =>
          exact .walking stopsStill stays
            (within.change created (entered _ stops) change)
      | walks walk same stopsAfter =>
          have further := covered.walk within created (moved _ stops) walk
          have inside := within.walk created (entered _ stops) walk
          exact .walking stopsAfter (further.of_streamers same)
            (same ▸ inside)
      | returns done =>
          subst done
          exact .all (CoveredTopics.all stays)

/-- A caller is at one point at most. -/
theorem StopsAt.unique
    {first second : StopPoint}
    (one : StopsAt controller caller first)
    (other : StopsAt controller caller second) :
    first = second := by
  cases one with
  | main one =>
      cases other with
      | main other =>
          have same := one.symm.trans other
          rw [MainPoint.stopping.injEq] at same
          exact same.1
  | executor one =>
      cases other with
      | executor other =>
          have same := one.symm.trans other
          rw [Worker.running.injEq, ControllerTask.stopping.injEq] at same
          exact same

/-- Once an undisturbed call is done, every partition was told. -/
theorem told_of_done
    {trace : List (StreamLabel Dest)}
    (begins : StopsAt controller caller controller.firstTopic)
    (run :
      Execution (UndisturbedStep context caller) controller trace next)
    (done : StopsAt next caller .done) :
    AllTopicsReached next := by
  have start : Told caller controller := by
    apply Told.walking begins ?_ (Nat.le_refl _)
    intro index topic found place owned inside foundOwned
    exact absurd inside (Nat.not_lt_zero index)
  have told : Told caller next :=
    run.invariant (Told caller) start fun _ _ _ told taken => told.step taken
  cases told with
  | all all => exact all
  | walking stops covered _ =>
      rw [stops.unique done] at covered
      exact covered.all

/-- They stay told as long as nothing is created. -/
theorem told_after_done
    {trace : List (StreamLabel Dest)}
    (all : AllTopicsReached controller)
    (run : Execution (NoCreationStep context) controller trace next) :
    AllTopicsReached next :=
  run.invariant AllTopicsReached all fun _ _ _ all taken => all.step taken

end Runs

/--
A call of `Topic::stop` that is not disturbed tells every partition of the
topic, and one of `StreamController::stop` every partition of every topic.
The partitions of the topics stay told as long as nothing is created.
-/
theorem stop_reaches_partitions (context : MessageContext) :
    (∀ (caller : Thread) (topic : Topic Dest)
        (trace : List (StoppingLabel Dest)) (final : StoppingTopic Dest),
      Execution (StoppingTopic.UndisturbedStep context caller) { topic } trace
          final →
        final.point = .returned → AllReached final.topic) ∧
      ∀ (caller : StopCaller) (controller returned final : StreamController Dest)
          (trace later : List (StreamLabel Dest)),
        StopsAt controller caller controller.firstTopic →
        Execution (UndisturbedStep context caller) controller trace returned →
        StopsAt returned caller .done →
        Execution (NoCreationStep context) returned later final →
          AllTopicsReached final := by
  constructor
  · intro caller topic trace final run returned
    exact StoppingTopic.told_of_returned run returned
  · intro caller controller returned final trace later begins run done rest
    exact told_after_done (told_of_done begins run done) rest

/-! ## A topic with one partition -/

/-- A job whose threads wait for tasks disturbs no call. -/
theorem undisturbed_of_ready
    {controller : StreamController Dest} {topic : Topic Dest}
    {caller : StopCaller}
    (ready : controller.executor.worker = .ready)
    (only : controller.streamers = [some topic])
    (topicReady : topic.executor.worker = .ready) :
    Undisturbed caller controller := by
  have onlyTopic :
      ∀ other, some other ∈ controller.streamers → other = topic := by
    intro other member
    rw [only] at member
    exact Option.some.inj (List.mem_singleton.mp member)
  refine ⟨⟨?_, ?_⟩, fun point _ => ⟨?_, ?_⟩, fun point _ => ?_⟩
  · intro stopTime item remaining creating
    rw [ready] at creating
    cases creating
  · rintro other member ⟨_, _, creating⟩
    rw [onlyTopic other member, topicReady] at creating
    cases creating
  · rintro index other erased found ⟨_, checking, _⟩
    rw [onlyTopic other (List.mem_of_getElem? found), topicReady] at checking
    cases checking
  · rintro result index ⟨checking, _⟩
    rw [ready] at checking
    cases checking
  · rintro result index ⟨checking, _⟩
    rw [ready] at checking
    cases checking

theorem undisturbedTopic_of_ready
    {state : StoppingTopic Dest} (ready : state.topic.executor.worker = .ready) :
    StoppingTopic.Undisturbed state := by
  have noCreation : ¬ AboutToCreate state.topic := by
    rintro ⟨_, _, creating⟩
    rw [ready] at creating
    cases creating
  have noErasure (bound erased : Nat)
      (about : AboutToErase state.topic erased) : bound ≤ erased := by
    rcases about with ⟨_, checking, _⟩
    rw [ready] at checking
    cases checking
  rcases state with ⟨topic, point⟩
  cases point with
  | notCalled => trivial
  | walking index _ => exact ⟨noCreation, noErasure index⟩
  | secondTask index _ => exact ⟨noCreation, noErasure (index + 1)⟩
  | returned => exact noCreation

/-- A topic with one partition, whose threads wait for tasks. -/
def oneTopic : Topic Nat :=
  StreamController.sampleTopic ⟨0, 0, 0, false⟩ 0

/-- The main thread has called `stop` in a job with that topic. -/
def stoppingJob : StreamController Nat :=
  { StreamController.sampleJob ⟨0, 0, 0, false⟩ 0 oneTopic with
    main := .stopping (.topic 0 1) false }

/-- Both calls tell the partition. -/
theorem stop_reaches_only_partition :
    ∃ trace final jobTrace job,
      Execution (StoppingTopic.UndisturbedStep ⟨fun _ => none, fun _ => 0⟩ .main)
          { topic := oneTopic } trace final ∧
        final.point = .returned ∧
        final.topic.consumerThreads.length = 1 ∧
        AllReached final.topic ∧
        Execution
          (UndisturbedStep ⟨fun _ => none, fun _ => 0⟩ StopCaller.main)
          stoppingJob jobTrace job ∧
        job.streamers.length = 1 ∧
        AllTopicsReached job := by
  let context : MessageContext := ⟨fun _ => none, fun _ => 0⟩
  have called :
      Execution (StoppingTopic.UndisturbedStep context .main)
        { topic := oneTopic } _ _ :=
    Execution.refl.snoc ⟨.call rfl, undisturbedTopic_of_ready rfl⟩
  have first := called.snoc
    ⟨.firstTask rfl Nat.zero_lt_one
      (show Topic.Step context 0 _ _ _ from
        .stopLow rfl (.stopLow Thread.main rfl)),
      undisturbedTopic_of_ready rfl⟩
  have second := first.snoc
    ⟨.secondTask rfl
      (show Topic.Step context 0 _ _ _ from
        .stopHigh rfl (.stopHigh (List.mem_cons_self))),
      undisturbedTopic_of_ready rfl⟩
  have returned := second.snoc
    ⟨.returned rfl, undisturbedTopic_of_ready rfl⟩
  have entered :
      Execution (UndisturbedStep context StopCaller.main) stoppingJob _ _ :=
    Execution.refl.snoc
      ⟨.mainStop rfl (.enterTopic Nat.one_pos rfl),
        undisturbed_of_ready rfl rfl rfl⟩
  have firstSent := entered.snoc
    ⟨.mainStop rfl
      (.firstTask Nat.one_pos rfl
        (.stopLow rfl (.stopLow Thread.main rfl))),
      undisturbed_of_ready rfl rfl rfl⟩
  have secondSent := firstSent.snoc
    ⟨.mainStop rfl
      (.secondTask rfl (.stopHigh rfl (.stopHigh List.mem_cons_self))),
      undisturbed_of_ready rfl rfl rfl⟩
  have topicDone := secondSent.snoc
    ⟨.mainStop rfl .nextTopic,
      undisturbed_of_ready rfl rfl rfl⟩
  have walkDone := topicDone.snoc
    ⟨.mainStop rfl .lastTopic,
      undisturbed_of_ready rfl rfl rfl⟩
  have writerDone := walkDone.snoc
    ⟨.mainStop rfl .writer, undisturbed_of_ready rfl rfl rfl⟩
  have flagged := writerDone.snoc
    ⟨.mainStop rfl .flag, undisturbed_of_ready rfl rfl rfl⟩
  refine ⟨_, _, _, _, returned, rfl, rfl, ?_, flagged, rfl, ?_⟩
  · exact (stop_reaches_partitions context).1 _ _ _ _ returned rfl
  · exact (stop_reaches_partitions context).2 _ _ _ _ _ _
      (StopsAt.main rfl) flagged (StopsAt.main rfl) .refl

/-! ## A call that comes before the partitions -/

/-- No task that was queued or running in one executor is left in the other. -/
def QueuedTasksDone (before after : Topic Dest) : Prop :=
  ∀ task, 0 < leftTasks (· = task) before.executor →
    leftTasks (· = task) after.executor = 0

/-- Every run tells all partitions, once the tasks have run that were queued. -/
def StopReachesPartitions
    (context : MessageContext) (caller : Thread) (topic : Topic Dest) : Prop :=
  ∀ trace later returned final,
    Execution (StoppingTopic.Step context caller) { topic } trace returned →
    returned.point = .returned →
    Execution (StoppingTopic.Step context caller) returned later final →
    QueuedTasksDone returned.topic final.topic →
      AllReached final.topic

/-- A topic whose `start` was called. -/
def startedTopic : Topic Nat :=
  (StreamController.newSampleTopic ⟨0, 0, 0, false⟩ 0).start

/-- The topic, when the task that creates its partition is queued. -/
def topicBeforeCreation : Topic Nat :=
  { startedTopic with
    executor :=
      { taskQueue := [⟨.topic 0, .createStreams [(0, 0)]⟩] } }

/--
`stop` is called when the task that creates the partitions is queued.  It
returns without telling the partition that the task then creates.
-/
theorem later_partition_not_told :
    ¬ StopReachesPartitions ⟨fun _ => none, fun _ => 0⟩ .main startedTopic := by
  intro reaches
  let context : MessageContext := ⟨fun _ => none, fun _ => 0⟩
  have own {topic next : Topic Nat} {point : TopicStopPoint}
      (taken : Topic.Step context 0 topic .work next) :
      StoppingTopic.Step context .main ⟨topic, point⟩ (.topic .work)
        ⟨next, point⟩ :=
    .topic nofun taken
  have found :
      Execution (StoppingTopic.Step context .main) { topic := startedTopic }
        _ _ :=
    Execution.refl.snoc (own (.look (.takeHigh rfl (dequeue_head _ []))))
  have begun := found.snoc (own (.initMetadataCalls rfl))
  have asks := begun.snoc (own (.look (.takeHigh rfl (dequeue_head _ []))))
  have partitions := asks.snoc (own (.getPartitionsForTopic (.found [0]) 0 rfl))
  have seeks := partitions.snoc
    (own (.look (.takeHigh rfl (dequeue_head _ []))))
  have offsets := seeks.snoc
    (own (.getOffsetsForPartitions (.found [(0, 0)]) 0 rfl))
  have called := offsets.snoc (.call rfl)
  have returned :
      Execution (StoppingTopic.Step context .main) { topic := startedTopic } _
        ⟨topicBeforeCreation, .returned⟩ :=
    called.snoc (.returned rfl)
  have creates :
      Execution (StoppingTopic.Step context .main)
        ⟨topicBeforeCreation, .returned⟩ _ _ :=
    Execution.refl.snoc (own (.look (.takeHigh rfl (dequeue_head _ []))))
  have began := creates.snoc (own (.createStreams rfl))
  have partition := began.snoc (own (.createStream rfl))
  have created := partition.snoc (own (.streamsCreated rfl))
  have all := reaches _ _ _ _ returned rfl created ?_
  · rcases all _ (List.mem_cons_self) with finished | requested | waits
    · exact absurd finished (by decide)
    · exact absurd requested (by decide)
    · exact absurd waits (by decide)
  · intro task left
    cases task with
    | createStreams partitionOffsets => rfl
    | checkIfDone => exact absurd left (by decide)
    | _ => rfl

end KafkaToNexus.Stopping
