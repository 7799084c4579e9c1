import KafkaToNexus.StopTimePropagation.TopicStops
import KafkaToNexus.StreamController

/-!
# Stop times on their way through the controller

A call of `setStopTime` stores the stop time in the options and sends a task to
the executor of the controller, which passes the value on to the topics.  The
task that creates the topics reads the options, and may do so before or after
the tasks of earlier calls have run.  The module says for each step what it
does to the values on their way.
-/

namespace KafkaToNexus.StopTimePropagation

open KafkaToNexus
open KafkaToNexus.Foundations
open KafkaToNexus.Foundations.ProducerQueue
open KafkaToNexus.Stream
open KafkaToNexus.ThreadedExecutor

variable {Dest : Type*}

/-! ## The controller -/

/-- The stop time that a task of the controller passes on. -/
def controllerStop : ControllerTask Dest → Option TimePoint
  | .setStopTime stop => some stop
  | _ => none

/--
The stop times that the running task has still to pass on, to the topic with
an index or, without an index, to a topic that would be created next.
-/
def controllerRun (index : Option Nat) : ControllerTask Dest → List TimePoint
  | .setStopTime stop => [stop]
  | .settingStopTime stop next =>
      match index with
      | none => []
      | some index => if next ≤ index then [stop] else []
  | _ => []

theorem controllerRun_settingStopTime
    (index next : Nat) (stop : TimePoint) :
    controllerRun (some index)
        (.settingStopTime stop next : ControllerTask Dest) =
      if next ≤ index then [stop] else [] :=
  rfl

/-- The stop time that the main thread has stored but not yet sent. -/
def unsent : MainPoint → List TimePoint
  | .sendStopTime stop => [stop]
  | _ => []

/-- The stop times on their way to a topic. -/
def inFlight
    (index : Option Nat) (controller : StreamController Dest) :
    List TimePoint :=
  controller.executor.pendingValues (controllerRun index) controllerStop ++
    unsent controller.main

/-- The stop time that the running task has read for a new topic. -/
def readByTask : ControllerTask Dest → List TimePoint
  | .creatingTopic stop _ _ => [stop]
  | _ => []

/--
The stop times in the executor all come from the main thread, and no task that
waits has read one.
-/
structure ControllerInOrder (controller : StreamController Dest) : Prop where
  stops :
    ∀ index,
      InOrder (controllerRun index) controllerStop .main controller.executor
  reads :
    InOrder readByTask (fun _ => (none : Option TimePoint)) .main
      controller.executor

/-- A task that has nothing to do with stop times. -/
structure SilentTask (task : ControllerTask Dest) : Prop where
  run : ∀ index, controllerRun index task = []
  stop : controllerStop task = none
  reads : readByTask task = []

/-- A point of the worker that has nothing to do with stop times. -/
structure SilentWorker (worker : Worker (ControllerTask Dest)) : Prop where
  run : ∀ index, runningValues (controllerRun index) worker = []
  reads : runningValues readByTask worker = []

/-- The worker is between the reading of a stop time and the new topic. -/
def IsReading
    (controller : StreamController Dest) (stop : TimePoint) : Prop :=
  ∃ item remaining,
    controller.executor.worker =
      .running (.creatingTopic stop item remaining)

/-- The settings are the same and the stop times are in order. -/
structure Advances (controller next : StreamController Dest) : Prop where
  options : next.streamerOptions = controller.streamerOptions
  calls : next.calls = controller.calls
  inOrder : ControllerInOrder controller → ControllerInOrder next

/-- The stop times on their way are the same, and no other one was read. -/
structure SameFlight (controller next : StreamController Dest) : Prop
    extends Advances controller next where
  flight : ∀ index, inFlight index next = inFlight index controller
  reading : ∀ stop, IsReading next stop → IsReading controller stop

theorem SameFlight.trans
    {first second third : StreamController Dest}
    (before : SameFlight first second) (after : SameFlight second third) :
    SameFlight first third := by
  refine ⟨⟨after.options.trans before.options,
    after.calls.trans before.calls, ?_⟩, ?_, ?_⟩
  · intro inOrder
    exact after.inOrder (before.inOrder inOrder)
  · intro index
    exact (after.flight index).trans (before.flight index)
  · intro stop reading
    exact before.reading stop (after.reading stop reading)

/-- Nothing else matters to the stop times. -/
theorem sameFlight_of_fields
    {controller next : StreamController Dest}
    (options : next.streamerOptions = controller.streamerOptions)
    (calls : next.calls = controller.calls)
    (executor : next.executor = controller.executor)
    (main : unsent next.main = unsent controller.main) :
    SameFlight controller next := by
  refine ⟨⟨options, calls, ?_⟩, ?_, ?_⟩
  · rintro ⟨stops, reads⟩
    rw [← executor] at stops reads
    exact ⟨stops, reads⟩
  · intro index
    rw [inFlight, executor, main]
    rfl
  · rintro stop ⟨item, remaining, worker⟩
    rw [executor] at worker
    exact ⟨item, remaining, worker⟩

theorem sameFlight_sendLowPriorityWork
    (controller : StreamController Dest) {task : ControllerTask Dest}
    (silent : SilentTask task) :
    SameFlight controller (controller.sendLowPriorityWork task) :=
  ⟨⟨rfl, rfl, fun inOrder =>
      ⟨fun index => (inOrder.stops index).sendLowPriorityWork _
          (silent.run index),
        inOrder.reads.sendLowPriorityWork _ silent.reads⟩⟩,
    fun _ => rfl, fun _ reading => reading⟩

theorem sameFlight_sendWork
    (controller : StreamController Dest) (caller : Thread)
    {task : ControllerTask Dest} (silent : SilentTask task) :
    SameFlight controller (controller.sendWork caller task) := by
  refine ⟨⟨rfl, rfl, ?_⟩, ?_, fun _ reading => reading⟩
  · intro inOrder
    refine ⟨?_, inOrder.reads.sendWork nofun silent.reads⟩
    intro index
    apply (inOrder.stops index).sendWork
    · rw [silent.stop]
      intro contrary
      cases contrary
    · rw [silent.run, silent.stop]
      rfl
  · intro index
    refine congrArg (· ++ unsent controller.main) ?_
    refine (pendingValues_sendWork _ _).trans ?_
    rw [silent.stop]
    exact List.append_nil _

/-- The worker goes on from one point to another without stop times. -/
theorem sameFlight_goTo
    {controller : StreamController Dest} {task : ControllerTask Dest}
    {worker : Worker (ControllerTask Dest)}
    (running : controller.executor.worker = .running task)
    (before : ∀ index, controllerRun index task = [])
    (after : SilentWorker worker) :
    SameFlight controller (controller.goTo worker) := by
  refine ⟨⟨rfl, rfl, fun inOrder =>
      ⟨fun index => (inOrder.stops index).withWorker worker,
        inOrder.reads.withWorker worker⟩⟩, ?_, ?_⟩
  · intro index
    refine congrArg (· ++ unsent controller.main) ?_
    refine (pendingValues_withWorker worker).trans ?_
    rw [pendingValues_of_running running, before, after.run]
  · rintro stop ⟨item, remaining, reading⟩
    change worker = _ at reading
    have read := after.reads
    rw [reading] at read
    cases read

/--
What a step can do to the stop times of the controller and of its topics.  The
list holds the argument of a call that begins with the step.
-/
inductive ControllerEffect
    (context : MessageContext) (controller next : StreamController Dest) :
    List TimePoint → Prop where
  | same :
      SameFlight controller next →
      next.streamers = controller.streamers →
      ControllerEffect context controller next []
  | called {stop : TimePoint} :
      (ControllerInOrder controller → ControllerInOrder next) →
      next.streamerOptions.stopTimestamp = stop →
      next.calls = controller.calls + 1 →
      next.streamers = controller.streamers →
      (∀ index, inFlight index next = inFlight index controller ++ [stop]) →
      ControllerEffect context controller next [stop]
  | read :
      Advances controller next →
      next.streamers = controller.streamers →
      (∀ index, inFlight index next = inFlight index controller) →
      (∀ stop, IsReading next stop →
        stop = controller.streamerOptions.stopTimestamp) →
      ControllerEffect context controller next []
  | added {stop : TimePoint} {item : String × SrcToDst Dest}
      {now : TimePoint} :
      SameFlight controller next →
      IsReading controller stop →
      (∀ index, inFlight index controller = inFlight none controller) →
      next.streamers =
        controller.streamers ++ [some (controller.newTopic stop item now)] →
      ControllerEffect context controller next []
  | began {stop : TimePoint} :
      Advances controller next →
      next.streamers = controller.streamers →
      inFlight none controller = stop :: inFlight none next →
      (∀ index,
        inFlight (some index) next = inFlight (some index) controller) →
      (∀ stop, ¬ IsReading next stop) →
      ControllerEffect context controller next []
  | passed {stop : TimePoint} {index : Nat} {topic after : Topic Dest} :
      Advances controller next →
      controller.streamers[index]? = some (some topic) →
      Topic.Step context controller.calls topic (.setStopTime stop) after →
      next.streamers = controller.streamers.set index (some after) →
      inFlight none next = inFlight none controller →
      inFlight (some index) controller =
        stop :: inFlight (some index) next →
      (∀ other, other ≠ index →
        inFlight (some other) next = inFlight (some other) controller) →
      (∀ stop, ¬ IsReading next stop) →
      ControllerEffect context controller next []
  | ended :
      Advances controller next →
      next.streamers = controller.streamers →
      inFlight none next = inFlight none controller →
      (∀ index, index < controller.streamers.length →
        inFlight (some index) next = inFlight (some index) controller) →
      (∀ index, inFlight index next = inFlight none next) →
      (∀ stop, ¬ IsReading next stop) →
      ControllerEffect context controller next []
  | stepped {index : Nat} {topic after : Topic Dest}
      {label : TopicLabel Dest} :
      SameFlight controller next →
      controller.streamers[index]? = some (some topic) →
      Topic.Step context controller.calls topic label after →
      sentToTopic label = [] →
      next.streamers = controller.streamers.set index (some after) →
      ControllerEffect context controller next []
  | removed :
      SameFlight controller next →
      (∀ index, inFlight index controller = inFlight none controller) →
      (∀ topic, some topic ∈ next.streamers →
        some topic ∈ controller.streamers) →
      ControllerEffect context controller next []

/-- The argument of a call of `setStopTime` that begins with a step. -/
def calledWith : StreamLabel Dest → List TimePoint
  | .setStopTime stop => [stop]
  | _ => []

theorem inFlight_of_running
    {controller : StreamController Dest} {task : ControllerTask Dest}
    (running : controller.executor.worker = .running task)
    (index : Option Nat) :
    inFlight index controller =
      controllerRun index task ++
        selectItems controllerStop controller.executor.taskQueue ++
          unsent controller.main :=
  congrArg (· ++ unsent controller.main) (pendingValues_of_running running)

/-- A running task without stop times leaves those on their way alone. -/
theorem inFlight_eq_none
    {controller : StreamController Dest} {task : ControllerTask Dest}
    (running : controller.executor.worker = .running task)
    (silent : ∀ index, controllerRun index task = []) (index : Option Nat) :
    inFlight index controller = inFlight none controller := by
  rw [inFlight_of_running running, inFlight_of_running running, silent,
    silent]

theorem advances_withWorker
    {controller next : StreamController Dest}
    {worker : Worker (ControllerTask Dest)}
    (options : next.streamerOptions = controller.streamerOptions)
    (calls : next.calls = controller.calls)
    (executor : next.executor = controller.executor.withWorker worker) :
    Advances controller next := by
  refine ⟨options, calls, ?_⟩
  intro inOrder
  constructor
  · intro index
    rw [executor]
    exact (inOrder.stops index).withWorker worker
  · rw [executor]
    exact inOrder.reads.withWorker worker

theorem sentToTopic_of_byTopic
    {label : TopicLabel Dest}
    (own : StreamController.byTopic label = true) :
    sentToTopic label = [] := by
  cases label with
  | setStopTime stop => cases own
  | _ => rfl

theorem sentToTopic_of_byDestructor
    {label : TopicLabel Dest} {caller : Thread}
    (destructor : StreamController.byDestructor caller label = true) :
    sentToTopic label = [] := by
  cases label with
  | setStopTime stop => cases destructor
  | _ => rfl

/-- A step of a call of `stop`, and the step of its caller. -/
theorem stopStep_effect
    {context : MessageContext} {caller : Thread}
    {controller next last : StreamController Dest} {point after : StopPoint}
    (taken :
      StreamController.StopStep context caller controller point next after)
    (same : SameFlight next last)
    (streamers : last.streamers = next.streamers) :
    ControllerEffect context controller last [] := by
  have first : SameFlight controller next := by
    cases taken <;> exact sameFlight_of_fields rfl rfl rfl rfl
  have flight := first.trans same
  cases taken with
  | enterTopic _ _ => exact .same flight streamers
  | firstTask _ found taken => exact .stepped flight found taken rfl streamers
  | secondTask found taken => exact .stepped flight found taken rfl streamers
  | nextTopic => exact .same flight streamers
  | lastTopic => exact .same flight streamers
  | writer => exact .same flight streamers
  | flag => exact .same flight streamers

/-- The running task ends or goes on, after a change of other fields. -/
theorem sameFlight_goOn
    {controller changed : StreamController Dest} {task : ControllerTask Dest}
    {worker : Worker (ControllerTask Dest)}
    (running : controller.executor.worker = .running task)
    (before : ∀ index, controllerRun index task = [])
    (options : changed.streamerOptions = controller.streamerOptions)
    (calls : changed.calls = controller.calls)
    (executor : changed.executor = controller.executor)
    (main : unsent changed.main = unsent controller.main)
    (after : SilentWorker worker) :
    SameFlight controller (changed.goTo worker) := by
  have same := sameFlight_of_fields options calls executor main
  rw [← executor] at running
  exact same.trans (sameFlight_goTo running before after)

/-- The running task queues a task and ends, after a change of other fields. -/
theorem sameFlight_requeue
    {controller changed : StreamController Dest}
    {running task : ControllerTask Dest}
    (worker : controller.executor.worker = .running running)
    (before : ∀ index, controllerRun index running = [])
    (options : changed.streamerOptions = controller.streamerOptions)
    (calls : changed.calls = controller.calls)
    (executor : changed.executor = controller.executor)
    (main : unsent changed.main = unsent controller.main)
    (silent : SilentTask task) :
    SameFlight controller ((changed.sendLowPriorityWork task).goTo .ready) := by
  have same := sameFlight_of_fields options calls executor main
  rw [← executor] at worker
  exact (same.trans (sameFlight_sendLowPriorityWork changed silent)).trans
    (sameFlight_goTo worker before ⟨fun _ => rfl, rfl⟩)

theorem sameFlight_getTopicNames
    {controller : StreamController Dest} {reset : Bool}
    (running : controller.executor.worker = .running (.getTopicNames reset))
    (outcome : MetadataOutcome (List String)) :
    SameFlight controller (controller.getTopicNames reset outcome) := by
  cases outcome <;>
    exact sameFlight_requeue running (fun _ => rfl) rfl rfl rfl rfl
      ⟨fun _ => rfl, rfl, rfl⟩

theorem sameFlight_initStreams
    {controller : StreamController Dest} {known : List String}
    (running : controller.executor.worker = .running (.initStreams known)) :
    SameFlight controller (controller.initStreams known) ∧
      (controller.initStreams known).streamers = controller.streamers := by
  unfold StreamController.initStreams
  dsimp only
  split
  · exact ⟨sameFlight_goOn running (fun _ => rfl) rfl rfl rfl rfl
      ⟨fun _ => rfl, rfl⟩, rfl⟩
  · exact ⟨sameFlight_goOn running (fun _ => rfl) rfl rfl rfl rfl
      ⟨fun _ => rfl, rfl⟩, rfl⟩

/-- A task that was just found has not read a stop time. -/
theorem look_not_reading
    {controller : StreamController Dest}
    {found : Option (ControllerTask Dest)}
    {executor : ThreadedExecutor Thread (ControllerTask Dest)}
    (inOrder : ControllerInOrder controller)
    (look : Look controller.executor found executor) (stop : TimePoint) :
    ¬ IsReading { controller with executor } stop := by
  rintro ⟨item, remaining, worker⟩
  have before := look.pendingValues inOrder.reads
  change executor.worker = _ at worker
  rw [pendingValues_of_running worker] at before
  cases look with
  | takeHigh ready _ =>
      simp [pendingValues, runningValues, ready, selectItems, readByTask]
        at before
  | highEmpty _ _ => cases worker
  | takeLow turn _ =>
      simp [pendingValues, runningValues, turn, selectItems, readByTask]
        at before
  | lowEmpty _ _ => cases worker

/-- Between points without stop times nothing else changes. -/
theorem controller_goTo
    {context : MessageContext} {controller : StreamController Dest}
    {task : ControllerTask Dest} {worker : Worker (ControllerTask Dest)}
    (running : controller.executor.worker = .running task)
    (before : ∀ index, controllerRun index task = [])
    (after : SilentWorker worker) :
    ControllerEffect context controller (controller.goTo worker) [] :=
  .same (sameFlight_goTo running before after) rfl

/-- The task that passes a stop time on has it for every topic. -/
theorem controller_beginStopTime
    {context : MessageContext} {controller : StreamController Dest}
    {stop : TimePoint}
    (running : controller.executor.worker = .running (.setStopTime stop)) :
    ControllerEffect context controller
      (controller.goTo (.running (.settingStopTime stop 0))) [] := by
  have first :
      inFlight none controller =
        stop ::
          inFlight none
            (controller.goTo (.running (.settingStopTime stop 0))) :=
    inFlight_of_running running none
  refine .began (advances_withWorker rfl rfl rfl) rfl first ?_ ?_
  · intro index
    refine Eq.trans ?_ (inFlight_of_running running _).symm
    refine (inFlight_of_running rfl (some index)).trans ?_
    rw [controllerRun_settingStopTime, if_pos (Nat.zero_le index)]
    rfl
  · rintro stop ⟨_, _, ⟨⟩⟩

/-- One topic gets the stop time, which the others have or will get. -/
theorem controller_passStopTime
    {context : MessageContext} {controller : StreamController Dest}
    {stop : TimePoint} {index : Nat} {topic after : Topic Dest}
    (running :
      controller.executor.worker = .running (.settingStopTime stop index))
    (found : controller.streamers[index]? = some (some topic))
    (taken :
      Topic.Step context controller.calls topic (.setStopTime stop) after) :
    ControllerEffect context controller
      ((controller.setTopic index after).goTo
        (.running (.settingStopTime stop (index + 1)))) [] := by
  refine .passed (advances_withWorker rfl rfl rfl) found taken rfl
    ?_ ?_ ?_ ?_
  · exact (inFlight_of_running running none).symm
  · refine (inFlight_of_running running _).trans ?_
    rw [controllerRun_settingStopTime, if_pos (Nat.le_refl index)]
    refine congrArg (stop :: ·) ?_
    refine Eq.trans ?_ (inFlight_of_running rfl (some index)).symm
    rw [controllerRun_settingStopTime,
      if_neg (Nat.not_succ_le_self index)]
    rfl
  · intro other different
    refine Eq.trans ?_ (inFlight_of_running running _).symm
    refine (inFlight_of_running rfl (some other)).trans ?_
    have later : index + 1 ≤ other ↔ index ≤ other := by omega
    simp only [controllerRun_settingStopTime, later]
    rfl
  · rintro stop ⟨_, _, ⟨⟩⟩

/-- Behind the last topic the stop time has been passed on. -/
theorem controller_endStopTime
    {context : MessageContext} {controller : StreamController Dest}
    {stop : TimePoint} {index : Nat}
    (running :
      controller.executor.worker = .running (.settingStopTime stop index))
    (past : controller.streamers.length ≤ index) :
    ControllerEffect context controller (controller.goTo .ready) [] := by
  refine .ended (advances_withWorker rfl rfl rfl) rfl ?_ ?_ ?_ ?_
  · exact (inFlight_of_running running none).symm
  · intro other inside
    refine Eq.trans ?_ (inFlight_of_running running _).symm
    have passed : ¬ index ≤ other := by omega
    rw [controllerRun_settingStopTime, if_neg passed]
    rfl
  · intro other
    rfl
  · rintro stop ⟨_, _, ⟨⟩⟩

/-- What every step of the controller does to the stop times. -/
theorem controller_step
    {context : MessageContext} {controller next : StreamController Dest}
    {label : StreamLabel Dest}
    (taken : StreamController.Step context controller label next)
    (inOrder : ControllerInOrder controller) :
    ControllerEffect context controller next (calledWith label) := by
  cases taken with
  | setStopTime stop idle =>
      refine .called (fun ⟨stops, reads⟩ => ⟨stops, reads⟩) rfl rfl rfl ?_
      intro index
      simp [inFlight, idle, unsent]
  | @sendStopTime stop sending =>
      refine .same ⟨⟨rfl, rfl, ?_⟩, ?_, fun _ reading => reading⟩ rfl
      · intro inOrder
        exact ⟨fun index =>
            (inOrder.stops index).sendWork (fun _ => rfl) rfl,
          inOrder.reads.sendWork nofun rfl⟩
      · intro index
        rw [inFlight, inFlight, sending]
        exact (List.append_nil _).trans (pendingValues_sendWork _ _)
  | stop idle =>
      exact .same (sameFlight_of_fields rfl rfl rfl (by rw [idle]; rfl)) rfl
  | destroy idle =>
      exact .same (sameFlight_of_fields rfl rfl rfl (by rw [idle]; rfl)) rfl
  | mainStop stopping taken =>
      rcases taken.points with ⟨_, main⟩
      refine stopStep_effect taken (sameFlight_of_fields rfl rfl rfl ?_) rfl
      rw [main, stopping]
      rfl
  | stopped stopping =>
      exact .same (sameFlight_of_fields rfl rfl rfl (by rw [stopping]; rfl)) rfl
  | exitExecutor stopping =>
      have sent :=
        sameFlight_sendWork controller .main
          (⟨fun _ => rfl, rfl, rfl⟩ : SilentTask .exitThread)
      refine .same (sent.trans (sameFlight_of_fields rfl rfl rfl ?_)) rfl
      exact (congrArg unsent stopping).symm
  | joinExecutor joining _ =>
      exact .same (sameFlight_of_fields rfl rfl rfl (by rw [joining]; rfl)) rfl
  | stopWriter stopping =>
      exact .same (sameFlight_of_fields rfl rfl rfl (by rw [stopping]; rfl)) rfl
  | joinWriter joining _ =>
      exact .same (sameFlight_of_fields rfl rfl rfl (by rw [joining]; rfl)) rfl
  | destroyTopic _ found destructor taken =>
      exact .stepped (sameFlight_of_fields rfl rfl rfl rfl) found taken
        (sentToTopic_of_byDestructor destructor) rfl
  | topicDestroyed destroying _ _ =>
      exact .same
        (sameFlight_of_fields rfl rfl rfl (by rw [destroying]; rfl)) rfl
  | topicsDestroyed destroying _ =>
      exact .same
        (sameFlight_of_fields rfl rfl rfl (by rw [destroying]; rfl)) rfl
  | destroyModules destroying =>
      exact .same
        (sameFlight_of_fields rfl rfl rfl (by rw [destroying]; rfl)) rfl
  | look look =>
      refine .same ⟨⟨rfl, rfl, fun inOrder =>
        ⟨fun index => look.inOrder (inOrder.stops index),
          look.inOrder inOrder.reads⟩⟩, ?_, ?_⟩ rfl
      · intro index
        exact congrArg (· ++ unsent controller.main)
          (look.pendingValues (inOrder.stops index))
      · intro stop reading
        exact absurd reading (look_not_reading inOrder look stop)
  | getTopicNames outcome running =>
      exact .same (sameFlight_getTopicNames running outcome)
        (by cases outcome <;> rfl)
  | initStreams running =>
      rcases sameFlight_initStreams running with ⟨same, streamers⟩
      exact .same same streamers
  | flagError running =>
      exact .same (sameFlight_goOn running (fun _ => rfl) rfl rfl rfl rfl
        ⟨fun _ => rfl, rfl⟩) rfl
  | readStopTime running =>
      refine .read (advances_withWorker rfl rfl rfl) rfl ?_ ?_
      · intro index
        refine Eq.trans ?_ (inFlight_of_running running index).symm
        rfl
      · rintro stop ⟨item, remaining, worker⟩
        cases worker
        rfl
  | createTopic now running =>
      refine .added ?_ ⟨_, _, running⟩
        (inFlight_eq_none running fun _ => rfl) rfl
      exact sameFlight_goOn running (fun _ => rfl) rfl rfl rfl rfl
        ⟨fun _ => rfl, rfl⟩
  | topicsCreated running =>
      exact .same (sameFlight_requeue running (fun _ => rfl) rfl rfl rfl rfl
        ⟨fun _ => rfl, rfl, rfl⟩) rfl
  | beginStopTime running => exact controller_beginStopTime running
  | passStopTime running found taken =>
      exact controller_passStopTime running found taken
  | endStopTime running past => exact controller_endStopTime running past
  | performPeriodicChecks running =>
      exact controller_goTo running (fun _ => rfl) ⟨fun _ => rfl, rfl⟩
  | streamDone running _ _ _ _ =>
      exact controller_goTo running (fun _ => rfl) ⟨fun _ => rfl, rfl⟩
  | keepStream running _ _ _ _ =>
      exact controller_goTo running (fun _ => rfl) ⟨fun _ => rfl, rfl⟩
  | moveStream running _ _ found _ _ _ =>
      refine .removed
        (sameFlight_goOn running (fun _ => rfl) rfl rfl rfl rfl
          ⟨fun _ => rfl, rfl⟩)
        (inFlight_eq_none running fun _ => rfl) ?_
      intro other member
      rcases List.mem_or_eq_of_mem_set member with set_ | null
      · rcases List.mem_or_eq_of_mem_set set_ with old | moved
        · exact old
        · cases moved
          exact List.mem_of_getElem? found
      · cases null
  | eraseStreams running _ _ =>
      refine .removed
        (sameFlight_goOn running (fun _ => rfl) rfl rfl rfl rfl
          ⟨fun _ => rfl, rfl⟩)
        (inFlight_eq_none running fun _ => rfl) ?_
      intro other member
      exact List.mem_of_mem_take member
  | streamsErased running _ =>
      exact .same (sameFlight_goOn running (fun _ => rfl) rfl rfl rfl rfl
        ⟨fun _ => rfl, rfl⟩) rfl
  | streamThrows running _ _ _ =>
      exact .same (sameFlight_goOn running (fun _ => rfl) rfl rfl rfl rfl
        ⟨fun _ => rfl, rfl⟩) rfl
  | storeError running =>
      exact .same (sameFlight_goOn running (fun _ => rfl) rfl rfl rfl rfl
        ⟨fun _ => rfl, rfl⟩) rfl
  | controllerStop running taken =>
      rcases taken.points with ⟨executor, _⟩
      rw [← executor] at running
      exact stopStep_effect taken
        (sameFlight_goTo running (fun _ => rfl) ⟨fun _ => rfl, rfl⟩) rfl
  | controllerStopped running =>
      exact .same (sameFlight_goOn running (fun _ => rfl) rfl rfl rfl rfl
        ⟨fun _ => rfl, rfl⟩) rfl
  | wake running =>
      exact .same (sameFlight_requeue running (fun _ => rfl) rfl rfl rfl rfl
        ⟨fun _ => rfl, rfl, rfl⟩) rfl
  | exitThread running =>
      exact controller_goTo running (fun _ => rfl) ⟨fun _ => rfl, rfl⟩
  | topic found own taken =>
      exact .stepped (sameFlight_of_fields rfl rfl rfl rfl) found taken
        (sentToTopic_of_byTopic own) rfl
  | retiredTopic _ _ _ =>
      exact .same (sameFlight_of_fields rfl rfl rfl rfl) rfl
  | retiredDestroyed _ _ =>
      exact .same (sameFlight_of_fields rfl rfl rfl rfl) rfl
  | writer _ => exact .same (sameFlight_of_fields rfl rfl rfl rfl) rfl

end KafkaToNexus.StopTimePropagation
