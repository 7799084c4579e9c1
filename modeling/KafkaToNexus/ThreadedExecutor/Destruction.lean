import KafkaToNexus.Foundations.Execution
import KafkaToNexus.ThreadedExecutor

/-!
# Executors from their construction to the end of the destructor

One thread submits tasks of both priorities and then destroys the executor.
The destructor sends a last task, which ends the loop of the worker, and waits
for the worker.  With `LowPriorityThreadExit` the last task has low priority,
so that all others come before it.

The worker looks at the queues one after the other.  A task of high priority
that is submitted between the two looks, just before the last task, is still
in its queue when the worker takes the last task and ends.
-/

namespace KafkaToNexus.ExecutorDestruction

open KafkaToNexus.Foundations
open KafkaToNexus.Foundations.ProducerQueue

variable {Job : Type*}

inductive Priority where
  | high
  | low
deriving DecidableEq, Repr

/-- A submitted task, with its priority, or the one that ends the loop. -/
inductive JobType (Job : Type*) where
  | job (priority : Priority) (job : Job)
  | exit
deriving DecidableEq, Repr

/-- The submitting thread. -/
inductive Caller where
  | sending
  /-- In the destructor, which has sent the last task. -/
  | joining
  | returned
deriving DecidableEq, Repr

structure Lifetime (Job : Type*) where
  lowPriorityExit : Bool
  runThread : Bool := true
  executor : ThreadedExecutor Unit (JobType Job) := {}
  caller : Caller := .sending

/-- The last task, sent by the destructor. -/
def Lifetime.sendExit (state : Lifetime Job) :
    ThreadedExecutor Unit (JobType Job) :=
  if state.lowPriorityExit then
    state.executor.sendLowPriorityWork () .exit
  else
    state.executor.sendWork () .exit

/-- What running a task leaves of `RunThread`. -/
def JobType.keepsRunning : JobType Job → Bool → Bool
  | .job _ _, runThread => runThread
  | .exit, _ => false

inductive Event (Job : Type*) where
  | sendWork (job : Job)
  | sendLowPriorityWork (job : Job)
  | destroy
  /-- The worker looks at one of the queues. -/
  | look (found : Option (JobType Job))
  | execute (task : JobType Job)
  /-- The worker leaves its loop. -/
  | leave
  | join
deriving DecidableEq, Repr

inductive Step : Lifetime Job → Event Job → Lifetime Job → Prop where
  | sendWork
      {state : Lifetime Job} (job : Job) (sending : state.caller = .sending) :
      Step state (.sendWork job)
        { state with
          executor := state.executor.sendWork () (.job .high job) }
  | sendLowPriorityWork
      {state : Lifetime Job} (job : Job) (sending : state.caller = .sending) :
      Step state (.sendLowPriorityWork job)
        { state with
          executor := state.executor.sendLowPriorityWork () (.job .low job) }
  | destroy
      {state : Lifetime Job} (sending : state.caller = .sending) :
      Step state .destroy
        { state with executor := state.sendExit, caller := .joining }
  | look
      {state : Lifetime Job} {found : Option (JobType Job)}
      {executor : ThreadedExecutor Unit (JobType Job)}
      (running : state.executor.worker = .ready → state.runThread = true)
      (look : ThreadedExecutor.Look state.executor found executor) :
      Step state (.look found) { state with executor }
  | execute
      {state : Lifetime Job} {task : JobType Job}
      (running : state.executor.worker = .running task) :
      Step state (.execute task)
        { state with
          runThread := task.keepsRunning state.runThread
          executor := state.executor.withWorker .ready }
  | leave
      {state : Lifetime Job} (ready : state.executor.worker = .ready)
      (ended : state.runThread = false) :
      Step state .leave
        { state with executor := state.executor.withWorker .exited }
  | join
      {state : Lifetime Job} (joining : state.caller = .joining)
      (exited : state.executor.worker = .exited) :
      Step state .join { state with caller := .returned }

/-! ## What was submitted and what was executed -/

/-- The job of a task with a given priority. -/
def JobType.jobOf (priority : Priority) : JobType Job → Option Job
  | .job own value => if own = priority then some value else none
  | .exit => none

def Event.submitted (priority : Priority) : Event Job → Option Job
  | .sendWork job => (JobType.job .high job).jobOf priority
  | .sendLowPriorityWork job => (JobType.job .low job).jobOf priority
  | _ => none

def Event.executed (priority : Priority) : Event Job → Option Job
  | .execute task => task.jobOf priority
  | _ => none

/-- The tasks of a priority in the order of their submission. -/
def submitted (priority : Priority) (trace : List (Event Job)) : List Job :=
  trace.filterMap (Event.submitted priority)

/-- The tasks of a priority in the order of their execution. -/
def executed (priority : Priority) (trace : List (Event Job)) : List Job :=
  trace.filterMap (Event.executed priority)

/-- The tasks of a priority that the executor still has. -/
def pending
    (priority : Priority) (executor : ThreadedExecutor Unit (JobType Job)) :
    List Job :=
  ThreadedExecutor.runningValues (fun task => (task.jobOf priority).toList)
      executor.worker ++
    selectItems (JobType.jobOf priority) executor.taskQueue ++
    selectItems (JobType.jobOf priority) executor.lowPriorityTaskQueue

/-- Each queue has tasks of its own priority only. -/
structure Sorted (executor : ThreadedExecutor Unit (JobType Job)) : Prop where
  high : selectItems (JobType.jobOf .low) executor.taskQueue = []
  low : selectItems (JobType.jobOf .high) executor.lowPriorityTaskQueue = []

/-- With one producer a queue hands out its oldest entry. -/
theorem dequeue_eq_cons
    {queue rest : Queue Unit (JobType Job)} {entry : Entry Unit (JobType Job)}
    (taken : Dequeue queue entry rest) :
    queue = entry :: rest := by
  rcases taken with ⟨before, after, rfl, older, rfl⟩
  cases before with
  | nil => rfl
  | cons first others => exact absurd rfl (older first List.mem_cons_self)

theorem selectItems_cons
    (select : JobType Job → Option Job) (entry : Entry Unit (JobType Job))
    (rest : Queue Unit (JobType Job)) :
    selectItems select (entry :: rest) =
      (select entry.item).toList ++ selectItems select rest := by
  simp only [selectItems, List.filterMap_cons]
  cases select entry.item with
  | none => rfl
  | some job => rfl

/-- A look moves a task from the head of its queue to the worker. -/
theorem pending_look
    {executor next : ThreadedExecutor Unit (JobType Job)}
    {found : Option (JobType Job)} (sorted : Sorted executor)
    (look : ThreadedExecutor.Look executor found next) (priority : Priority) :
    pending priority next = pending priority executor ∧ Sorted next := by
  cases look with
  | @takeHigh entry rest ready taken =>
      have queue := dequeue_eq_cons taken
      have high := sorted.high
      rw [queue, selectItems_cons] at high
      refine ⟨?_, (List.append_eq_nil_iff.mp high).2, sorted.low⟩
      simp [pending, ThreadedExecutor.runningValues, ready, queue,
        selectItems_cons]
  | highEmpty ready empty =>
      refine ⟨?_, sorted.high, sorted.low⟩
      simp [pending, ThreadedExecutor.runningValues, ready]
  | @takeLow entry rest turn taken =>
      have queue := dequeue_eq_cons taken
      have low := sorted.low
      rw [queue, selectItems_cons] at low
      rcases List.append_eq_nil_iff.mp low with ⟨other, later⟩
      refine ⟨?_, sorted.high, later⟩
      cases priority with
      | high =>
          simp [pending, ThreadedExecutor.runningValues, turn, queue,
            selectItems_cons, other]
      | low =>
          simp [pending, ThreadedExecutor.runningValues, turn, queue,
            selectItems_cons, sorted.high]
  | lowEmpty turn empty =>
      refine ⟨?_, sorted.high, sorted.low⟩
      simp [pending, ThreadedExecutor.runningValues, turn]

/-! ## The tasks of both priorities run in their order -/

/-- Submitted tasks were executed or are left, each in its place. -/
structure Accounted (trace : List (Event Job)) (state : Lifetime Job) :
    Prop where
  jobs :
    ∀ priority,
      submitted priority trace =
        executed priority trace ++ pending priority state.executor
  sorted : Sorted state.executor
  returned : state.caller = .returned → state.executor.worker = .exited

theorem submitted_concat
    (priority : Priority) (trace : List (Event Job)) (event : Event Job) :
    submitted priority (trace ++ [event]) =
      submitted priority trace ++ (event.submitted priority).toList := by
  rw [submitted, List.filterMap_append]
  cases found : event.submitted priority with
  | none => simp [submitted, found]
  | some job => simp [submitted, found]

theorem executed_concat
    (priority : Priority) (trace : List (Event Job)) (event : Event Job) :
    executed priority (trace ++ [event]) =
      executed priority trace ++ (event.executed priority).toList := by
  rw [executed, List.filterMap_append]
  cases found : event.executed priority with
  | none => simp [executed, found]
  | some job => simp [executed, found]

theorem Accounted.step
    {trace : List (Event Job)} {state next : Lifetime Job}
    {event : Event Job} (accounted : Accounted trace state)
    (step : Step state event next) :
    Accounted (trace ++ [event]) next := by
  rcases accounted with ⟨jobs, sorted, returned⟩
  cases step with
  | sendWork job sending =>
      refine ⟨fun priority => ?_, ⟨?_, sorted.low⟩, ?_⟩
      · rw [submitted_concat, executed_concat, jobs]
        cases priority with
        | high =>
            have none := sorted.low
            simp [pending, ThreadedExecutor.sendWork, Event.submitted,
              Event.executed, JobType.jobOf, none]
        | low =>
            simp [pending, ThreadedExecutor.sendWork, Event.submitted,
              Event.executed, JobType.jobOf]
      · simp [ThreadedExecutor.sendWork, JobType.jobOf, sorted.high]
      · intro ended
        exact absurd (sending.symm.trans ended) (by simp)
  | sendLowPriorityWork job sending =>
      refine ⟨fun priority => ?_, ⟨sorted.high, ?_⟩, ?_⟩
      · rw [submitted_concat, executed_concat, jobs]
        cases priority with
        | high =>
            simp [pending, ThreadedExecutor.sendLowPriorityWork,
              Event.submitted, Event.executed, JobType.jobOf]
        | low =>
            simp [pending, ThreadedExecutor.sendLowPriorityWork,
              Event.submitted, Event.executed, JobType.jobOf]
      · simp [ThreadedExecutor.sendLowPriorityWork, JobType.jobOf, sorted.low]
      · intro ended
        exact absurd (sending.symm.trans ended) (by simp)
  | destroy sending =>
      have same (priority : Priority) :
          pending priority state.sendExit = pending priority state.executor := by
        unfold Lifetime.sendExit
        split
        · simp [pending, ThreadedExecutor.sendLowPriorityWork, JobType.jobOf]
        · simp [pending, ThreadedExecutor.sendWork, JobType.jobOf]
      refine ⟨fun priority => ?_, ?_, ?_⟩
      · rw [submitted_concat, executed_concat, jobs, ← same]
        simp [Event.submitted, Event.executed]
      · show Sorted state.sendExit
        unfold Lifetime.sendExit
        split
        · refine ⟨sorted.high, ?_⟩
          simp [ThreadedExecutor.sendLowPriorityWork, JobType.jobOf, sorted.low]
        · refine ⟨?_, sorted.low⟩
          simp [ThreadedExecutor.sendWork, JobType.jobOf, sorted.high]
      · intro ended
        cases ended
  | look running look =>
      refine ⟨fun priority => ?_, (pending_look sorted look .high).2, ?_⟩
      · rw [submitted_concat, executed_concat, jobs,
          (pending_look sorted look priority).1]
        simp [Event.submitted, Event.executed]
      · intro ended
        have exited := returned ended
        cases look with
        | takeHigh ready taken => cases ready.symm.trans exited
        | highEmpty ready empty => cases ready.symm.trans exited
        | takeLow turn taken => cases turn.symm.trans exited
        | lowEmpty turn empty => cases turn.symm.trans exited
  | execute running =>
      refine ⟨fun priority => ?_, ⟨sorted.high, sorted.low⟩, ?_⟩
      · rw [submitted_concat, executed_concat, jobs]
        simp [pending, ThreadedExecutor.runningValues, running,
          ThreadedExecutor.withWorker, Event.submitted, Event.executed]
      · intro ended
        cases running.symm.trans (returned ended)
  | leave ready ended =>
      refine ⟨fun priority => ?_, ⟨sorted.high, sorted.low⟩, fun _ => rfl⟩
      rw [submitted_concat, executed_concat, jobs]
      simp [pending, ThreadedExecutor.runningValues, ready,
        ThreadedExecutor.withWorker, Event.submitted, Event.executed]
  | join joining exited =>
      refine ⟨fun priority => ?_, sorted, fun _ => exited⟩
      rw [submitted_concat, executed_concat, jobs]
      simp [Event.submitted, Event.executed]

/-! ## The last task of low priority -/

/-- The worker runs the last task or has run it. -/
def ExitTaken (state : Lifetime Job) : Prop :=
  state.executor.worker = .running .exit ∨ state.runThread = false

/-- The worker goes on in its loop. -/
structure Going (state : Lifetime Job) : Prop where
  runThread : state.runThread = true
  notExit : state.executor.worker ≠ .running .exit
  notExited : state.executor.worker ≠ .exited

theorem Going.notTaken {state : Lifetime Job} (going : Going state) :
    ¬ExitTaken state := by
  rintro (busy | stopped)
  · exact going.notExit busy
  · exact absurd (going.runThread.symm.trans stopped) (by simp)

/-- The last task is not in a queue. -/
def NoExit (queue : Queue Unit (JobType Job)) : Prop :=
  ∀ entry ∈ queue, entry.item ≠ .exit

/-- What the destructor adds to the queue of low priority. -/
inductive ExitSent : Caller → Queue Unit (JobType Job) → Prop where
  | sending : ExitSent .sending []
  | joining : ExitSent .joining [⟨(), .exit⟩]

/-- Where the last task is, if it has low priority. -/
inductive ExitPhase (state : Lifetime Job) : Prop where
  | going
      {before last : Queue Unit (JobType Job)}
      (going : Going state) (sent : ExitSent state.caller last)
      (high : NoExit state.executor.taskQueue)
      (queue : state.executor.lowPriorityTaskQueue = before ++ last)
      (low : NoExit before)
  | taken
      (sent : state.caller ≠ .sending) (taken : ExitTaken state)
      (ended : state.executor.worker ≠ .lowTurn)
      (ran : state.runThread = true → state.executor.worker = .running .exit)
      (high : NoExit state.executor.taskQueue)
      (low : state.executor.lowPriorityTaskQueue = [])

theorem NoExit.enqueue
    {queue : Queue Unit (JobType Job)} (none : NoExit queue)
    (priority : Priority) (job : Job) :
    NoExit (enqueue queue () (.job priority job)) := by
  intro entry member
  rcases List.mem_append.mp member with old | new
  · exact none entry old
  · rw [List.mem_singleton] at new
    rw [new]
    exact nofun

theorem NoExit.rest
    {rest : Queue Unit (JobType Job)} {entry : Entry Unit (JobType Job)}
    (none : NoExit (entry :: rest)) :
    NoExit rest :=
  fun other member => none other (List.mem_cons_of_mem _ member)

/-- Nothing is taken from a queue when the last task has been taken. -/
theorem ExitPhase.after_taken
    {state next : Lifetime Job} {event : Event Job}
    (phase : ExitPhase state) (isTaken : ExitTaken state)
    (step : Step state event next) :
    ExitTaken next ∧ ExitPhase next ∧
      next.executor.taskQueue = state.executor.taskQueue := by
  cases phase with
  | going going sent high queue low => exact absurd isTaken going.notTaken
  | taken sent taken ended ran high low =>
      cases step with
      | sendWork job sending => exact absurd sending sent
      | sendLowPriorityWork job sending => exact absurd sending sent
      | destroy sending => exact absurd sending sent
      | look running look =>
          have stuck :
              state.executor.worker ≠ .ready := by
            intro ready
            have busy := ran (running ready)
            rw [ready] at busy
            cases busy
          cases look with
          | takeHigh ready taken => exact absurd ready stuck
          | highEmpty ready empty => exact absurd ready stuck
          | takeLow turn taken => exact absurd turn ended
          | lowEmpty turn empty => exact absurd turn ended
      | @execute task running =>
          have stopped : task.keepsRunning state.runThread = false := by
            cases task with
            | exit => rfl
            | job priority job =>
                rcases taken with busy | stopped
                · cases running.symm.trans busy
                · exact stopped
          refine ⟨Or.inr stopped, ?_, rfl⟩
          refine .taken sent (Or.inr stopped) nofun ?_ high low
          intro keeps
          exact absurd (stopped.symm.trans keeps) (by simp)
      | leave ready stopped =>
          refine ⟨Or.inr stopped, ?_, rfl⟩
          refine .taken sent (Or.inr stopped) nofun ?_ high low
          intro keeps
          exact absurd (stopped.symm.trans keeps) (by simp)
      | join joining exited =>
          exact ⟨taken, .taken nofun taken ended ran high low, rfl⟩

/-- What holds after a step that may take the last task. -/
def StepsOn (state : Lifetime Job) (event : Event Job) (next : Lifetime Job) :
    Prop :=
  ExitPhase next ∧
    (ExitTaken next →
      event = .look (some .exit) ∧
        next.executor.taskQueue = state.executor.taskQueue)

theorem stepsOn_of_going
    {state next : Lifetime Job} {event : Event Job}
    {before last : Queue Unit (JobType Job)}
    (going : Going next) (sent : ExitSent next.caller last)
    (high : NoExit next.executor.taskQueue)
    (queue : next.executor.lowPriorityTaskQueue = before ++ last)
    (low : NoExit before) :
    StepsOn state event next :=
  ⟨.going going sent high queue low, fun taken => absurd taken going.notTaken⟩

/-- The last task is taken by the look that finds it. -/
theorem ExitPhase.look
    {state : Lifetime Job} {found : Option (JobType Job)}
    {executor : ThreadedExecutor Unit (JobType Job)}
    {before last : Queue Unit (JobType Job)}
    (going : Going state) (sent : ExitSent state.caller last)
    (high : NoExit state.executor.taskQueue)
    (queue : state.executor.lowPriorityTaskQueue = before ++ last)
    (low : NoExit before)
    (look : ThreadedExecutor.Look state.executor found executor) :
    StepsOn state (.look found) { state with executor } := by
  cases look with
  | @takeHigh entry rest ready taken =>
      rw [dequeue_eq_cons taken] at high
      have other := high entry List.mem_cons_self
      refine stepsOn_of_going ⟨going.runThread, ?_, nofun⟩ sent high.rest
        queue low
      exact fun same => other (Worker.running.inj same)
  | highEmpty ready empty =>
      exact stepsOn_of_going ⟨going.runThread, nofun, nofun⟩ sent high queue
        low
  | @takeLow entry rest turn taken =>
      rw [dequeue_eq_cons taken] at queue
      cases before with
      | cons first others =>
          rcases List.cons.inj queue with ⟨rfl, later⟩
          have other := low entry List.mem_cons_self
          refine stepsOn_of_going ⟨going.runThread, ?_, nofun⟩ sent high later
            low.rest
          exact fun same => other (Worker.running.inj same)
      | nil =>
          have joining : state.caller = .joining ∧ entry = ⟨(), .exit⟩ ∧
              rest = [] := by
            generalize state.caller = caller at sent
            cases sent with
            | sending => cases queue
            | joining =>
                rcases List.cons.inj queue with ⟨same, none⟩
                exact ⟨rfl, same, none⟩
          rcases joining with ⟨joining, rfl, rfl⟩
          refine ⟨?_, fun _ => ⟨rfl, rfl⟩⟩
          refine .taken ?_ (Or.inl rfl) nofun (fun _ => rfl) high rfl
          rw [joining]
          exact nofun
  | lowEmpty turn empty =>
      exact stepsOn_of_going ⟨going.runThread, nofun, nofun⟩ sent high queue
        low

theorem ExitPhase.before_taken
    {state next : Lifetime Job} {event : Event Job}
    (phase : ExitPhase state) (notTaken : ¬ExitTaken state)
    (lowExit : state.lowPriorityExit = true)
    (step : Step state event next) :
    StepsOn state event next := by
  cases phase with
  | taken sent taken ended ran high low => exact absurd taken notTaken
  | @going before last going sent high queue low =>
      rcases going with ⟨runs, notExit, notExited⟩
      cases step with
      | sendWork job sending =>
          exact stepsOn_of_going ⟨runs, notExit, notExited⟩ sent
            (high.enqueue .high job) queue low
      | sendLowPriorityWork job sending =>
          have none : last = [] := by
            rw [sending] at sent
            cases sent
            rfl
          subst none
          have now : NoExit state.executor.lowPriorityTaskQueue := by
            rw [queue, List.append_nil]
            exact low
          exact stepsOn_of_going ⟨runs, notExit, notExited⟩ sent high
            (List.append_nil _).symm (now.enqueue .low job)
      | destroy sending =>
          have none : last = [] := by
            rw [sending] at sent
            cases sent
            rfl
          subst none
          have now : NoExit state.executor.lowPriorityTaskQueue := by
            rw [queue, List.append_nil]
            exact low
          have lastTask :
              state.sendExit = state.executor.sendLowPriorityWork () .exit := by
            rw [Lifetime.sendExit, if_pos lowExit]
          rw [lastTask]
          exact stepsOn_of_going ⟨runs, notExit, notExited⟩ .joining high rfl
            now
      | look running look =>
          exact ExitPhase.look ⟨runs, notExit, notExited⟩ sent high queue low
            look
      | @execute task running =>
          have other : task.keepsRunning state.runThread = true := by
            cases task with
            | exit => exact absurd running notExit
            | job priority job => exact runs
          exact stepsOn_of_going ⟨other, nofun, nofun⟩ sent high queue low
      | leave ready ended => exact absurd (runs.symm.trans ended) (by simp)
      | join joining exited => exact absurd exited notExited

/-! ## Whole runs -/

/-- The last task is taken while no task of high priority waits. -/
def ExitWhenIdle (state : Lifetime Job) (event : Event Job) : Prop :=
  state.lowPriorityExit = true → event = .look (some .exit) →
    state.executor.taskQueue = []

/-- A step that meets the condition. -/
def IdleStep
    (state : Lifetime Job) (event : Event Job) (next : Lifetime Job) : Prop :=
  Step state event next ∧ ExitWhenIdle state event

/-- What is promised of an executor after the given events. -/
structure RunsWhatItWasGiven
    (trace : List (Event Job)) (state : Lifetime Job) : Prop where
  inOrder : ∀ priority, executed priority trace <+: submitted priority trace
  noneLater :
    state.caller = .returned → ∀ task next, ¬Step state (.execute task) next
  complete :
    state.lowPriorityExit = true → state.caller = .returned →
      ∀ priority, executed priority trace = submitted priority trace

def start (lowPriorityExit : Bool) : Lifetime Job where
  lowPriorityExit := lowPriorityExit

variable {lowPriorityExit : Bool} {trace : List (Event Job)}
  {state : Lifetime Job}

theorem run_accounted
    (run : Execution Step (start lowPriorityExit) trace state) :
    Accounted trace state := by
  refine run.traceInvariant Accounted ⟨fun _ => rfl, ⟨rfl, rfl⟩, nofun⟩ ?_
  intro trace state event next accounted step
  exact accounted.step step

theorem lowPriorityExit_step
    {next : Lifetime Job} {event : Event Job}
    (step : Step state event next) :
    next.lowPriorityExit = state.lowPriorityExit := by
  cases step with
  | sendWork job sending => rfl
  | sendLowPriorityWork job sending => rfl
  | destroy sending => rfl
  | look running look => rfl
  | execute running => rfl
  | leave ready ended => rfl
  | join joining exited => rfl

theorem run_lowPriorityExit
    (run : Execution Step (start lowPriorityExit) trace state) :
    state.lowPriorityExit = lowPriorityExit := by
  refine run.invariant (fun state => state.lowPriorityExit = lowPriorityExit)
    rfl ?_
  intro state event next same step
  rw [lowPriorityExit_step step]
  exact same

theorem exitTaken_of_found
    {next : Lifetime Job} (step : Step state (.look (some .exit)) next) :
    ExitTaken next := by
  generalize found :
      Event.look (some (.exit : JobType Job)) = event at step
  cases step with
  | look running look =>
      cases found
      generalize same : some JobType.exit = task at look
      cases look with
      | takeHigh ready taken => exact Or.inl (by rw [Option.some.inj same])
      | highEmpty ready empty => cases same
      | takeLow turn taken => exact Or.inl (by rw [Option.some.inj same])
      | lowEmpty turn empty => cases same
  | sendWork job sending => cases found
  | sendLowPriorityWork job sending => cases found
  | destroy sending => cases found
  | execute running => cases found
  | leave ready ended => cases found
  | join joining exited => cases found

theorem start_phase :
    ExitPhase (start lowPriorityExit : Lifetime Job) :=
  .going ⟨rfl, nofun, nofun⟩ .sending nofun (List.append_nil []).symm nofun

/-- What the steps keep that meet the condition. -/
theorem idleRun_exitPhase
    (run : Execution IdleStep (start true) trace state) :
    ExitPhase state ∧ state.lowPriorityExit = true ∧
      (ExitTaken state → state.executor.taskQueue = []) := by
  refine run.invariant
    (fun state =>
      ExitPhase state ∧ state.lowPriorityExit = true ∧
        (ExitTaken state → state.executor.taskQueue = []))
    ⟨start_phase, rfl, fun taken => ?_⟩ ?_
  · exact absurd taken (Going.notTaken ⟨rfl, nofun, nofun⟩)
  · rintro state event next ⟨phase, lowExit, empty⟩ ⟨step, idle⟩
    have lowExitNext := (lowPriorityExit_step step).trans lowExit
    by_cases isTaken : ExitTaken state
    · rcases phase.after_taken isTaken step with ⟨_, phaseNext, same⟩
      exact ⟨phaseNext, lowExitNext, fun _ => same.trans (empty isTaken)⟩
    · rcases phase.before_taken isTaken lowExit step with ⟨phaseNext, takes⟩
      refine ⟨phaseNext, lowExitNext, fun taken => ?_⟩
      rcases takes taken with ⟨found, same⟩
      exact same.trans (idle lowExit found)

/--
A run with a last task of low priority meets the condition if that task was
not taken, or no task of high priority was left behind.
-/
theorem idleRun_of_empty
    (run : Execution Step (start true) trace state) :
    ExitPhase state ∧
      ((ExitTaken state → state.executor.taskQueue = []) →
        Execution IdleStep (start true) trace state) := by
  suffices both :
      state.lowPriorityExit = true ∧ ExitPhase state ∧
        ((ExitTaken state → state.executor.taskQueue = []) →
          Execution IdleStep (start true) trace state) from both.2
  refine run.traceInvariant
    (fun trace state =>
      state.lowPriorityExit = true ∧ ExitPhase state ∧
        ((ExitTaken state → state.executor.taskQueue = []) →
          Execution IdleStep (start true) trace state))
    ⟨rfl, start_phase, fun _ => .refl⟩ ?_
  rintro trace state event next ⟨lowExit, phase, idle⟩ step
  have lowExitNext := (lowPriorityExit_step step).trans lowExit
  by_cases isTaken : ExitTaken state
  · rcases phase.after_taken isTaken step with ⟨takenNext, phaseNext, same⟩
    refine ⟨lowExitNext, phaseNext, fun empty => ?_⟩
    have emptyNow : state.executor.taskQueue = [] :=
      same.symm.trans (empty takenNext)
    exact .snoc (idle fun _ => emptyNow) ⟨step, fun _ _ => emptyNow⟩
  · rcases phase.before_taken isTaken lowExit step with ⟨phaseNext, takes⟩
    refine ⟨lowExitNext, phaseNext, fun empty => ?_⟩
    refine .snoc (idle fun taken => absurd taken isTaken) ⟨step, ?_⟩
    rintro _ rfl
    have taken := exitTaken_of_found step
    exact (takes taken).2.symm.trans (empty taken)

/-- When the last task was taken, only tasks of high priority may be left. -/
theorem pending_eq_nil_iff
    (phase : ExitPhase state)
    (exited : state.executor.worker = .exited) :
    ExitTaken state ∧
      ((∀ priority, pending priority state.executor = []) ↔
        state.executor.taskQueue = []) := by
  cases phase with
  | going going sent high queue low => exact absurd exited going.notExited
  | taken sent taken ended ran high low =>
      refine ⟨taken, ?_⟩
      constructor
      · intro none
        rw [List.eq_nil_iff_forall_not_mem]
        intro entry member
        have noJob (priority : Priority) :
            entry.item.jobOf priority = .none := by
          have left := (List.append_eq_nil_iff.mp
            (List.append_eq_nil_iff.mp (none priority)).1).2
          exact List.filterMap_eq_nil_iff.mp left entry member
        cases item : entry.item with
        | exit => exact high entry member item
        | job priority job =>
            have impossible := noJob priority
            rw [item, JobType.jobOf, if_pos rfl] at impossible
            cases impossible
      · intro empty priority
        simp [pending, ThreadedExecutor.runningValues, exited, empty, low,
          selectItems]

theorem executed_in_order
    (run : Execution Step (start lowPriorityExit) trace state)
    (priority : Priority) :
    executed priority trace <+: submitted priority trace := by
  rw [(run_accounted run).jobs priority]
  exact List.prefix_append _ _

theorem none_executed_after_return
    (run : Execution Step (start lowPriorityExit) trace state)
    (returned : state.caller = .returned) (task : JobType Job)
    (next : Lifetime Job) :
    ¬Step state (.execute task) next := by
  intro step
  have exited := (run_accounted run).returned returned
  cases step with
  | execute running => cases running.symm.trans exited

/-- A last task of high priority meets the condition. -/
theorem idleRun_of_high
    (run : Execution Step (start false) trace state) :
    Execution IdleStep (start false) trace state := by
  suffices both :
      state.lowPriorityExit = false ∧
        Execution IdleStep (start false) trace state from both.2
  refine run.traceInvariant
    (fun trace state =>
      state.lowPriorityExit = false ∧
        Execution IdleStep (start false) trace state)
    ⟨rfl, .refl⟩ ?_
  rintro trace state event next ⟨highExit, idle⟩ step
  refine ⟨(lowPriorityExit_step step).trans highExit, ?_⟩
  refine .snoc idle ⟨step, fun lowExit => ?_⟩
  exact absurd (highExit.symm.trans lowExit) (by simp)

/--
An executor runs what it was given exactly when, once the destructor has
returned, the last task was taken while no task of high priority waited.
-/
theorem runsWhatItWasGiven_iff
    (run : Execution Step (start lowPriorityExit) trace state) :
    RunsWhatItWasGiven trace state ↔
      (state.caller = .returned →
        Execution IdleStep (start lowPriorityExit) trace state) := by
  have accounted := run_accounted run
  cases lowPriorityExit with
  | false =>
      constructor
      · exact fun _ _ => idleRun_of_high run
      · refine fun _ =>
          ⟨executed_in_order run, none_executed_after_return run, ?_⟩
        intro lowExit
        rw [run_lowPriorityExit run] at lowExit
        cases lowExit
  | true =>
      rcases idleRun_of_empty run with ⟨phase, idle⟩
      have complete (returned : state.caller = .returned) :
          (∀ priority,
              executed priority trace = submitted priority trace) ↔
            state.executor.taskQueue = [] := by
        rw [← (pending_eq_nil_iff phase (accounted.returned returned)).2]
        apply forall_congr'
        intro priority
        rw [accounted.jobs priority, eq_comm, List.append_right_eq_self]
      constructor
      · intro given returned
        have empty :=
          (complete returned).mp
            (given.complete (run_lowPriorityExit run) returned)
        exact idle fun _ => empty
      · intro met
        refine ⟨executed_in_order run, none_executed_after_return run, ?_⟩
        intro _ returned
        have taken :=
          (pending_eq_nil_iff phase (accounted.returned returned)).1
        exact (complete returned).mpr
          ((idleRun_exitPhase (met returned)).2.2 taken)

theorem look_high
    {task : JobType Job} {rest : Queue Unit (JobType Job)}
    (ready : state.executor.worker = .ready) (runs : state.runThread = true)
    (queue : state.executor.taskQueue = ⟨(), task⟩ :: rest) :
    Step state (.look (some task))
      { state with
        executor :=
          { state.executor with
            taskQueue := rest, worker := .running task } } :=
  .look (fun _ => runs) (.takeHigh ready (queue ▸ dequeue_head _ rest))

theorem look_low
    {task : JobType Job} {rest : Queue Unit (JobType Job)}
    (turn : state.executor.worker = .lowTurn)
    (queue : state.executor.lowPriorityTaskQueue = ⟨(), task⟩ :: rest) :
    Step state (.look (some task))
      { state with
        executor :=
          { state.executor with
            lowPriorityTaskQueue := rest, worker := .running task } } :=
  .look (fun ready => by cases turn.symm.trans ready)
    (.takeLow turn (queue ▸ dequeue_head _ rest))

/-- A task of high priority and the last task, both found in their turn. -/
def inTurn : List (Event Nat) :=
  [.sendWork 1, .destroy, .look (some (.job .high 1)),
    .execute (.job .high 1), .look none, .look (some .exit), .execute .exit,
    .leave, .join]

def afterInTurn : Lifetime Nat where
  lowPriorityExit := true
  runThread := false
  executor := { worker := .exited }
  caller := .returned

theorem inTurn_run : Execution IdleStep (start true) inTurn afterInTurn := by
  have sent : Execution IdleStep (start true) (inTurn.take 2) _ :=
    .snoc (.single ⟨.sendWork 1 rfl, nofun⟩) ⟨.destroy rfl, nofun⟩
  have found : Execution IdleStep (start true) (inTurn.take 3) _ :=
    .snoc sent ⟨look_high rfl rfl rfl, nofun⟩
  have looked : Execution IdleStep (start true) (inTurn.take 5) _ :=
    .snoc (.snoc found ⟨.execute rfl, nofun⟩)
      ⟨.look (fun _ => rfl) (.highEmpty rfl rfl), nofun⟩
  have taken : Execution IdleStep (start true) (inTurn.take 6) _ :=
    .snoc looked ⟨look_low rfl rfl, fun _ _ => rfl⟩
  have left : Execution IdleStep (start true) (inTurn.take 8) _ :=
    .snoc (.snoc taken ⟨.execute rfl, nofun⟩) ⟨.leave rfl rfl, nofun⟩
  have returned : Execution IdleStep (start true) inTurn _ :=
    .snoc left ⟨.join rfl rfl, nofun⟩
  exact returned

theorem inTurn_runsWhatItWasGiven : RunsWhatItWasGiven inTurn afterInTurn :=
  (runsWhatItWasGiven_iff (inTurn_run.mono fun _ _ _ step => step.1)).mpr
    fun _ => inTurn_run

/-! ## A task that is left behind -/

/--
The worker finds no task of high priority; one is submitted, the executor is
destroyed, and the worker takes the last task from the other queue.
-/
def betweenTheLooks : List (Event Nat) :=
  [.look none, .sendWork 1, .destroy, .look (some .exit), .execute .exit,
    .leave, .join]

def afterTheLooks : Lifetime Nat where
  lowPriorityExit := true
  runThread := false
  executor :=
    { taskQueue := [⟨(), .job .high 1⟩], worker := .exited }
  caller := .returned

theorem betweenTheLooks_run :
    Execution Step (start true) betweenTheLooks afterTheLooks := by
  have looked : Execution Step (start true) (betweenTheLooks.take 1) _ :=
    .single (.look (fun _ => rfl) (.highEmpty rfl rfl))
  have destroyed : Execution Step (start true) (betweenTheLooks.take 3) _ :=
    .snoc (.snoc looked (.sendWork 1 rfl)) (.destroy rfl)
  have taken : Execution Step (start true) (betweenTheLooks.take 5) _ :=
    .snoc (.snoc destroyed (look_low rfl rfl)) (.execute rfl)
  have returned : Execution Step (start true) betweenTheLooks _ :=
    .snoc (.snoc taken (.leave rfl rfl)) (.join rfl rfl)
  exact returned

theorem task_left_behind :
    Execution Step (start true) betweenTheLooks afterTheLooks ∧
      ¬RunsWhatItWasGiven betweenTheLooks afterTheLooks := by
  refine ⟨betweenTheLooks_run, ?_⟩
  intro given
  have all := given.complete rfl rfl .high
  cases all

end KafkaToNexus.ExecutorDestruction
