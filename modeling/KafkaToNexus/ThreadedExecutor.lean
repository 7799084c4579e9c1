import KafkaToNexus.Foundations.ProducerQueue

/-!
# Executors with a worker thread and two task queues

The worker of a `ThreadedExecutor` looks for a task of high priority, then for
one of low priority, and runs what it finds before it looks again.  The two
looks are separate steps, between which other threads may add tasks.

What a task does is left to the module that owns the executor.  A task that
takes several steps replaces itself in `running` by what remains of it.
-/

namespace KafkaToNexus

open KafkaToNexus.Foundations.ProducerQueue

variable {Thread Task : Type*}

/-- Where the worker thread is. -/
inductive Worker (Task : Type*) where
  /-- At the top of its loop. -/
  | ready
  /-- Between the two looks: the high priority queue was empty. -/
  | lowTurn
  | running (task : Task)
  /-- The loop was left. -/
  | exited
deriving DecidableEq, Repr

structure ThreadedExecutor (Thread Task : Type*) where
  taskQueue : Queue Thread Task := []
  lowPriorityTaskQueue : Queue Thread Task := []
  worker : Worker Task := .ready
deriving DecidableEq, Repr

namespace ThreadedExecutor

/-- Put a task in the high priority queue. -/
def sendWork
    (executor : ThreadedExecutor Thread Task) (thread : Thread)
    (task : Task) : ThreadedExecutor Thread Task :=
  { executor with taskQueue := enqueue executor.taskQueue thread task }

/-- Put a task in the low priority queue. -/
def sendLowPriorityWork
    (executor : ThreadedExecutor Thread Task) (thread : Thread)
    (task : Task) : ThreadedExecutor Thread Task :=
  { executor with
    lowPriorityTaskQueue :=
      enqueue executor.lowPriorityTaskQueue thread task }

/-- The worker is at another point of its work. -/
def withWorker
    (executor : ThreadedExecutor Thread Task) (worker : Worker Task) :
    ThreadedExecutor Thread Task :=
  { executor with worker }

/-- One look of the worker into a queue, with the task that it found. -/
inductive Look :
    ThreadedExecutor Thread Task → Option Task →
      ThreadedExecutor Thread Task → Prop where
  | takeHigh {executor : ThreadedExecutor Thread Task}
      {entry : Entry Thread Task} {rest : Queue Thread Task} :
      executor.worker = .ready →
      Dequeue executor.taskQueue entry rest →
      Look executor (some entry.item)
        { executor with taskQueue := rest, worker := .running entry.item }
  | highEmpty {executor : ThreadedExecutor Thread Task} :
      executor.worker = .ready →
      executor.taskQueue = [] →
      Look executor none { executor with worker := .lowTurn }
  | takeLow {executor : ThreadedExecutor Thread Task}
      {entry : Entry Thread Task} {rest : Queue Thread Task} :
      executor.worker = .lowTurn →
      Dequeue executor.lowPriorityTaskQueue entry rest →
      Look executor (some entry.item)
        { executor with
          lowPriorityTaskQueue := rest, worker := .running entry.item }
  | lowEmpty {executor : ThreadedExecutor Thread Task} :
      executor.worker = .lowTurn →
      executor.lowPriorityTaskQueue = [] →
      Look executor none { executor with worker := .ready }

/-! ## Counting tasks -/

/-- The tasks with a property in the two queues. -/
def queuedTasks
    (property : Task → Bool) (executor : ThreadedExecutor Thread Task) : Nat :=
  countItems property executor.taskQueue +
    countItems property executor.lowPriorityTaskQueue

/-- One when the worker runs a task with a property. -/
def runningTasks
    (property : Task → Bool) (executor : ThreadedExecutor Thread Task) : Nat :=
  match executor.worker with
  | .running task => (property task).toNat
  | .ready => 0
  | .lowTurn => 0
  | .exited => 0

@[simp]
theorem queuedTasks_sendWork
    (property : Task → Bool) (executor : ThreadedExecutor Thread Task)
    (thread : Thread) (task : Task) :
    queuedTasks property (executor.sendWork thread task) =
      queuedTasks property executor + (property task).toNat := by
  simp only [queuedTasks, sendWork, countItems_enqueue]
  omega

@[simp]
theorem queuedTasks_sendLowPriorityWork
    (property : Task → Bool) (executor : ThreadedExecutor Thread Task)
    (thread : Thread) (task : Task) :
    queuedTasks property (executor.sendLowPriorityWork thread task) =
      queuedTasks property executor + (property task).toNat := by
  simp only [queuedTasks, sendLowPriorityWork, countItems_enqueue]
  omega

/-- A look takes the task that it finds out of the queues. -/
theorem Look.queuedTasks
    {executor next : ThreadedExecutor Thread Task} {found : Option Task}
    (look : Look executor found next) (property : Task → Bool) :
    queuedTasks property executor =
      queuedTasks property next + (found.any property).toNat := by
  cases look with
  | takeHigh _ taken =>
      simp only [ThreadedExecutor.queuedTasks, taken.countItems property,
        Option.any_some]
      omega
  | highEmpty _ _ => rfl
  | takeLow _ taken =>
      simp only [ThreadedExecutor.queuedTasks, taken.countItems property,
        Option.any_some]
      omega
  | lowEmpty _ _ => rfl

/-- Before a look no task is running; after it the task that was found is. -/
theorem Look.runningTasks
    {executor next : ThreadedExecutor Thread Task} {found : Option Task}
    (look : Look executor found next) (property : Task → Bool) :
    runningTasks property executor = 0 ∧
      runningTasks property next = (found.any property).toNat := by
  cases look with
  | takeHigh ready _ => simp [ThreadedExecutor.runningTasks, ready]
  | highEmpty ready _ => simp [ThreadedExecutor.runningTasks, ready]
  | takeLow turn _ => simp [ThreadedExecutor.runningTasks, turn]
  | lowEmpty turn _ => simp [ThreadedExecutor.runningTasks, turn]

/-- The tasks with a property that are queued or running. -/
def leftTasks
    (property : Task → Bool) (executor : ThreadedExecutor Thread Task) : Nat :=
  queuedTasks property executor + runningTasks property executor

@[simp]
theorem leftTasks_sendWork
    (property : Task → Bool) (executor : ThreadedExecutor Thread Task)
    (thread : Thread) (task : Task) :
    leftTasks property (executor.sendWork thread task) =
      leftTasks property executor + (property task).toNat := by
  rw [leftTasks, queuedTasks_sendWork, Nat.add_right_comm]
  rfl

@[simp]
theorem leftTasks_sendLowPriorityWork
    (property : Task → Bool) (executor : ThreadedExecutor Thread Task)
    (thread : Thread) (task : Task) :
    leftTasks property (executor.sendLowPriorityWork thread task) =
      leftTasks property executor + (property task).toNat := by
  rw [leftTasks, queuedTasks_sendLowPriorityWork, Nat.add_right_comm]
  rfl

/-- A look moves a task from a queue to the worker. -/
theorem Look.leftTasks
    {executor next : ThreadedExecutor Thread Task} {found : Option Task}
    (look : Look executor found next) (property : Task → Bool) :
    leftTasks property next = leftTasks property executor := by
  have queued := look.queuedTasks property
  have running := look.runningTasks property
  rw [ThreadedExecutor.leftTasks, ThreadedExecutor.leftTasks, queued,
    running.1, running.2]
  rfl

/-- The running task is replaced by what the worker does next. -/
theorem leftTasks_withWorker
    (executor : ThreadedExecutor Thread Task) {task : Task}
    (running : executor.worker = .running task) (property : Task → Bool)
    (worker : Worker Task) :
    leftTasks property (executor.withWorker worker) + (property task).toNat =
      leftTasks property executor +
        runningTasks property (executor.withWorker worker) := by
  have now : runningTasks property executor = (property task).toNat := by
    rw [runningTasks, running]
  rw [leftTasks, leftTasks, now]
  exact Nat.add_right_comm _ _ _

/-! ## Executors that run no task of a kind any more -/

section Without

/-- No task with a property will run: none is left, or the worker has exited. -/
def Without
    (property : Task → Bool) (executor : ThreadedExecutor Thread Task) :
    Prop :=
  executor.worker = .exited ∨
    (queuedTasks property executor = 0 ∧ runningTasks property executor = 0)

variable {property : Task → Bool}
  {executor next : ThreadedExecutor Thread Task}

theorem Without.sendWork
    (without : Without property executor) (caller : Thread) {task : Task}
    (other : property task = false) :
    Without property (executor.sendWork caller task) := by
  rcases without with exited | ⟨queued, running⟩
  · exact Or.inl exited
  · refine Or.inr ⟨?_, running⟩
    rw [queuedTasks_sendWork, queued, other]
    rfl

theorem Without.sendLowPriorityWork
    (without : Without property executor) (caller : Thread) {task : Task}
    (other : property task = false) :
    Without property (executor.sendLowPriorityWork caller task) := by
  rcases without with exited | ⟨queued, running⟩
  · exact Or.inl exited
  · refine Or.inr ⟨?_, running⟩
    rw [queuedTasks_sendLowPriorityWork, queued, other]
    rfl

/-- The running task does not have the property. -/
theorem Without.running
    (without : Without property executor) {task : Task}
    (running : executor.worker = .running task) :
    property task = false := by
  rcases without with exited | ⟨_, none_⟩
  · rw [running] at exited
    cases exited
  · rw [runningTasks, running] at none_
    cases found : property task with
    | true =>
        have one : (property task).toNat = 0 := none_
        rw [found] at one
        cases one
    | false => rfl

/-- The running task goes on as, or is followed by, another such task. -/
theorem Without.withWorker
    (without : Without property executor) {task : Task}
    (running : executor.worker = .running task) {worker : Worker Task}
    (other : ∀ later, worker = .running later → property later = false) :
    Without property (executor.withWorker worker) := by
  rcases without with exited | ⟨queued, _⟩
  · rw [running] at exited
    cases exited
  · refine Or.inr ⟨queued, ?_⟩
    cases worker with
    | running later =>
        change (property later).toNat = 0
        rw [other later rfl]
        rfl
    | ready => rfl
    | lowTurn => rfl
    | exited => rfl

theorem Look.without
    {found : Option Task} (look : Look executor found next)
    (without : Without property executor) :
    Without property next := by
  have queued := look.queuedTasks property
  have running := look.runningTasks property
  rcases without with exited | ⟨none_, _⟩
  · cases look with
    | takeHigh ready _ => rw [exited] at ready; cases ready
    | highEmpty ready _ => rw [exited] at ready; cases ready
    | takeLow turn _ => rw [exited] at turn; cases turn
    | lowEmpty turn _ => rw [exited] at turn; cases turn
  · rw [none_] at queued
    refine Or.inr ⟨by omega, ?_⟩
    rw [running.2]
    omega

end Without

/-! ## Tasks that run before others -/

section Ahead

/--
A task that bars others is running or waits with high priority, and no task
with the property can run before it does.
-/
structure Ahead
    (bars property : Task → Bool) (executor : ThreadedExecutor Thread Task) :
    Prop where
  high : countItems property executor.taskQueue = 0
  running : runningTasks property executor = 0
  first :
    runningTasks bars executor = 1 ∨
      (0 < countItems bars executor.taskQueue ∧ executor.worker ≠ .lowTurn)

variable {bars property : Task → Bool}
  {executor next : ThreadedExecutor Thread Task}

theorem Ahead.sendWork
    (ahead : Ahead bars property executor) (caller : Thread) {task : Task}
    (other : property task = false) :
    Ahead bars property (executor.sendWork caller task) := by
  refine ⟨?_, ahead.running, ?_⟩
  · rw [ThreadedExecutor.sendWork, countItems_enqueue, ahead.high, other]
    rfl
  · rcases ahead.first with running | ⟨waiting, turn⟩
    · exact Or.inl running
    · refine Or.inr ⟨?_, turn⟩
      rw [ThreadedExecutor.sendWork, countItems_enqueue]
      omega

theorem Ahead.sendLowPriorityWork
    (ahead : Ahead bars property executor) (caller : Thread) (task : Task) :
    Ahead bars property (executor.sendLowPriorityWork caller task) :=
  ⟨ahead.high, ahead.running, ahead.first⟩

/-- The running task goes on as, or is followed by, another one. -/
theorem Ahead.withWorker
    (ahead : Ahead bars property executor) {task : Task}
    (running : executor.worker = .running task)
    (passes : bars task = false) {worker : Worker Task}
    (turn : worker ≠ .lowTurn)
    (other : ∀ later, worker = .running later → property later = false) :
    Ahead bars property (executor.withWorker worker) := by
  refine ⟨ahead.high, ?_, ?_⟩
  · cases worker with
    | running later =>
        change (property later).toNat = 0
        rw [other later rfl]
        rfl
    | ready => rfl
    | lowTurn => rfl
    | exited => rfl
  · rcases ahead.first with barred | ⟨waiting, _⟩
    · rw [runningTasks, running] at barred
      simp [passes] at barred
    · exact Or.inr ⟨waiting, turn⟩

theorem Look.ahead
    {found : Option Task} (look : Look executor found next)
    (ahead : Ahead bars property executor) :
    Ahead bars property next := by
  have first := ahead.first
  cases look with
  | takeHigh ready taken =>
      have none_ := ahead.high
      rw [taken.countItems property, Nat.add_eq_zero_iff] at none_
      refine ⟨none_.1, none_.2, ?_⟩
      rw [ThreadedExecutor.runningTasks, ready] at first
      rcases first with barred | ⟨waiting, _⟩
      · cases barred
      · rw [taken.countItems bars] at waiting
        change (bars _).toNat = 1 ∨ _
        cases barring : bars _ with
        | true => exact Or.inl rfl
        | false =>
            rw [barring] at waiting
            exact Or.inr ⟨waiting, nofun⟩
  | highEmpty ready empty =>
      rw [ThreadedExecutor.runningTasks, ready, empty] at first
      simp at first
  | takeLow turn _ =>
      rw [ThreadedExecutor.runningTasks, turn] at first
      simp at first
  | lowEmpty turn _ =>
      rw [ThreadedExecutor.runningTasks, turn] at first
      simp at first

/-- No task with a property will run: none is left, or all are barred. -/
def Barred
    (bars property : Task → Bool) (executor : ThreadedExecutor Thread Task) :
    Prop :=
  Without property executor ∨ Ahead bars property executor

theorem Barred.sendWork
    (barred : Barred bars property executor) (caller : Thread) {task : Task}
    (other : property task = false) :
    Barred bars property (executor.sendWork caller task) :=
  barred.imp (fun without => without.sendWork caller other)
    fun ahead => ahead.sendWork caller other

theorem Barred.sendLowPriorityWork
    (barred : Barred bars property executor) (caller : Thread) {task : Task}
    (other : property task = false) :
    Barred bars property (executor.sendLowPriorityWork caller task) :=
  barred.imp (fun without => without.sendLowPriorityWork caller other)
    fun ahead => ahead.sendLowPriorityWork caller task

/-- The running task does not have the property. -/
theorem Barred.running
    (barred : Barred bars property executor) {task : Task}
    (running : executor.worker = .running task) :
    property task = false := by
  rcases barred with without | ahead
  · exact without.running running
  · have none_ := ahead.running
    rw [runningTasks, running] at none_
    cases found : property task with
    | true =>
        change (property task).toNat = 0 at none_
        rw [found] at none_
        cases none_
    | false => rfl

/-- The running task goes on as another such task. -/
theorem Barred.goOn
    (barred : Barred bars property executor) {task later : Task}
    (running : executor.worker = .running task)
    (passes : bars task = false) (other : property later = false) :
    Barred bars property (executor.withWorker (.running later)) := by
  have noOther :
      ∀ found, Worker.running later = .running found →
        property found = false := by
    rintro _ ⟨⟩
    exact other
  exact barred.imp (fun without => without.withWorker running noOther)
    fun ahead => ahead.withWorker running passes nofun noOther

/-- The running task ends. -/
theorem Barred.goReady
    (barred : Barred bars property executor) {task : Task}
    (running : executor.worker = .running task)
    (passes : bars task = false) :
    Barred bars property (executor.withWorker .ready) :=
  barred.imp (fun without => without.withWorker running nofun)
    fun ahead => ahead.withWorker running passes nofun nofun

theorem Look.barred
    {found : Option Task} (look : Look executor found next)
    (barred : Barred bars property executor) :
    Barred bars property next :=
  barred.imp look.without look.ahead

end Ahead

/-! ## Values on their way through an executor -/

section Pending

variable {Value : Type*}

/-- The values that a function reads off the running task. -/
def runningValues
    (inRun : Task → List Value) : Worker Task → List Value
  | .running task => inRun task
  | .ready => []
  | .lowTurn => []
  | .exited => []

/--
The values of the running task and of the queued tasks of high priority, in
the order in which they take effect.
-/
def pendingValues
    (inRun : Task → List Value) (select : Task → Option Value)
    (executor : ThreadedExecutor Thread Task) : List Value :=
  runningValues inRun executor.worker ++
    selectItems select executor.taskQueue

/--
One thread sends all tasks with values, with high priority, and a task that
waits has the value that it will have when it begins to run.
-/
structure InOrder
    (inRun : Task → List Value) (select : Task → Option Value)
    (producer : Thread) (executor : ThreadedExecutor Thread Task) :
    Prop where
  selected : SelectedFrom select producer executor.taskQueue
  high :
    ∀ entry ∈ executor.taskQueue,
      inRun entry.item = (select entry.item).toList
  low : ∀ entry ∈ executor.lowPriorityTaskQueue, inRun entry.item = []

variable {inRun : Task → List Value} {select : Task → Option Value}
  {producer : Thread} {executor next : ThreadedExecutor Thread Task}

theorem InOrder.empty :
    InOrder inRun select producer ({} : ThreadedExecutor Thread Task) := by
  constructor <;> intro entry member <;> cases member

theorem InOrder.withWorker
    (inOrder : InOrder inRun select producer executor)
    (worker : Worker Task) :
    InOrder inRun select producer (executor.withWorker worker) :=
  ⟨inOrder.selected, inOrder.high, inOrder.low⟩

theorem InOrder.sendWork
    (inOrder : InOrder inRun select producer executor)
    {caller : Thread} {task : Task}
    (same : (select task).isSome = true → caller = producer)
    (value : inRun task = (select task).toList) :
    InOrder inRun select producer (executor.sendWork caller task) := by
  refine ⟨inOrder.selected.enqueue same, ?_, inOrder.low⟩
  intro entry member
  rcases List.mem_append.mp member with old | new
  · exact inOrder.high entry old
  · rw [List.mem_singleton] at new
    subst new
    exact value

theorem InOrder.sendLowPriorityWork
    (inOrder : InOrder inRun select producer executor)
    (caller : Thread) {task : Task} (silent : inRun task = []) :
    InOrder inRun select producer
      (executor.sendLowPriorityWork caller task) := by
  refine ⟨inOrder.selected, inOrder.high, ?_⟩
  intro entry member
  rcases List.mem_append.mp member with old | new
  · exact inOrder.low entry old
  · rw [List.mem_singleton] at new
    subst new
    exact silent

theorem pendingValues_sendWork (caller : Thread) (task : Task) :
    pendingValues inRun select (executor.sendWork caller task) =
      pendingValues inRun select executor ++ (select task).toList := by
  simp [pendingValues, ThreadedExecutor.sendWork]

/-- What a worker is to do next replaces what it was running. -/
theorem pendingValues_withWorker (worker : Worker Task) :
    pendingValues inRun select (executor.withWorker worker) =
      runningValues inRun worker ++
        selectItems select executor.taskQueue :=
  rfl

theorem pendingValues_of_running
    {task : Task} (running : executor.worker = .running task) :
    pendingValues inRun select executor =
      inRun task ++ selectItems select executor.taskQueue := by
  rw [pendingValues, running]
  rfl

theorem Look.inOrder
    {found : Option Task} (look : Look executor found next)
    (inOrder : InOrder inRun select producer executor) :
    InOrder inRun select producer next := by
  cases look with
  | takeHigh _ taken =>
      exact ⟨inOrder.selected.dequeue taken,
        fun entry member => inOrder.high entry (taken.mem_of_rest member),
        inOrder.low⟩
  | highEmpty _ _ => exact ⟨inOrder.selected, inOrder.high, inOrder.low⟩
  | takeLow _ taken =>
      exact ⟨inOrder.selected, inOrder.high,
        fun entry member => inOrder.low entry (taken.mem_of_rest member)⟩
  | lowEmpty _ _ => exact ⟨inOrder.selected, inOrder.high, inOrder.low⟩

/-- A look changes neither the values nor their order. -/
theorem Look.pendingValues
    {found : Option Task} (look : Look executor found next)
    (inOrder : InOrder inRun select producer executor) :
    pendingValues inRun select next = pendingValues inRun select executor := by
  cases look with
  | takeHigh ready taken =>
      have order := inOrder.selected.selectItems taken
      have value := inOrder.high _ taken.mem
      simp only [ThreadedExecutor.pendingValues, runningValues, ready, order,
        value, List.nil_append]
  | highEmpty ready _ =>
      simp [ThreadedExecutor.pendingValues, runningValues, ready]
  | takeLow turn taken =>
      have silent := inOrder.low _ taken.mem
      simp [ThreadedExecutor.pendingValues, runningValues, turn, silent]
  | lowEmpty turn _ =>
      simp [ThreadedExecutor.pendingValues, runningValues, turn]

end Pending

end ThreadedExecutor

end KafkaToNexus
