import KafkaToNexus.Stream.TopicSetUp
import KafkaToNexus.Stream.PartitionDelivery

/-!
# Failures of the set-up are reported

There is at most one task that sets the topic up: each stage queues the next
one or itself.  When it gives up, no such task is left that could fail later,
so the message that is stored stays.  The time-out starts at its lower bound,
and doubling keeps it between its bounds as long as it is not negative and
twice its value fits a 64-bit word.
-/

namespace KafkaToNexus.Stream

open KafkaToNexus
open KafkaToNexus.Foundations
open KafkaToNexus.Foundations.SignedWord
open KafkaToNexus.Foundations.ProducerQueue
open KafkaToNexus.Stream.PartitionDelivery
open KafkaToNexus.ThreadedExecutor

variable {Dest : Type*}

/-- The task calls the broker, or leads to one that does. -/
def TopicTask.leadsToBroker : TopicTask → Bool
  | .initMetadataCalls => true
  | .getPartitionsForTopic _ => true
  | .getOffsetsForPartitions _ _ => true
  | _ => false

/-- The task is what remains of `setErrorState`. -/
def TopicTask.storesMessage : TopicTask → Bool
  | .storeErrorMessage _ => true
  | _ => false

namespace TopicSetUp

/-! ## Steps that have nothing to do with failures -/

section Passes

variable {executor middle next : ThreadedExecutor Thread TopicTask}
variable {task : TopicTask}

/-- No call of the broker is added, and no message is to be stored. -/
structure Passes (executor next : ThreadedExecutor Thread TopicTask) :
    Prop where
  leads :
    leftTasks TopicTask.leadsToBroker next ≤
      leftTasks TopicTask.leadsToBroker executor
  queued :
    queuedTasks TopicTask.storesMessage next ≤
      queuedTasks TopicTask.storesMessage executor
  worker :
    next.worker = executor.worker ∨
      (runningTasks TopicTask.storesMessage executor = 0 ∧
        runningTasks TopicTask.storesMessage next = 0)

theorem Passes.refl : Passes executor executor :=
  ⟨Nat.le_refl _, Nat.le_refl _, Or.inl rfl⟩

theorem runningTasks_congr
    (property : TopicTask → Bool) (same : next.worker = executor.worker) :
    runningTasks property next = runningTasks property executor := by
  rw [runningTasks, runningTasks, same]

theorem Passes.trans
    (first : Passes executor middle) (second : Passes middle next) :
    Passes executor next := by
  refine
    ⟨Nat.le_trans second.leads first.leads,
      Nat.le_trans second.queued first.queued, ?_⟩
  rcases first.worker with same | ⟨before, between⟩
  · rcases second.worker with stays | ⟨between, after⟩
    · exact Or.inl (stays.trans same)
    · exact Or.inr ⟨(runningTasks_congr _ same).symm.trans between, after⟩
  · rcases second.worker with stays | ⟨_, after⟩
    · exact Or.inr ⟨before, (runningTasks_congr _ stays).trans between⟩
    · exact Or.inr ⟨before, after⟩

theorem Passes.sendWork
    (thread : Thread) (leads : task.leadsToBroker = false)
    (stores : task.storesMessage = false) :
    Passes executor (executor.sendWork thread task) := by
  refine ⟨?_, ?_, Or.inl rfl⟩
  · rw [leftTasks_sendWork, leads]
    exact Nat.le_refl _
  · rw [queuedTasks_sendWork, stores]
    exact Nat.le_refl _

theorem Passes.sendLowPriorityWork
    (thread : Thread) (leads : task.leadsToBroker = false)
    (stores : task.storesMessage = false) :
    Passes executor (executor.sendLowPriorityWork thread task) := by
  refine ⟨?_, ?_, Or.inl rfl⟩
  · rw [leftTasks_sendLowPriorityWork, leads]
    exact Nat.le_refl _
  · rw [queuedTasks_sendLowPriorityWork, stores]
    exact Nat.le_refl _

/-- The running task is replaced by one that does not matter either. -/
theorem Passes.withWorker
    {worker : Worker TopicTask}
    (running : executor.worker = .running task)
    (stored : task.storesMessage = false)
    (leads :
      runningTasks TopicTask.leadsToBroker (executor.withWorker worker) = 0)
    (stores :
      runningTasks TopicTask.storesMessage (executor.withWorker worker) = 0) :
    Passes executor (executor.withWorker worker) := by
  refine ⟨?_, Nat.le_refl _, Or.inr ⟨?_, stores⟩⟩
  · have replaced :=
      leftTasks_withWorker _ running TopicTask.leadsToBroker worker
    omega
  · rw [runningTasks, running]
    exact congrArg Bool.toNat stored

/-- A look finds no message that is to be stored. -/
theorem Passes.look
    {found : Option TopicTask} (look : Look executor found next)
    (none_ : queuedTasks TopicTask.storesMessage executor = 0) :
    Passes executor next := by
  have queued := look.queuedTasks TopicTask.storesMessage
  have running := look.runningTasks TopicTask.storesMessage
  refine ⟨Nat.le_of_eq (look.leftTasks _), by omega, Or.inr ⟨running.1, ?_⟩⟩
  rw [running.2]
  omega

end Passes

/-- What no step of a topic changes outside of the failures. -/
structure KeepsSetUp (topic next : Topic Dest) : Prop where
  settings : next.settings = topic.settings
  constructed : next.startMetaDataTime = topic.startMetaDataTime
  hasError : next.hasError = topic.hasError
  timeOut :
    next.currentMetadataTimeOut = topic.currentMetadataTimeOut ∨
      next.currentMetadataTimeOut = topic.settings.minMetadataTimeout

theorem KeepsSetUp.same
    {topic next : Topic Dest}
    (settings : next.settings = topic.settings)
    (constructed : next.startMetaDataTime = topic.startMetaDataTime)
    (hasError : next.hasError = topic.hasError)
    (timeOut : next.currentMetadataTimeOut = topic.currentMetadataTimeOut) :
    KeepsSetUp topic next :=
  ⟨settings, constructed, hasError, Or.inl timeOut⟩

/-- The step stores the message of `setErrorState`. -/
def StoresMessage (topic next : Topic Dest) : Prop :=
  ∃ msg,
    topic.executor.worker = .running (.storeErrorMessage msg) ∧
      next.executor = topic.executor.withWorker .ready ∧
      next.errorMessage = msg

/-- A step that does not call the broker. -/
theorem step_passes
    {context : MessageContext} {calls : Nat} {topic next : Topic Dest}
    {label : TopicLabel Dest}
    (taken : Topic.Step context calls topic label next)
    (notStart : label ≠ .start)
    (quiet :
      label = .work → ∀ task, topic.executor.worker = .running task →
        task.callsBroker = false)
    (none_ : queuedTasks TopicTask.storesMessage topic.executor = 0) :
    KeepsSetUp topic next ∧
      (StoresMessage topic next ∨
        Passes topic.executor next.executor ∧
          next.errorMessage = topic.errorMessage) := by
  have same {after : Topic Dest}
      (settings : after.settings = topic.settings)
      (constructed : after.startMetaDataTime = topic.startMetaDataTime)
      (hasError : after.hasError = topic.hasError)
      (timeOut : after.currentMetadataTimeOut = topic.currentMetadataTimeOut)
      (message : after.errorMessage = topic.errorMessage)
      (passes : Passes topic.executor after.executor) :
      KeepsSetUp topic after ∧
        (StoresMessage topic after ∨
          Passes topic.executor after.executor ∧
            after.errorMessage = topic.errorMessage) :=
    ⟨.same settings constructed hasError timeOut, Or.inr ⟨passes, message⟩⟩
  have stays {after : Topic Dest}
      (settings : after.settings = topic.settings)
      (constructed : after.startMetaDataTime = topic.startMetaDataTime)
      (hasError : after.hasError = topic.hasError)
      (timeOut : after.currentMetadataTimeOut = topic.currentMetadataTimeOut)
      (message : after.errorMessage = topic.errorMessage)
      (executor : after.executor = topic.executor) :=
    same settings constructed hasError timeOut message
      (executor ▸ Passes.refl)
  cases taken with
  | start => exact absurd rfl notStart
  | setStopTime stop =>
      exact same rfl rfl rfl rfl rfl (.sendWork _ rfl rfl)
  | look look => exact same rfl rfl rfl rfl rfl (.look look none_)
  | initMetadataCalls running =>
      refine same rfl rfl rfl rfl rfl ⟨?_, ?_, Or.inr ⟨?_, rfl⟩⟩
      · have replaced :=
          leftTasks_withWorker
            (topic.executor.sendWork topic.self (.getPartitionsForTopic true))
            running TopicTask.leadsToBroker .ready
        rw [leftTasks_sendWork] at replaced
        exact Nat.le_of_add_le_add_right (Nat.le_of_eq replaced)
      · show queuedTasks _ (topic.executor.sendWork _ _) ≤ _
        rw [queuedTasks_sendWork]
        exact Nat.le_refl _
      · rw [runningTasks, running]
        rfl
  | getPartitionsForTopic _ _ running =>
      cases quiet rfl _ running
  | getOffsetsForPartitions _ _ running =>
      cases quiet rfl _ running
  | storeErrorMessage running =>
      exact ⟨.same rfl rfl rfl rfl, Or.inl ⟨_, running, rfl, rfl⟩⟩
  | createStreams running =>
      exact
        ⟨⟨rfl, rfl, rfl, Or.inr rfl⟩,
          Or.inr ⟨.withWorker running rfl rfl rfl, rfl⟩⟩
  | createStream running =>
      exact same rfl rfl rfl rfl rfl (.withWorker running rfl rfl rfl)
  | streamsCreated running =>
      exact same rfl rfl rfl rfl rfl
        ((Passes.sendLowPriorityWork _ rfl rfl).trans
          (.withWorker running rfl rfl rfl))
  | beginStopTime running =>
      exact same rfl rfl rfl rfl rfl (.withWorker running rfl rfl rfl)
  | passStopTime running _ _ =>
      exact same rfl rfl rfl rfl rfl (.withWorker running rfl rfl rfl)
  | endStopTime running _ =>
      exact same rfl rfl rfl rfl rfl (.withWorker running rfl rfl rfl)
  | checkIfDone running =>
      exact same rfl rfl rfl rfl rfl (.withWorker running rfl rfl rfl)
  | keepPartition running _ _ =>
      exact same rfl rfl rfl rfl rfl (.withWorker running rfl rfl rfl)
  | erasePartition _ _ _ => exact stays rfl rfl rfl rfl rfl rfl
  | partitionsChecked running _ _ =>
      exact same rfl rfl rfl rfl rfl (.withWorker running rfl rfl rfl)
  | wake running =>
      exact same rfl rfl rfl rfl rfl
        ((Passes.sendLowPriorityWork _ rfl rfl).trans
          (.withWorker running rfl rfl rfl))
  | exitThread running =>
      exact same rfl rfl rfl rfl rfl (.withWorker running rfl rfl rfl)
  | partition _ _ _ => exact stays rfl rfl rfl rfl rfl rfl
  | dyingPartition _ _ _ => exact stays rfl rfl rfl rfl rfl rfl
  | destroyPartition _ _ _ => exact stays rfl rfl rfl rfl rfl rfl
  | partitionDestroyed _ _ => exact stays rfl rfl rfl rfl rfl rfl
  | stopLow _ _ => exact stays rfl rfl rfl rfl rfl rfl
  | stopHigh _ _ => exact stays rfl rfl rfl rfl rfl rfl
  | destroy caller _ => exact same rfl rfl rfl rfl rfl (.sendWork _ rfl rfl)
  | join _ _ _ => exact stays rfl rfl rfl rfl rfl rfl
  | destroyMember _ _ _ _ => exact stays rfl rfl rfl rfl rfl rfl
  | destroyed _ _ _ => exact stays rfl rfl rfl rfl rfl rfl

/-! ## Steps that fail -/

theorem retryOrGiveUp_cases
    (topic : Topic Dest) (task : TopicTask) (msg : String)
    (now : TimePoint) :
    (topic.shouldGiveUp now = true ∧
        topic.retryOrGiveUp task msg now =
          { topic with hasError := true }.goTo
            (.running (.storeErrorMessage msg))) ∨
      (topic.shouldGiveUp now = false ∧
        topic.retryOrGiveUp task msg now =
          ({ topic with
              currentMetadataTimeOut :=
                topic.currentMetadataTimeOut.doubledUpTo
                  topic.settings.maxMetadataTimeout
            }.sendLowPriorityWork topic.self task).goTo .ready) := by
  unfold Topic.retryOrGiveUp
  cases timeIsOver : topic.shouldGiveUp now with
  | true => exact Or.inl ⟨rfl, if_pos rfl⟩
  | false => exact Or.inr ⟨rfl, if_neg (by decide)⟩

/-- Only the time-out is set for the first attempt. -/
structure SameButTimeOut (topic next : Topic Dest) : Prop where
  settings : next.settings = topic.settings
  constructed : next.startMetaDataTime = topic.startMetaDataTime
  hasError : next.hasError = topic.hasError
  errorMessage : next.errorMessage = topic.errorMessage
  executor : next.executor = topic.executor
  self : next.self = topic.self
  timeOut :
    next.currentMetadataTimeOut = topic.currentMetadataTimeOut ∨
      next.currentMetadataTimeOut = topic.settings.minMetadataTimeout

theorem sameButTimeOut_resetTimeOut (topic : Topic Dest) (reset : Bool) :
    SameButTimeOut topic (topic.resetTimeOut reset) := by
  cases reset with
  | true => exact ⟨rfl, rfl, rfl, rfl, rfl, rfl, Or.inr rfl⟩
  | false => exact ⟨rfl, rfl, rfl, rfl, rfl, rfl, Or.inl rfl⟩

/-! ## The invariant -/

/-- What a topic has told after it gave up. -/
structure Told (what : String) (topic : Topic Dest) : Prop where
  hasError : topic.hasError = true
  none_ : leftTasks TopicTask.leadsToBroker topic.executor = 0
  message :
    (∃ front back,
        topic.executor.worker =
          .running (.storeErrorMessage (front ++ what ++ back))) ∨
      (runningTasks TopicTask.storesMessage topic.executor = 0 ∧
        ∃ front back, topic.errorMessage = front ++ what ++ back)

/-- What every step that throws nothing unexpected keeps. -/
structure Reporting (start : Topic Dest) (setUp : TopicSetUp Dest) :
    Prop where
  noneEscaped : setUp.terminated = false
  settings : setUp.topic.settings = start.settings
  constructed : setUp.topic.startMetaDataTime = start.startMetaDataTime
  timeOut :
    start.settings.minMetadataTimeout ≤ setUp.topic.currentMetadataTimeOut ∧
      setUp.topic.currentMetadataTimeOut ≤ start.settings.maxMetadataTimeout
  one : leftTasks TopicTask.leadsToBroker setUp.topic.executor ≤ 1
  queued : queuedTasks TopicTask.storesMessage setUp.topic.executor = 0
  told : ∀ what, setUp.abandoned = some what → Told what setUp.topic

variable {start : Topic Dest} {setUp : TopicSetUp Dest}

/-- A time-out that is kept or set to its lower bound stays in its range. -/
theorem Reporting.timeOut_of_eq
    (reporting : Reporting start setUp)
    (ordered :
      start.settings.minMetadataTimeout ≤ start.settings.maxMetadataTimeout)
    {timeOut : Duration}
    (same :
      timeOut = setUp.topic.currentMetadataTimeOut ∨
        timeOut = setUp.topic.settings.minMetadataTimeout) :
    start.settings.minMetadataTimeout ≤ timeOut ∧
      timeOut ≤ start.settings.maxMetadataTimeout := by
  rcases same with rfl | rfl
  · exact reporting.timeOut
  · rw [reporting.settings]
    exact ⟨le_refl _, ordered⟩

/-- While a task calls the broker nothing was abandoned. -/
theorem Reporting.not_abandoned
    (reporting : Reporting start setUp) {task : TopicTask}
    (running : setUp.topic.executor.worker = .running task)
    (leads : task.leadsToBroker = true) :
    setUp.abandoned = none := by
  cases abandoned : setUp.abandoned with
  | none => rfl
  | some what =>
      have none_ := (reporting.told what abandoned).none_
      rw [leftTasks, runningTasks, running] at none_
      simp [leads] at none_

theorem Reporting.regular
    {context : MessageContext} {calls : Nat} {next : Topic Dest}
    {label : TopicLabel Dest}
    (reporting : Reporting start setUp)
    (ordered :
      start.settings.minMetadataTimeout ≤ start.settings.maxMetadataTimeout)
    (taken : Topic.Step context calls setUp.topic label next)
    (notStart : label ≠ .start)
    (quiet :
      label = .work → ∀ task, setUp.topic.executor.worker = .running task →
        task.callsBroker = false) :
    Reporting start { setUp with topic := next } := by
  rcases step_passes taken notStart quiet reporting.queued with
    ⟨keeps, stored⟩
  have settings := keeps.settings.trans reporting.settings
  have constructed := keeps.constructed.trans reporting.constructed
  have timeOut := reporting.timeOut_of_eq ordered keeps.timeOut
  rcases stored with ⟨msg, running, executor, message⟩ | ⟨passes, message⟩
  · have left :
        leftTasks TopicTask.leadsToBroker next.executor =
          leftTasks TopicTask.leadsToBroker setUp.topic.executor := by
      rw [executor]
      exact leftTasks_withWorker _ running TopicTask.leadsToBroker .ready
    refine
      ⟨reporting.noneEscaped, settings, constructed, timeOut, ?_, ?_, ?_⟩
    · show leftTasks _ next.executor ≤ 1
      rw [left]
      exact reporting.one
    · show queuedTasks _ next.executor = 0
      rw [executor]
      exact reporting.queued
    · intro what abandoned
      have told := reporting.told what abandoned
      refine ⟨keeps.hasError.trans told.hasError, left.trans told.none_, ?_⟩
      right
      constructor
      · show runningTasks _ next.executor = 0
        rw [executor]
        rfl
      · rcases told.message with ⟨front, back, stores⟩ | ⟨idle, _⟩
        · refine ⟨front, back, ?_⟩
          rw [running, Worker.running.injEq,
            TopicTask.storeErrorMessage.injEq] at stores
          exact message.trans stores
        · rw [runningTasks, running] at idle
          cases idle
  · refine
      ⟨reporting.noneEscaped, settings, constructed, timeOut,
        Nat.le_trans passes.leads reporting.one, ?_, ?_⟩
    · exact Nat.le_zero.mp (reporting.queued ▸ passes.queued)
    · intro what abandoned
      have told := reporting.told what abandoned
      refine
        ⟨keeps.hasError.trans told.hasError,
          Nat.le_zero.mp (told.none_ ▸ passes.leads), ?_⟩
      rcases passes.worker with same | ⟨before, after⟩
      · show (∃ front back, next.executor.worker = _) ∨ _
        rw [same, message, runningTasks_congr _ same]
        exact told.message
      · right
        refine ⟨after, ?_⟩
        show ∃ front back, next.errorMessage = front ++ what ++ back
        rw [message]
        rcases told.message with ⟨front, back, stores⟩ | ⟨_, found⟩
        · rw [runningTasks, stores] at before
          cases before
        · exact found

/-- A call of the broker has succeeded, and the next stage is queued. -/
theorem Reporting.found
    {task later : TopicTask} {reset : Bool}
    (reporting : Reporting start setUp)
    (ordered :
      start.settings.minMetadataTimeout ≤ start.settings.maxMetadataTimeout)
    (running : setUp.topic.executor.worker = .running task)
    (leads : task.leadsToBroker = true)
    (stores : later.storesMessage = false) :
    Reporting start
      { setUp with
        topic :=
          ((setUp.topic.resetTimeOut reset).sendWork
            (setUp.topic.resetTimeOut reset).self later).goTo .ready } := by
  have same := sameButTimeOut_resetTimeOut setUp.topic reset
  refine
    ⟨reporting.noneEscaped, same.settings.trans reporting.settings,
      same.constructed.trans reporting.constructed,
      reporting.timeOut_of_eq ordered same.timeOut, ?_, ?_, ?_⟩
  · have replaced :=
      leftTasks_withWorker
        ((setUp.topic.resetTimeOut reset).executor.sendWork
          (setUp.topic.resetTimeOut reset).self later)
        (same.executor ▸ running) TopicTask.leadsToBroker .ready
    rw [leftTasks_sendWork, leads, same.executor] at replaced
    have most := Bool.toNat_le later.leadsToBroker
    have one := reporting.one
    show leftTasks _ (ThreadedExecutor.withWorker _ .ready) ≤ 1
    have idle :
        runningTasks TopicTask.leadsToBroker
          ((setUp.topic.executor.sendWork
            (setUp.topic.resetTimeOut reset).self later).withWorker
              .ready) = 0 := rfl
    rw [idle] at replaced
    simp only [Topic.sendWork, same.executor]
    simp only [Bool.toNat_true] at replaced
    omega
  · show queuedTasks _ (ThreadedExecutor.sendWork _ _ _) = 0
    rw [queuedTasks_sendWork, same.executor, reporting.queued, stores]
    rfl
  · intro what abandoned
    rw [reporting.not_abandoned running leads] at abandoned
    cases abandoned

/-- A call of the broker has failed. -/
theorem Reporting.failed
    {task : TopicTask} {reset : Bool} {what front back : String}
    {now : TimePoint}
    (reporting : Reporting start setUp)
    (ordered :
      start.settings.minMetadataTimeout ≤ start.settings.maxMetadataTimeout)
    (doubles :
      setUp.topic.shouldGiveUp now = false →
        0 ≤ (setUp.topic.resetTimeOut reset).currentMetadataTimeOut ∧
          InRange 64
            ((setUp.topic.resetTimeOut reset).currentMetadataTimeOut * 2))
    (running : setUp.topic.executor.worker = .running task)
    (leads : task.leadsToBroker = true)
    (again : task.again.leadsToBroker = true)
    (stores : task.again.storesMessage = false) :
    Reporting start
      (setUp.afterFailure what now
        ((setUp.topic.resetTimeOut reset).retryOrGiveUp task.again
          (front ++ what ++ back) now)) := by
  have same := sameButTimeOut_resetTimeOut setUp.topic reset
  have notAbandoned := reporting.not_abandoned running leads
  have timeIsOver :
      (setUp.topic.resetTimeOut reset).shouldGiveUp now =
        setUp.topic.shouldGiveUp now := by
    rw [Topic.shouldGiveUp, Topic.shouldGiveUp, same.constructed]
  have range := reporting.timeOut_of_eq ordered same.timeOut
  have here :
      (setUp.topic.resetTimeOut reset).executor.worker = .running task :=
    same.executor ▸ running
  have left :
      leftTasks TopicTask.leadsToBroker
        (setUp.topic.resetTimeOut reset).executor ≤ 1 :=
    same.executor ▸ reporting.one
  have queued :
      queuedTasks TopicTask.storesMessage
        (setUp.topic.resetTimeOut reset).executor = 0 :=
    same.executor ▸ reporting.queued
  rcases retryOrGiveUp_cases (setUp.topic.resetTimeOut reset) task.again
      (front ++ what ++ back) now
    with ⟨giveUp, result⟩ | ⟨retry, result⟩
  · rw [result]
    have none_ :
        leftTasks TopicTask.leadsToBroker
          ((setUp.topic.resetTimeOut reset).executor.withWorker
            (.running (.storeErrorMessage (front ++ what ++ back)))) = 0 := by
      have replaced :=
        leftTasks_withWorker _ here TopicTask.leadsToBroker
          (.running (.storeErrorMessage (front ++ what ++ back)))
      have idle :
          runningTasks TopicTask.leadsToBroker
            ((setUp.topic.resetTimeOut reset).executor.withWorker
              (.running (.storeErrorMessage (front ++ what ++ back)))) = 0 :=
        rfl
      rw [leads, idle] at replaced
      simp only [Bool.toNat_true] at replaced
      omega
    refine
      ⟨reporting.noneEscaped, same.settings.trans reporting.settings,
        same.constructed.trans reporting.constructed, range,
        Nat.le_trans (Nat.le_of_eq none_) (Nat.zero_le 1), queued, ?_⟩
    intro told abandoned
    rw [afterFailure, ← timeIsOver, giveUp, if_pos rfl] at abandoned
    obtain rfl : what = told := Option.some.inj abandoned
    exact ⟨rfl, none_, Or.inl ⟨front, back, rfl⟩⟩
  · rw [result]
    refine
      ⟨reporting.noneEscaped, same.settings.trans reporting.settings,
        same.constructed.trans reporting.constructed, ?_, ?_, ?_, ?_⟩
    · rcases doubles (timeIsOver.symm.trans retry) with ⟨positive, fits⟩
      have settings := same.settings.trans reporting.settings
      have doubled :=
        Duration.doubledUpTo_range positive range.1 range.2 fits
      simp only [Topic.goTo, Topic.sendLowPriorityWork, settings]
      exact doubled
    · have replaced :=
        leftTasks_withWorker
          ((setUp.topic.resetTimeOut reset).executor.sendLowPriorityWork
            (setUp.topic.resetTimeOut reset).self task.again)
          here TopicTask.leadsToBroker .ready
      rw [leftTasks_sendLowPriorityWork, leads, again] at replaced
      exact Nat.le_trans
        (Nat.le_of_add_le_add_right (Nat.le_of_eq replaced)) left
    · have sent :
          queuedTasks TopicTask.storesMessage
            ((setUp.topic.resetTimeOut reset).executor.sendLowPriorityWork
              (setUp.topic.resetTimeOut reset).self task.again) = 0 := by
        rw [queuedTasks_sendLowPriorityWork, stores, queued]
        rfl
      exact sent
    · intro told abandoned
      rw [afterFailure, ← timeIsOver, retry, notAbandoned,
        if_neg Bool.false_ne_true] at abandoned
      cases abandoned

/-- The answer to a failed call. -/
theorem answered_retryOrGiveUp
    {topic : Topic Dest} {task : TopicTask} {reset : Bool}
    {what front back : String} {now : TimePoint}
    (running : topic.executor.worker = .running task) :
    Answered topic.startMetaDataTime what now topic
      ((topic.resetTimeOut reset).retryOrGiveUp task.again
        (front ++ what ++ back) now) := by
  have same := sameButTimeOut_resetTimeOut topic reset
  have high :
      (topic.resetTimeOut reset).executor.taskQueue =
        topic.executor.taskQueue := by
    rw [same.executor]
  have low :
      (topic.resetTimeOut reset).executor.lowPriorityTaskQueue =
        topic.executor.lowPriorityTaskQueue := by
    rw [same.executor]
  rcases retryOrGiveUp_cases (topic.resetTimeOut reset) task.again
      (front ++ what ++ back) now
    with ⟨giveUp, result⟩ | ⟨_, result⟩
  · rw [result]
    rw [Topic.shouldGiveUp, same.constructed] at giveUp
    exact .abandoned (of_decide_eq_true giveUp) rfl high low rfl
  · rw [result]
    have sent :
        enqueue (topic.resetTimeOut reset).executor.lowPriorityTaskQueue
            (topic.resetTimeOut reset).self task.again =
          topic.executor.lowPriorityTaskQueue ++
            [⟨topic.self, task.again⟩] := by
      rw [low, same.self]
      rfl
    exact .retried running high sent rfl same.hasError

/-! ## Runs -/

theorem Reporting.step
    {context : MessageContext} {next : TopicSetUp Dest}
    {label : SetUpLabel Dest}
    (reporting : Reporting start setUp)
    (ordered :
      start.settings.minMetadataTimeout ≤ start.settings.maxMetadataTimeout)
    (expected : ExpectedStep context setUp label next) :
    Reporting start next := by
  cases expected.step with
  | partitionsFailed what now _ running =>
      have doubles := expected.doubles what now rfl
      simp only [timeOutInUse, running] at doubles
      exact reporting.failed ordered doubles running rfl rfl rfl
  | partitionsFound partitions now _ running =>
      exact reporting.found ordered running rfl rfl
  | offsetsFailed what now _ running =>
      have doubles := expected.doubles what now rfl
      simp only [timeOutInUse, running] at doubles
      exact reporting.failed ordered doubles running rfl rfl rfl
  | offsetsFound partitionOffsets now _ running =>
      exact reporting.found ordered running rfl rfl
  | escaped call what _ _ _ => exact absurd rfl (expected.caught call what)
  | regular _ notStart quiet taken =>
      exact reporting.regular ordered taken notStart quiet

theorem Reporting.answered
    {context : MessageContext} {next : TopicSetUp Dest} {what : String}
    {now : TimePoint}
    (reporting : Reporting start setUp)
    (taken : Step context setUp (.failed what now) next) :
    Answered start.startMetaDataTime what now setUp.topic next.topic := by
  rw [← reporting.constructed]
  cases taken with
  | partitionsFailed _ _ _ running => exact answered_retryOrGiveUp running
  | offsetsFailed _ _ _ running => exact answered_retryOrGiveUp running

theorem reporting_create
    (id : Nat) (settings : BrokerSettings) (topicName : String)
    (dataMap : SrcToDst Dest) (startTime : TimePoint)
    (startLeeway : Duration) (stopTime : TimePoint)
    (stopLeeway : Duration) (now : TimePoint)
    (ordered : settings.minMetadataTimeout ≤ settings.maxMetadataTimeout) :
    Reporting
      (create id settings topicName dataMap startTime startLeeway stopTime
        stopLeeway now).topic
      (create id settings topicName dataMap startTime startLeeway stopTime
        stopLeeway now) :=
  ⟨rfl, rfl, rfl, ⟨le_refl _, ordered⟩, Nat.le_refl 1, rfl, nofun⟩

/--
The failures of the set-up are reported in every run in which only the two
calls of the broker fail, with a `MetadataException`, and the time-out of a
call that is made again is not negative and can be doubled.
-/
theorem failures_reported
    {context : MessageContext} {final : TopicSetUp Dest}
    {trace : List (SetUpLabel Dest)} {id : Nat} {settings : BrokerSettings}
    {topicName : String} {dataMap : SrcToDst Dest}
    {startTime : TimePoint} {startLeeway : Duration}
    {stopTime : TimePoint} {stopLeeway : Duration} {now : TimePoint}
    (ordered : settings.minMetadataTimeout ≤ settings.maxMetadataTimeout)
    (run :
      Execution (ExpectedStep context)
        (create id settings topicName dataMap startTime startLeeway stopTime
          stopLeeway now) trace final) :
    FailuresReported context
      (create id settings topicName dataMap startTime startLeeway stopTime
        stopLeeway now) final := by
  have reporting :=
    run.invariant (Reporting _)
      (reporting_create id settings topicName dataMap startTime startLeeway
        stopTime stopLeeway now ordered)
      fun _ _ _ reporting expected => reporting.step ordered expected
  refine ⟨reporting.noneEscaped, reporting.timeOut, ?_, ?_⟩
  · intro what now next taken
    exact reporting.answered taken
  · intro what abandoned
    have told := reporting.told what abandoned
    rcases told.message with ⟨front, back, stores⟩ | ⟨_, front, back, message⟩
    · exact Or.inl ⟨_, stores⟩
    · refine Or.inr ⟨front, back, ?_⟩
      rw [Topic.isDone, told.hasError, if_pos rfl, message]

/-! ## A broker that does not answer -/

/-- A look of the worker is a step without a failure. -/
theorem expectedStep_look
    {context : MessageContext} {found : Option TopicTask}
    {executor : ThreadedExecutor Thread TopicTask}
    (alive : setUp.terminated = false)
    (look : Look setUp.topic.executor found executor) :
    ExpectedStep context setUp (.regular .work)
      { setUp with topic := { setUp.topic with executor } } := by
  have taken :
      Topic.Step context 0 setUp.topic .work
        { setUp.topic with executor } :=
    .look look
  refine ⟨.regular alive nofun ?_ taken, nofun, nofun⟩
  intro _ task running
  cases look with
  | takeHigh ready _ => rw [ready] at running; cases running
  | highEmpty ready _ => rw [ready] at running; cases running
  | takeLow turn _ => rw [turn] at running; cases running
  | lowEmpty turn _ => rw [turn] at running; cases running

/-- A step of a task that does not call the broker. -/
theorem expectedStep_work
    {context : MessageContext} {task : TopicTask} {next : Topic Dest}
    (alive : setUp.terminated = false)
    (running : setUp.topic.executor.worker = .running task)
    (noCall : task.callsBroker = false)
    (taken : Topic.Step context 0 setUp.topic .work next) :
    ExpectedStep context setUp (.regular .work)
      { setUp with topic := next } := by
  refine ⟨.regular alive nofun ?_ taken, nofun, nofun⟩
  intro _ other same
  rw [running, Worker.running.injEq] at same
  rw [← same]
  exact noCall

/-- A topic with the default settings of the broker. -/
def sampleSetUp : TopicSetUp Nat :=
  create 0 {} "detector" [] 0 0 1000000000 0 0

/-- The broker does not answer for more than a minute. -/
theorem sample_failures_reported :
    ∃ trace final,
      Execution (ExpectedStep sampleContext) sampleSetUp trace final ∧
        final.abandoned = some "no answer" ∧
        FailuresReported sampleContext sampleSetUp final := by
  have doubles :
      (0 : Duration) ≤ 400000000 ∧ InRange 64 (400000000 * 2 : Duration) := by
    decide
  have doublesAgain :
      (0 : Duration) ≤ 800000000 ∧ InRange 64 (800000000 * 2 : Duration) := by
    decide
  have found :
      Execution (ExpectedStep sampleContext) sampleSetUp _ _ :=
    Execution.refl.snoc
      (expectedStep_look rfl (.takeHigh rfl (dequeue_head _ [])))
  have begun := found.snoc
    (expectedStep_work rfl rfl rfl (.initMetadataCalls rfl))
  have asks := begun.snoc
    (expectedStep_look rfl (.takeHigh rfl (dequeue_head _ [])))
  have retried := asks.snoc
    ⟨.partitionsFailed "no answer" 1000000000 rfl rfl, nofun,
      fun _ _ _ _ => doubles⟩
  have turned := retried.snoc (expectedStep_look rfl (.highEmpty rfl rfl))
  have asksAgain := turned.snoc
    (expectedStep_look rfl (.takeLow rfl (dequeue_head _ [])))
  have abandoned := asksAgain.snoc
    ⟨.partitionsFailed "no answer" 61000000000 rfl rfl, nofun,
      fun _ _ _ _ => doublesAgain⟩
  have stored := abandoned.snoc
    (expectedStep_work rfl rfl rfl (.storeErrorMessage rfl))
  exact ⟨_, _, stored, rfl, failures_reported (by decide) stored⟩

/--
The consumer of a partition cannot be created.  The exception leaves the task,
and there is no error state.
-/
theorem createConsumer_failure_not_reported :
    ∃ trace final,
      Execution (Step sampleContext) sampleSetUp trace final ∧
        sampleSetUp.topic.settings.minMetadataTimeout ≤
          sampleSetUp.topic.settings.maxMetadataTimeout ∧
        final.abandoned = some "can not create Kafka consumer" ∧
        final.topic.isDone = .ok false ∧
        ¬ FailuresReported sampleContext sampleSetUp final := by
  have found : Execution (Step sampleContext) sampleSetUp _ _ :=
    Execution.refl.snoc
      (expectedStep_look rfl (.takeHigh rfl (dequeue_head _ []))).step
  have begun := found.snoc
    (expectedStep_work rfl rfl rfl (.initMetadataCalls rfl)).step
  have asks := begun.snoc
    (expectedStep_look rfl (.takeHigh rfl (dequeue_head _ []))).step
  have partitions := asks.snoc (.partitionsFound [0] 1000000000 rfl rfl)
  have asksOffsets := partitions.snoc
    (expectedStep_look rfl (.takeHigh rfl (dequeue_head _ []))).step
  have offsets := asksOffsets.snoc
    (.offsetsFound [(0, 5)] 1000000000 rfl rfl)
  have creates := offsets.snoc
    (expectedStep_look rfl (.takeHigh rfl (dequeue_head _ []))).step
  have creating := creates.snoc
    (expectedStep_work rfl rfl rfl (.createStreams rfl)).step
  have escaped := creating.snoc
    (.escaped .createConsumer "can not create Kafka consumer" rfl rfl rfl)
  refine ⟨_, _, escaped, by decide, rfl, rfl, ?_⟩
  intro reported
  cases reported.noneEscaped

end TopicSetUp

end KafkaToNexus.Stream
