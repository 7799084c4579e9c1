import KafkaToNexus.JobDelivery.TopicRecords
import KafkaToNexus.Shutdown.QuietJob

/-!
# The partitions of a job

The partitions of a job are those of the topics in the vector of its
controller and of the topics that were erased from it.  A step of the job does
to them what a step of one topic does, or drops the partitions of a topic that
was destroyed.  When the controller is gone all partitions were destroyed.
-/

namespace KafkaToNexus.JobDelivery

open KafkaToNexus
open KafkaToNexus.Foundations
open KafkaToNexus.Foundations.Populations
open KafkaToNexus.Shutdown
open KafkaToNexus.Stream
open KafkaToNexus.ThreadedExecutor

variable {Dest : Type*}

/-- The partitions behind a pointer of the vector. -/
def slotParts : Option (Topic Dest) → List (JobPartition Dest)
  | none => []
  | some topic => topicParts topic

def jobParts (controller : StreamController Dest) :
    List (JobPartition Dest) :=
  controller.streamers.flatMap slotParts ++
    controller.retired.flatMap topicParts

/-- The task erases topics or has erased some. -/
def erases : ControllerTask Dest → Bool
  | .checkingStreams _ _ => true
  | .streamsErased => true
  | _ => false

/-- The executor was joined before the main thread came to this point. -/
def executorJoined : MainPoint → Bool
  | .stopWriter => true
  | .joinWriter => true
  | .destroyTopics _ => true
  | .destroyModules => true
  | .gone => true
  | _ => false

/-- The main thread has destroyed the topic with an index. -/
def hasDestroyed : MainPoint → Nat → Prop
  | .destroyTopics next, index => index < next
  | .destroyModules, _ => True
  | .gone, _ => True
  | _, _ => False

/-- A topic that was destroyed stays so. -/
theorem topic_destroyed_step
    {context : MessageContext} {calls : Nat} {topic next : Topic Dest}
    {label : TopicLabel Dest}
    (taken : Topic.Step context calls topic label next)
    (destroyed : topic.life = .destroyed) :
    next.life = .destroyed := by
  cases taken with
  | @getPartitionsForTopic reset outcome now _ =>
      exact (sameParts_getPartitionsForTopic topic reset outcome now).life.trans
        destroyed
  | @getOffsetsForPartitions reset partitions outcome now _ =>
      exact (sameParts_getOffsetsForPartitions topic reset partitions outcome
        now).life.trans destroyed
  | destroy _ alive =>
      rw [destroyed] at alive
      cases alive
  | join _ joining _ =>
      rw [destroyed] at joining
      cases joining
  | destroyed _ _ _ => rfl
  | _ => exact destroyed

variable [DecidableEq Dest]

/-- The task would create a topic that is not in the map of the sources. -/
def strays (sources : List (Source Dest)) : ControllerTask Dest → Bool
  | .creatingTopics remaining =>
      !remaining.all fun item => item ∈ StreamController.topicSrcMap sources
  | .creatingTopic _ item remaining =>
      !(item :: remaining).all fun item =>
        item ∈ StreamController.topicSrcMap sources
  | _ => false

/-- What holds of a job along its runs. -/
structure JobSound
    (sources : List (Source Dest)) (settings : StreamerOptions)
    (controller : StreamController Dest) : Prop where
  known : controller.sources = sources
  start : controller.streamerOptions.startTimestamp = settings.startTimestamp
  leeway : controller.streamerOptions.afterStopTime = settings.afterStopTime
  tasks : Without (strays sources) controller.executor
  streamers :
    ∀ topic, some topic ∈ controller.streamers → OfJob sources settings topic
  retired : ∀ topic ∈ controller.retired, OfJob sources settings topic
  /-- Erased topics are destroyed before the executor goes on. -/
  erased :
    controller.retired = [] ∨
      ∃ task, controller.executor.worker = .running task ∧ erases task = true
  joined :
    executorJoined controller.main = true →
      controller.executor.worker = .exited
  destroyed :
    ∀ index topic, hasDestroyed controller.main index →
      controller.streamers[index]? = some (some topic) →
        topic.life = .destroyed

section Steps

variable {context : MessageContext} {sources : List (Source Dest)}
  {settings : StreamerOptions} {controller next : StreamController Dest}

/-- What a job keeps when its topics are what they were. -/
structure SameTopics (controller next : StreamController Dest) : Prop where
  known : next.sources = controller.sources
  start :
    next.streamerOptions.startTimestamp =
      controller.streamerOptions.startTimestamp
  leeway :
    next.streamerOptions.afterStopTime =
      controller.streamerOptions.afterStopTime
  streamers : next.streamers = controller.streamers
  retired : next.retired = controller.retired

omit [DecidableEq Dest] in
theorem SameTopics.jobParts (same : SameTopics controller next) :
    jobParts next = jobParts controller := by
  rw [JobDelivery.jobParts, JobDelivery.jobParts, same.streamers, same.retired]

/-- A thread other than the executor's has changed the job. -/
theorem JobSound.byMain
    (sound : JobSound sources settings controller)
    (same : SameTopics controller next)
    (tasks : Without (strays sources) next.executor)
    (worker : next.executor.worker = controller.executor.worker)
    (joined :
      executorJoined next.main = true → next.executor.worker = .exited)
    (destroyed :
      ∀ index topic, hasDestroyed next.main index →
        controller.streamers[index]? = some (some topic) →
          topic.life = .destroyed) :
    JobSound sources settings next := by
  refine ⟨same.known.trans sound.known, same.start.trans sound.start,
    same.leeway.trans sound.leeway, tasks, ?_, ?_, ?_, joined, ?_⟩
  · rw [same.streamers]
    exact sound.streamers
  · rw [same.retired]
    exact sound.retired
  · rw [same.retired, worker]
    exact sound.erased
  · rw [same.streamers]
    exact destroyed

/-- The executor runs a task, so that the main thread has not joined it. -/
theorem JobSound.not_joined
    (sound : JobSound sources settings controller)
    {task : ControllerTask Dest}
    (running : controller.executor.worker = .running task) :
    executorJoined controller.main = false := by
  by_contra joined
  rw [sound.joined (Bool.of_not_eq_false joined)] at running
  cases running

theorem not_hasDestroyed
    {main : MainPoint} (free : executorJoined main = false) (index : Nat) :
    ¬ hasDestroyed main index := by
  cases main <;> first | exact id | cases free

/-- The main thread has gone on and has not joined the executor. -/
theorem JobSound.byMainFree
    (sound : JobSound sources settings controller)
    (same : SameTopics controller next)
    (tasks : Without (strays sources) next.executor)
    (worker : next.executor.worker = controller.executor.worker)
    (free : executorJoined next.main = false) :
    JobSound sources settings next := by
  refine sound.byMain same tasks worker ?_ ?_
  · intro joined
    rw [free] at joined
    cases joined
  · intro index topic destroyed
    exact absurd destroyed (not_hasDestroyed free index)

/-- Erased topics are destroyed before another task runs. -/
theorem JobSound.retired_of_running
    (sound : JobSound sources settings controller)
    {task : ControllerTask Dest}
    (running : controller.executor.worker = .running task)
    (other : erases task = false) :
    controller.retired = [] := by
  rcases sound.erased with none | ⟨erasing, found, isErasing⟩
  · exact none
  · rw [running] at found
    cases found
    rw [other] at isErasing
    cases isErasing

/-- The executor has gone on and no erased topic is left. -/
theorem JobSound.byExecutor
    (sound : JobSound sources settings controller)
    {task : ControllerTask Dest}
    (running : controller.executor.worker = .running task)
    (none : controller.retired = [])
    (same : SameTopics controller next)
    (tasks : Without (strays sources) next.executor)
    (main : next.main = controller.main) :
    JobSound sources settings next := by
  have free := sound.not_joined running
  refine ⟨same.known.trans sound.known, same.start.trans sound.start,
    same.leeway.trans sound.leeway, tasks, ?_, ?_, ?_, ?_, ?_⟩
  · rw [same.streamers]
    exact sound.streamers
  · rw [same.retired]
    exact sound.retired
  · rw [same.retired]
    exact .inl none
  · rw [main, free]
    exact fun joined => Bool.noConfusion joined
  · rw [main]
    intro index topic destroyed
    exact absurd destroyed (not_hasDestroyed free index)

/-- A topic of the vector has taken a step. -/
theorem JobSound.setTopic
    (sound : JobSound sources settings controller)
    {index : Nat} {topic after : Topic Dest} {label : TopicLabel Dest}
    (found : controller.streamers[index]? = some (some topic))
    (taken : Topic.Step context controller.calls topic label after) :
    JobSound sources settings (controller.setTopic index after) := by
  refine ⟨sound.known, sound.start, sound.leeway, sound.tasks, ?_,
    sound.retired, sound.erased, sound.joined, ?_⟩
  · intro other member
    rcases List.mem_or_eq_of_mem_set member with old | new
    · exact sound.streamers other old
    · cases new
      exact (sound.streamers topic (List.mem_of_getElem? found)).step taken
  · intro other known past present
    by_cases same : index = other
    · subst same
      have inside := (List.getElem?_eq_some_iff.mp found).1
      have replaced :
          (controller.setTopic index after).streamers[index]? =
            some (some after) :=
        List.getElem?_set_self inside
      rw [replaced] at present
      cases present
      exact topic_destroyed_step taken (sound.destroyed index topic past found)
    · apply sound.destroyed other known past
      rw [← present]
      exact (List.getElem?_set_ne same).symm

/-- A step of a call of `stop` leaves a sound job and its points alone. -/
theorem JobSound.stopStep
    (sound : JobSound sources settings controller) {caller : Thread}
    {point after : StopPoint}
    (taken :
      StreamController.StopStep context caller controller point next after) :
    JobSound sources settings next := by
  cases taken with
  | enterTopic _ _ => exact sound
  | firstTask _ found taken => exact sound.setTopic found taken
  | secondTask found taken => exact sound.setTopic found taken
  | nextTopic => exact sound
  | lastTopic => exact sound
  | writer =>
      exact sound.byMain ⟨rfl, rfl, rfl, rfl, rfl⟩ sound.tasks rfl sound.joined
        sound.destroyed
  | flag =>
      exact sound.byMain ⟨rfl, rfl, rfl, rfl, rfl⟩ sound.tasks rfl sound.joined
        sound.destroyed

/-- The main thread has gone on, without destroying topics. -/
theorem JobSound.mainAt
    (sound : JobSound sources settings controller) {main : MainPoint}
    (joined :
      executorJoined main = true → controller.executor.worker = .exited)
    (destroyed :
      ∀ index topic, hasDestroyed main index →
        controller.streamers[index]? = some (some topic) →
          topic.life = .destroyed) :
    JobSound sources settings (controller.mainAt main) :=
  sound.byMain ⟨rfl, rfl, rfl, rfl, rfl⟩ sound.tasks rfl joined destroyed

/-- The task of the executor goes on as another one, or ends. -/
theorem JobSound.goTo
    (sound : JobSound sources settings controller)
    {task : ControllerTask Dest}
    (running : controller.executor.worker = .running task)
    (none : controller.retired = [])
    {worker : Worker (ControllerTask Dest)}
    (other :
      ∀ later, worker = .running later → strays sources later = false) :
    JobSound sources settings (controller.goTo worker) :=
  sound.byExecutor running none ⟨rfl, rfl, rfl, rfl, rfl⟩
    (sound.tasks.withWorker running other) rfl

/-- A task has queued another one and ends. -/
theorem JobSound.requeue
    (sound : JobSound sources settings controller)
    {task later : ControllerTask Dest}
    (running : controller.executor.worker = .running task)
    (none : controller.retired = [])
    (other : strays sources later = false) :
    JobSound sources settings
      ((controller.sendLowPriorityWork later).goTo .ready) :=
  sound.byExecutor running none ⟨rfl, rfl, rfl, rfl, rfl⟩
    ((sound.tasks.sendLowPriorityWork _ other).withWorker running nofun) rfl

/-- Erased topics are the ones that were in the vector. -/
theorem JobSound.erasing
    (sound : JobSound sources settings controller)
    {task later : ControllerTask Dest}
    (running : controller.executor.worker = .running task)
    (erasing : erases later = true)
    (other : strays sources later = false)
    (known : next.sources = controller.sources)
    (options : next.streamerOptions = controller.streamerOptions)
    (executor :
      next.executor = controller.executor.withWorker (.running later))
    (main : next.main = controller.main)
    (streamers :
      ∀ topic, some topic ∈ next.streamers →
        some topic ∈ controller.streamers)
    (retired : ∀ topic ∈ next.retired, some topic ∈ controller.streamers) :
    JobSound sources settings next := by
  have free := sound.not_joined running
  refine ⟨known.trans sound.known, ?_, ?_, ?_,
    fun topic member => sound.streamers topic (streamers topic member),
    fun topic member => sound.streamers topic (retired topic member),
    .inr ⟨later, ?_, erasing⟩, ?_, ?_⟩
  · rw [options]
    exact sound.start
  · rw [options]
    exact sound.leeway
  · rw [executor]
    refine sound.tasks.withWorker running ?_
    rintro _ ⟨⟩
    exact other
  · rw [executor]
    rfl
  · rw [main, free]
    exact fun joined => Bool.noConfusion joined
  · rw [main]
    intro index topic destroyed
    exact absurd destroyed (not_hasDestroyed free index)

omit [DecidableEq Dest] in
/-- The topic that is created next is one of the job. -/
theorem ofJob_newTopic
    {item : String × SrcToDst Dest} (stopTime now : TimePoint)
    (known : item ∈ StreamController.topicSrcMap sources)
    (start :
      controller.streamerOptions.startTimestamp = settings.startTimestamp)
    (leeway :
      controller.streamerOptions.afterStopTime = settings.afterStopTime) :
    OfJob sources settings (controller.newTopic stopTime item now) := by
  refine ⟨known, start, leeway, .inl rfl, ?_, nofun⟩
  rintro (joining | gone) <;> contradiction

/-- The executor looks for its next task. -/
theorem JobSound.look
    (sound : JobSound sources settings controller)
    {found : Option (ControllerTask Dest)}
    {executor : ThreadedExecutor Thread (ControllerTask Dest)}
    (look : Look controller.executor found executor) :
    JobSound sources settings { controller with executor } := by
  have free : ∀ task, controller.executor.worker ≠ .running task := by
    intro task running
    cases look with
    | takeHigh ready _ => rw [running] at ready; cases ready
    | highEmpty ready _ => rw [running] at ready; cases ready
    | takeLow turn _ => rw [running] at turn; cases turn
    | lowEmpty turn _ => rw [running] at turn; cases turn
  have busy : executorJoined controller.main ≠ true := by
    intro joined
    have exited := sound.joined joined
    cases look with
    | takeHigh ready _ => rw [exited] at ready; cases ready
    | highEmpty ready _ => rw [exited] at ready; cases ready
    | takeLow turn _ => rw [exited] at turn; cases turn
    | lowEmpty turn _ => rw [exited] at turn; cases turn
  have none : controller.retired = [] := by
    rcases sound.erased with none | ⟨task, running, _⟩
    · exact none
    · exact absurd running (free task)
  exact ⟨sound.known, sound.start, sound.leeway, look.without sound.tasks,
    sound.streamers, sound.retired, .inl none,
    fun joined => absurd joined busy, sound.destroyed⟩

/-- The executor has appended the topic that it was creating. -/
theorem JobSound.createTopic
    (sound : JobSound sources settings controller)
    {stopTime now : TimePoint} {item : String × SrcToDst Dest}
    {remaining : TopicSrcMap Dest}
    (running :
      controller.executor.worker =
        .running (.creatingTopic stopTime item remaining)) :
    JobSound sources settings
      ((controller.addTopic (controller.newTopic stopTime item now)).goTo
        (.running (.creatingTopics remaining))) := by
  have free := sound.not_joined running
  have known : strays sources _ = false := sound.tasks.running running
  simp only [strays, List.all_cons, Bool.not_eq_false', Bool.and_eq_true,
    decide_eq_true_eq] at known
  refine ⟨sound.known, sound.start, sound.leeway, ?_, ?_, sound.retired,
    .inl (sound.retired_of_running running rfl), ?_, ?_⟩
  · refine sound.tasks.withWorker running ?_
    rintro _ ⟨⟩
    simp only [strays, known.2, Bool.not_true]
  · intro topic member
    rcases List.mem_append.mp member with old | new
    · exact sound.streamers topic old
    · cases List.mem_singleton.mp new
      exact ofJob_newTopic stopTime now known.1 sound.start sound.leeway
  · intro joined
    exact Bool.noConfusion (free.symm.trans joined)
  · intro index topic destroyed
    exact absurd destroyed (not_hasDestroyed free index)

/-- A job stays sound. -/
theorem JobSound.step
    (sound : JobSound sources settings controller)
    {label : StreamLabel Dest}
    (taken : StreamController.Step context controller label next) :
    JobSound sources settings next := by
  cases taken with
  | setStopTime _ _ =>
      exact sound.byMainFree ⟨rfl, rfl, rfl, rfl, rfl⟩ sound.tasks rfl rfl
  | sendStopTime _ =>
      exact sound.byMainFree ⟨rfl, rfl, rfl, rfl, rfl⟩
        (sound.tasks.sendWork _ rfl) rfl rfl
  | stop _ =>
      exact sound.byMainFree ⟨rfl, rfl, rfl, rfl, rfl⟩ sound.tasks rfl rfl
  | destroy _ =>
      exact sound.byMainFree ⟨rfl, rfl, rfl, rfl, rfl⟩ sound.tasks rfl rfl
  | mainStop _ taken =>
      have stopped := sound.stopStep taken
      exact stopped.byMainFree ⟨rfl, rfl, rfl, rfl, rfl⟩ stopped.tasks rfl rfl
  | stopped _ =>
      exact sound.byMainFree ⟨rfl, rfl, rfl, rfl, rfl⟩ sound.tasks rfl rfl
  | exitExecutor _ =>
      exact sound.byMainFree ⟨rfl, rfl, rfl, rfl, rfl⟩
        (sound.tasks.sendWork _ rfl) rfl rfl
  | joinExecutor _ exited =>
      exact sound.mainAt (fun _ => exited) fun _ _ destroyed => destroyed.elim
  | stopWriter main =>
      have exited := sound.joined (by rw [main]; rfl)
      exact sound.byMain ⟨rfl, rfl, rfl, rfl, rfl⟩ sound.tasks rfl
        (fun _ => exited) fun _ _ destroyed => destroyed.elim
  | joinWriter main _ =>
      have exited := sound.joined (by rw [main]; rfl)
      refine sound.mainAt (fun _ => exited) ?_
      intro index topic destroyed
      exact absurd destroyed (Nat.not_lt_zero index)
  | destroyTopic _ found _ taken =>
      exact (sound.setTopic found taken).byMain ⟨rfl, rfl, rfl, rfl, rfl⟩
        sound.tasks rfl sound.joined (sound.setTopic found taken).destroyed
  | @topicDestroyed index slot main found gone =>
      have exited := sound.joined (by rw [main]; rfl)
      refine sound.mainAt (fun _ => exited) ?_
      intro other topic past present
      rcases Nat.lt_succ_iff_lt_or_eq.mp past with before | rfl
      · exact sound.destroyed other topic (by rw [main]; exact before) present
      · rw [found] at present
        exact gone topic (Option.some.inj present)
  | @topicsDestroyed index main all =>
      have exited := sound.joined (by rw [main]; rfl)
      refine sound.mainAt (fun _ => exited) ?_
      intro other topic _ present
      have inside := (List.getElem?_eq_some_iff.mp present).1
      exact sound.destroyed other topic
        (by rw [main]; exact Nat.lt_of_lt_of_le inside all) present
  | destroyModules main =>
      have exited := sound.joined (by rw [main]; rfl)
      refine sound.mainAt (fun _ => exited) ?_
      intro other topic _ present
      exact sound.destroyed other topic (by rw [main]; trivial) present
  | look look => exact sound.look look
  | getTopicNames outcome running =>
      have none := sound.retired_of_running running rfl
      cases outcome <;>
        exact sound.byExecutor running none ⟨rfl, rfl, rfl, rfl, rfl⟩
          ((sound.tasks.sendLowPriorityWork _ rfl).withWorker running nofun)
          rfl
  | @initStreams knownTopicNames running =>
      have none := sound.retired_of_running running rfl
      unfold StreamController.initStreams
      dsimp only
      split
      · refine sound.byExecutor running none ⟨rfl, rfl, rfl, rfl, rfl⟩
          (sound.tasks.withWorker running ?_) rfl
        rintro _ ⟨⟩
        rfl
      · refine sound.goTo running none ?_
        rintro _ ⟨⟩
        rw [sound.known]
        simp [strays]
  | flagError running =>
      have none := sound.retired_of_running running rfl
      exact sound.byExecutor running none ⟨rfl, rfl, rfl, rfl, rfl⟩
        (sound.tasks.withWorker running nofun) rfl
  | readStopTime running =>
      refine sound.goTo running (sound.retired_of_running running rfl) ?_
      rintro _ ⟨⟩
      have known := sound.tasks.running running
      exact known
  | createTopic now running => exact sound.createTopic running
  | topicsCreated running =>
      exact sound.requeue running (sound.retired_of_running running rfl) rfl
  | beginStopTime running =>
      refine sound.goTo running (sound.retired_of_running running rfl) ?_
      rintro _ ⟨⟩
      rfl
  | passStopTime running found taken =>
      refine (sound.setTopic found taken).goTo running
        (sound.retired_of_running running rfl) ?_
      rintro _ ⟨⟩
      rfl
  | endStopTime running _ =>
      exact sound.goTo running (sound.retired_of_running running rfl) nofun
  | performPeriodicChecks running =>
      refine sound.goTo running (sound.retired_of_running running rfl) ?_
      rintro _ ⟨⟩
      rfl
  | streamDone running none _ _ _ =>
      refine sound.goTo running none ?_
      rintro _ ⟨⟩
      rfl
  | keepStream running none _ _ _ =>
      refine sound.goTo running none ?_
      rintro _ ⟨⟩
      rfl
  | moveStream running _ _ found overwrites _ _ =>
      refine sound.erasing running rfl rfl rfl rfl rfl rfl ?_ ?_
      · intro other member
        rcases List.mem_or_eq_of_mem_set member with set_ | null
        · rcases List.mem_or_eq_of_mem_set set_ with old | moved
          · exact old
          · rw [moved]
            exact List.mem_of_getElem? found
        · cases null
      · intro other member
        have moved := Option.mem_toList.mp member
        cases moved
        exact List.mem_of_getElem? overwrites
  | eraseStreams running _ _ =>
      refine sound.erasing running rfl rfl rfl rfl rfl rfl ?_ ?_
      · exact fun other member => List.mem_of_mem_take member
      · intro other member
        rcases List.mem_filterMap.mp member with ⟨slot, dropped, rfl⟩
        exact List.mem_of_mem_drop dropped
  | streamsErased running none =>
      refine sound.byExecutor running none ⟨rfl, rfl, rfl, rfl, rfl⟩
        (sound.tasks.withWorker running ?_) rfl
      rintro _ ⟨⟩
      rfl
  | streamThrows running none _ _ =>
      refine sound.byExecutor running none ⟨rfl, rfl, rfl, rfl, rfl⟩
        (sound.tasks.withWorker running ?_) rfl
      rintro _ ⟨⟩
      rfl
  | storeError running =>
      refine sound.byExecutor running (sound.retired_of_running running rfl)
        ⟨rfl, rfl, rfl, rfl, rfl⟩ (sound.tasks.withWorker running ?_) rfl
      rintro _ ⟨⟩
      rfl
  | controllerStop running taken =>
      have still := sound.stopStep taken
      rw [← taken.points.1] at running
      refine still.goTo running (still.retired_of_running running rfl) ?_
      rintro _ ⟨⟩
      rfl
  | controllerStopped running =>
      refine sound.byExecutor running (sound.retired_of_running running rfl)
        ⟨rfl, rfl, rfl, rfl, rfl⟩ (sound.tasks.withWorker running ?_) rfl
      rintro _ ⟨⟩
      rfl
  | wake running =>
      exact sound.requeue running (sound.retired_of_running running rfl) rfl
  | exitThread running =>
      exact sound.goTo running (sound.retired_of_running running rfl) nofun
  | topic found _ taken =>
      exact (sound.setTopic found taken).byMain ⟨rfl, rfl, rfl, rfl, rfl⟩
        sound.tasks rfl sound.joined (sound.setTopic found taken).destroyed
  | retiredTopic found _ taken =>
      refine ⟨sound.known, sound.start, sound.leeway, sound.tasks,
        sound.streamers, ?_, ?_, sound.joined, sound.destroyed⟩
      · intro other member
        rcases List.mem_or_eq_of_mem_set member with old | rfl
        · exact sound.retired other old
        · exact (sound.retired _ (List.mem_of_getElem? found)).step taken
      · exact sound.erased.imp_left (set_eq_nil _ _)
  | retiredDestroyed found _ =>
      refine ⟨sound.known, sound.start, sound.leeway, sound.tasks,
        sound.streamers, ?_, ?_, sound.joined, sound.destroyed⟩
      · intro other member
        exact sound.retired other (List.mem_of_mem_eraseIdx member)
      · refine sound.erased.imp_left fun none => ?_
        rw [none] at found
        cases found
  | writer _ =>
      exact sound.byMain ⟨rfl, rfl, rfl, rfl, rfl⟩ sound.tasks rfl sound.joined
        sound.destroyed

/-! ## What a step does to the partitions -/

/-- The steps of the partitions that a step of the job consists of. -/
def shows
    (label : StreamLabel Dest) (labels : List (PartitionLabel Thread Dest)) :
    Prop :=
  (sentBy label).map Prod.snd = labels.flatMap PartitionLabel.sent

/-- What a step of a job does to its partitions, with what it sends. -/
def JobChange
    (context : MessageContext) (sources : List (Source Dest))
    (settings : StreamerOptions) (controller : StreamController Dest)
    (label : StreamLabel Dest) (next : StreamController Dest) : Prop :=
  ∃ labels, shows label labels ∧
    Change (partitionKind context sources settings) (jobParts controller)
      labels (jobParts next)

omit [DecidableEq Dest] in
theorem jobChange_same
    {label : StreamLabel Dest} (silent : sentBy label = [])
    (same : SameTopics controller next) :
    JobChange context sources settings controller label next := by
  refine ⟨[], by rw [shows, silent]; rfl, ?_⟩
  rw [same.jobParts]
  exact .same (List.Perm.refl _)

omit [DecidableEq Dest] in
/-- A topic of the vector has taken a step. -/
theorem jobChange_setTopic
    {label : StreamLabel Dest} {index : Nat} {topic after : Topic Dest}
    {topicLabel : TopicLabel Dest}
    (ofJob : OfJob sources settings topic)
    (found : controller.streamers[index]? = some (some topic))
    (taken : Topic.Step context controller.calls topic topicLabel after)
    (sent : sentBy label = topicLabel.sent)
    (streamers : next.streamers = controller.streamers.set index (some after))
    (retired : next.retired = controller.retired) :
    JobChange context sources settings controller label next := by
  rcases topicChange_step ofJob taken with ⟨labels, shown, change⟩
  refine ⟨labels, ?_, ?_⟩
  · rw [shows, sent]
    exact shown
  · rw [jobParts, jobParts, streamers, retired]
    apply Change.append_right
    exact Change.set slotParts found change

omit [DecidableEq Dest] in
theorem jobChange_stopStep
    {label : StreamLabel Dest} {last : StreamController Dest}
    (ofJob :
      ∀ topic, some topic ∈ controller.streamers →
        OfJob sources settings topic)
    {caller : Thread} {point after : StopPoint}
    (taken :
      StreamController.StopStep context caller controller point next after)
    (silent : sentBy label = [])
    (same : SameTopics next last) :
    JobChange context sources settings controller label last := by
  cases taken with
  | enterTopic _ _ => exact jobChange_same silent same
  | firstTask _ found taken =>
      exact jobChange_setTopic (ofJob _ (List.mem_of_getElem? found)) found
        taken silent same.streamers same.retired
  | secondTask found taken =>
      exact jobChange_setTopic (ofJob _ (List.mem_of_getElem? found)) found
        taken silent same.streamers same.retired
  | nextTopic => exact jobChange_same silent same
  | lastTopic => exact jobChange_same silent same
  | writer =>
      exact jobChange_same silent
        ⟨same.known, same.start, same.leeway, same.streamers, same.retired⟩
  | flag =>
      exact jobChange_same silent
        ⟨same.known, same.start, same.leeway, same.streamers, same.retired⟩

omit [DecidableEq Dest] in
/-- A topic that is moved overwrites another one, which is erased. -/
theorem jobParts_moveTopic
    {result index : Nat} {topic : Topic Dest}
    {overwritten : Option (Topic Dest)}
    (none : controller.retired = []) (before : result < index)
    (found : controller.streamers[index]? = some (some topic))
    (overwrites : controller.streamers[result]? = some overwritten) :
    (jobParts controller).Perm
      (jobParts (controller.moveTopic result index topic overwritten)) := by
  have left :
      (controller.streamers.set result (some topic))[index]? =
        some (some topic) := by
    rw [List.getElem?_set_ne (Nat.ne_of_lt before)]
    exact found
  have retired :
      overwritten.toList.flatMap topicParts = slotParts overwritten := by
    cases overwritten with
    | none => rfl
    | some other => exact List.flatMap_singleton _ _
  rw [jobParts, jobParts, none, List.flatMap_nil, List.append_nil]
  dsimp only [StreamController.moveTopic]
  rw [retired]
  have first := flatMap_perm_eraseIdx slotParts overwrites
  have second := flatMap_perm_eraseIdx slotParts left
  have others :=
    (List.perm_append_left_iff _).mp
      ((flatMap_set_perm slotParts overwrites (some topic)).symm.trans second)
  have last := flatMap_set_perm slotParts left Option.none
  refine first.trans (List.perm_append_comm.trans ?_)
  exact (others.trans last.symm).append_right _

omit [DecidableEq Dest] in
theorem jobParts_eraseFrom (result : Nat) (none : controller.retired = []) :
    jobParts (controller.eraseFrom result) = jobParts controller := by
  have dropped :
      ((controller.streamers.drop result).filterMap id).flatMap topicParts =
        (controller.streamers.drop result).flatMap slotParts := by
    induction controller.streamers.drop result with
    | nil => rfl
    | cons slot rest induction =>
        cases slot with
        | none => exact induction
        | some topic => exact congrArg (topicParts topic ++ ·) induction
  rw [jobParts, jobParts, none, List.flatMap_nil, List.append_nil]
  dsimp only [StreamController.eraseFrom]
  rw [dropped, ← List.flatMap_append, List.take_append_drop]

/-- What a step of a sound job does to its partitions. -/
theorem jobChange_step
    (sound : JobSound sources settings controller)
    {label : StreamLabel Dest}
    (taken : StreamController.Step context controller label next) :
    JobChange context sources settings controller label next := by
  cases taken with
  | mainStop _ taken =>
      exact jobChange_stopStep sound.streamers taken rfl
        ⟨rfl, rfl, rfl, rfl, rfl⟩
  | destroyTopic _ found _ taken =>
      exact jobChange_setTopic
        (sound.streamers _ (List.mem_of_getElem? found)) found taken rfl rfl rfl
  | getTopicNames outcome _ =>
      cases outcome <;>
        exact jobChange_same rfl ⟨rfl, rfl, rfl, rfl, rfl⟩
  | @initStreams knownTopicNames _ =>
      unfold StreamController.initStreams
      dsimp only
      split <;> exact jobChange_same rfl ⟨rfl, rfl, rfl, rfl, rfl⟩
  | @createTopic stopTime item _ now _ =>
      refine ⟨[], rfl, .same ?_⟩
      have noParts :
          slotParts (some (controller.newTopic stopTime item now)) = [] := rfl
      rw [jobParts, jobParts]
      dsimp only [StreamController.goTo, StreamController.addTopic]
      rw [List.flatMap_append, List.flatMap_singleton, noParts,
        List.append_nil]
  | passStopTime _ found taken =>
      exact jobChange_setTopic
        (sound.streamers _ (List.mem_of_getElem? found)) found taken rfl rfl rfl
  | moveStream _ none before found overwrites _ _ =>
      exact ⟨[], rfl, .same (jobParts_moveTopic none before found overwrites)⟩
  | @eraseStreams result _ _ none _ =>
      refine ⟨[], rfl, .same ?_⟩
      change (jobParts controller).Perm (jobParts (controller.eraseFrom result))
      rw [jobParts_eraseFrom result none]
  | controllerStop _ taken =>
      exact jobChange_stopStep sound.streamers taken rfl
        ⟨rfl, rfl, rfl, rfl, rfl⟩
  | topic found _ taken =>
      exact jobChange_setTopic
        (sound.streamers _ (List.mem_of_getElem? found)) found taken rfl rfl rfl
  | retiredTopic found _ taken =>
      rcases topicChange_step (sound.retired _ (List.mem_of_getElem? found))
        taken with ⟨labels, shown, change⟩
      refine ⟨labels, shown, ?_⟩
      apply Change.append_left
      exact Change.set topicParts found change
  | retiredDestroyed found destroyed =>
      refine ⟨[], rfl, ?_⟩
      apply Change.append_left
      apply Change.eraseIdx topicParts found
      exact (sound.retired _ (List.mem_of_getElem? found)).ended destroyed
  | _ => exact jobChange_same rfl ⟨rfl, rfl, rfl, rfl, rfl⟩

/-- All partitions of a job that is gone were destroyed. -/
theorem JobSound.ended
    (sound : JobSound sources settings controller)
    (gone : controller.main = .gone) :
    ∀ part ∈ jobParts controller, part.running.life = .destroyed := by
  have exited := sound.joined (by rw [gone]; rfl)
  have none : controller.retired = [] := by
    rcases sound.erased with none | ⟨task, running, _⟩
    · exact none
    · rw [exited] at running
      cases running
  intro part member
  rw [jobParts, none, List.flatMap_nil, List.append_nil] at member
  rcases List.mem_flatMap.mp member with ⟨slot, known, inSlot⟩
  cases slot with
  | none => exact absurd inSlot List.not_mem_nil
  | some topic =>
      rcases List.mem_iff_getElem?.mp known with ⟨index, found⟩
      have destroyed :=
        sound.destroyed index topic (by rw [gone]; trivial) found
      exact (sound.streamers topic known).ended destroyed part inSlot

theorem sound_create :
    JobSound sources settings (StreamController.create sources settings) := by
  refine ⟨rfl, rfl, rfl, .inr ⟨rfl, rfl⟩, ?_, ?_, .inl rfl, ?_, ?_⟩
  · exact fun _ member => absurd member List.not_mem_nil
  · exact fun _ member => absurd member List.not_mem_nil
  · exact fun joined => Bool.noConfusion joined
  · exact fun _ _ destroyed => destroyed.elim

end Steps

end KafkaToNexus.JobDelivery
