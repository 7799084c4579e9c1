import KafkaToNexus.Master

/-!
# The life cycle of jobs

The status of the master, the pointer to the stream controller and the topic
of the reporter are updated one after the other when a job is started, and a
finished job is wound up after the message about it was sent.  As long as no
start fails between its updates, and no message is published by a call that
throws, the status says that a job is being written exactly when there is a
controller, a start that throws changes neither, and the messages about
finished jobs follow the starts one by one.
-/

namespace KafkaToNexus.JobLifeCycle

open KafkaToNexus
open KafkaToNexus.Command
open KafkaToNexus.Foundations
open KafkaToNexus.Master
open KafkaToNexus.Status

variable {Json : Type}

/-- `createFileWritingJob` returns. -/
def JobCreated (outcomes : StartOutcomes) : Prop :=
  ∃ registered, outcomes.jobCreation = .created registered

/-- A start fails after the stream controller has been set. -/
structure FailsLate
    (master : Master) (startInfo : StartInfo) (outcomes : StartOutcomes) :
    Prop where
  idle : master.currentStatus.state ≠ .writing
  created : JobCreated outcomes
  controlTopic : startInfo.controlTopic ≠ ""
  defaultTopic : master.reporter.usingAlternativeStatusTopic = false
  throws : outcomes.statusTopicThrows = true

/-- The message about a finished job is published, and then its call throws. -/
def PublishesAndThrows
    (master : Master) (report : ControllerReport) (sending : Sending) : Prop :=
  master.hasWritingStopped report = true ∧ sending = .threwAfterPublishing

/--
The step is neither a start that fails late nor a message whose call throws
after it has published the message.
-/
def RunsCleanly (master : Master) : MasterStep → Prop
  | .call (.startWriting startInfo outcomes) =>
      ¬ FailsLate master startInfo outcomes
  | .call _ => True
  | .finishIfDone report sending => ¬ PublishesAndThrows master report sending

/-- The controller, the status and the topics of the reporter are the same. -/
def SameJob (before after : Master) : Prop :=
  after.currentStreamController = before.currentStreamController ∧
    after.currentStatus = before.currentStatus ∧
    after.reporter = before.reporter

/-- The id of the job whose controller the master holds. -/
def currentJob (master : Master) : Option String :=
  master.currentStreamController.map fun controller =>
    controller.startInfo.jobID

/--
The events of jobs that were started and finished one after the other, and of
a job that was started last and is pending.
-/
def lifeOf (jobs : List String) (pending : Option String) : List JobEvent :=
  (jobs.flatMap fun job => [.started job, .finished job]) ++
    pending.toList.map .started

/-! ## What a start does -/

/-- The switch of the status topic throws only where it is attempted. -/
theorem useAlternativeStatusTopic_threw
    {reporter : StatusReporter} {topic : String} {throws : Bool}
    (threw : (reporter.useAlternativeStatusTopic topic throws).2 = true) :
    reporter.usingAlternativeStatusTopic = false ∧ throws = true := by
  unfold StatusReporter.useAlternativeStatusTopic at threw
  cases inUse : reporter.usingAlternativeStatusTopic with
  | true => simp [inUse] at threw
  | false =>
      cases throws with
      | false => simp [inUse] at threw
      | true => exact ⟨rfl, rfl⟩

/--
A start that does not fail late throws and changes nothing of the job, or
returns and leaves the new job.
-/
theorem startWriting_cases
    {master : Master} {startInfo : StartInfo} {outcomes : StartOutcomes}
    (clean : ¬ FailsLate master startInfo outcomes) :
    let result := master.startWriting startInfo outcomes
    ((∃ what, result.2 = .threw what) ∧ SameJob master result.1) ∨
    (result.2 = .returned ∧ master.currentStatus.state ≠ .writing ∧
      currentJob result.1 = some startInfo.jobID ∧
      result.1.currentStatus.state = .writing ∧
      result.1.currentStatus.jobId = startInfo.jobID) := by
  intro result
  by_cases writing : master.currentStatus.state = .writing
  · left
    simp [result, startWriting, writing, SameJob]
  · cases creation : outcomes.jobCreation with
    | threw what registered =>
        left
        simp [result, startWriting, writing, creation, SameJob]
    | created registered =>
        have resultEq :
            result = announceJob
              { master with
                metaDataTracker := registered
                currentStreamController :=
                  some ⟨startInfo, startInfo.stopTime, false⟩
                currentMetadata := startInfo.metadata }
              startInfo outcomes.statusTopicThrows := by
          simp [result, startWriting, writing, creation]
        rw [resultEq]
        rcases announceJob_cases _ startInfo outcomes.statusTopicThrows with
          ⟨controller, ⟨returned, state, jobId⟩ | ⟨_, _, topic, threw⟩⟩
        · right
          refine ⟨returned, writing, ?_, state, jobId⟩
          rw [currentJob, controller]
          rfl
        · rcases useAlternativeStatusTopic_threw threw with ⟨default_, throws⟩
          exact absurd ⟨writing, ⟨registered, creation⟩, topic, default_, throws⟩
            clean

/-! ## The invariant -/

/--
The status and the controller belong to the same job, if there is one, and the
events are those of the jobs so far.
-/
structure Consistent (events : List JobEvent) (master : Master) : Prop where
  job :
    (master.currentStatus.state = .writing ∧
      currentJob master = some master.currentStatus.jobId) ∨
    (master.currentStatus.state = .idle ∧
      master.currentStreamController = none)
  lives : ∃ jobs, events = lifeOf jobs (currentJob master)

theorem Consistent.writing_iff
    {events : List JobEvent} {master : Master}
    (consistent : Consistent events master) :
    master.currentStatus.state = .writing ↔
      master.currentStreamController.isSome = true := by
  rcases consistent.job with ⟨writing, job⟩ | ⟨idle, none_⟩
  · simp only [writing, true_iff]
    rw [currentJob, Option.map_eq_some_iff] at job
    rcases job with ⟨controller, found, _⟩
    rw [found]
    rfl
  · simp [idle, none_]

/-- Calls that change neither the state nor the job keep the invariant. -/
theorem Consistent.of_same
    {events : List JobEvent} {master next : Master}
    (consistent : Consistent events master)
    (state : next.currentStatus.state = master.currentStatus.state)
    (jobId : next.currentStatus.jobId = master.currentStatus.jobId)
    (job : currentJob next = currentJob master) :
    Consistent events next := by
  constructor
  · rw [state, jobId, job]
    rcases consistent.job with writing | ⟨idle, none_⟩
    · exact Or.inl writing
    · refine Or.inr ⟨idle, ?_⟩
      rw [currentJob, currentJob, none_, Option.map_none,
        Option.map_eq_none_iff] at job
      exact job
  · rw [job]
    exact consistent.lives

theorem Consistent.startWriting
    {events : List JobEvent} {master : Master}
    (consistent : Consistent events master)
    {startInfo : StartInfo} {outcomes : StartOutcomes}
    (clean : ¬ FailsLate master startInfo outcomes) :
    let result := master.startWriting startInfo outcomes
    Consistent
      (events ++ eventsOf (.startWriting startInfo outcomes) result.2)
      result.1 := by
  intro result
  rcases startWriting_cases clean with
    ⟨⟨what, threw⟩, controller, status, _⟩ |
      ⟨returned, idle, job, writing, jobId⟩
  · change result.2 = _ at threw
    rw [threw]
    simp only [eventsOf, List.append_nil]
    apply consistent.of_same
    · rw [← status]
    · rw [← status]
    · rw [currentJob, controller]
      rfl
  · change result.2 = _ at returned
    rw [returned]
    refine ⟨Or.inl ⟨writing, job.trans (congrArg some jobId.symm)⟩, ?_⟩
    rcases consistent.job with ⟨contrary, _⟩ | ⟨_, none_⟩
    · exact absurd contrary idle
    · rcases consistent.lives with ⟨jobs, rfl⟩
      refine ⟨jobs, ?_⟩
      rw [job]
      simp [lifeOf, currentJob, none_, eventsOf]

theorem Consistent.stopNow
    {events : List JobEvent} {master : Master}
    (consistent : Consistent events master) (now : TimePoint) :
    Consistent events (master.stopNow now).1 := by
  unfold Master.stopNow
  split
  · exact consistent
  · refine consistent.of_same rfl rfl ?_
    simp only [currentJob, setStopTimeInternal, Option.map_map]
    rfl

theorem Consistent.setStopTime
    {events : List JobEvent} {master : Master}
    (consistent : Consistent events master) (newStopTime now : TimePoint) :
    Consistent events (master.setStopTime newStopTime now).1 := by
  unfold Master.setStopTime
  split
  · exact consistent
  · split
    · exact consistent
    · split
      · exact consistent
      · rename_i controller found
        refine consistent.of_same rfl rfl ?_
        simp only [currentJob, setStopTimeInternal, found]
        rfl

/-- The message about a finished job carries the id of the status. -/
theorem finishedMessage_jobId
    {context : MasterContext Json} {master : Master}
    {report : ControllerReport} {message : FinishedMessage Json}
    (found : master.finishedMessage context report = some message) :
    message.jobId = master.currentStatus.jobId := by
  unfold finishedMessage at found
  dsimp only at found
  split at found
  · cases found
    rfl
  · rcases Option.map_eq_some_iff.mp found with ⟨json, _, rfl⟩
    rfl

/--
Unless its message is published and its call throws, a finished job is wound
up with the message, or nothing happens.
-/
theorem finishIfDone_cases
    (context : MasterContext Json) {master : Master}
    {report : ControllerReport} {sending : Sending}
    (clean : ¬ PublishesAndThrows master report sending) :
    master.finishIfDone context report sending = (master, none) ∨
    ∃ message,
      master.finishIfDone context report sending =
          (master.reset, some message) ∧
        master.currentStreamController.isSome = true ∧
        message.jobId = master.currentStatus.jobId := by
  cases stopped : master.hasWritingStopped report with
  | false => simp [Master.finishIfDone, stopped]
  | true =>
      cases found : master.finishedMessage context report with
      | none => simp [Master.finishIfDone, stopped, setToIdle, found]
      | some message =>
          cases sending with
          | returned =>
              right
              refine ⟨message, ?_, ?_, finishedMessage_jobId found⟩
              · simp [Master.finishIfDone, stopped, setToIdle, found]
              · exact (Bool.and_eq_true_iff.mp stopped).1
          | threwBeforePublishing =>
              simp [Master.finishIfDone, stopped, setToIdle, found]
          | threwAfterPublishing => exact absurd ⟨stopped, rfl⟩ clean

/-- A finished job is wound up with a message that carries its id. -/
theorem Consistent.finishIfDone
    {events : List JobEvent} {master : Master}
    (consistent : Consistent events master)
    (context : MasterContext Json)
    {report : ControllerReport} {sending : Sending}
    (clean : ¬ PublishesAndThrows master report sending) :
    let result := master.finishIfDone context report sending
    Consistent
      (events ++ result.2.toList.map fun message => .finished message.jobId)
      result.1 := by
  intro result
  rcases finishIfDone_cases context clean with
    same | ⟨message, woundUp, controller, ownId⟩
  · change result = _ at same
    simpa [same] using consistent
  · change result = _ at woundUp
    rw [woundUp]
    refine ⟨Or.inr ⟨rfl, rfl⟩, ?_⟩
    rcases consistent.job with ⟨_, job⟩ | ⟨_, none_⟩
    · rcases consistent.lives with ⟨jobs, rfl⟩
      refine ⟨jobs ++ [master.currentStatus.jobId], ?_⟩
      rw [job]
      simp [lifeOf, currentJob, Master.reset, ownId]
    · rw [none_] at controller
      cases controller

/-- Every step that runs cleanly keeps the invariant. -/
theorem Consistent.step
    {events : List JobEvent} {master : Master}
    (consistent : Consistent events master)
    (context : MasterContext Json) (input : MasterStep)
    (clean : RunsCleanly master input) :
    Consistent (events ++ (master.step context input).2)
      (master.step context input).1 := by
  cases input with
  | call made =>
      cases made with
      | startWriting startInfo outcomes => exact consistent.startWriting clean
      | setStopTime newStopTime now =>
          simpa [Master.step, perform, eventsOf] using
            consistent.setStopTime newStopTime now
      | stopNow now =>
          simpa [Master.step, perform, eventsOf] using consistent.stopNow now
  | finishIfDone report sending =>
      exact consistent.finishIfDone context clean

/-! ## Runs -/

/--
The life cycle of jobs, for every sequence of calls on the master in which no
start fails after the controller was set, and no call that sends a message
throws after it has published the message.  After every call the status says
that a job is being written exactly when there is a controller.  A start that
throws leaves the controller, the status and the status topic as they were,
again unless it fails late.  The events are those of jobs that were started and
finished one after the other, each with one message that carries its own id,
followed by the start of the current job, if there is one.
-/
theorem job_life_cycle
    (context : MasterContext Json) (statusTopic : String)
    (calls : List MasterInput)
    (clean :
      Mealy.Admissible (Master.step context) RunsCleanly
        (Master.create statusTopic) (calls.flatMap MasterInput.steps)) :
    let result :=
      Mealy.run (Master.step context) (Master.create statusTopic)
        (calls.flatMap MasterInput.steps)
    (result.1.currentStatus.state = .writing ↔
        result.1.currentStreamController.isSome = true) ∧
      (∀ startInfo outcomes what,
        ¬ FailsLate result.1 startInfo outcomes →
          (result.1.startWriting startInfo outcomes).2 = .threw what →
            SameJob result.1 (result.1.startWriting startInfo outcomes).1) ∧
      ∃ jobs, result.2 = lifeOf jobs (currentJob result.1) := by
  intro result
  have consistent : Consistent result.2 result.1 :=
    Mealy.run_induction_of_admissible (fun _ => Consistent)
      ⟨Or.inr ⟨rfl, rfl⟩, [], rfl⟩
      (fun _ _ _ input before meets => before.step context input meets) clean
  refine ⟨consistent.writing_iff, ?_, consistent.lives⟩
  intro startInfo outcomes what late threw
  rcases startWriting_cases late with ⟨_, same⟩ | ⟨returned, _⟩
  · exact same
  · rw [returned] at threw
    cases threw

/-! ## Two runs -/

/-- A context for runs in which no JSON is built. -/
def errorContext : MasterContext Unit where
  json :=
    { parse := fun _ => .error .parseError
      object := ()
      update := fun _ _ => none
      setString := fun _ _ _ => none
      dump := fun _ => none }
  createJSONReport _ _ := ()
  filePath filename := filename

/-- A job that is started and ends with an error. -/
def failingJob : List MasterInput :=
  [.call (.startWriting { jobID := "first" } ⟨.created [], false⟩),
    .run [] false ⟨true, true, "Kafka error"⟩ .returned]

/-- The failing job gets one message with its own id. -/
theorem job_life_cycle_of_failingJob :
    ∃ jobs,
      (Mealy.run (Master.step errorContext) (Master.create "status")
        (failingJob.flatMap MasterInput.steps)).2 = lifeOf jobs none := by
  have clean :
      Mealy.Admissible (Master.step errorContext) RunsCleanly
        (Master.create "status") (failingJob.flatMap MasterInput.steps) := by
    refine ⟨?_, ?_, trivial⟩
    · intro late
      exact absurd late.throws (by decide)
    · rintro ⟨_, threw⟩
      cases threw
  exact (job_life_cycle errorContext "status" failingJob clean).2.2

/-- A job whose controller is created before its status topic fails. -/
def lateFailure : MasterCall :=
  .startWriting { jobID := "first", controlTopic := "control" }
    ⟨.created [], true⟩

/--
A start that fails late throws and leaves a controller behind, although the
status does not say that a job is being written.  When the controller is done,
a message is sent that carries no job's id.
-/
theorem late_failure_leaves_controller :
    let create := Master.create "status"
    let failed := create.perform lateFailure
    let result :=
      Mealy.run (Master.step errorContext) create
        ([.call lateFailure, .run [] false ⟨true, true, ""⟩ .returned].flatMap
          MasterInput.steps)
    ¬ (failed.1.currentStatus.state = .writing ↔
        failed.1.currentStreamController.isSome = true) ∧
      (∃ what, failed.2 = .threw what) ∧
      ¬ SameJob create failed.1 ∧
      ¬ ∃ jobs, result.2 = lifeOf jobs (currentJob result.1) := by
  intro create failed result
  refine ⟨by decide, ⟨_, rfl⟩, ?_, ?_⟩
  · rintro ⟨same, _⟩
    cases same
  · rintro ⟨jobs, lives⟩
    have events : result.2 = [.finished "not_currently_writing"] := rfl
    have pending : currentJob result.1 = none := rfl
    rw [events, pending] at lives
    cases jobs <;> simp [lifeOf] at lives

end KafkaToNexus.JobLifeCycle
