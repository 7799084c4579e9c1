import KafkaToNexus.JobLifeCycle
import KafkaToNexus.RunLoop.SignalHandling

/-!
# A graceful shutdown

When the only signal is one `SIGINT`, the main thread leaves the loop on its
own terms.  While a file is being written, it tells the master to stop, once,
and goes on with the loop until the job is finished or has taken too long.  No
other job is started in the meantime, since a master that is writing rejects
the start commands and the main thread looks at the job before every body.

The call of `stopNow` stands outside of the block whose exceptions are caught.
It does not throw as long as the master is writing whenever it has a
controller, and a start may break this only by failing to create the status
topic of its job.
-/

namespace KafkaToNexus.RunLoop

open KafkaToNexus.Command
open KafkaToNexus.Command.Handler
open KafkaToNexus.Foundations

variable {Json : Type}

/-! ## The master and its job -/

/-- The master is writing exactly when it has a controller. -/
def WritesItsJob (master : Master) : Prop :=
  master.currentStatus.state = .writing ↔
    master.currentStreamController.isSome = true

/-- The current job was told to stop. -/
structure ToldToStop (jobId : String) (master : Master) : Prop where
  writing : master.currentStatus.state = .writing
  jobId : master.currentStatus.jobId = jobId
  stopped :
    ∃ controller,
      master.currentStreamController = some controller ∧
        controller.stopped = true

/-- No job is left but one that was told to stop. -/
def HasOnly (jobId : String) (master : Master) : Prop :=
  ToldToStop jobId master ∨
    (master.currentStatus.state ≠ .writing ∧
      master.currentStreamController = none)

theorem WritesItsJob.stopNow
    {master : Master} (writes : WritesItsJob master) (now : TimePoint) :
    WritesItsJob (master.stopNow now).1 := by
  rw [Master.stopNow]
  split
  · exact writes
  · simpa [WritesItsJob, Master.setStopTimeInternal] using writes

theorem WritesItsJob.setStopTime
    {master : Master} (writes : WritesItsJob master)
    (newStopTime now : TimePoint) :
    WritesItsJob (master.setStopTime newStopTime now).1 := by
  rw [Master.setStopTime]
  split
  · exact writes
  · split
    · exact writes
    · split
      · exact writes
      · rename_i controller found
        simpa [WritesItsJob, Master.setStopTimeInternal, found] using writes

/-- A start whose status topic can be created keeps status and controller. -/
theorem WritesItsJob.startWriting
    {master : Master} (writes : WritesItsJob master)
    (startInfo : StartInfo) {outcomes : StartOutcomes}
    (created : outcomes.statusTopicThrows = false) :
    WritesItsJob (master.startWriting startInfo outcomes).1 := by
  have clean : ¬ JobLifeCycle.FailsLate master startInfo outcomes := by
    intro late
    rw [late.throws] at created
    cases created
  rcases JobLifeCycle.startWriting_cases clean with
    ⟨_, controller, status, _⟩ | ⟨_, _, job, writing, _⟩
  · rw [WritesItsJob, controller, status]
    exact writes
  · rw [WritesItsJob, writing]
    rcases Option.map_eq_some_iff.mp job with ⟨controller, found, _⟩
    simp [found]

theorem ToldToStop.stopNow
    {jobId : String} {master : Master} (told : ToldToStop jobId master)
    (now : TimePoint) :
    ToldToStop jobId (master.stopNow now).1 := by
  rcases told.stopped with ⟨controller, found, _⟩
  simp only [Master.stopNow, told.writing, ne_eq, not_true_eq_false, if_false,
    found]
  exact ⟨told.writing, told.jobId, _, rfl, rfl⟩

theorem ToldToStop.setStopTime
    {jobId : String} {master : Master} (told : ToldToStop jobId master)
    (newStopTime now : TimePoint) :
    ToldToStop jobId (master.setStopTime newStopTime now).1 := by
  rw [Master.setStopTime]
  split
  · exact told
  · split
    · exact told
    · split
      · exact told
      · rename_i controller found
        rcases told.stopped with ⟨own, ownFound, stopped⟩
        rw [found] at ownFound
        cases ownFound
        exact ⟨told.writing, told.jobId, _, rfl, stopped⟩

/-! ## A call of `run` -/

/-- The status topic of a job can be created when the job is started. -/
def createsStatusTopic : CommandInput → Bool
  | .start _ outcomes => !outcomes.start.statusTopicThrows
  | .stop _ _ => true

/-- The commands of a step of the main thread create their status topics. -/
def createsStatusTopics : ScheduleInput → Bool
  | .main input => input.run.commands.all createsStatusTopic
  | _ => true

/-- A command keeps what the master does with start and stop commands. -/
theorem command_keeps
    (context : ServiceContext Json) (service : Service)
    {property : Master → Prop} (command : CommandInput)
    (startWriting :
      ∀ input outcomes startInfo, command = .start input outcomes →
        service.master.currentStatus.state ≠ .writing →
          property (service.master.startWriting startInfo outcomes.start).1)
    (stopNow : ∀ master now, property master →
      property (master.stopNow now).1)
    (setStopTime : ∀ master newStopTime now, property master →
      property (master.setStopTime newStopTime now).1)
    (holds : property service.master) :
    property (service.step context command.toStep).1.master := by
  cases command with
  | start input outcomes =>
      change property
        (handleStartCommand context.command (Service.callbacks outcomes)
          service.handler service.master input).world
      rcases handleStartCommand_cases context.command
          (Service.callbacks outcomes) service.handler service.master input
        with ⟨same, _⟩ | ⟨_, same, _⟩ | ⟨idle, startJob, started, _⟩
      · rw [same]
        exact holds
      · rw [same]
        exact holds
      · rw [started]
        exact startWriting input outcomes _ rfl (of_decide_eq_false idle)
  | stop commandMsg outcomes =>
      apply handleStopCommand_keeps _ _ _ property
      · intro master before
        exact stopNow master outcomes.now before
      · intro stopTime master before
        exact setStopTime master stopTime outcomes.now before
      · exact holds

theorem loopFunction_keeps
    (context : ServiceContext Json) (service : Service)
    {property : Master → Prop} (commands : List CommandInput)
    (startWriting :
      ∀ master input outcomes startInfo, .start input outcomes ∈ commands →
        property master → master.currentStatus.state ≠ .writing →
          property (master.startWriting startInfo outcomes.start).1)
    (stopNow : ∀ master now, property master →
      property (master.stopNow now).1)
    (setStopTime : ∀ master newStopTime now, property master →
      property (master.setStopTime newStopTime now).1)
    (holds : property service.master) :
    property (service.loopFunction context commands).1.master := by
  induction commands generalizing service with
  | nil => exact holds
  | cons command rest induction =>
      have next :=
        command_keeps context service command
          (fun input outcomes startInfo same idle =>
            startWriting _ input outcomes startInfo
              (same ▸ List.mem_cons_self) holds idle)
          stopNow setStopTime holds
      have rest_ :=
        induction (service.step context command.toStep).1
          (fun master input outcomes startInfo member =>
            startWriting master input outcomes startInfo
              (List.mem_cons_of_mem _ member))
          next
      rw [Service.loopFunction, List.map_cons, Mealy.run_cons]
      exact rest_

/-- A look at the controller resets the master or leaves it as it is. -/
theorem finishIfDone_master
    (context : ServiceContext Json) (service : Service)
    (report : ControllerReport) (clients : ClientOutcomes) :
    let next := (service.step context (.finishIfDone report clients)).1.master
    next = service.master ∨ next = service.master.reset := by
  intro next
  have unfolded :
      next =
        (service.step context (.finishIfDone report clients)).1.master := rfl
  simp only [Service.step] at unfolded
  split at unfolded
  · split at unfolded
    · exact Or.inl unfolded
    · rename_i message _
      cases message with
      | errorEncountered => exact Or.inr unfolded
      | hasStopped jobId filePath metadata =>
          simp only [Service.setToIdle] at unfolded
          split at unfolded
          · exact Or.inl unfolded
          · exact Or.inr unfolded
  · exact Or.inl unfolded

/-- What the loop function leaves, or what a reset makes of it. -/
theorem run_master
    (context : ServiceContext Json) (service : Service) (input : RunInput) :
    let commanded :=
      (service.loopFunction context input.commands).1.master
    let next := (service.run context input).service.master
    next = commanded ∨ next = commanded.reset := by
  intro commanded next
  have unfolded : next = (service.run context input).service.master := rfl
  simp only [Service.run] at unfolded
  split at unfolded
  · exact Or.inl unfolded
  · rw [unfolded]
    exact finishIfDone_master context _ input.report input.clients

theorem writesItsJob_reset (master : Master) : WritesItsJob master.reset := by
  simp [WritesItsJob, Master.reset]

theorem WritesItsJob.run
    {service : Service} (writes : WritesItsJob service.master)
    (context : ServiceContext Json) {input : RunInput}
    (created : ∀ command ∈ input.commands, createsStatusTopic command = true) :
    WritesItsJob (service.run context input).service.master := by
  have commanded :
      WritesItsJob
        (service.loopFunction context input.commands).1.master := by
    refine loopFunction_keeps context service input.commands ?_ ?_ ?_ writes
    · intro master start outcomes startInfo member before _
      have topic := created _ member
      simp only [createsStatusTopic, Bool.not_eq_true'] at topic
      exact before.startWriting startInfo topic
    · exact fun _ now before => before.stopNow now
    · exact fun _ newStopTime now before =>
        before.setStopTime newStopTime now
  rcases run_master context service input with same | reset
  · rw [same]
    exact commanded
  · rw [reset]
    exact writesItsJob_reset _

/-- A master that was told to stop starts no job before it is idle. -/
theorem ToldToStop.run
    {jobId : String} {service : Service}
    (told : ToldToStop jobId service.master)
    (context : ServiceContext Json) (input : RunInput) :
    HasOnly jobId (service.run context input).service.master := by
  have commanded :
      ToldToStop jobId
        (service.loopFunction context input.commands).1.master := by
    refine loopFunction_keeps context service input.commands ?_ ?_ ?_ told
    · intro master _ _ _ _ before idle
      exact absurd before.writing idle
    · exact fun _ now before => before.stopNow now
    · exact fun _ newStopTime now before =>
        before.setStopTime newStopTime now
  rcases run_master context service input with same | reset
  · rw [same]
    exact Or.inl commanded
  · rw [reset]
    exact Or.inr ⟨by simp [Master.reset], rfl⟩

/-- Before a body, the job that the main thread has found is not finished. -/
theorem HasOnly.toldToStop
    {jobId : String} {master : Master} (only : HasOnly jobId master)
    {report : ControllerReport}
    (unfinished : master.writingIsFinished report = false) :
    ToldToStop jobId master := by
  rcases only with told | ⟨_, none_⟩
  · exact told
  · simp [Master.writingIsFinished, none_] at unfinished

/-- A master with an unfinished job can be told to stop. -/
theorem WritesItsJob.stopNow_returns
    {master : Master} (writes : WritesItsJob master)
    {report : ControllerReport}
    (unfinished : master.writingIsFinished report = false)
    (now : TimePoint) :
    (master.stopNow now).2 = .returned ∧
      ToldToStop master.currentStatus.jobId (master.stopNow now).1 := by
  cases found : master.currentStreamController with
  | none => simp [Master.writingIsFinished, found] at unfinished
  | some controller =>
      have writing : master.currentStatus.state = .writing :=
        writes.mpr (by rw [found]; rfl)
      simp only [Master.stopNow, writing, ne_eq, not_true_eq_false, if_false,
        found]
      exact ⟨trivial, writing, rfl, _, rfl, rfl⟩

/-! ## The only signal -/

def signalOf : ScheduleInput → Option Signal
  | .signal signal => some signal
  | _ => none

/-- Where a `SIGINT` is that is the only signal. -/
inductive SigintPlace : List Signal → List RunStates → RunStates → Prop where
  | none : SigintPlace [] [] .running
  | handled : SigintPlace [.sigint] [.sigintReceived] .running
  | stored {runState : RunStates} :
      runState ≠ .running →
      SigintPlace [.sigint] [] runState

theorem SigintPlace.signal
    {arrived : List Signal} {handlers : List RunStates}
    {runState : RunStates} {signal : Signal}
    (place : SigintPlace arrived handlers runState)
    (only : arrived ++ [signal] <+: [.sigint]) :
    SigintPlace (arrived ++ [signal])
      (handlers ++ [signalHandler runState signal]) runState := by
  cases place with
  | none =>
      rcases List.cons_prefix_cons.mp only with ⟨rfl, _⟩
      exact .handled
  | handled =>
      have long := only.length_le
      simp at long
  | stored _ =>
      have long := only.length_le
      simp at long

/-- A handler stores the `SIGINT`, and there is no other one. -/
theorem SigintPlace.store
    {arrived : List Signal} {handlers rest : List RunStates}
    {before after : RunStates}
    (place : SigintPlace arrived handlers before)
    (both : (after :: rest).Perm handlers) :
    before = .running ∧ after = .sigintReceived ∧
      SigintPlace arrived rest after := by
  cases place with
  | none => exact absurd both.length_eq (by simp)
  | handled =>
      cases List.perm_singleton.mp both
      exact ⟨rfl, rfl, .stored RunStates.noConfusion⟩
  | stored _ => exact absurd both.length_eq (by simp)

/-- A state that is not `Running` may be replaced by another one. -/
theorem SigintPlace.replace
    {arrived : List Signal} {handlers : List RunStates}
    {before after : RunStates}
    (place : SigintPlace arrived handlers before)
    (notRunning : before ≠ .running) (next : after ≠ .running) :
    SigintPlace arrived handlers after := by
  cases place with
  | none => exact absurd rfl notRunning
  | handled => exact absurd rfl notRunning
  | stored _ => exact .stored next

/-! ## The master in the loop -/

/-- The topics are looked for as long as there is no master. -/
structure HasMaster (loop : RunLoop) : Prop where
  findTopicMode : loop.findTopicMode = loop.masterPtr.isNone
  writes :
    ∀ service, loop.masterPtr = some service → WritesItsJob service.master

theorem HasMaster.stopJob
    {loop : RunLoop} (has : HasMaster loop) (input : MainInput) :
    HasMaster (loop.stopJob input).1 := by
  rw [RunLoop.stopJob]
  split
  · exact ⟨has.findTopicMode, has.writes⟩
  · split
    · exact ⟨has.findTopicMode, has.writes⟩
    · rename_i service found
      split
      · exact ⟨has.findTopicMode, has.writes⟩
      · have kept := (has.writes service found).stopNow input.now
        have mode := has.findTopicMode
        rw [found] at mode
        dsimp only
        split <;>
          (refine ⟨mode, fun other same => ?_⟩
           cases same
           exact kept)

theorem HasMaster.wait
    {loop : RunLoop} (has : HasMaster loop) (input : MainInput) :
    HasMaster (loop.wait input).1 := by
  rw [RunLoop.wait]
  split
  · exact ⟨has.findTopicMode, has.writes⟩
  · split
    · exact ⟨has.findTopicMode, has.writes⟩
    · split <;> exact ⟨has.findTopicMode, has.writes⟩

theorem HasMaster.findTopics
    {loop : RunLoop} (has : HasMaster loop)
    (settings : RunSettings) (input : MainInput) :
    HasMaster (loop.findTopics settings input) := by
  rw [RunLoop.findTopics]
  split
  · exact ⟨has.findTopicMode, has.writes⟩
  · split
    · exact ⟨has.findTopicMode, has.writes⟩
    · refine ⟨rfl, fun service same => ?_⟩
      cases same
      simp [WritesItsJob, Service.create, Master.create]
  · exact ⟨has.findTopicMode, has.writes⟩

theorem HasMaster.body
    {loop : RunLoop} (has : HasMaster loop)
    (context : ServiceContext Json) (settings : RunSettings)
    {input : MainInput}
    (created : createsStatusTopics (.main input) = true) :
    HasMaster (loop.body context settings input).1 := by
  rw [RunLoop.body]
  split
  · exact has.findTopics settings input
  · split
    · exact ⟨has.findTopicMode, has.writes⟩
    · rename_i service found
      have mode := has.findTopicMode
      rw [found] at mode
      refine ⟨mode, fun other same => ?_⟩
      cases same
      exact (has.writes service found).run context (List.all_eq_true.mp created)

theorem HasMaster.mainStep
    {loop : RunLoop} (has : HasMaster loop)
    (context : ServiceContext Json) (settings : RunSettings)
    {input : MainInput}
    (created : createsStatusTopics (.main input) = true) :
    HasMaster (loop.mainStep context settings input).1 := by
  rw [RunLoop.mainStep]
  split
  case h_3 => exact has.stopJob input
  case h_6 => exact has.wait input
  case h_8 => exact has.body context settings created
  all_goals exact ⟨has.findTopicMode, has.writes⟩

/-! ## The shutdown -/

/-- The job that the main thread has told to stop. -/
def stoppedJob : MainEvent → Option String
  | .stoppedNow jobId => some jobId
  | _ => none

/-- Why the loop may be left before a job was told to stop. -/
inductive LeavesEarly (masterPtr : Option Service) : LeaveReason → Prop where
  | noTopics : masterPtr = none → LeavesEarly masterPtr .noTopics
  | nothingToStop : LeavesEarly masterPtr .nothingToStop
  | exception (what : Option String) :
      LeavesEarly masterPtr (.exception what)

/-- The places of the loop in which no job has to be there. -/
def InLoop (point : LoopPoint) : Prop :=
  point = .condition ∨ point = .firstLook ∨ point = .secondLook

/-- The main thread has not told a job to stop. -/
inductive BeforeStop (masterPtr : Option Service) :
    RunStates → LoopPoint → Prop where
  | inLoop {runState : RunStates} {point : LoopPoint} :
      InLoop point ∨ point = .body → BeforeStop masterPtr runState point
  | received : BeforeStop masterPtr .sigintReceived .received
  | left {runState : RunStates} {reason : LeaveReason} :
      LeavesEarly masterPtr reason →
      BeforeStop masterPtr runState (.left reason)
  | exited {runState : RunStates} {reason : LeaveReason} :
      LeavesEarly masterPtr reason →
      BeforeStop masterPtr runState (.exited reason false)

/-- The main thread has told a job to stop. -/
inductive AfterStop (jobId : String) (master : Master) :
    RunStates → LoopPoint → Prop where
  | storeWaiting :
      ToldToStop jobId master →
      AfterStop jobId master .sigintReceived .storeWaiting
  | body :
      ToldToStop jobId master →
      AfterStop jobId master .sigintWaiting .body
  | inLoop {point : LoopPoint} :
      InLoop point ∨ point = .waiting ∨ point = .storeKafkaWait →
      HasOnly jobId master →
      AfterStop jobId master .sigintWaiting point
  | left {reason : LeaveReason} :
      reason = .gaveUp ∨ (∃ what, reason = .exception what) →
      HasOnly jobId master →
      AfterStop jobId master .sigintWaiting (.left reason)
  | exited {reason : LeaveReason} :
      reason = .gaveUp ∨ (∃ what, reason = .exception what) →
      HasOnly jobId master →
      AfterStop jobId master .sigintWaiting (.exited reason false)
  | finished :
      HasOnly jobId master →
      AfterStop jobId master .sigintKafkaWait (.left .finished)
  | exitedFinished :
      HasOnly jobId master →
      AfterStop jobId master .sigintKafkaWait (.exited .finished true)

/-- How far the main thread has come with the shutdown. -/
inductive ShutDown (events : List MainEvent) (loop : RunLoop) : Prop where
  | before :
      events.filterMap stoppedJob = [] →
      loop.runState = .running ∨ loop.runState = .sigintReceived →
      BeforeStop loop.masterPtr loop.runState loop.point →
      ShutDown events loop
  | after (jobId : String) (service : Service) :
      events.filterMap stoppedJob = [jobId] →
      loop.masterPtr = some service →
      AfterStop jobId service.master loop.runState loop.point →
      ShutDown events loop

theorem shutDown_stopJob
    {events : List MainEvent} {loop : RunLoop}
    (notStopped : events.filterMap stoppedJob = [])
    (received : loop.runState = .sigintReceived)
    (has : HasMaster loop) (input : MainInput) :
    ShutDown (events ++ (loop.stopJob input).2) (loop.stopJob input).1 := by
  rw [stopJob]
  split
  · rename_i mode
    rw [has.findTopicMode, Option.isNone_iff_eq_none] at mode
    exact .before (by simpa using notStopped) (Or.inr received)
      (.left (.noTopics mode))
  · rename_i mode
    split
    · rename_i missing
      rw [has.findTopicMode, missing] at mode
      exact absurd rfl mode
    · rename_i service found
      split
      · exact .before (by simpa using notStopped) (Or.inr received)
          (.left .nothingToStop)
      · rename_i unfinished
        rcases (has.writes service found).stopNow_returns
            (Bool.not_eq_true _ ▸ unfinished) input.now with
          ⟨returned, told⟩
        simp only [returned]
        have sameJob :
            (service.master.stopNow input.now).1.currentStatus.jobId =
              service.master.currentStatus.jobId :=
          told.jobId
        refine .after service.master.currentStatus.jobId _ ?_ rfl ?_
        · rw [sameJob, List.filterMap_append, notStopped]
          rfl
        · simp only [goTo, received]
          exact .storeWaiting told

/-- The main thread waits for its job, gives up or finishes. -/
theorem shutDown_wait
    {events : List MainEvent} {loop : RunLoop} {jobId : String}
    {service : Service}
    (stopped : events.filterMap stoppedJob = [jobId])
    (found : loop.masterPtr = some service)
    (waiting : loop.runState = .sigintWaiting)
    (only : HasOnly jobId service.master) (input : MainInput) :
    ShutDown (events ++ (loop.wait input).2) (loop.wait input).1 := by
  have same (event : List MainEvent) (quiet : event.filterMap stoppedJob = []) :
      (events ++ event).filterMap stoppedJob = [jobId] := by
    rw [List.filterMap_append, quiet, List.append_nil, stopped]
  rw [wait]
  split
  · refine .after jobId service (same _ rfl) found ?_
    simp only [goTo, waiting]
    exact .left (Or.inl rfl) only
  · simp only [found]
    split
    · refine .after jobId service (same _ rfl) found ?_
      simp only [goTo, waiting]
      exact .inLoop (Or.inr (Or.inr rfl)) only
    · rename_i unfinished
      refine .after jobId service (same _ rfl) found ?_
      simp only [goTo, waiting]
      exact .body (only.toldToStop (Bool.not_eq_true _ ▸ unfinished))

/-- The body of the loop before a job was told to stop. -/
theorem shutDown_body_before
    {events : List MainEvent} {loop : RunLoop}
    (notStopped : events.filterMap stoppedJob = [])
    (runs : loop.runState = .running ∨ loop.runState = .sigintReceived)
    (has : HasMaster loop)
    (context : ServiceContext Json) (settings : RunSettings)
    (input : MainInput) :
    let next := loop.body context settings input
    ShutDown (events ++ next.2) next.1 := by
  intro next
  have unfolded : next = loop.body context settings input := rfl
  unfold body at unfolded
  split at unfolded
  · rw [unfolded, findTopics]
    have quiet :
        (events ++ [MainEvent.searched loop.cMetaDataTimeout]).filterMap
            stoppedJob = [] := by
      rw [List.filterMap_append, notStopped]
      rfl
    split
    · exact .before quiet runs (.left (.exception _))
    · split
      · exact .before quiet runs (.left (.exception _))
      · exact .before quiet runs (.inLoop (Or.inl (Or.inl rfl)))
    · exact .before quiet runs (.inLoop (Or.inl (Or.inl rfl)))
  · rename_i mode
    split at unfolded
    · rename_i missing
      rw [has.findTopicMode, missing] at mode
      exact absurd rfl mode
    · rename_i service found
      rw [unfolded]
      refine .before ?_ runs ?_
      · rw [List.filterMap_append, notStopped]
        rfl
      · dsimp only
        split
        · exact .left (.exception _)
        · exact .inLoop (Or.inl (Or.inl rfl))

/-- The body of the loop while the main thread waits for its job. -/
theorem shutDown_body_after
    {events : List MainEvent} {loop : RunLoop} {jobId : String}
    {service : Service}
    (stopped : events.filterMap stoppedJob = [jobId])
    (found : loop.masterPtr = some service)
    (waiting : loop.runState = .sigintWaiting)
    (told : ToldToStop jobId service.master)
    (has : HasMaster loop)
    (context : ServiceContext Json) (settings : RunSettings)
    (input : MainInput) :
    let next := loop.body context settings input
    ShutDown (events ++ next.2) next.1 := by
  intro next
  have mode : loop.findTopicMode = false := by
    rw [has.findTopicMode, found]
    rfl
  have unfolded : next = loop.body context settings input := rfl
  simp only [body, mode, Bool.false_eq_true, if_false, found] at unfolded
  rw [unfolded]
  have only := told.run context input.run
  refine .after jobId _ ?_ rfl ?_
  · rw [List.filterMap_append, stopped]
    rfl
  · simp only [waiting]
    split
    · exact .left (Or.inr ⟨_, rfl⟩) only
    · exact .inLoop (Or.inl (Or.inl rfl)) only

theorem BeforeStop.mainStep
    {events : List MainEvent} {loop : RunLoop}
    (place : BeforeStop loop.masterPtr loop.runState loop.point)
    (notStopped : events.filterMap stoppedJob = [])
    (runs : loop.runState = .running ∨ loop.runState = .sigintReceived)
    (has : HasMaster loop)
    (context : ServiceContext Json) (settings : RunSettings)
    (input : MainInput) :
    let next := loop.mainStep context settings input
    ShutDown (events ++ next.2) next.1 := by
  intro next
  have unfolded : next = loop.mainStep context settings input := rfl
  have quiet : (events ++ []).filterMap stoppedJob = [] := by
    rw [List.append_nil, notStopped]
  generalize state : loop.runState = runState at place
  generalize point : loop.point = here at place
  simp only [RunLoop.mainStep, point] at unfolded
  cases place with
  | inLoop inside =>
      rcases inside with (rfl | rfl | rfl) | rfl
      · have goesOn : loop.runState ≠ .stopping := by
          rcases runs with same | same <;>
            (rw [same]; exact RunStates.noConfusion)
        simp only [goesOn, if_false] at unfolded
        rw [unfolded]
        exact .before quiet runs (.inLoop (Or.inl (Or.inr (Or.inl rfl))))
      · rw [unfolded]
        by_cases received : loop.runState = .sigintReceived
        · rw [if_pos received]
          refine .before quiet runs ?_
          simp only [goTo, received]
          exact .received
        · rw [if_neg received]
          exact .before quiet runs (.inLoop (Or.inl (Or.inr (Or.inr rfl))))
      · have noWait : loop.runState ≠ .sigintWaiting := by
          rcases runs with same | same <;>
            (rw [same]; exact RunStates.noConfusion)
        simp only [noWait, if_false] at unfolded
        rw [unfolded]
        exact .before quiet runs (.inLoop (Or.inr rfl))
      · rw [unfolded]
        exact shutDown_body_before notStopped runs has context settings input
  | received =>
      rw [unfolded]
      exact shutDown_stopJob notStopped state has input
  | left early =>
      have noGrace : loop.runState ≠ .sigintKafkaWait := by
        rcases runs with same | same <;>
          (rw [same]; exact RunStates.noConfusion)
      simp only [noGrace, decide_false] at unfolded
      rw [unfolded]
      exact .before quiet runs (.exited early)
  | exited early =>
      rw [unfolded]
      refine .before quiet runs ?_
      rw [point]
      exact .exited early

theorem AfterStop.mainStep
    {events : List MainEvent} {loop : RunLoop} {jobId : String}
    {service : Service}
    (place : AfterStop jobId service.master loop.runState loop.point)
    (stopped : events.filterMap stoppedJob = [jobId])
    (found : loop.masterPtr = some service)
    (has : HasMaster loop)
    (context : ServiceContext Json) (settings : RunSettings)
    (input : MainInput) :
    let next := loop.mainStep context settings input
    ShutDown (events ++ next.2) next.1 := by
  intro next
  have unfolded : next = loop.mainStep context settings input := rfl
  have same (new : List MainEvent) (quiet : new.filterMap stoppedJob = []) :
      (events ++ new).filterMap stoppedJob = [jobId] := by
    rw [List.filterMap_append, quiet, List.append_nil, stopped]
  generalize state : loop.runState = runState at place
  generalize point : loop.point = here at place
  simp only [RunLoop.mainStep, point] at unfolded
  cases place with
  | storeWaiting told =>
      rw [unfolded]
      exact .after jobId service (same _ rfl) found (.body told)
  | body told =>
      rw [unfolded]
      exact shutDown_body_after stopped found state told has context settings
        input
  | inLoop inside only =>
      rcases inside with (rfl | rfl | rfl) | rfl | rfl
      · rw [unfolded]
        refine .after jobId service (same _ rfl) found ?_
        simp only [goTo, state]
        exact .inLoop (Or.inl (Or.inr (Or.inl rfl))) only
      · rw [unfolded]
        refine .after jobId service (same _ rfl) found ?_
        simp only [goTo, state]
        exact .inLoop (Or.inl (Or.inr (Or.inr rfl))) only
      · rw [unfolded]
        refine .after jobId service (same _ rfl) found ?_
        simp only [goTo, state]
        exact .inLoop (Or.inr (Or.inl rfl)) only
      · rw [unfolded]
        exact shutDown_wait stopped found state only input
      · rw [unfolded]
        exact .after jobId service (same _ rfl) found (.finished only)
  | left late only =>
      rw [unfolded]
      refine .after jobId service (same _ rfl) found ?_
      simp only [goTo, state]
      exact .exited late only
  | exited late only =>
      rw [unfolded]
      refine .after jobId service (same _ rfl) found ?_
      rw [state, point]
      exact .exited late only
  | finished only =>
      rw [unfolded]
      refine .after jobId service (same _ rfl) found ?_
      simp only [goTo, state]
      exact .exitedFinished only
  | exitedFinished only =>
      rw [unfolded]
      refine .after jobId service (same _ rfl) found ?_
      rw [state, point]
      exact .exitedFinished only

/-! ## The runs with one signal -/

structure Graceful
    (schedule : List ScheduleInput) (events : List MainEvent)
    (loop : RunLoop) : Prop where
  sigint :
    SigintPlace (schedule.filterMap signalOf) loop.handlers loop.runState
  master : HasMaster loop
  shutDown : ShutDown events loop

/-- After the stop of a job the `SIGINT` was stored. -/
theorem AfterStop.notRunning
    {jobId : String} {master : Master} {runState : RunStates}
    {point : LoopPoint}
    (after : AfterStop jobId master runState point) :
    runState ≠ .running := by
  cases after <;> exact RunStates.noConfusion

/-- The `SIGINT` may be stored at any place before the stop of a job. -/
theorem BeforeStop.store
    {masterPtr : Option Service} {runState : RunStates} {point : LoopPoint}
    (before : BeforeStop masterPtr runState point) :
    BeforeStop masterPtr .sigintReceived point := by
  cases before with
  | inLoop inside => exact .inLoop inside
  | received => exact .received
  | left early => exact .left early
  | exited early => exact .exited early

/-- The main thread stores the run state in two places. -/
theorem Moves.sameRunState
    {before after : RunStates} {point next : LoopPoint}
    {events : List MainEvent}
    (moved : Moves before point events after next)
    (storeWaiting : point ≠ .storeWaiting)
    (storeKafkaWait : point ≠ .storeKafkaWait) : after = before := by
  cases moved with
  | storeWaiting now => exact absurd rfl storeWaiting
  | storeKafkaWait => exact absurd rfl storeKafkaWait
  | _ => rfl

theorem BeforeStop.noStore
    {masterPtr : Option Service} {runState : RunStates} {point : LoopPoint}
    (before : BeforeStop masterPtr runState point) :
    point ≠ .storeWaiting ∧ point ≠ .storeKafkaWait := by
  cases before with
  | inLoop inside =>
      rcases inside with (rfl | rfl | rfl) | rfl <;>
        exact ⟨LoopPoint.noConfusion, LoopPoint.noConfusion⟩
  | _ => exact ⟨LoopPoint.noConfusion, LoopPoint.noConfusion⟩

theorem ShutDown.runState_mainStep
    {events : List MainEvent} {loop : RunLoop}
    (shutDown : ShutDown events loop) (running : loop.runState = .running)
    (context : ServiceContext Json) (settings : RunSettings)
    (input : MainInput) :
    (loop.mainStep context settings input).1.runState = .running := by
  have moved := moves_mainStep context settings loop input
  rw [← running]
  cases shutDown with
  | before _ _ place =>
      exact moved.sameRunState place.noStore.1 place.noStore.2
  | after jobId service _ _ place => exact absurd running place.notRunning

theorem Graceful.step
    {schedule : List ScheduleInput} {events : List MainEvent}
    {loop : RunLoop} (graceful : Graceful schedule events loop)
    (context : ServiceContext Json) (settings : RunSettings)
    {input : ScheduleInput}
    (only : (schedule ++ [input]).filterMap signalOf <+: [.sigint])
    (created : createsStatusTopics input = true) :
    let next := loop.step context settings input
    Graceful (schedule ++ [input]) (events ++ next.2) next.1 := by
  intro next
  have arrived :
      (schedule ++ [input]).filterMap signalOf =
        schedule.filterMap signalOf ++ [input].filterMap signalOf :=
    List.filterMap_append
  cases input with
  | signal signal =>
      change _ = _ ++ [signal] at arrived
      rw [arrived] at only
      refine ⟨arrived ▸ graceful.sigint.signal only,
        ⟨graceful.master.findTopicMode, graceful.master.writes⟩, ?_⟩
      change ShutDown (events ++ []) _
      rw [List.append_nil]
      cases graceful.shutDown with
      | before notStopped runs place => exact .before notStopped runs place
      | after jobId service stopped found place =>
          exact .after jobId service stopped found place
  | store handler =>
      change _ = _ ++ [] at arrived
      rw [List.append_nil] at arrived
      have stored := step_store context settings loop handler
      change next = _ ∨ ∃ runState handlers, next = _ ∧ _ at stored
      rcases stored with same | ⟨runState, handlers, stored, both⟩
      · rw [same, List.append_nil]
        exact ⟨arrived ▸ graceful.sigint, graceful.master, graceful.shutDown⟩
      · rcases graceful.sigint.store both with ⟨running, rfl, place⟩
        rw [stored, List.append_nil]
        refine ⟨arrived ▸ place,
          ⟨graceful.master.findTopicMode, graceful.master.writes⟩, ?_⟩
        cases graceful.shutDown with
        | before notStopped _ place =>
            exact .before notStopped (Or.inr rfl) place.store
        | after jobId service _ _ place =>
            exact absurd running place.notRunning
  | main input =>
      change _ = _ ++ [] at arrived
      rw [List.append_nil] at arrived
      have shutDown : ShutDown (events ++ next.2) next.1 := by
        cases graceful.shutDown with
        | before notStopped runs place =>
            exact place.mainStep notStopped runs graceful.master context
              settings input
        | after jobId service stopped found place =>
            exact place.mainStep stopped found graceful.master context
              settings input
      refine ⟨?_, graceful.master.mainStep context settings created,
        shutDown⟩
      rw [arrived]
      have moved := moves_mainStep context settings loop input
      change SigintPlace _
        (loop.mainStep context settings input).1.handlers _
      rw [mainStep_handlers]
      by_cases running : loop.runState = .running
      · have same :=
          graceful.shutDown.runState_mainStep running context settings input
        change SigintPlace _ _
          (loop.mainStep context settings input).1.runState
        rw [same, ← running]
        exact graceful.sigint
      · exact graceful.sigint.replace running (moved.notRunning running)

theorem graceful
    (context : ServiceContext Json) (settings : RunSettings)
    {schedule : List ScheduleInput}
    (only : schedule.filterMap signalOf <+: [.sigint])
    (created : ∀ input ∈ schedule, createsStatusTopics input = true) :
    let reached :=
      Mealy.run (step context settings) (create settings) schedule
    Graceful schedule reached.2 reached.1 := by
  refine Mealy.run_induction
    (fun taken events loop =>
      taken.filterMap signalOf <+: [.sigint] →
        (∀ input ∈ taken, createsStatusTopics input = true) →
          Graceful taken events loop)
    ?_ ?_ schedule only created
  · intro _ _
    refine ⟨.none, ⟨rfl, fun service contrary => ?_⟩, ?_⟩
    · cases contrary
    · exact .before rfl (Or.inl rfl) (.inLoop (Or.inl (Or.inl rfl)))
  · intro taken events loop input before only created
    refine (before ?_ ?_).step context settings only ?_
    · rw [List.filterMap_append] at only
      exact (List.prefix_append _ _).trans only
    · exact fun earlier member =>
        created earlier (List.mem_append_left _ member)
    · exact created input (List.mem_append_right _ List.mem_cons_self)

/-- Neither an exception nor a missing master ends the program. -/
def Survives (point : LoopPoint) : Prop :=
  (∀ what, point ≠ .uncaught what) ∧ point ≠ .nullDereference

/-- The reason why the loop was left, and whether Kafka was given time. -/
def leftWith : LoopPoint → Option (LeaveReason × Bool)
  | .exited reason kafkaGracePeriod => some (reason, kafkaGracePeriod)
  | _ => none

/-- What a reason to leave the loop says about the shutdown. -/
def Explains
    (stopped : List String) (masterPtr : Option Service) :
    LeaveReason → Prop
  | .stopRequested => False
  | .noTopics => masterPtr = none
  | .nothingToStop => stopped = []
  | .gaveUp => stopped ≠ []
  | .finished => stopped ≠ []
  | .exception _ => True

/-- The shutdown that the first `SIGINT` asks for. -/
structure ShutsDownGracefully
    (events : List MainEvent) (loop : RunLoop) : Prop where
  survives : Survives loop.point
  stopsOneJob : (events.filterMap stoppedJob).length ≤ 1
  onlyThatJob :
    ∀ jobId ∈ events.filterMap stoppedJob,
      ∃ service,
        loop.masterPtr = some service ∧ HasOnly jobId service.master
  explained :
    ∀ reason grace, leftWith loop.point = some (reason, grace) →
      Explains (events.filterMap stoppedJob) loop.masterPtr reason
  gracePeriod :
    ∀ reason grace, leftWith loop.point = some (reason, grace) →
      (grace = true ↔ reason = .finished)

theorem BeforeStop.survives
    {masterPtr : Option Service} {runState : RunStates} {point : LoopPoint}
    (before : BeforeStop masterPtr runState point) : Survives point := by
  cases before with
  | inLoop inside =>
      rcases inside with (rfl | rfl | rfl) | rfl <;>
        exact ⟨fun _ => LoopPoint.noConfusion, LoopPoint.noConfusion⟩
  | _ => exact ⟨fun _ => LoopPoint.noConfusion, LoopPoint.noConfusion⟩

theorem BeforeStop.leavesEarly
    {masterPtr : Option Service} {runState : RunStates} {point : LoopPoint}
    {reason : LeaveReason} {grace : Bool}
    (before : BeforeStop masterPtr runState point)
    (left_ : leftWith point = some (reason, grace)) :
    LeavesEarly masterPtr reason ∧ grace = false := by
  cases before with
  | inLoop inside =>
      rcases inside with (rfl | rfl | rfl) | rfl <;> cases left_
  | received => cases left_
  | left early => cases left_
  | exited early =>
      cases left_
      exact ⟨early, rfl⟩

theorem BeforeStop.shutsDownGracefully
    {events : List MainEvent} {loop : RunLoop}
    (place : BeforeStop loop.masterPtr loop.runState loop.point)
    (notStopped : events.filterMap stoppedJob = []) :
    ShutsDownGracefully events loop := by
  refine ⟨place.survives, ?_, ?_, ?_, ?_⟩
  · rw [notStopped]
    exact Nat.zero_le 1
  · intro jobId member
    rw [notStopped] at member
    cases member
  · intro reason grace left_
    rw [notStopped]
    cases (place.leavesEarly left_).1 with
    | noTopics missing => exact missing
    | nothingToStop => exact rfl
    | exception what => exact trivial
  · intro reason grace left_
    rcases place.leavesEarly left_ with ⟨early, rfl⟩
    cases early <;> simp

theorem AfterStop.survives
    {jobId : String} {master : Master} {runState : RunStates}
    {point : LoopPoint}
    (after : AfterStop jobId master runState point) : Survives point := by
  cases after with
  | inLoop inside _ =>
      rcases inside with (rfl | rfl | rfl) | rfl | rfl <;>
        exact ⟨fun _ => LoopPoint.noConfusion, LoopPoint.noConfusion⟩
  | _ => exact ⟨fun _ => LoopPoint.noConfusion, LoopPoint.noConfusion⟩

theorem AfterStop.hasOnly
    {jobId : String} {master : Master} {runState : RunStates}
    {point : LoopPoint}
    (after : AfterStop jobId master runState point) :
    HasOnly jobId master := by
  cases after with
  | storeWaiting told => exact Or.inl told
  | body told => exact Or.inl told
  | inLoop _ only => exact only
  | left _ only => exact only
  | exited _ only => exact only
  | finished only => exact only
  | exitedFinished only => exact only

theorem AfterStop.leavesLate
    {jobId : String} {master : Master} {runState : RunStates}
    {point : LoopPoint} {reason : LeaveReason} {grace : Bool}
    (after : AfterStop jobId master runState point)
    (left_ : leftWith point = some (reason, grace)) :
    ((reason = .gaveUp ∨ ∃ what, reason = .exception what) ∧
        grace = false) ∨
      (reason = .finished ∧ grace = true) := by
  cases after with
  | inLoop inside _ =>
      rcases inside with (rfl | rfl | rfl) | rfl | rfl <;> cases left_
  | exited late _ =>
      cases left_
      exact Or.inl ⟨late, rfl⟩
  | exitedFinished _ =>
      cases left_
      exact Or.inr ⟨rfl, rfl⟩
  | _ => cases left_

theorem AfterStop.shutsDownGracefully
    {events : List MainEvent} {loop : RunLoop} {jobId : String}
    {service : Service}
    (place : AfterStop jobId service.master loop.runState loop.point)
    (stopped : events.filterMap stoppedJob = [jobId])
    (found : loop.masterPtr = some service) :
    ShutsDownGracefully events loop := by
  refine ⟨place.survives, ?_, ?_, ?_, ?_⟩
  · rw [stopped]
    exact Nat.le_refl 1
  · intro other member
    rw [stopped] at member
    rw [List.mem_singleton.mp member]
    exact ⟨service, found, place.hasOnly⟩
  · intro reason grace left_
    rw [stopped]
    rcases place.leavesLate left_ with ⟨rfl | ⟨what, rfl⟩, _⟩ | ⟨rfl, _⟩
    · exact List.cons_ne_nil _ _
    · exact trivial
    · exact List.cons_ne_nil _ _
  · intro reason grace left_
    rcases place.leavesLate left_ with
      ⟨rfl | ⟨what, rfl⟩, rfl⟩ | ⟨rfl, rfl⟩ <;> simp

/--
A run whose only signal is a `SIGINT` shuts down gracefully, whatever the
order of the steps, the commands and the reports of the job are, as long as
the status topics of the jobs can be created.  No exception leaves `main`, at
most one job is told to stop, and from then on the master has no other job.
The loop is never left for a request to stop at once.  It is left without a
stop only if there are no topics yet or no file is being written, or for an
exception, and Kafka is given time exactly after a finished job.
-/
theorem sigint_shuts_down_gracefully
    (context : ServiceContext Json) (settings : RunSettings)
    (schedule : List ScheduleInput)
    (only : schedule.filterMap signalOf <+: [.sigint])
    (created : ∀ input ∈ schedule, createsStatusTopics input = true) :
    let reached :=
      Mealy.run (step context settings) (create settings) schedule
    ShutsDownGracefully reached.2 reached.1 := by
  intro reached
  cases (graceful context settings only created).shutDown with
  | before notStopped _ place => exact place.shutsDownGracefully notStopped
  | after jobId service stopped found place =>
      exact place.shutsDownGracefully stopped found

/-- The job is told to stop, and the main thread leaves when it is done. -/
def sampleShutdown : List ScheduleInput :=
  sampleSigint ++ mainSteps 12 {} ++
    mainSteps 8 { report := ⟨true, false, ""⟩ }

theorem sigint_shuts_down_gracefully_sample :
    let reached :=
      Mealy.run (step CommandTopic.poolContext sampleSettings)
        (create sampleSettings) sampleShutdown
    ShutsDownGracefully reached.2 reached.1 :=
  sigint_shuts_down_gracefully CommandTopic.poolContext sampleSettings
    sampleShutdown ⟨[], by decide⟩ (by decide)

example :
    let reached :=
      Mealy.run (step CommandTopic.poolContext sampleSettings)
        (create sampleSettings) sampleShutdown
    (reached.1.point, (reached.2.filterMap stoppedJob).length) =
      (.exited .finished true, 1) := by
  decide

end KafkaToNexus.RunLoop
