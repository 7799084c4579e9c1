import KafkaToNexus.Service

/-!
# The command topic over whole runs

The topic that the handler listens and answers on belongs to the current job:
it is the control topic of the job if it has one, and the default topic
otherwise.  The invariant holds along every run in which the handler is not
taken off the topic of a running job, the switch to a control topic is not cut
in half, and jobs with a control topic do not end with an error.
-/

namespace KafkaToNexus.CommandTopic

open KafkaToNexus
open KafkaToNexus.Command
open KafkaToNexus.Command.Handler
open KafkaToNexus.Foundations

variable {Json : Type}

/-- The handler listens and answers on one topic. -/
def UsesTopic (handler : Handler) (address : URI) : Prop :=
  handler.commandSource.address = address ∧
    handler.commandResponse.address = address

/-- A job is in progress. -/
def InProgress (service : Service) : Prop :=
  service.master.currentStatus.state = .writing

/-- The job whose controller the master holds has the given control topic. -/
def HasControlTopic (service : Service) (topic : String) : Prop :=
  ∃ controller,
    service.master.currentStreamController = some controller ∧
      controller.startInfo.controlTopic = topic

/--
While no job is in progress the handler uses the default topic and says so;
while a job with a control topic is in progress it uses that topic.
-/
def OnTopic (defaultTopic : URI) (service : Service) : Prop :=
  (¬ InProgress service →
    UsesTopic service.handler defaultTopic ∧
      service.handler.usingAltTopic = false) ∧
  (InProgress service → ∀ topic, topic ≠ "" →
    HasControlTopic service topic →
      UsesTopic service.handler (defaultTopic.withTopic topic))

/--
The step does not run into one of the gaps: a start command that reverts the
topic of a running job, a switch that fails between its two halves, a failed
start that is not reverted, or a job on its own topic that ends with an error.
-/
def KeepsTopic (service : Service) : ServiceInput → Prop
  | .startCommand input _ =>
      (InProgress service →
        service.handler.usingAltTopic = false ∨
          input.outcomes.revertThrows = true) ∧
      (¬ InProgress service →
        input.outcomes.producerThrows = false ∧
          input.outcomes.revertThrows = false)
  | .stopCommand _ _ => True
  | .finishIfDone report _ =>
      service.master.hasWritingStopped report = true →
        report.hasErrorState = true →
          service.handler.usingAltTopic = false

/-! ## The two states of the handler -/

/-- The handler is on the default topic. -/
structure OnDefault (defaultTopic : URI) (handler : Handler) : Prop where
  uses : UsesTopic handler defaultTopic
  notAlternative : handler.usingAltTopic = false

/-- The handler is on a control topic and can return to the default one. -/
structure OnControl
    (defaultTopic : URI) (topic : String) (handler : Handler) : Prop where
  uses : UsesTopic handler (defaultTopic.withTopic topic)
  alternative : handler.usingAltTopic = true
  returns :
    ∀ response, handler.altCommandResponse = some response →
      response.address = defaultTopic

theorem OnDefault.revertCommandTopic
    {defaultTopic : URI} {handler : Handler}
    (onDefault : OnDefault defaultTopic handler) (outcomes : ClientOutcomes) :
    (handler.revertCommandTopic outcomes).1 = handler := by
  simp [Handler.revertCommandTopic, onDefault.notAlternative]

/-- From a control topic the handler reverts to the default one. -/
theorem OnControl.revertCommandTopic
    {defaultTopic : URI} {topic : String} {handler : Handler}
    (onControl : OnControl defaultTopic topic handler)
    (address : handler.commandTopicAddress = defaultTopic)
    {outcomes : ClientOutcomes} (succeeds : outcomes.revertThrows = false) :
    let result := handler.revertCommandTopic outcomes
    OnDefault defaultTopic result.1 ∧
      result.1.commandTopicAddress = defaultTopic ∧ result.2 = false := by
  simp only [Handler.revertCommandTopic, onControl.alternative, succeeds,
    dite_true, Bool.false_eq_true, if_false, and_true]
  refine ⟨⟨⟨address, ?_⟩, rfl⟩, address⟩
  apply onControl.returns
  exact (Option.some_get _).symm

/-! ## The invariant -/

/-- The handler is on the topic that belongs to the current job. -/
structure Settled (defaultTopic : URI) (service : Service) : Prop where
  address : service.handler.commandTopicAddress = defaultTopic
  idle : ¬ InProgress service → OnDefault defaultTopic service.handler
  busy :
    InProgress service →
      ∃ topic, HasControlTopic service topic ∧
        ((topic = "" ∧ OnDefault defaultTopic service.handler) ∨
          (topic ≠ "" ∧ OnControl defaultTopic topic service.handler))

theorem Settled.onTopic
    {defaultTopic : URI} {service : Service}
    (settled : Settled defaultTopic service) :
    OnTopic defaultTopic service := by
  constructor
  · intro notBusy
    exact ⟨(settled.idle notBusy).uses, (settled.idle notBusy).notAlternative⟩
  · intro inProgress topic nonempty hasTopic
    rcases settled.busy inProgress with ⟨own, hasOwn, cases_⟩
    have same : own = topic := by
      rcases hasOwn with ⟨controller, found, ownTopic⟩
      rcases hasTopic with ⟨other, otherFound, otherTopic⟩
      rw [found] at otherFound
      cases otherFound
      rw [← ownTopic, otherTopic]
    subst same
    rcases cases_ with ⟨empty, _⟩ | ⟨_, onControl⟩
    · exact absurd empty nonempty
    · exact onControl.uses

/-- Where no alternative topic is in use, the handler is on the default one. -/
theorem Settled.onDefault
    {defaultTopic : URI} {service : Service}
    (settled : Settled defaultTopic service)
    (notAlternative : service.handler.usingAltTopic = false) :
    OnDefault defaultTopic service.handler := by
  by_cases inProgress : InProgress service
  · rcases settled.busy inProgress with
      ⟨_, _, ⟨_, onDefault⟩ | ⟨_, onControl⟩⟩
    · exact onDefault
    · rw [onControl.alternative] at notAlternative
      cases notAlternative
  · exact settled.idle inProgress

/-- A change of the master that keeps the state and the job. -/
theorem Settled.withMaster
    {defaultTopic : URI} {service : Service}
    (settled : Settled defaultTopic service) {master : Master}
    (state :
      master.currentStatus.state = service.master.currentStatus.state)
    (job :
      ∀ topic, HasControlTopic service topic →
        HasControlTopic ⟨service.handler, master⟩ topic) :
    Settled defaultTopic ⟨service.handler, master⟩ := by
  refine ⟨settled.address, ?_, ?_⟩
  · intro notBusy
    apply settled.idle
    rwa [InProgress, ← state]
  · intro inProgress
    rw [InProgress, state] at inProgress
    rcases settled.busy inProgress with ⟨topic, hasTopic, cases_⟩
    exact ⟨topic, job topic hasTopic, cases_⟩

/-! ## The steps -/

/-- The handler is on the topic of a job that is to be started. -/
def OnJobTopic
    (defaultTopic : URI) (topic : String) (handler : Handler) : Prop :=
  (topic = "" ∧ OnDefault defaultTopic handler) ∨
    (topic ≠ "" ∧ OnControl defaultTopic topic handler)

/-- The handler at the start of a job is on the topic of the job. -/
theorem OnDefault.targetOf
    {defaultTopic : URI} {handler : Handler}
    (onDefault : OnDefault defaultTopic handler)
    (address : handler.commandTopicAddress = defaultTopic)
    (startJob : StartMessage) :
    OnJobTopic defaultTopic startJob.controlTopic
        (Handler.targetOf handler startJob) ∧
      (Handler.targetOf handler startJob).commandTopicAddress =
        defaultTopic := by
  by_cases noTopic : startJob.controlTopic = ""
  · have target : Handler.targetOf handler startJob = handler := by
      simp [Handler.targetOf, noTopic]
    rw [target]
    exact ⟨Or.inl ⟨noTopic, onDefault⟩, address⟩
  · have target :
        Handler.targetOf handler startJob = handler.switchedTo startJob := by
      simp [Handler.targetOf, noTopic]
    rw [target]
    refine ⟨Or.inr ⟨noTopic, ⟨?_, ?_⟩, rfl, ?_⟩, address⟩
    · simp only [Handler.switchedTo, address]
    · simp only [Handler.switchedTo, address]
    · intro response found
      simp only [Handler.switchedTo, Option.some.injEq] at found
      rw [← found]
      exact onDefault.uses.2

/-- From the topic of a job the handler reverts to the default topic. -/
theorem OnJobTopic.revertCommandTopic
    {defaultTopic : URI} {topic : String} {handler : Handler}
    (onJobTopic : OnJobTopic defaultTopic topic handler)
    (address : handler.commandTopicAddress = defaultTopic)
    {outcomes : ClientOutcomes} (succeeds : outcomes.revertThrows = false) :
    let result := handler.revertCommandTopic outcomes
    OnDefault defaultTopic result.1 ∧
      result.1.commandTopicAddress = defaultTopic ∧ result.2 = false := by
  rcases onJobTopic with ⟨_, onDefault⟩ | ⟨_, onControl⟩
  · have same : handler.revertCommandTopic outcomes = (handler, false) := by
      simp [Handler.revertCommandTopic, onDefault.notAlternative]
    simp only [same]
    exact ⟨onDefault, address, trivial⟩
  · exact onControl.revertCommandTopic address succeeds

/-- The handler of a settled service is on the topic of some job. -/
theorem Settled.onJobTopic
    {defaultTopic : URI} {service : Service}
    (settled : Settled defaultTopic service) :
    ∃ topic, OnJobTopic defaultTopic topic service.handler := by
  by_cases inProgress : InProgress service
  · rcases settled.busy inProgress with ⟨topic, _, cases_⟩
    exact ⟨topic, cases_⟩
  · exact ⟨"", Or.inl ⟨rfl, settled.idle inProgress⟩⟩

/-- An idle service whose handler is on the default topic is settled. -/
theorem settled_of_idle
    {defaultTopic : URI} {handler : Handler} {master : Master}
    (address : handler.commandTopicAddress = defaultTopic)
    (onDefault : OnDefault defaultTopic handler)
    (idle : ¬ master.currentStatus.state = .writing) :
    Settled defaultTopic ⟨handler, master⟩ :=
  ⟨address, fun _ => onDefault, fun inProgress => absurd inProgress idle⟩

/-- The call of `doStart`, with the handler on the topic of the job. -/
theorem settled_of_doStart
    {defaultTopic : URI} {target handler : Handler} {master : Master}
    {startJob : StartMessage} {outcomes : CallOutcomes}
    {clients : ClientOutcomes}
    (idle : ¬ master.currentStatus.state = .writing)
    (onJobTopic : OnJobTopic defaultTopic startJob.controlTopic target)
    (address : target.commandTopicAddress = defaultTopic)
    (succeeds : clients.revertThrows = false)
    (left :
      let called :=
        (Service.callbacks outcomes).doStart startJob.toStartInfo master
      (called.2 = none ∧
          handler =
            { target with nexusStructure := startJob.nexusStructure }) ∨
        (called.2 ≠ none ∧
          handler = (target.revertCommandTopic clients).1)) :
    Settled defaultTopic
      ⟨handler,
        ((Service.callbacks outcomes).doStart startJob.toStartInfo
          master).1⟩ := by
  rcases master.startWriting_status startJob.toStartInfo outcomes.start with
    ⟨returned, writing, controller⟩ | ⟨⟨what, threw⟩, status⟩
  · rcases left with ⟨_, rfl⟩ | ⟨contrary, _⟩
    · refine ⟨address, ?_, ?_⟩
      · intro notBusy
        exact absurd writing notBusy
      · intro _
        refine ⟨startJob.controlTopic, ⟨_, controller, rfl⟩, ?_⟩
        rcases onJobTopic with ⟨noTopic, uses, flag⟩ |
          ⟨topic, uses, flag, returns⟩
        · exact Or.inl ⟨noTopic, uses, flag⟩
        · exact Or.inr ⟨topic, uses, flag, returns⟩
    · simp only [Service.callbacks, returned, Service.exceptionOf] at contrary
      exact absurd rfl contrary
  · rcases left with ⟨contrary, _⟩ | ⟨_, rfl⟩
    · simp only [Service.callbacks, threw, Service.exceptionOf] at contrary
      cases contrary
    · rcases onJobTopic.revertCommandTopic address succeeds with
        ⟨onDefault, sameAddress, _⟩
      apply settled_of_idle sameAddress onDefault
      rw [← status] at idle
      exact idle

theorem notInProgress
    {service : Service} {outcomes : CallOutcomes}
    (idle :
      (Service.callbacks outcomes).isWritingNow service.master = false) :
    ¬ InProgress service := by
  intro inProgress
  have writing :
      (Service.callbacks outcomes).isWritingNow service.master = true :=
    decide_eq_true inProgress
  rw [idle] at writing
  cases writing

/-- A start command keeps the handler on the topic of the current job. -/
theorem Settled.startCommand
    {defaultTopic : URI} {service : Service}
    (settled : Settled defaultTopic service)
    (context : ServiceContext Json)
    (input : StartInput) (outcomes : CallOutcomes)
    (keeps : KeepsTopic service (.startCommand input outcomes)) :
    Settled defaultTopic
      (service.step context (.startCommand input outcomes)).1 := by
  rcases keeps with ⟨whileBusy, whileIdle⟩
  let result :=
    handleStartCommand context.command (Service.callbacks outcomes)
      service.handler service.master input
  change Settled defaultTopic ⟨result.handler, result.world⟩
  have unchanged
      (sameHandler : result.handler = service.handler)
      (sameWorld : result.world = service.master) :
      Settled defaultTopic ⟨result.handler, result.world⟩ := by
    rw [sameHandler, sameWorld]
    exact settled
  rcases handleStartCommand_cases context.command (Service.callbacks outcomes)
      service.handler service.master input with
    ⟨sameWorld, reverted⟩ | ⟨idle, sameWorld, same | throws⟩ |
      ⟨idle, startJob, world, started⟩
  · have kept :
        (service.handler.revertCommandTopic input.outcomes).1 =
          service.handler := by
      by_cases inProgress : InProgress service
      · rcases whileBusy inProgress with notAlternative | throws
        · exact (settled.onDefault notAlternative).revertCommandTopic _
        · exact service.handler.revertCommandTopic_of_throws throws
      · exact (settled.idle inProgress).revertCommandTopic _
    exact unchanged (reverted.trans kept) sameWorld
  · exact unchanged same sameWorld
  · rw [(whileIdle (notInProgress idle)).1] at throws
    cases throws
  · have notBusy := notInProgress idle
    have revert := (whileIdle notBusy).2
    rcases (settled.idle notBusy).targetOf settled.address startJob with
      ⟨onJobTopic, address⟩
    change result.world = _ at world
    rw [world]
    exact settled_of_doStart notBusy onJobTopic address revert started

/-- Another master in the same state with the same job. -/
structure SameJob (service : Service) (master : Master) : Prop where
  state : master.currentStatus.state = service.master.currentStatus.state
  job :
    ∀ topic, HasControlTopic service topic →
      HasControlTopic ⟨service.handler, master⟩ topic

theorem SameJob.stopNow
    {service : Service} {master : Master} (same : SameJob service master)
    (now : TimePoint) :
    SameJob service (master.stopNow now).1 := by
  unfold Master.stopNow
  split
  · exact same
  · refine ⟨same.state, ?_⟩
    intro topic hasTopic
    rcases same.job topic hasTopic with ⟨controller, found, topicOf⟩
    refine ⟨_, congrArg (Option.map _) found, ?_⟩
    exact topicOf

theorem SameJob.setStopTime
    {service : Service} {master : Master} (same : SameJob service master)
    (newStopTime now : TimePoint) :
    SameJob service (master.setStopTime newStopTime now).1 := by
  unfold Master.setStopTime
  split
  · exact same
  split
  · exact same
  split
  · exact same
  · rename_i controller found
    refine ⟨same.state, ?_⟩
    intro topic hasTopic
    rcases same.job topic hasTopic with ⟨own, ownFound, topicOf⟩
    rw [show master.currentStreamController = some own from ownFound] at found
    cases found
    exact ⟨_, rfl, topicOf⟩

/-- No function that a stop command calls changes the state or the job. -/
theorem Settled.stopCommand
    {defaultTopic : URI} {service : Service}
    (settled : Settled defaultTopic service)
    (context : ServiceContext Json)
    (commandMsg : Msg) (outcomes : CallOutcomes) :
    Settled defaultTopic
      (service.step context (.stopCommand commandMsg outcomes)).1 := by
  have same :
      SameJob service
        (handleStopCommand context.command (Service.callbacks outcomes)
          service.handler service.master commandMsg).world := by
    apply handleStopCommand_keeps context.command service.handler commandMsg
      (SameJob service)
    · intro master before
      exact before.stopNow outcomes.now
    · intro stopTime master before
      exact before.setStopTime stopTime outcomes.now
    · exact ⟨rfl, fun _ hasTopic => hasTopic⟩
  simp only [Service.step, Service.ofResult, handleStopCommand_handler]
  exact settled.withMaster same.state same.job

/--
A message about a finished job takes the handler to the default topic, or an
exception leaves everything as it was.
-/
theorem Settled.setToIdle
    {defaultTopic : URI} {service : Service}
    (settled : Settled defaultTopic service)
    (context : ServiceContext Json)
    (message : Master.FinishedMessage Json) (clients : ClientOutcomes)
    (noError :
      (∃ jobId fileName metadata errorMessage,
        message = .errorEncountered jobId fileName metadata errorMessage) →
          service.handler.usingAltTopic = false) :
    Settled defaultTopic (service.setToIdle context message clients).1 := by
  have idle : ¬ service.master.reset.currentStatus.state = .writing := by
    simp [Master.reset]
  cases message with
  | errorEncountered jobId fileName metadata errorMessage =>
      have notAlternative := noError ⟨_, _, _, _, rfl⟩
      exact settled_of_idle settled.address
        (settled.onDefault notAlternative) idle
  | hasStopped jobId filePath metadata =>
      rcases sendHasStoppedMessage_cases context.master.json service.handler
          jobId filePath metadata clients with
        ⟨same, threw⟩ | ⟨reverted, succeeds, returned⟩
      · simp only [Service.setToIdle, same, threw, if_true]
        exact settled
      · simp only [Service.setToIdle, reverted, returned, Bool.false_eq_true,
          if_false]
        rcases settled.onJobTopic with
          ⟨topic, ⟨_, onDefault⟩ | ⟨_, onControl⟩⟩
        · rw [onDefault.revertCommandTopic]
          exact settled_of_idle settled.address onDefault idle
        · rcases onControl.revertCommandTopic settled.address
              (succeeds onControl.alternative) with ⟨onDefault, address, _⟩
          exact settled_of_idle address onDefault idle

theorem Settled.finishIfDone
    {defaultTopic : URI} {service : Service}
    (settled : Settled defaultTopic service)
    (context : ServiceContext Json)
    (report : ControllerReport) (clients : ClientOutcomes)
    (keeps : KeepsTopic service (.finishIfDone report clients)) :
    Settled defaultTopic
      (service.step context (.finishIfDone report clients)).1 := by
  simp only [Service.step]
  split
  · rename_i stopped
    cases found :
        service.master.finishedMessage context.master report with
    | none => exact settled
    | some message =>
        apply settled.setToIdle context message clients
        rintro ⟨_, _, _, _, rfl⟩
        apply keeps stopped
        by_contra noErrorState
        simp [Master.finishedMessage, noErrorState] at found
  · exact settled

/-- One step that runs into no gap keeps the handler on its topic. -/
theorem Settled.step
    {defaultTopic : URI} {service : Service}
    (settled : Settled defaultTopic service)
    (context : ServiceContext Json) (input : ServiceInput)
    (keeps : KeepsTopic service input) :
    Settled defaultTopic (service.step context input).1 := by
  cases input with
  | startCommand input outcomes =>
      exact settled.startCommand context input outcomes keeps
  | stopCommand commandMsg outcomes =>
      exact settled.stopCommand context commandMsg outcomes
  | finishIfDone report clients =>
      exact settled.finishIfDone context report clients keeps

/-! ## Whole runs -/

theorem settled_create (serviceId : String) (defaultTopic : URI) :
    Settled defaultTopic (Service.create serviceId defaultTopic) := by
  apply settled_of_idle
  · rfl
  · exact ⟨⟨rfl, rfl⟩, rfl⟩
  · simp [Master.create]

/--
In every state of a run that runs into no gap, the handler is on the topic that
belongs to the current job.
-/
theorem command_topic_follows_job
    (context : ServiceContext Json) (serviceId : String) (defaultTopic : URI)
    (inputs : List ServiceInput)
    (keeps :
      Mealy.Admissible (Service.step context) KeepsTopic
        (Service.create serviceId defaultTopic) inputs) :
    OnTopic defaultTopic
      (Mealy.run (Service.step context)
        (Service.create serviceId defaultTopic) inputs).1 := by
  have settled :=
    Mealy.run_induction_of_admissible
      (fun _ _ service => Settled defaultTopic service)
      (settled_create serviceId defaultTopic)
      (fun _ _ _ input before meets => before.step context input meets) keeps
  exact settled.onTopic

/-! ## A job with a control topic -/

/-- The topic that the service is configured with. -/
def configuredTopic : URI :=
  ⟨"broker:9092", "commands"⟩

/-- A context in which every start command is the same. -/
def poolContext : ServiceContext Unit where
  command :=
    { getRunStart := fun _ =>
        ⟨0, 0, some "5e0e1a2c-3f0c-4c62-9d3b-1f7cf4f0a001", some "{}",
          some "file.nxs", none, none, some "control"⟩
      getRunStop := fun _ => ⟨0, none, none, none⟩
      isValidUUID := fun _ => true
      toUTCDateTime := fun _ => "" }
  master :=
    { json :=
        { parse := fun _ => .ok ()
          object := ()
          update := fun _ _ => some ()
          setString := fun _ _ _ => some ()
          dump := fun _ => some "{}" }
      createJSONReport := fun _ _ => ()
      filePath := fun name => name }

/-- A job from the pool whose controller is done at the next look at it. -/
def poolJob (report : ControllerReport) : List ServiceInput :=
  [.startCommand ⟨{}, true, 0, {}⟩ {}, .finishIfDone report {}]

/-- After a job that ended well the handler is on the default topic. -/
theorem command_topic_after_job :
    OnTopic configuredTopic
      (Mealy.run (Service.step poolContext)
        (Service.create "writer" configuredTopic)
        (poolJob ⟨true, false, ""⟩)).1 := by
  apply command_topic_follows_job
  refine ⟨⟨?_, ?_⟩, ?_, trivial⟩
  · intro _
    exact Or.inl rfl
  · intro _
    exact ⟨rfl, rfl⟩
  · intro _ error
    cases error

/-- After a job that ended with an error the handler stays on its topic. -/
theorem command_topic_after_error :
    ¬ OnTopic configuredTopic
      (Mealy.run (Service.step poolContext)
        (Service.create "writer" configuredTopic)
        (poolJob ⟨true, true, "Kafka error"⟩)).1 := by
  intro onTopic
  have idle :
      ¬ InProgress
        (Mealy.run (Service.step poolContext)
          (Service.create "writer" configuredTopic)
          (poolJob ⟨true, true, "Kafka error"⟩)).1 := by
    unfold InProgress
    decide
  have flag := (onTopic.1 idle).2
  exact absurd flag (by decide)

end KafkaToNexus.CommandTopic
