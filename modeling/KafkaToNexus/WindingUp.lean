import KafkaToNexus.MainLoop

/-!
# Winding up a finished job

When the controller of a job is done, a message is published with a report on
the status and with the metadata that the start command carried.  The text of
the metadata is read only now.  If it is not JSON it is skipped; if it is the
text of an object, its members overwrite those of the report.  Any other text
makes the JSON library throw, before the message is published and before the
job is wound up, and the exception ends the main loop.
-/

namespace KafkaToNexus.WindingUp

open KafkaToNexus
open KafkaToNexus.Command
open KafkaToNexus.Foundations

variable {Real : Type}

/--
What the documentation says of text: a value whose strings are Unicode can be
written, and the text of an object is read as an object.  All strings of the
model are Unicode, also the name of the file.
-/
structure Documented (text : JsonText Real) : Prop where
  dumps : ∀ value, ∃ dumped, text.dump value = .ok dumped
  reads :
    ∀ members dumped, text.dump (.object members) = .ok dumped →
      ∃ again, text.parse dumped = .ok (.object again)

/-- The service with JSON values and the status report as it is built. -/
def jsonContext
    (text : JsonText Real) (command : CommandContext)
    (extra : List String → List (String × JsonValue Real))
    (filePath : String → String) : ServiceContext (JsonValue Real) where
  command
  master :=
    { json := text.toLibrary
      createJSONReport := fun status registered =>
        Status.createJSONReport (extra registered) status
      filePath }

/-! ## The metadata of a job -/

/-- The metadata of the master are those of the job it has a controller for. -/
def CarriesMetadata (master : Master) : Prop :=
  ∀ controller, master.currentStreamController = some controller →
    master.currentMetadata = controller.startInfo.metadata

theorem announceJob_keeps
    (master : Master) (startInfo : StartInfo) (statusTopicThrows : Bool) :
    (master.announceJob startInfo statusTopicThrows).1.currentMetadata =
        master.currentMetadata ∧
      (master.announceJob startInfo
          statusTopicThrows).1.currentStreamController =
        master.currentStreamController := by
  rw [Master.announceJob]
  dsimp only
  constructor
  · split
    · rfl
    · split
      · rfl
      · rfl
  · split
    · rfl
    · split
      · rfl
      · rfl

theorem CarriesMetadata.startWriting
    {master : Master} (carries : CarriesMetadata master)
    (startInfo : StartInfo) (outcomes : StartOutcomes) :
    CarriesMetadata (master.startWriting startInfo outcomes).1 := by
  rw [Master.startWriting]
  split
  · exact carries
  · split
    · exact carries
    · rename_i registered _
      intro controller found
      rcases
          announceJob_keeps
            { master with
              metaDataTracker := registered
              currentStreamController :=
                some ⟨startInfo, startInfo.stopTime, false⟩
              currentMetadata := startInfo.metadata }
            startInfo outcomes.statusTopicThrows
        with ⟨metadata, kept⟩
      rw [kept] at found
      cases found
      exact metadata

theorem CarriesMetadata.stopNow
    {master : Master} (carries : CarriesMetadata master) (now : TimePoint) :
    CarriesMetadata (master.stopNow now).1 := by
  rw [Master.stopNow]
  split
  · exact carries
  · intro controller found
    rcases Option.map_eq_some_iff.mp found with ⟨before, there, rfl⟩
    exact carries before there

theorem CarriesMetadata.setStopTime
    {master : Master} (carries : CarriesMetadata master)
    (newStopTime now : TimePoint) :
    CarriesMetadata (master.setStopTime newStopTime now).1 := by
  rw [Master.setStopTime]
  split
  · exact carries
  · split
    · exact carries
    · split
      · exact carries
      · rename_i before there
        intro controller found
        cases found
        exact carries before there

theorem CarriesMetadata.reset (master : Master) :
    CarriesMetadata master.reset := by
  intro controller found
  cases found

theorem CarriesMetadata.setToIdle
    {Json : Type} {service : Service}
    (carries : CarriesMetadata service.master)
    (context : ServiceContext Json)
    (message : Master.FinishedMessage Json) (clients : ClientOutcomes) :
    CarriesMetadata (service.setToIdle context message clients).1.master := by
  cases message with
  | errorEncountered jobId fileName metadata errorMessage =>
      exact CarriesMetadata.reset service.master
  | hasStopped jobId filePath metadata =>
      rw [Service.setToIdle]
      dsimp only
      split
      · exact carries
      · exact CarriesMetadata.reset service.master

/-- Every step keeps the metadata with the job. -/
theorem CarriesMetadata.step
    {Json : Type} {service : Service}
    (carries : CarriesMetadata service.master)
    (context : ServiceContext Json) (input : ServiceInput) :
    CarriesMetadata (service.step context input).1.master := by
  cases input with
  | startCommand input outcomes =>
      show CarriesMetadata
        (Handler.handleStartCommand context.command
          (Service.callbacks outcomes) service.handler service.master
          input).world
      rcases
          Handler.handleStartCommand_cases context.command
            (Service.callbacks outcomes) service.handler service.master input
        with ⟨same, _⟩ | ⟨_, same, _⟩ | ⟨_, startJob, started, _⟩
      · rw [same]
        exact carries
      · rw [same]
        exact carries
      · rw [started]
        exact carries.startWriting _ _
  | stopCommand commandMsg outcomes =>
      apply Handler.handleStopCommand_keeps _ _ _ CarriesMetadata
      · intro master before
        exact before.stopNow outcomes.now
      · intro stopTime master before
        exact before.setStopTime stopTime outcomes.now
      · exact carries
  | finishIfDone report clients =>
      rw [Service.step]
      split
      · split
        · exact carries
        · exact carries.setToIdle context _ clients
      · exact carries

theorem carriesMetadata_of_run
    {Json : Type} (context : ServiceContext Json) (serviceId : String)
    (commandTopic : URI) (inputs : List ServiceInput) :
    CarriesMetadata
      (Mealy.run (Service.step context)
        (Service.create serviceId commandTopic) inputs).1.master := by
  apply
    Mealy.run_induction
      (fun _ _ (service : Service) => CarriesMetadata service.master)
  · intro controller found
    cases found
  · intro _ _ service input before
    exact before.step context input

/-! ## The commands publish nothing about finished jobs -/

/-- The messages about finished jobs among the events. -/
def stoppedMsgsOf (events : List HandlerEvent) : List StoppedMessage :=
  events.filterMap fun
    | .stoppedMsg message => some message
    | _ => none

theorem stoppedMsgsOf_append (first second : List HandlerEvent) :
    stoppedMsgsOf (first ++ second) =
      stoppedMsgsOf first ++ stoppedMsgsOf second :=
  List.filterMap_append

theorem stoppedMsgsOf_append_eq_nil {first second : List HandlerEvent}
    (before : stoppedMsgsOf first = []) (later : stoppedMsgsOf second = []) :
    stoppedMsgsOf (first ++ second) = [] := by
  rw [stoppedMsgsOf_append, before, later, List.append_nil]

section Commands

variable {World : Type*} (context : CommandContext)
  (callbacks : Callbacks World) (handler : Handler) (world : World)

theorem stoppedMsgsOf_startSteps (input : Handler.StartInput) :
    stoppedMsgsOf
      (Handler.runSteps (Handler.startSteps context callbacks input)
        { handler, world }).scope.events = [] := by
  let silent : Handler.StartScope World → Prop := fun scope =>
    stoppedMsgsOf scope.events = []
  apply Handler.runSteps_keeps silent
  · intro step member scope before
    simp only [Handler.startSteps, List.mem_cons, List.not_mem_nil,
      or_false] at member
    rcases member with rfl | rfl | rfl | rfl | rfl | rfl
    · rw [Handler.extractStep]
      dsimp only
      split
      · exact before
      · exact before
    · exact Handler.CommandStep.run_check_keeps silent before
    · exact Handler.CommandStep.run_check_keeps silent before
    · exact Handler.CommandStep.run_check_keeps silent before
    · rw [Handler.controlTopicStep]
      dsimp only
      split
      · exact before
      · split
        · split
          · exact before
          · split
            · exact before
            · exact before
        · exact before
    · rw [Handler.doStartStep]
      dsimp only
      split
      · exact stoppedMsgsOf_append_eq_nil before rfl
      · exact stoppedMsgsOf_append_eq_nil before rfl
  · rfl

theorem stoppedMsgsOf_answerStart
    {scope : Handler.StartScope World} (result : ActionResult)
    (outcome : Handler.CmdResponse (Handler.StartScope World))
    (before : stoppedMsgsOf scope.events = []) :
    stoppedMsgsOf (Handler.answerStart scope result outcome).events = [] := by
  apply stoppedMsgsOf_append_eq_nil before
  split
  · rfl
  · rfl

theorem stoppedMsgsOf_handleStartCommand (input : Handler.StartInput) :
    stoppedMsgsOf
      (Handler.handleStartCommand context callbacks handler world
        input).events = [] := by
  have steps := stoppedMsgsOf_startSteps context callbacks handler world input
  rw [Handler.handleStartCommand]
  split
  · rename_i scope loop
    rw [loop] at steps
    exact stoppedMsgsOf_answerStart _ _ steps
  · rename_i scope response loop
    rw [loop] at steps
    split
    · exact stoppedMsgsOf_answerStart _ _ steps
    · exact steps
  · rename_i scope loop
    rw [loop] at steps
    exact steps

/-- The call of a callback is no report of the end of a job. -/
theorem stoppedMsgsOf_callStop (stopCmd : StopMessage) (returned : Bool) :
    stoppedMsgsOf
      [(Handler.callStop context callbacks stopCmd world).2.1 returned] =
        [] := by
  rw [Handler.callStop]
  split
  · rfl
  · rfl

theorem stoppedMsgsOf_doStopStep
    {scope : Handler.StopScope World}
    (before : stoppedMsgsOf scope.events = []) :
    stoppedMsgsOf
      ((Handler.doStopStep context callbacks).run scope).2.events = [] := by
  have silent :=
    stoppedMsgsOf_callStop context callbacks scope.world scope.stopCmd
  rw [Handler.doStopStep]
  dsimp only
  split
  · rename_i called
    rw [called] at silent
    exact stoppedMsgsOf_append_eq_nil before (silent true)
  · rename_i called
    rw [called] at silent
    exact stoppedMsgsOf_append_eq_nil before (silent false)

theorem stoppedMsgsOf_stopSteps (commandMsg : Msg) :
    stoppedMsgsOf
      (Handler.runSteps
        (Handler.stopSteps context callbacks handler commandMsg {})
        { world }).scope.events = [] := by
  let silent : Handler.StopScope World → Prop := fun scope =>
    stoppedMsgsOf scope.events = []
  apply Handler.runSteps_keeps silent
  · intro step member scope before
    simp only [Handler.stopSteps, List.mem_cons, List.not_mem_nil,
      or_false] at member
    rcases member with rfl | rfl | rfl | rfl | rfl | rfl
    · rw [Handler.extractStopStep]
      dsimp only
      split
      · exact before
      · exact before
      · exact before
    · exact Handler.CommandStep.run_check_keeps silent before
    · exact Handler.CommandStep.run_check_keeps silent before
    · exact Handler.CommandStep.run_check_keeps silent before
    · exact Handler.CommandStep.run_check_keeps silent before
    · exact stoppedMsgsOf_doStopStep context callbacks before
  · rfl

theorem stoppedMsgsOf_answerStop
    {scope : Handler.StopScope World} (result : ActionResult)
    (outcome : Handler.CmdResponse (Handler.StopScope World))
    (before : stoppedMsgsOf scope.events = []) :
    stoppedMsgsOf
      (Handler.answerStop handler scope result outcome).events = [] := by
  apply stoppedMsgsOf_append_eq_nil before
  split
  · rfl
  · rfl

theorem stoppedMsgsOf_handleStopCommand (commandMsg : Msg) :
    stoppedMsgsOf
      (Handler.handleStopCommand context callbacks handler world
        commandMsg).events = [] := by
  have steps :=
    stoppedMsgsOf_stopSteps context callbacks handler world commandMsg
  rw [Handler.handleStopCommand]
  dsimp only
  split
  · rename_i scope loop
    rw [loop] at steps
    exact stoppedMsgsOf_answerStop handler _ _ steps
  · rename_i scope response loop
    rw [loop] at steps
    exact stoppedMsgsOf_answerStop handler _ _ steps
  · rename_i scope loop
    rw [loop] at steps
    exact steps

end Commands

theorem stoppedMsgsOf_loopFunction
    {Json : Type} (context : ServiceContext Json) (service : Service)
    (commands : List CommandInput) :
    stoppedMsgsOf (service.loopFunction context commands).2 = [] := by
  rw [Service.loopFunction]
  induction commands generalizing service with
  | nil => rfl
  | cons command commands induction =>
      rw [List.map_cons, Mealy.run_cons, stoppedMsgsOf_append, induction,
        List.append_nil]
      cases command with
      | start input outcomes =>
          exact stoppedMsgsOf_handleStartCommand _ _ _ _ _
      | stop commandMsg outcomes =>
          exact stoppedMsgsOf_handleStopCommand _ _ _ _ _

/-! ## What is published -/

/-- The text is not JSON, or it is that of an object. -/
def Harmless (text : JsonText Real) (metadata : String) : Prop :=
  text.parse metadata = .error .parseError ∨
    ∃ members, text.parse metadata = .ok (.object members)

/--
The text of the report, overwritten by the members of the metadata if these
are the text of an object, and with the structure of the file.
-/
def Reports
    (text : JsonText Real) (report : JsonValue Real)
    (metadata nexusStructure published : String) : Prop :=
  ∃ reportText reported members,
    text.dump report = .ok reportText ∧
      text.parse reportText = .ok (.object reported) ∧
      (text.parse metadata = .ok (.object members) ∨
        members = [] ∧
          ∀ others, text.parse metadata ≠ .ok (.object others)) ∧
      text.dump
          (.object
            (OrderedMap.assign (JsonValue.overwrite reported members)
              "hdf_structure" (.string nexusStructure))) =
        .ok published

section Finish

variable {text : JsonText Real} {command : CommandContext}
  {extra : List String → List (String × JsonValue Real)}
  {filePath : String → String}

/-- The report that is read back and the metadata decide about the JSON. -/
theorem stoppedMetadata_eq
    {master : Master} {reportText : String}
    {reported : List (String × JsonValue Real)}
    (written :
      text.dump
          (Status.createJSONReport (extra master.metaDataTracker)
            master.currentStatus) =
        .ok reportText)
    (read : text.parse reportText = .ok (.object reported)) :
    master.stoppedMetadata (jsonContext text command extra filePath).master =
      match text.parse master.currentMetadata with
      | .ok (.object members) =>
          some (.object (JsonValue.overwrite reported members))
      | .error .parseError => some (.object reported)
      | _ => none := by
  simp only [Master.stoppedMetadata, jsonContext, JsonText.toLibrary, written,
    read, Option.bind_eq_bind, Option.bind_some, Except.toOption]
  rcases text.parse master.currentMetadata with failure | value
  · cases failure <;> rfl
  · cases value <;> rfl

/-- Harmless metadata are published. -/
theorem stoppedMetadata_of_harmless
    (documented : Documented text) {master : Master}
    (harmless : Harmless text master.currentMetadata)
    (nexusStructure : String) :
    ∃ json, master.stoppedMetadata
          (jsonContext text command extra filePath).master =
        some (.object json) ∧
      ∀ published,
        text.dump
            (.object
              (OrderedMap.assign json "hdf_structure"
                (.string nexusStructure))) =
          .ok published →
        Reports text
          (Status.createJSONReport (extra master.metaDataTracker)
            master.currentStatus)
          master.currentMetadata nexusStructure published := by
  rcases
      documented.dumps
        (Status.createJSONReport (extra master.metaDataTracker)
          master.currentStatus)
    with ⟨reportText, written⟩
  rcases documented.reads _ _ written with ⟨reported, read⟩
  rw [stoppedMetadata_eq written read]
  rcases harmless with noJson | ⟨members, parsed⟩
  · rw [noJson]
    refine ⟨reported, rfl, ?_⟩
    intro published dumped
    refine
      ⟨reportText, reported, [], written, read, Or.inr ⟨rfl, ?_⟩, dumped⟩
    intro others contrary
    rw [noJson] at contrary
    cases contrary
  · rw [parsed]
    refine ⟨JsonValue.overwrite reported members, rfl, ?_⟩
    intro published dumped
    exact
      ⟨reportText, reported, members, written, read, Or.inl parsed, dumped⟩

/-- Any other metadata make the JSON library throw. -/
theorem stoppedMetadata_of_not_harmless
    (documented : Documented text) {master : Master}
    (harmful : ¬ Harmless text master.currentMetadata) :
    master.stoppedMetadata (jsonContext text command extra filePath).master =
      none := by
  rcases
      documented.dumps
        (Status.createJSONReport (extra master.metaDataTracker)
          master.currentStatus)
    with ⟨reportText, written⟩
  rcases documented.reads _ _ written with ⟨reported, read⟩
  rw [stoppedMetadata_eq written read]
  split
  · rename_i members parsed
    exact absurd (Or.inr ⟨members, parsed⟩) harmful
  · rename_i noJson
    exact absurd (Or.inl noJson) harmful
  · rfl

variable {service : Service} {report : ControllerReport}
  {clients : ClientOutcomes}

theorem revertCommandTopic_returns (handler : Handler) :
    (handler.revertCommandTopic clients).2 = false ↔
      (handler.usingAltTopic = true → clients.revertThrows = false) := by
  rw [Handler.revertCommandTopic]
  split
  · rename_i inUse
    split
    · rename_i throws
      simp [inUse, throws]
    · rename_i returns
      simp [inUse, returns]
  · rename_i notInUse
    simp [notInUse]

/-- What the message says about the job. -/
def Announces
    (context : ServiceContext (JsonValue Real)) (text : JsonText Real)
    (service : Service) (message : StoppedMessage) : Prop :=
  message.result = .success ∧
    message.jobId = service.master.currentStatus.jobId ∧
    message.filePath =
      context.master.filePath service.master.currentStatus.filename ∧
    Reports text
      (context.master.createJSONReport service.master.currentStatus
        service.master.metaDataTracker)
      service.master.currentMetadata service.handler.nexusStructure
      message.metadata

/-- The message is published; only the revert of the topic can still throw. -/
theorem finish_of_harmless
    (documented : Documented text)
    (stopped : service.master.hasWritingStopped report = true)
    (noError : report.hasErrorState = false)
    (harmless : Harmless text service.master.currentMetadata) :
    ∃ message,
      Announces (jsonContext text command extra filePath) text service
          message ∧
        service.step (jsonContext text command extra filePath)
            (.finishIfDone report clients) =
          (⟨(service.handler.revertCommandTopic clients).1,
              if (service.handler.revertCommandTopic clients).2 then
                service.master
              else service.master.reset⟩,
            [.stoppedMsg message]) ∧
        service.finishThrows (jsonContext text command extra filePath) report
            clients =
          (service.handler.revertCommandTopic clients).2 := by
  rcases
      @stoppedMetadata_of_harmless _ _ command extra filePath documented _
        harmless service.handler.nexusStructure
    with ⟨json, built, reports⟩
  rcases
      documented.dumps
        (.object
          (OrderedMap.assign json "hdf_structure"
            (.string service.handler.nexusStructure)))
    with ⟨published, dumped⟩
  have found :
      service.master.finishedMessage
          (jsonContext text command extra filePath).master report =
        some
          (.hasStopped service.master.currentStatus.jobId
            (filePath service.master.currentStatus.filename)
            (.object json)) := by
    simp only [Master.finishedMessage, noError, built]
    rfl
  let message : StoppedMessage :=
    { publisher := service.handler.commandResponse
      result := .success
      jobId := service.master.currentStatus.jobId
      description := ""
      filePath := filePath service.master.currentStatus.filename
      metadata := published }
  have sent :
      service.handler.sendHasStoppedMessage text.toLibrary
          service.master.currentStatus.jobId
          (filePath service.master.currentStatus.filename) (.object json)
          clients =
        ⟨(service.handler.revertCommandTopic clients).1, some message,
          (service.handler.revertCommandTopic clients).2⟩ := by
    simp only [Handler.sendHasStoppedMessage, JsonText.toLibrary,
      JsonValue.setString, Option.bind_some, dumped, Except.toOption]
    rfl
  refine ⟨message, ⟨rfl, rfl, rfl, reports published dumped⟩, ?_, ?_⟩
  · rw [Service.step, if_pos stopped]
    simp only [found, Service.setToIdle]
    rw [show (jsonContext text command extra filePath).master.json =
        text.toLibrary from rfl, sent]
    rfl
  · rw [Service.finishThrows, if_pos stopped]
    simp only [found]
    rw [show (jsonContext text command extra filePath).master.json =
        text.toLibrary from rfl, sent]

/-- Nothing is published and nothing is wound up. -/
theorem finish_of_not_harmless
    (documented : Documented text)
    (stopped : service.master.hasWritingStopped report = true)
    (noError : report.hasErrorState = false)
    (harmful : ¬ Harmless text service.master.currentMetadata) :
    service.step (jsonContext text command extra filePath)
          (.finishIfDone report clients) =
        (service, []) ∧
      service.finishThrows (jsonContext text command extra filePath) report
          clients =
        true := by
  have none_ :
      service.master.finishedMessage
          (jsonContext text command extra filePath).master report =
        none := by
    simp only [Master.finishedMessage, noError,
      stoppedMetadata_of_not_harmless documented harmful]
    rfl
  constructor
  · rw [Service.step, if_pos stopped]
    simp only [none_]
  · rw [Service.finishThrows, if_pos stopped]
    simp only [none_]

end Finish

/-! ## Winding up -/

/-- A call of `run` notices that the job of a controller has ended well. -/
structure Notices {Json : Type}
    (context : ServiceContext Json) (before : Service) (input : RunInput)
    (controller : StreamControllerHandle) : Prop where
  returns : input.loopThrows = false
  job :
    (before.loopFunction context
        input.commands).1.master.currentStreamController =
      some controller
  done : input.report.isDoneWriting = true
  noError : input.report.hasErrorState = false

/--
The call publishes one message about the job, resets the controller, the
tracker, the status and the status topic, and returns to the main loop.
-/
structure WindsUp
    (context : ServiceContext (JsonValue Real)) (text : JsonText Real)
    (before : Service) (input : RunInput) : Prop where
  publishes :
    ∃ message,
      stoppedMsgsOf (before.run context input).events = [message] ∧
        Announces context text (before.loopFunction context input.commands).1
          message
  resets :
    (before.run context input).service.master =
      { (before.loopFunction context input.commands).1.master with
        currentStreamController := none
        metaDataTracker := []
        currentStatus := {}
        reporter :=
          (before.loopFunction context
            input.commands).1.master.reporter.revertToDefaultStatusTopic }
  returns : (before.run context input).threw = false
  goesOn :
    ∀ inputs,
      before.mainLoop context (input :: inputs) =
        (((before.run context input).service.mainLoop context inputs).1,
          (before.run context input).events ++
            ((before.run context input).service.mainLoop context inputs).2)

theorem run_of_returns
    {Json : Type} {context : ServiceContext Json} {before : Service}
    {input : RunInput} (returns : input.loopThrows = false) :
    before.run context input =
      ⟨((before.loopFunction context input.commands).1.step context
            (.finishIfDone input.report input.clients)).1,
        (before.loopFunction context input.commands).2 ++
          ((before.loopFunction context input.commands).1.step context
            (.finishIfDone input.report input.clients)).2,
        (before.loopFunction context input.commands).1.finishThrows context
          input.report input.clients⟩ := by
  rw [Service.run]
  dsimp only
  rw [returns]
  rfl

section Runs

variable {text : JsonText Real} {command : CommandContext}
  {extra : List String → List (String × JsonValue Real)}
  {filePath : String → String} {before : Service} {input : RunInput}
  {controller : StreamControllerHandle}

theorem Notices.hasWritingStopped
    (notices :
      Notices (jsonContext text command extra filePath) before input
        controller) :
    (before.loopFunction (jsonContext text command extra filePath)
        input.commands).1.master.hasWritingStopped input.report = true := by
  rw [Master.hasWritingStopped, notices.job, notices.done]
  rfl

theorem windsUp_of_harmless
    (documented : Documented text)
    (notices :
      Notices (jsonContext text command extra filePath) before input
        controller)
    (harmless :
      Harmless text
        (before.loopFunction (jsonContext text command extra filePath)
          input.commands).1.master.currentMetadata)
    (reverts :
      (before.loopFunction (jsonContext text command extra filePath)
            input.commands).1.handler.usingAltTopic = true →
        input.clients.revertThrows = false) :
    WindsUp (jsonContext text command extra filePath) text before input := by
  rcases
      @finish_of_harmless _ _ command extra filePath _ _ input.clients
        documented notices.hasWritingStopped notices.noError harmless
    with ⟨message, announces, stepped, threw⟩
  rw [(revertCommandTopic_returns _).mpr reverts] at stepped threw
  have ran :=
    @run_of_returns _ (jsonContext text command extra filePath) before _
      notices.returns
  rw [stepped, threw] at ran
  have returned :
      (before.run (jsonContext text command extra filePath) input).threw =
        false := by
    rw [ran]
  constructor
  · refine ⟨message, ?_, announces⟩
    rw [ran, stoppedMsgsOf_append, stoppedMsgsOf_loopFunction]
    rfl
  · rw [ran]
    rfl
  · exact returned
  · exact Service.mainLoop_of_returns returned

/-- What a call that winds up a job needs, for any metadata of the master. -/
theorem harmless_of_windsUp
    (documented : Documented text)
    (notices :
      Notices (jsonContext text command extra filePath) before input
        controller)
    (windsUp :
      WindsUp (jsonContext text command extra filePath) text before input) :
    Harmless text
        (before.loopFunction (jsonContext text command extra filePath)
          input.commands).1.master.currentMetadata ∧
      ((before.loopFunction (jsonContext text command extra filePath)
            input.commands).1.handler.usingAltTopic = true →
        input.clients.revertThrows = false) := by
  have returned := windsUp.returns
  rw [run_of_returns notices.returns] at returned
  by_cases harmless :
      Harmless text
        (before.loopFunction (jsonContext text command extra filePath)
          input.commands).1.master.currentMetadata
  · rcases
        @finish_of_harmless _ _ command extra filePath _ _ input.clients
          documented notices.hasWritingStopped notices.noError harmless
      with ⟨_, _, _, threw⟩
    rw [threw] at returned
    exact ⟨harmless, (revertCommandTopic_returns _).mp returned⟩
  · rcases
        @finish_of_not_harmless _ _ command extra filePath _ _ input.clients
          documented notices.hasWritingStopped notices.noError harmless
      with ⟨_, threw⟩
    rw [threw] at returned
    cases returned

/--
In every run of the service, the call that notices the end of a job winds it up
if and only if the metadata of its start command are not JSON or are the text
of an object, and the command topic can be reverted.
-/
theorem windsUp_iff
    (documented : Documented text) {serviceId : String} {commandTopic : URI}
    {earlier : List ServiceInput}
    (notices :
      Notices (jsonContext text command extra filePath)
        (Mealy.run (Service.step (jsonContext text command extra filePath))
          (Service.create serviceId commandTopic) earlier).1
        input controller) :
    WindsUp (jsonContext text command extra filePath) text
        (Mealy.run (Service.step (jsonContext text command extra filePath))
          (Service.create serviceId commandTopic) earlier).1
        input ↔
      Harmless text controller.startInfo.metadata ∧
        (((Mealy.run
                  (Service.step (jsonContext text command extra filePath))
                  (Service.create serviceId commandTopic)
                  earlier).1.loopFunction
              (jsonContext text command extra filePath)
              input.commands).1.handler.usingAltTopic = true →
          input.clients.revertThrows = false) := by
  have carries :=
    carriesMetadata_of_run (jsonContext text command extra filePath)
      serviceId commandTopic
      (earlier ++ input.commands.map CommandInput.toStep)
  rw [Mealy.run_append] at carries
  have metadata := carries controller notices.job
  rw [← metadata]
  constructor
  · exact harmless_of_windsUp documented notices
  · rintro ⟨harmless, reverts⟩
    exact windsUp_of_harmless documented notices harmless reverts

end Runs

/-! ## Two jobs -/

section Samples

/-- The report on the job of the start command below, as it is read. -/
def sampleReport : List (String × JsonValue Empty) :=
  [("extra", .object []), ("file_being_written", .string "file.nxs"),
    ("job_id", .string "5e0e1a2c-3f0c-4c62-9d3b-1f7cf4f0a001"),
    ("start_time", .unsigned 0), ("state", .string "writing"),
    ("stop_time", .unsigned 9223372036854)]

/-- The library on the texts that occur. -/
def sampleText : JsonText Empty where
  dump := fun value => .ok (value.compactText Empty.elim)
  parse := fun text =>
    if text = "[]" then .ok (.array [])
    else if text.toList.head? = some '\x7b' then .ok (.object sampleReport)
    else .error .parseError

theorem sampleText_documented : Documented sampleText := by
  constructor
  · intro value
    exact ⟨_, rfl⟩
  · intro members dumped written
    cases written
    refine ⟨sampleReport, ?_⟩
    rw [sampleText]
    simp [JsonValue.compactText, String.ext_iff]

/-- Every start command is for the same job, with the given metadata. -/
def sampleCommand (metadata : Option String) : CommandContext where
  getRunStart := fun _ =>
    ⟨0, 0, some "5e0e1a2c-3f0c-4c62-9d3b-1f7cf4f0a001", some "\x7b\x7d",
      some "file.nxs", none, metadata, some "control"⟩
  getRunStop := fun _ => ⟨0, none, none, none⟩
  isValidUUID := fun _ => true
  toUTCDateTime := fun _ => ""

def sampleContext (metadata : Option String) :
    ServiceContext (JsonValue Empty) :=
  jsonContext sampleText (sampleCommand metadata) (fun _ => []) id

/-- The service as it is constructed. -/
def sampleService : Service :=
  Service.create "writer" ⟨"broker:9092", "commands"⟩

/-- A job arrives from the pool, and is done when it is looked at. -/
def sampleRun : RunInput :=
  { commands := [.start ⟨{}, true, 0, {}⟩ {}]
    report := { isDoneWriting := true } }

theorem sampleRun_notices (metadata : Option String) :
    ∃ controller,
      controller.startInfo.metadata = metadata.getD "" ∧
        Notices (sampleContext metadata) sampleService sampleRun
          controller := by
  exact ⟨_, rfl, rfl, rfl, rfl, rfl⟩

/-- A job whose start command carries no metadata is wound up. -/
theorem windsUp_without_metadata :
    WindsUp (sampleContext none) sampleText
      (Mealy.run (Service.step (sampleContext none)) sampleService []).1
      sampleRun := by
  rcases sampleRun_notices none with ⟨controller, metadata, notices⟩
  refine
    (@windsUp_iff _ _ (sampleCommand none) (fun _ => []) id _ _
        sampleText_documented "writer" ⟨"broker:9092", "commands"⟩ []
        notices).mpr
      ⟨?_, fun _ => rfl⟩
  rw [metadata]
  exact Or.inl rfl

/-- A job whose metadata are the text of an array is not. -/
theorem not_windsUp_array :
    ∃ controller,
      controller.startInfo.metadata = "[]" ∧
        Notices (sampleContext (some "[]")) sampleService sampleRun
          controller ∧
        ¬ WindsUp (sampleContext (some "[]")) sampleText
          (Mealy.run (Service.step (sampleContext (some "[]"))) sampleService
            []).1
          sampleRun := by
  rcases sampleRun_notices (some "[]") with ⟨controller, metadata, notices⟩
  refine ⟨controller, metadata, notices, ?_⟩
  intro windsUp
  rcases (harmless_of_windsUp sampleText_documented notices windsUp).1
    with contrary | ⟨members, contrary⟩
  · cases contrary
  · cases contrary

end Samples

end KafkaToNexus.WindingUp
