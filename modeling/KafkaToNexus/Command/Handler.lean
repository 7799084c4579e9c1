import KafkaToNexus.Command.Commands
import KafkaToNexus.FlatbufferMessage
import KafkaToNexus.JsonLibrary

/-!
# The command handler

A start or a stop command goes through a list of steps.  Each step is paired
with the response for the case that it fails; the first failing step decides.
The list is built before any step is run, so that what a response takes from
the command is taken from a command that has not been extracted yet, unless it
stands inside the closure for the text.

What the steps do to the writer goes through the functions that the owner of
the handler has registered; they act on a state of type `World`.  The responses
and the calls of these functions are recorded as events.  The constructors of
the Kafka clients may throw, which is an input of the functions that use them.
-/

namespace KafkaToNexus.Command

open KafkaToNexus

/-- What the handler takes from generated code and from libraries. -/
structure CommandContext where
  getRunStart : List UInt8 → RunStart
  getRunStop : List UInt8 → RunStop
  isValidUUID : String → Bool
  /-- The text of a time.  It is assumed that no exception is thrown. -/
  toUTCDateTime : TimePoint → String

/-- The listener on a command topic. -/
structure CommandListener where
  address : URI
  startTimestamp : TimePoint := TimePoint.max
deriving DecidableEq, Repr

/-- The producer of responses. -/
structure FeedbackProducer where
  serviceId : String
  address : URI
deriving DecidableEq, Repr

inductive ActionResponse where
  | startJob
  | setStopTime
deriving DecidableEq, Repr

inductive ActionResult where
  | success
  | failure
deriving DecidableEq, Repr

/-- The arguments of `publishResponse`. -/
structure Response where
  publisher : FeedbackProducer
  command : ActionResponse
  result : ActionResult
  jobId : String
  commandId : String
  stopTime : TimePoint
  statusCode : Nat
  description : String
deriving DecidableEq, Repr

/-- The arguments of `publishStoppedMsg`. -/
structure StoppedMessage where
  publisher : FeedbackProducer
  result : ActionResult
  jobId : String
  description : String
  filePath : String
  metadata : String
deriving DecidableEq, Repr

/-- What the handler does to the outside. -/
inductive HandlerEvent where
  /-- A registered function was called, and returned or threw. -/
  | doStart (startInfo : StartInfo) (returned : Bool)
  | doStopNow (returned : Bool)
  | doSetStopTime (stopTime : TimePoint) (returned : Bool)
  | response (response : Response)
  | stoppedMsg (message : StoppedMessage)
deriving DecidableEq, Repr

/--
The functions registered by the owner of the handler.  Those that may throw
return the text of the exception; a state change made before it stays.
-/
structure Callbacks (World : Type*) where
  doStart : StartInfo → World → World × Option String
  doSetStopTime : TimePoint → World → World × Option String
  doStopNow : World → World × Option String
  isWritingNow : World → Bool
  getJobId : World → String

structure Handler where
  serviceId : String
  nexusStructure : String := ""
  commandSource : CommandListener
  commandResponse : FeedbackProducer
  altCommandResponse : Option FeedbackProducer := none
  commandTopicAddress : URI
  usingAltTopic : Bool := false
  /-- The response to revert to is at hand while it is needed. -/
  alternative : usingAltTopic = true → altCommandResponse.isSome = true := by
    decide
deriving DecidableEq, Repr

/-- Whether the constructors of the clients throw in one call. -/
structure ClientOutcomes where
  /-- The listener on the alternative topic. -/
  listenerThrows : Bool := false
  /-- The producer on the alternative topic. -/
  producerThrows : Bool := false
  /-- The listener on the default topic. -/
  revertThrows : Bool := false
deriving DecidableEq, Repr

namespace Handler

/-- The constructor. -/
def create (serviceIdentifier : String) (commandTopicUri : URI) : Handler where
  serviceId := serviceIdentifier
  commandSource := ⟨commandTopicUri, TimePoint.max⟩
  commandResponse := ⟨serviceIdentifier, commandTopicUri⟩
  commandTopicAddress := commandTopicUri

/-- The handler after the switch back to the default topic. -/
def reverted
    (handler : Handler) (inUse : handler.usingAltTopic = true) : Handler :=
  { handler with
    commandSource := ⟨handler.commandTopicAddress, TimePoint.max⟩
    commandResponse :=
      handler.altCommandResponse.get (handler.alternative inUse)
    altCommandResponse := some handler.commandResponse
    usingAltTopic := false
    alternative := fun contrary => nomatch contrary }

/-- The new handler, and whether the constructor of the listener threw. -/
def revertCommandTopic
    (handler : Handler) (outcomes : ClientOutcomes) : Handler × Bool :=
  if inUse : handler.usingAltTopic = true then
    if outcomes.revertThrows then (handler, true)
    else (handler.reverted inUse, false)
  else
    (handler, false)

/-- Nothing has changed when the constructor of the listener throws. -/
theorem revertCommandTopic_of_throws
    (handler : Handler) {outcomes : ClientOutcomes}
    (throws : outcomes.revertThrows = true) :
    (handler.revertCommandTopic outcomes).1 = handler := by
  unfold revertCommandTopic
  rw [throws]
  split <;> rfl

/-! ## The steps of a command -/

/-- How a step ends. -/
inductive StepOutcome where
  | succeeded
  | failed
  /-- The handling of the command is left, by an exception for instance. -/
  | left
deriving DecidableEq, Repr

/-- The response that stands by for the failure of a step. -/
structure CmdResponse (Scope : Type*) where
  statusCode : Nat
  sendResponse : Bool
  messageString : Scope → String

/-- A step together with the response for its failure. -/
structure CommandStep (Scope : Type*) where
  run : Scope → StepOutcome × Scope
  response : CmdResponse Scope

/-- How the loop over the steps ends. -/
inductive LoopResult (Scope : Type*) where
  | passed (scope : Scope)
  | rejected (scope : Scope) (response : CmdResponse Scope)
  | left (scope : Scope)

/-- What the loop leaves, however it ends. -/
def LoopResult.scope {Scope : Type*} : LoopResult Scope → Scope
  | .passed scope => scope
  | .rejected scope _ => scope
  | .left scope => scope

/-- The loop over the steps. -/
def runSteps {Scope : Type*} :
    List (CommandStep Scope) → Scope → LoopResult Scope
  | [], scope => .passed scope
  | step :: rest, scope =>
      match step.run scope with
      | (.succeeded, next) => runSteps rest next
      | (.failed, next) => .rejected next step.response
      | (.left, next) => .left next

/-- A step that checks a condition and changes nothing. -/
def CommandStep.check
    {Scope : Type*} (condition : Scope → Bool)
    (response : CmdResponse Scope) : CommandStep Scope where
  run scope :=
    if condition scope then (.succeeded, scope) else (.failed, scope)
  response

section Loop

variable {Scope : Type*} {step : CommandStep Scope}
  {rest : List (CommandStep Scope)} {scope next : Scope}

theorem runSteps_of_succeeded (ran : step.run scope = (.succeeded, next)) :
    runSteps (step :: rest) scope = runSteps rest next := by
  rw [runSteps, ran]

theorem runSteps_of_failed (ran : step.run scope = (.failed, next)) :
    runSteps (step :: rest) scope = .rejected next step.response := by
  rw [runSteps, ran]

theorem runSteps_of_left (ran : step.run scope = (.left, next)) :
    runSteps (step :: rest) scope = .left next := by
  rw [runSteps, ran]

theorem runSteps_of_check
    {condition : Scope → Bool} {response : CmdResponse Scope}
    (holds : condition scope = true) :
    runSteps (.check condition response :: rest) scope =
      runSteps rest scope :=
  runSteps_of_succeeded (if_pos holds)

theorem runSteps_of_not_check
    {condition : Scope → Bool} {response : CmdResponse Scope}
    (fails : condition scope = false) :
    runSteps (.check condition response :: rest) scope =
      .rejected scope response :=
  runSteps_of_failed (if_neg (by rw [fails]; decide))

/-- A check keeps whatever holds before it. -/
theorem CommandStep.run_check_keeps
    {condition : Scope → Bool} {response : CmdResponse Scope}
    (invariant : Scope → Prop) (holds : invariant scope) :
    invariant ((CommandStep.check condition response).run scope).2 := by
  unfold CommandStep.check
  dsimp only
  split <;> exact holds

/-- What every step keeps is kept by the loop. -/
theorem runSteps_keeps
    (invariant : Scope → Prop) {steps : List (CommandStep Scope)}
    (keeps :
      ∀ step ∈ steps, ∀ scope,
        invariant scope → invariant (step.run scope).2)
    (holds : invariant scope) :
    invariant (runSteps steps scope).scope := by
  induction steps generalizing scope with
  | nil => exact holds
  | cons step rest induction =>
      have kept := keeps step List.mem_cons_self scope holds
      have later :
          ∀ step ∈ rest, ∀ scope,
            invariant scope → invariant (step.run scope).2 :=
        fun step member => keeps step (List.mem_cons_of_mem _ member)
      rcases ran : step.run scope with ⟨outcome, next⟩
      rw [ran] at kept
      cases outcome with
      | succeeded =>
          rw [runSteps_of_succeeded ran]
          exact induction later kept
      | failed =>
          rw [runSteps_of_failed ran]
          exact kept
      | left =>
          rw [runSteps_of_left ran]
          exact kept

end Loop

/-- What the handling of a command leaves and does. -/
structure CommandResult (World : Type*) where
  handler : Handler
  world : World
  events : List HandlerEvent

variable {World : Type*}

/-! ## Start commands -/

/-- What the closures of a start command can see and change. -/
structure StartScope (World : Type*) where
  handler : Handler
  world : World
  events : List HandlerEvent := []
  startJob : StartMessage := {}
  exceptionMessage : String := ""

/-- What one call of `handleStartCommand` takes from outside. -/
structure StartInput where
  commandMsg : Msg
  isJobPoolCommand : Bool
  /-- The clock at the extraction of the command. -/
  defaultStartTime : TimePoint := 0
  outcomes : ClientOutcomes := {}
deriving DecidableEq, Repr

/-- Extract the command. -/
def extractStep
    (context : CommandContext) (input : StartInput) :
    CommandStep (StartScope World) where
  run scope :=
    match Parser.extractStartMessage
        (context.getRunStart input.commandMsg.data) input.defaultStartTime with
    | .ok startJob => (.succeeded, { scope with startJob })
    | .error what => (.failed, { scope with exceptionMessage := what })
  response :=
    { statusCode := 0
      sendResponse := false
      messageString := fun scope =>
        "Failed to extract start command from flatbuffer. The error was: " ++
          scope.exceptionMessage }

/-- The command from the pool or topic is meant for this service. -/
def isForService
    (handler : Handler) (isJobPoolCommand : Bool) (serviceID : String) : Bool :=
  !(xor isJobPoolCommand (serviceID != handler.serviceId))

def serviceIdStep (input : StartInput) : CommandStep (StartScope World) :=
  .check
    (fun scope =>
      isForService scope.handler input.isJobPoolCommand
        scope.startJob.serviceID)
    { statusCode := 0
      sendResponse := false
      messageString := fun scope =>
        "Rejected start command as the service id was wrong. It should be \"" ++
          scope.handler.serviceId ++ "\", it was \"" ++
          scope.startJob.serviceID ++ "\"." }

def notWritingStep
    (callbacks : Callbacks World) : CommandStep (StartScope World) :=
  .check (fun scope => !callbacks.isWritingNow scope.world)
    { statusCode := 400
      sendResponse := true
      messageString := fun _ =>
        "Rejected start command as there is currently a write job in progress." }

def jobIdStep (context : CommandContext) : CommandStep (StartScope World) :=
  .check (fun scope => context.isValidUUID scope.startJob.jobID)
    { statusCode := 400
      sendResponse := true
      messageString := fun scope =>
        "Rejected start command as the job id was invalid (it was: \"" ++
          scope.startJob.jobID ++ "\")." }

/-- The handler once it listens and answers on an alternative topic. -/
def switchedTo
    (handler : Handler) (startJob : StartMessage) : Handler :=
  let address := handler.commandTopicAddress.withTopic startJob.controlTopic
  { handler with
    commandSource := ⟨address, startJob.startTime⟩
    commandResponse := ⟨handler.serviceId, address⟩
    altCommandResponse := some handler.commandResponse
    usingAltTopic := true
    alternative := fun _ => rfl }

/-- The handler whose listener alone is on an alternative topic. -/
def listeningTo
    (handler : Handler) (startJob : StartMessage) : Handler :=
  { handler with
    commandSource :=
      ⟨handler.commandTopicAddress.withTopic startJob.controlTopic,
        startJob.startTime⟩ }

/-- The listener is replaced before the producer is constructed. -/
def controlTopicStep
    (input : StartInput) : CommandStep (StartScope World) where
  run scope :=
    if scope.startJob.controlTopic.isEmpty then
      (.succeeded, scope)
    else if input.isJobPoolCommand then
      if input.outcomes.listenerThrows then
        (.left, scope)
      else if input.outcomes.producerThrows then
        (.left,
          { scope with handler := scope.handler.listeningTo scope.startJob })
      else
        (.succeeded,
          { scope with handler := scope.handler.switchedTo scope.startJob })
    else
      (.failed, scope)
  response :=
    { statusCode := 400
      sendResponse := true
      messageString := fun scope =>
        "Rejected new/alternative command topic (\"" ++
          scope.startJob.controlTopic ++
          "\") as the job was not received from job pool." }

def doStartStep
    (callbacks : Callbacks World) : CommandStep (StartScope World) where
  run scope :=
    let startInfo := scope.startJob.toStartInfo
    match callbacks.doStart startInfo scope.world with
    | (world, none) =>
        (.succeeded,
          { scope with
            world
            events := scope.events ++ [.doStart startInfo true]
            handler :=
              { scope.handler with
                nexusStructure := scope.startJob.nexusStructure } })
    | (world, some what) =>
        (.failed,
          { scope with
            world
            events := scope.events ++ [.doStart startInfo false]
            exceptionMessage := what })
  response :=
    { statusCode := 500
      sendResponse := true
      messageString := fun scope =>
        "Failed to start filewriting job. The failure message was: " ++
          scope.exceptionMessage }

def startSteps
    (context : CommandContext) (callbacks : Callbacks World)
    (input : StartInput) : List (CommandStep (StartScope World)) :=
  [extractStep context input, serviceIdStep input, notWritingStep callbacks,
    jobIdStep context, controlTopicStep input, doStartStep callbacks]

/-- The response to a start command that passes every step. -/
def startedResponse
    (context : CommandContext) : CmdResponse (StartScope World) where
  statusCode := 201
  sendResponse := true
  messageString scope :=
    "Started write job with start time " ++
      context.toUTCDateTime scope.startJob.startTime ++ " and stop time " ++
      context.toUTCDateTime scope.startJob.stopTime ++ "."

/-- The end of `handleStartCommand`: answer if an answer is to be sent. -/
def answerStart
    (scope : StartScope World) (result : ActionResult)
    (outcome : CmdResponse (StartScope World)) : CommandResult World :=
  { handler := scope.handler
    world := scope.world
    events :=
      scope.events ++
        if outcome.sendResponse then
          [.response
            { publisher := scope.handler.commandResponse
              command := .startJob
              result
              jobId := scope.startJob.jobID
              commandId := scope.startJob.jobID
              stopTime := scope.startJob.stopTime
              statusCode := outcome.statusCode
              description := outcome.messageString scope }]
        else [] }

def handleStartCommand
    (context : CommandContext) (callbacks : Callbacks World)
    (handler : Handler) (world : World) (input : StartInput) :
    CommandResult World :=
  match runSteps (startSteps context callbacks input) { handler, world } with
  | .passed scope => answerStart scope .success (startedResponse context)
  | .rejected scope response =>
      match scope.handler.revertCommandTopic input.outcomes with
      | (reverted, false) =>
          answerStart { scope with handler := reverted } .failure response
      | (reverted, true) => ⟨reverted, scope.world, scope.events⟩
  | .left scope => ⟨scope.handler, scope.world, scope.events⟩

/-! ## Stop commands -/

/-- What the closures of a stop command can see and change. -/
structure StopScope (World : Type*) where
  world : World
  events : List HandlerEvent := []
  stopCmd : StopMessage := {}
  responseMessage : String := ""

def extractStopStep
    (context : CommandContext) (commandMsg : Msg) :
    CommandStep (StopScope World) where
  run scope :=
    match Parser.extractStopMessage (context.getRunStop commandMsg.data) with
    | .ok stopCmd => (.succeeded, { scope with stopCmd })
    | .error (.runtimeError what) =>
        (.failed, { scope with responseMessage := what })
    | .error .nullDereference => (.left, scope)
  response :=
    { statusCode := 0
      sendResponse := false
      messageString := fun scope =>
        "Failed to extract stop command from flatbuffer. The error was: " ++
          scope.responseMessage }

/-- The command is meant for this service, or for all of them. -/
def isAccepted (handler : Handler) (stopCmd : StopMessage) : Bool :=
  stopCmd.serviceID.isEmpty || handler.serviceId == stopCmd.serviceID

def stopServiceIdStep (handler : Handler) : CommandStep (StopScope World) :=
  .check (fun scope => isAccepted handler scope.stopCmd)
    { statusCode := 0
      sendResponse := false
      messageString := fun scope =>
        "Rejected stop command as the service id was wrong. It should be " ++
          handler.serviceId ++ ", it was " ++ scope.stopCmd.serviceID ++ "." }

/--
Whether a rejection is to be answered, as the expression in the list of steps
computes it from the value that the command has when the list is built.
-/
def answersRejection (handler : Handler) (stopCmd : StopMessage) : Bool :=
  !stopCmd.serviceID.isEmpty && handler.serviceId == stopCmd.serviceID

def isWritingStep
    (callbacks : Callbacks World) (handler : Handler) (built : StopMessage) :
    CommandStep (StopScope World) :=
  .check (fun scope => callbacks.isWritingNow scope.world)
    { statusCode := 400
      sendResponse := answersRejection handler built
      messageString := fun _ =>
        "Rejected stop command as there is currently no write job in progress." }

def sameJobStep
    (callbacks : Callbacks World) (handler : Handler) (built : StopMessage) :
    CommandStep (StopScope World) :=
  .check
    (fun scope => callbacks.getJobId scope.world == scope.stopCmd.jobID)
    { statusCode := 400
      sendResponse := answersRejection handler built
      messageString := fun scope =>
        "Rejected stop command as the job id was invalid (It should be " ++
          callbacks.getJobId scope.world ++ ", it was: " ++
          scope.stopCmd.jobID ++ ")." }

def commandIdStep
    (context : CommandContext) : CommandStep (StopScope World) :=
  .check (fun scope => context.isValidUUID scope.stopCmd.commandID)
    { statusCode := 400
      sendResponse := true
      messageString := fun scope =>
        "Rejected stop command as the command id was invalid (it was: " ++
          scope.stopCmd.commandID ++ ")." }

/-- Call the function of the command and keep the message of its outcome. -/
def callStop
    (context : CommandContext) (callbacks : Callbacks World)
    (stopCmd : StopMessage) (world : World) :
    (World × Option String) × (Bool → HandlerEvent) × String :=
  if stopCmd.stopTime = 0 then
    (callbacks.doStopNow world, .doStopNow,
      "Attempting to stop writing job now.")
  else
    (callbacks.doSetStopTime stopCmd.stopTime world,
      .doSetStopTime stopCmd.stopTime,
      "File writing job stop time set to: " ++
        context.toUTCDateTime stopCmd.stopTime)

def doStopStep
    (context : CommandContext) (callbacks : Callbacks World) :
    CommandStep (StopScope World) where
  run scope :=
    match callStop context callbacks scope.stopCmd scope.world with
    | ((world, none), event, message) =>
        (.succeeded,
          { scope with
            world
            events := scope.events ++ [event true]
            responseMessage := message })
    | ((world, some what), event, _) =>
        (.failed,
          { scope with
            world
            events := scope.events ++ [event false]
            responseMessage := what })
  response :=
    { statusCode := 500
      sendResponse := true
      messageString := fun scope =>
        "Failed to execute stop command. The failure message was: " ++
          scope.responseMessage }

/-- The list of steps, built while the command has the value `built`. -/
def stopSteps
    (context : CommandContext) (callbacks : Callbacks World)
    (handler : Handler) (commandMsg : Msg) (built : StopMessage) :
    List (CommandStep (StopScope World)) :=
  [extractStopStep context commandMsg, stopServiceIdStep handler,
    isWritingStep callbacks handler built, sameJobStep callbacks handler built,
    commandIdStep context, doStopStep context callbacks]

/-- The response to a stop command that passes every step. -/
def stoppedResponse : CmdResponse (StopScope World) where
  statusCode := 201
  sendResponse := true
  messageString scope := scope.responseMessage

/-- The end of `handleStopCommand`: answer if an answer is to be sent. -/
def answerStop
    (handler : Handler) (scope : StopScope World) (result : ActionResult)
    (outcome : CmdResponse (StopScope World)) : CommandResult World :=
  { handler
    world := scope.world
    events :=
      scope.events ++
        if outcome.sendResponse then
          [.response
            { publisher := handler.commandResponse
              command := .setStopTime
              result
              jobId := scope.stopCmd.jobID
              commandId := scope.stopCmd.commandID
              stopTime := scope.stopCmd.stopTime
              statusCode := outcome.statusCode
              description := outcome.messageString scope }]
        else [] }

def handleStopCommand
    (context : CommandContext) (callbacks : Callbacks World)
    (handler : Handler) (world : World) (commandMsg : Msg) :
    CommandResult World :=
  let scope : StopScope World := { world }
  let commandSteps :=
    stopSteps context callbacks handler commandMsg scope.stopCmd
  match runSteps commandSteps scope with
  | .passed scope => answerStop handler scope .success stoppedResponse
  | .rejected scope response => answerStop handler scope .failure response
  | .left scope => ⟨handler, scope.world, scope.events⟩

/-- A stop command leaves the handler as it is. -/
theorem handleStopCommand_handler
    (context : CommandContext) (callbacks : Callbacks World)
    (handler : Handler) (world : World) (commandMsg : Msg) :
    (handleStopCommand context callbacks handler world commandMsg).handler =
      handler := by
  simp only [handleStopCommand]
  split <;> rfl

/-- What the registered functions keep is kept by a stop command. -/
theorem handleStopCommand_keeps
    (context : CommandContext) {callbacks : Callbacks World}
    (handler : Handler) {world : World} (commandMsg : Msg)
    (invariant : World → Prop)
    (stopNow :
      ∀ world, invariant world → invariant (callbacks.doStopNow world).1)
    (setStopTime :
      ∀ stopTime world, invariant world →
        invariant (callbacks.doSetStopTime stopTime world).1)
    (holds : invariant world) :
    invariant
      (handleStopCommand context callbacks handler world
        commandMsg).world := by
  let keptBy := fun scope : StopScope World => invariant scope.world
  have kept :
      keptBy
        (runSteps (stopSteps context callbacks handler commandMsg {})
          { world }).scope := by
    refine runSteps_keeps keptBy ?_ holds
    intro step member scope before
    simp only [stopSteps, List.mem_cons, List.not_mem_nil, or_false] at member
    rcases member with rfl | rfl | rfl | rfl | rfl | rfl
    · simp only [extractStopStep]
      split <;> exact before
    · exact CommandStep.run_check_keeps keptBy before
    · exact CommandStep.run_check_keeps keptBy before
    · exact CommandStep.run_check_keeps keptBy before
    · exact CommandStep.run_check_keeps keptBy before
    · have called :
          invariant
            (callStop context callbacks scope.stopCmd scope.world).1.1 := by
        unfold callStop
        split
        · exact stopNow _ before
        · exact setStopTime _ _ before
      simp only [doStopStep]
      revert called
      rcases callStop context callbacks scope.stopCmd scope.world with
        ⟨⟨after, outcome⟩, event, message⟩
      intro called
      cases outcome <;> exact called
  simp only [handleStopCommand]
  cases loop :
      runSteps (stopSteps context callbacks handler commandMsg {})
        { world } <;>
    rw [loop] at kept <;> exact kept

/-! ## Messages about finished jobs -/

/-- The message about a job that ended with an error. -/
def sendErrorEncounteredMessage
    (handler : Handler) (jobId fileName metadata errorMessage : String) :
    StoppedMessage :=
  { publisher := handler.commandResponse
    result := .failure
    jobId
    description := errorMessage
    filePath := fileName
    metadata }

/-- What `sendHasStoppedMessage` leaves and sends, and whether it throws. -/
structure StoppedResult where
  handler : Handler
  message : Option StoppedMessage
  threw : Bool

def sendHasStoppedMessage
    {Json : Type} (json : JsonLibrary Json) (handler : Handler)
    (jobId filePath : String) (metadata : Json)
    (outcomes : ClientOutcomes) : StoppedResult :=
  match (json.setString metadata "hdf_structure"
      handler.nexusStructure).bind json.dump with
  | none => ⟨handler, none, true⟩
  | some text =>
      let message : StoppedMessage :=
        { publisher := handler.commandResponse
          result := .success
          jobId
          description := ""
          filePath
          metadata := text }
      let (reverted, threw) := handler.revertCommandTopic outcomes
      ⟨reverted, some message, threw⟩

/-- The message is sent and the topic reverted, or nothing has changed. -/
theorem sendHasStoppedMessage_cases
    {Json : Type} (json : JsonLibrary Json) (handler : Handler)
    (jobId filePath : String) (metadata : Json)
    (outcomes : ClientOutcomes) :
    let sent :=
      handler.sendHasStoppedMessage json jobId filePath metadata outcomes
    (sent.handler = handler ∧ sent.threw = true) ∨
      (sent.handler = (handler.revertCommandTopic outcomes).1 ∧
        (handler.usingAltTopic = true → outcomes.revertThrows = false) ∧
        sent.threw = false) := by
  intro sent
  cases built :
      (json.setString metadata "hdf_structure"
        handler.nexusStructure).bind json.dump with
  | none => simp [sent, sendHasStoppedMessage, built]
  | some text =>
      cases throws : outcomes.revertThrows <;>
        cases inUse : handler.usingAltTopic <;>
          simp [sent, sendHasStoppedMessage, built, revertCommandTopic, inUse,
            throws]

/-! ## What the handling of a start command can do -/

/-- The handler at the call of `doStart`. -/
def targetOf (handler : Handler) (startJob : StartMessage) : Handler :=
  if startJob.controlTopic.isEmpty then handler
  else handler.switchedTo startJob

section StartCommand

variable (context : CommandContext) (callbacks : Callbacks World)
  (handler : Handler) (world : World) (input : StartInput)

/-- The steps after the check of the job id. -/
theorem lastSteps_cases (startJob : StartMessage) :
    (∃ scope response,
      runSteps [controlTopicStep input, doStartStep callbacks]
          { handler, world, startJob } = .rejected scope response ∧
        scope.handler = handler ∧ scope.world = world) ∨
    (∃ scope,
      runSteps [controlTopicStep input, doStartStep callbacks]
          { handler, world, startJob } = .left scope ∧
        scope.world = world ∧
        (scope.handler = handler ∨ input.outcomes.producerThrows = true)) ∨
    runSteps [controlTopicStep input, doStartStep callbacks]
        { handler, world, startJob } =
      runSteps [doStartStep callbacks]
        { handler := targetOf handler startJob, world, startJob } := by
  by_cases noTopic : startJob.controlTopic = ""
  · right; right
    apply runSteps_of_succeeded
    simp [controlTopicStep, noTopic, targetOf]
  · cases pool : input.isJobPoolCommand with
    | false =>
        left
        have ran :
            (controlTopicStep input).run { handler, world, startJob } =
              (.failed, { handler, world, startJob }) := by
          simp [controlTopicStep, noTopic, pool]
        exact ⟨_, _, runSteps_of_failed ran, rfl, rfl⟩
    | true =>
        cases listener : input.outcomes.listenerThrows with
        | true =>
            right; left
            have ran :
                (controlTopicStep input).run { handler, world, startJob } =
                  (.left, { handler, world, startJob }) := by
              simp [controlTopicStep, noTopic, pool, listener]
            exact ⟨_, runSteps_of_left ran, rfl, Or.inl rfl⟩
        | false =>
            cases producer : input.outcomes.producerThrows with
            | true =>
                right; left
                have ran :
                    (controlTopicStep input).run
                        { handler, world, startJob } =
                      (.left,
                        { handler := handler.listeningTo startJob
                          world, startJob }) := by
                  simp [controlTopicStep, noTopic, pool, listener, producer]
                exact ⟨_, runSteps_of_left ran, rfl, Or.inr rfl⟩
            | false =>
                right; right
                apply runSteps_of_succeeded
                simp [controlTopicStep, noTopic, pool, listener, producer,
                  targetOf]

/--
The steps of a start command: it is rejected before anything was changed, it
is left while the topic is switched, or the job is started.
-/
theorem startSteps_cases :
    (∃ scope response,
      runSteps (startSteps context callbacks input) { handler, world } =
          .rejected scope response ∧
        scope.handler = handler ∧ scope.world = world) ∨
    (callbacks.isWritingNow world = false ∧ ∃ scope,
      runSteps (startSteps context callbacks input) { handler, world } =
          .left scope ∧
        scope.world = world ∧
        (scope.handler = handler ∨ input.outcomes.producerThrows = true)) ∨
    (callbacks.isWritingNow world = false ∧
      ∃ startJob,
        runSteps (startSteps context callbacks input) { handler, world } =
          runSteps [doStartStep callbacks]
            { handler := targetOf handler startJob, world, startJob }) := by
  cases extracted :
      Parser.extractStartMessage (context.getRunStart input.commandMsg.data)
        input.defaultStartTime with
  | error what =>
      left
      have ran :
          (extractStep context input).run { handler, world } =
            (.failed, { handler, world, exceptionMessage := what }) := by
        simp only [extractStep, extracted]
      exact ⟨_, _, runSteps_of_failed ran, rfl, rfl⟩
  | ok startJob =>
      have ran :
          (extractStep context input).run { handler, world } =
            (.succeeded, { handler, world, startJob }) := by
        simp only [extractStep, extracted]
      have first :
          runSteps (startSteps context callbacks input) { handler, world } =
            runSteps
              [serviceIdStep input, notWritingStep callbacks,
                jobIdStep context, controlTopicStep input,
                doStartStep callbacks] { handler, world, startJob } :=
        runSteps_of_succeeded ran
      cases forService :
          isForService handler input.isJobPoolCommand startJob.serviceID with
      | false =>
          left
          exact ⟨_, _, first.trans (runSteps_of_not_check forService), rfl,
            rfl⟩
      | true =>
          have second := first.trans (runSteps_of_check forService)
          cases writing : callbacks.isWritingNow world with
          | true =>
              left
              have fails : (!callbacks.isWritingNow world) = false := by
                rw [writing]
                rfl
              exact ⟨_, _, second.trans (runSteps_of_not_check fails), rfl,
                rfl⟩
          | false =>
              have holds : (!callbacks.isWritingNow world) = true := by
                rw [writing]
                rfl
              have third := second.trans (runSteps_of_check holds)
              cases valid : context.isValidUUID startJob.jobID with
              | false =>
                  left
                  exact ⟨_, _, third.trans (runSteps_of_not_check valid), rfl,
                    rfl⟩
              | true =>
                  have fourth := third.trans (runSteps_of_check valid)
                  rw [fourth]
                  rcases lastSteps_cases callbacks handler world input startJob
                    with rejected | left_ | started
                  · exact Or.inl rejected
                  · exact Or.inr (Or.inl ⟨rfl, left_⟩)
                  · exact Or.inr (Or.inr ⟨rfl, startJob, started⟩)

/-- What the handling of a start command leaves. -/
theorem handleStartCommand_cases :
    let result := handleStartCommand context callbacks handler world input
    (result.world = world ∧
      result.handler = (handler.revertCommandTopic input.outcomes).1) ∨
    (callbacks.isWritingNow world = false ∧ result.world = world ∧
      (result.handler = handler ∨ input.outcomes.producerThrows = true)) ∨
    (callbacks.isWritingNow world = false ∧
      ∃ startJob : StartMessage,
        let called := callbacks.doStart startJob.toStartInfo world
        result.world = called.1 ∧
          ((called.2 = none ∧
            result.handler =
              { targetOf handler startJob with
                nexusStructure := startJob.nexusStructure }) ∨
            (called.2 ≠ none ∧
              result.handler =
                ((targetOf handler startJob).revertCommandTopic
                  input.outcomes).1))) := by
  intro result
  have unfolded :
      result = handleStartCommand context callbacks handler world input := rfl
  unfold handleStartCommand at unfolded
  rcases startSteps_cases context callbacks handler world input with
    ⟨scope, response, loop, sameHandler, sameWorld⟩ |
      ⟨idle, scope, loop, sameWorld, handlers⟩ | ⟨idle, startJob, loop⟩
  · left
    rw [loop] at unfolded
    dsimp only at unfolded
    rw [sameHandler] at unfolded
    rw [unfolded]
    rcases handler.revertCommandTopic input.outcomes with ⟨reverted, threw⟩
    cases threw <;> exact ⟨sameWorld, rfl⟩
  · right; left
    rw [loop] at unfolded
    rw [unfolded]
    exact ⟨idle, sameWorld, handlers⟩
  · right; right
    refine ⟨idle, startJob, ?_⟩
    rcases called : callbacks.doStart startJob.toStartInfo world with
      ⟨after, outcome⟩
    cases outcome with
    | none =>
        have ran :
            (doStartStep callbacks).run
                { handler := targetOf handler startJob, world, startJob } =
              (.succeeded,
                { handler :=
                    { targetOf handler startJob with
                      nexusStructure := startJob.nexusStructure }
                  world := after
                  startJob
                  events := [.doStart startJob.toStartInfo true] }) := by
          simp [doStartStep, called]
        rw [loop, runSteps_of_succeeded ran] at unfolded
        rw [unfolded]
        exact ⟨rfl, Or.inl ⟨rfl, rfl⟩⟩
    | some what =>
        have ran :
            (doStartStep callbacks).run
                { handler := targetOf handler startJob, world, startJob } =
              (.failed,
                { handler := targetOf handler startJob
                  world := after
                  startJob
                  exceptionMessage := what
                  events := [.doStart startJob.toStartInfo false] }) := by
          simp [doStartStep, called]
        rw [loop, runSteps_of_failed ran] at unfolded
        dsimp only at unfolded
        rw [unfolded]
        rcases (targetOf handler startJob).revertCommandTopic
          input.outcomes with ⟨reverted, threw⟩
        cases threw <;> exact ⟨rfl, Or.inr ⟨by simp, rfl⟩⟩

end StartCommand

end Handler

end KafkaToNexus.Command
