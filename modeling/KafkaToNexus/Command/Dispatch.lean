import KafkaToNexus.Command.Handler
import KafkaToNexus.Foundations.Checked

/-!
# The dispatch of a message

A message from the job pool or the command topic is a start command, a stop
command or nothing for this program.  Here the functions that look at its bytes
and at the fields of its table are modelled with what the language gives no
meaning to: bytes outside of the message, fields that are absent and a UUID
that an optional does not hold.  Where none of this happens, the handling of a
message is the one of the command handler.
-/

namespace KafkaToNexus.Command.Dispatch

open Foundations
open Foundations.Checked (deref)
open FlatbufferMessage (stringOfBytes)
open Handler

/-- The accesses without a meaning. -/
inductive Fault where
  /-- Bytes outside of the message are read. -/
  | outsideMessage
  /-- The null pointer of an absent field is followed. -/
  | absentField
  /-- The value of an empty optional is taken. -/
  | emptyOptional
deriving DecidableEq, Repr

/-! ## Code that has a meaning -/

/-- Nothing without a meaning is done. -/
def HasMeaning {Value : Type*} (code : Except Fault Value) : Prop :=
  ∃ value, code = .ok value

section Meaning

variable {First Second : Type*} {code : Except Fault First} {fault : Fault}
  {value : First}

@[simp]
theorem hasMeaning_ok : HasMeaning (.ok value) :=
  ⟨value, rfl⟩

@[simp]
theorem not_hasMeaning_error :
    ¬ HasMeaning (Except.error fault : Except _ First) := by
  rintro ⟨value, same⟩
  cases same

@[simp]
theorem hasMeaning_map_iff {change : First → Second} :
    HasMeaning (code.map change) ↔ HasMeaning code := by
  cases code with
  | error fault => exact iff_of_false not_hasMeaning_error not_hasMeaning_error
  | ok value => exact iff_of_true hasMeaning_ok hasMeaning_ok

theorem map_eq_ok_iff {change : First → Second} {result : Second} :
    code.map change = .ok result ↔
      ∃ value, code = .ok value ∧ change value = result := by
  cases code with
  | error fault =>
      apply iff_of_false
      · intro same
        cases same
      · rintro ⟨value, same, _⟩
        cases same
  | ok value =>
      constructor
      · intro same
        exact ⟨value, rfl, Except.ok.inj same⟩
      · rintro ⟨other, same, rfl⟩
        cases same
        rfl

theorem bind_eq_ok_iff
    {next : First → Except Fault Second} {result : Second} :
    code.bind next = .ok result ↔
      ∃ value, code = .ok value ∧ next value = .ok result := by
  cases code with
  | error fault =>
      apply iff_of_false
      · intro same
        cases same
      · rintro ⟨value, same, _⟩
        cases same
  | ok value =>
      constructor
      · intro same
        exact ⟨value, rfl, same⟩
      · rintro ⟨other, same, rest⟩
        cases same
        exact rest

end Meaning

/-! ## Generated code and libraries -/

/-- The schemas that are told apart by their verifiers. -/
inductive Schema where
  | runStart
  | runStop
  | status
  | actionResponse
  | finishedWriting
deriving DecidableEq, Repr

def Schema.identifier : Schema → String
  | .runStart => "pl72"
  | .runStop => "6s4t"
  | .status => "x5f2"
  | .actionResponse => "answ"
  | .finishedWriting => "wrdn"

/-- The verifier of a schema with an identifier. -/
structure Verifier where
  accepts : List UInt8 → Bool
  /-- There is room for the identifier in a buffer that is accepted. -/
  long : ∀ {data}, accepts data = true → 8 ≤ data.length

/-- `uuids::uuid_version`. -/
inductive UuidVersion where
  | none
  | timeBased
  | dceSecurity
  | nameBasedMd5
  | randomNumberBased
  | nameBasedSha1
deriving DecidableEq, Repr

/-- `uuids::uuid_variant`. -/
inductive UuidVariant where
  | ncs
  | rfc
  | microsoft
  | reserved
deriving DecidableEq, Repr

/-- What is asked of a `uuids::uuid`. -/
structure Uuid where
  isNil : Bool
  version : UuidVersion
  variant : UuidVariant
deriving DecidableEq, Repr

/-- What the handling of a message takes from outside of the repository. -/
structure Libraries where
  verifier : Schema → Verifier
  /-- The fields of the table in an accepted buffer. -/
  getRunStart : List UInt8 → RunStart
  getRunStop : List UInt8 → RunStop
  /-- `uuids::uuid::from_string`, with nothing for what is not a UUID. -/
  fromString : String → Option Uuid
  /-- The text of a time.  It is assumed that no exception is thrown. -/
  toUTCDateTime : TimePoint → String

/-! ## The kind of a message -/

/-- The four bytes after the first four. -/
def schemaId (data : List UInt8) : Except Fault String :=
  if 8 ≤ data.length then
    .ok (stringOfBytes ((data.drop 4).take 4))
  else
    .error .outsideMessage

/-- The verifier accepts the message and it has the identifier. -/
def hasSchema
    (libraries : Libraries) (schema : Schema) (commandMsg : Msg) :
    Except Fault Bool :=
  if (libraries.verifier schema).accepts commandMsg.data then
    (schemaId commandMsg.data).map fun id => id = schema.identifier
  else
    .ok false

def isStartCommand (libraries : Libraries) (commandMsg : Msg) :
    Except Fault Bool :=
  hasSchema libraries .runStart commandMsg

def isStopCommand (libraries : Libraries) (commandMsg : Msg) :
    Except Fault Bool :=
  hasSchema libraries .runStop commandMsg

def isStatusMessage (libraries : Libraries) (commandMsg : Msg) :
    Except Fault Bool :=
  hasSchema libraries .status commandMsg

def isAnswerMessage (libraries : Libraries) (commandMsg : Msg) :
    Except Fault Bool :=
  hasSchema libraries .actionResponse commandMsg

def isWritingDoneMessage (libraries : Libraries) (commandMsg : Msg) :
    Except Fault Bool :=
  hasSchema libraries .finishedWriting commandMsg

/-- Neither a verifier nor the size of the message is asked. -/
def isFileWriterHeartbeatMessage (commandMsg : Msg) : Except Fault Bool :=
  (schemaId commandMsg.data).map fun id => id = "x5f2"

/-- The second code runs only if the first says no. -/
def orElse (first second : Except Fault Bool) : Except Fault Bool :=
  first.bind fun yes => if yes then .ok true else second

/-! ## The extraction of the commands -/

/-- The table of a command lies inside of a message that was accepted. -/
def rootOf {Table : Type}
    (verifier : Verifier) (getRoot : List UInt8 → Table)
    (commandMsg : Msg) : Except Fault Table :=
  if verifier.accepts commandMsg.data then
    .ok (getRoot commandMsg.data)
  else
    .error .outsideMessage

/-- `Parser::extractStartMessage`, with the pointers that it follows. -/
def extractStartMessage
    (runStart : RunStart) (defaultStartTime : TimePoint) :
    Checked Fault String StartMessage :=
  let errors := Parser.requiredFieldErrors runStart
  if !errors.isEmpty then
    throw ("Errors encountered parsing run start message:\n" ++ errors)
  else do
    let nexusStructure ← deref .absentField runStart.nexusStructure
    let jobID ← deref .absentField runStart.jobId
    let filename ← deref .absentField runStart.filename
    pure
      { startTime :=
          if 0 < runStart.startTime then
            Parser.timeOfMilliseconds runStart.startTime
          else defaultStartTime
        stopTime :=
          if runStart.stopTime ≠ 0 then
            Parser.timeOfMilliseconds runStart.stopTime
          else TimePoint.max
        nexusStructure
        jobID
        serviceID := runStart.serviceId.getD ""
        filename
        metadata := runStart.metadata.getD ""
        controlTopic := runStart.controlTopic.getD "" }

/-- `Parser::extractStopMessage`, with the pointers that it follows. -/
def extractStopMessage (runStop : RunStop) :
    Checked Fault String StopMessage :=
  if Parser.isMissing runStop.jobId then
    throw
      ("Errors encountered parsing run stop message:\n" ++
        "Job ID missing, this field is required")
  else do
    let jobID ← deref .absentField runStop.jobId
    let commandID ← deref .absentField runStop.commandId
    pure
      { jobID
        stopTime := Parser.timeOfMilliseconds runStop.stopTime
        commandID
        serviceID := runStop.serviceId.getD "" }

/-- The last line of `isValidUUID`. -/
def Uuid.isValid (id : Uuid) : Bool :=
  !id.isNil && id.version ≠ .none && id.variant = .rfc

/-- The optional is used without a look whether it holds a UUID. -/
def isValidUUID (libraries : Libraries) (uuidStr : String) :
    Except Fault Bool :=
  match libraries.fromString uuidStr with
  | none => .error .emptyOptional
  | some id => .ok id.isValid

/-! ## The steps of a command -/

/-- A step whose closure may do something without a meaning. -/
structure CheckedStep (Scope : Type*) where
  run : Scope → Except Fault (StepOutcome × Scope)
  response : CmdResponse Scope

/-- A step whose closure always has a meaning. -/
def meant {Scope : Type*} (step : CommandStep Scope) : CheckedStep Scope where
  run scope := .ok (step.run scope)
  response := step.response

/-- The loop over the steps. -/
def runChecked {Scope : Type*} :
    List (CheckedStep Scope) → Scope → Except Fault (LoopResult Scope)
  | [], scope => .ok (.passed scope)
  | step :: rest, scope =>
      match step.run scope with
      | .error fault => .error fault
      | .ok (.succeeded, next) => runChecked rest next
      | .ok (.failed, next) => .ok (.rejected next step.response)
      | .ok (.left, next) => .ok (.left next)

section Loop

variable {Scope : Type*} {checked : CheckedStep Scope}
  {step : CommandStep Scope} {rest : List (CheckedStep Scope)} {scope : Scope}

theorem hasMeaning_runChecked_cons_iff :
    HasMeaning (runChecked (checked :: rest) scope) ↔
      ∃ outcome, checked.run scope = .ok outcome ∧
        (outcome.1 = .succeeded → HasMeaning (runChecked rest outcome.2)) := by
  rw [runChecked]
  rcases ran : checked.run scope with fault | ⟨_ | _ | _, next⟩
  · apply iff_of_false not_hasMeaning_error
    rintro ⟨outcome, contrary, _⟩
    cases contrary
  · constructor
    · intro later
      exact ⟨_, rfl, fun _ => later⟩
    · rintro ⟨outcome, same, later⟩
      cases same
      exact later rfl
  · exact iff_of_true hasMeaning_ok ⟨_, rfl, fun contrary => by cases contrary⟩
  · exact iff_of_true hasMeaning_ok ⟨_, rfl, fun contrary => by cases contrary⟩

theorem hasMeaning_runChecked_of_succeeded
    {next : Scope} (ran : checked.run scope = .ok (.succeeded, next)) :
    HasMeaning (runChecked (checked :: rest) scope) ↔
      HasMeaning (runChecked rest next) := by
  rw [runChecked, ran]

theorem hasMeaning_runChecked_of_failed
    {next : Scope} (ran : checked.run scope = .ok (.failed, next)) :
    HasMeaning (runChecked (checked :: rest) scope) := by
  rw [runChecked, ran]
  exact hasMeaning_ok

theorem hasMeaning_runChecked_meant_iff :
    HasMeaning (runChecked (meant step :: rest) scope) ↔
      ((step.run scope).1 = .succeeded →
        HasMeaning (runChecked rest (step.run scope).2)) := by
  rw [hasMeaning_runChecked_cons_iff]
  constructor
  · rintro ⟨outcome, same, later⟩
    cases same
    exact later
  · intro later
    exact ⟨_, rfl, later⟩

theorem hasMeaning_runChecked_check_iff
    {condition : Scope → Bool} {response : CmdResponse Scope} :
    HasMeaning
        (runChecked (meant (.check condition response) :: rest) scope) ↔
      (condition scope = true → HasMeaning (runChecked rest scope)) := by
  rw [hasMeaning_runChecked_meant_iff, CommandStep.check]
  dsimp only
  split
  · rename_i holds
    constructor
    · intro later _
      exact later rfl
    · intro later _
      exact later holds
  · rename_i fails
    apply iff_of_true
    · intro contrary
      cases contrary
    · intro holds
      exact (fails holds).elim

/-- Steps that always have a meaning never take it from the loop. -/
theorem hasMeaning_runChecked_map_meant (steps : List (CommandStep Scope)) :
    HasMeaning (runChecked (steps.map meant) scope) := by
  induction steps generalizing scope with
  | nil => exact hasMeaning_ok
  | cons step rest induction =>
      rw [List.map_cons, hasMeaning_runChecked_meant_iff]
      intro _
      exact induction

/-- A step does what another one does wherever it has a meaning. -/
structure Refines
    (checked : CheckedStep Scope) (step : CommandStep Scope) : Prop where
  run :
    ∀ {scope outcome}, checked.run scope = .ok outcome →
      outcome = step.run scope
  response : checked.response = step.response

theorem refines_meant : Refines (meant step) step := by
  constructor
  · intro scope outcome same
    exact (Except.ok.inj same).symm
  · rfl

/-- The loop over steps that refine others does what the others do. -/
theorem runChecked_eq
    {checkedSteps : List (CheckedStep Scope)}
    {steps : List (CommandStep Scope)} {result : LoopResult Scope}
    (refines : List.Forall₂ Refines checkedSteps steps)
    (ran : runChecked checkedSteps scope = .ok result) :
    result = runSteps steps scope := by
  induction refines generalizing scope with
  | nil => exact (Except.ok.inj ran).symm
  | @cons checked step checkedRest rest head _ induction =>
      rw [runChecked] at ran
      rw [runSteps]
      rcases first : checked.run scope with fault | ⟨outcome, next⟩
      · rw [first] at ran
        cases ran
      · rw [← head.run first, ← head.response]
        rw [first] at ran
        cases outcome with
        | succeeded => exact induction ran
        | failed => exact (Except.ok.inj ran).symm
        | left => exact (Except.ok.inj ran).symm

end Loop

/-- What the handler takes from outside, where every string is checked. -/
def Libraries.context (libraries : Libraries) : CommandContext where
  getRunStart := libraries.getRunStart
  getRunStop := libraries.getRunStop
  isValidUUID text := (libraries.fromString text).any Uuid.isValid
  toUTCDateTime := libraries.toUTCDateTime

/-- A step that looks at an id. -/
def checkId
    {Scope : Type*} (libraries : Libraries) (id : Scope → String)
    (response : CmdResponse Scope) : CheckedStep Scope where
  run scope :=
    (isValidUUID libraries (id scope)).map fun valid =>
      if valid then (.succeeded, scope) else (.failed, scope)
  response

section Steps

variable {World : Type*} (libraries : Libraries)
  (callbacks : Callbacks World)

/-- Extract the start command. -/
def extractStartStep (input : StartInput) : CheckedStep (StartScope World) where
  run scope :=
    (rootOf (libraries.verifier .runStart) libraries.getRunStart
      input.commandMsg).bind fun runStart =>
        (extractStartMessage runStart input.defaultStartTime).run.map fun
          | .ok startJob => (.succeeded, { scope with startJob })
          | .error what => (.failed, { scope with exceptionMessage := what })
  response := (extractStep libraries.context input).response

/-- Look at the job id. -/
def jobIdStep : CheckedStep (StartScope World) :=
  checkId libraries (fun scope => scope.startJob.jobID)
    (Handler.jobIdStep libraries.context).response

def startSteps (input : StartInput) : List (CheckedStep (StartScope World)) :=
  [extractStartStep libraries input, meant (serviceIdStep input),
    meant (notWritingStep callbacks), jobIdStep libraries,
    meant (controlTopicStep input), meant (doStartStep callbacks)]

/-- Extract the stop command. -/
def extractStopStep (commandMsg : Msg) : CheckedStep (StopScope World) where
  run scope :=
    (rootOf (libraries.verifier .runStop) libraries.getRunStop
      commandMsg).bind fun runStop =>
        (extractStopMessage runStop).run.map fun
          | .ok stopCmd => (.succeeded, { scope with stopCmd })
          | .error what => (.failed, { scope with responseMessage := what })
  response := (Handler.extractStopStep libraries.context commandMsg).response

/-- Look at the id of the command. -/
def commandIdStep : CheckedStep (StopScope World) :=
  checkId libraries (fun scope => scope.stopCmd.commandID)
    (Handler.commandIdStep libraries.context).response

def stopSteps (handler : Handler) (commandMsg : Msg) (built : StopMessage) :
    List (CheckedStep (StopScope World)) :=
  [extractStopStep libraries commandMsg, meant (stopServiceIdStep handler),
    meant (isWritingStep callbacks handler built),
    meant (sameJobStep callbacks handler built), commandIdStep libraries,
    meant (doStopStep libraries.context callbacks)]

/-! ## The handling of a message -/

variable (handler : Handler) (world : World)

/-- The part of `handleStartCommand` after the loop. -/
def finishStart (input : StartInput) :
    LoopResult (StartScope World) → CommandResult World
  | .passed scope =>
      answerStart scope .success (startedResponse libraries.context)
  | .rejected scope response =>
      match scope.handler.revertCommandTopic input.outcomes with
      | (reverted, false) =>
          answerStart { scope with handler := reverted } .failure response
      | (reverted, true) => ⟨reverted, scope.world, scope.events⟩
  | .left scope => ⟨scope.handler, scope.world, scope.events⟩

def handleStartCommand (input : StartInput) :
    Except Fault (CommandResult World) :=
  (runChecked (startSteps libraries callbacks input) { handler, world }).map
    (finishStart libraries input)

/-- The part of `handleStopCommand` after the loop. -/
def finishStop : LoopResult (StopScope World) → CommandResult World
  | .passed scope => answerStop handler scope .success stoppedResponse
  | .rejected scope response => answerStop handler scope .failure response
  | .left scope => ⟨handler, scope.world, scope.events⟩

def handleStopCommand (commandMsg : Msg) :
    Except Fault (CommandResult World) :=
  let scope : StopScope World := { world }
  (runChecked
      (stopSteps libraries callbacks handler commandMsg scope.stopCmd)
      scope).map (finishStop handler)

/-- What a message that is ignored leaves. -/
def ignoring : CommandResult World :=
  ⟨handler, world, []⟩

/-- The messages of other programs, which are known and ignored. -/
def isOtherMessage (commandMsg : Msg) : Except Fault Bool :=
  orElse (isStatusMessage libraries commandMsg)
    (orElse (isAnswerMessage libraries commandMsg)
      (orElse (isWritingDoneMessage libraries commandMsg)
        (isFileWriterHeartbeatMessage commandMsg)))

/--
The handling of a message, which the job pool or the topic has brought.  The
schema id of an unknown one is only logged.
-/
def handleCommand (input : StartInput) :
    Except Fault (CommandResult World) :=
  let commandMsg := input.commandMsg
  (isStartCommand libraries commandMsg).bind fun isStart =>
    if isStart then
      handleStartCommand libraries callbacks handler world input
    else
      (isStopCommand libraries commandMsg).bind fun isStop =>
        if isStop then
          handleStopCommand libraries callbacks handler world commandMsg
        else
          (isOtherMessage libraries commandMsg).bind fun isOther =>
            if isOther then
              .ok (ignoring handler world)
            else if commandMsg.data.length < 8 then
              .ok (ignoring handler world)
            else
              (schemaId commandMsg.data).map fun _ => ignoring handler world

end Steps

end KafkaToNexus.Command.Dispatch
