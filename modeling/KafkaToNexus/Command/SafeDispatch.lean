import KafkaToNexus.Command.Dispatch
import KafkaToNexus.Command.StopAnswers

/-!
# Messages that are dispatched safely

Every program on the topic decides which bytes arrive here.  A step of a command
refines the step of the command handler in which every string that is not a
UUID is invalid, so a message that is handled at all is handled as intended.
What remains is where the handling has a meaning: not for a message of less than
eight bytes, since one of the predicates reads the schema id without asking for
the size, not for a stop command without a command id, and not where an id that
is no UUID reaches the check of the ids.
-/

namespace KafkaToNexus.Command.Dispatch

open FlatbufferMessage (stringOfBytes)
open Handler
open StopAnswers (stopCallsOf)

/-! ## The kind of a message -/

/-- What a message is to this program. -/
inductive Kind where
  | start
  | stop
  | ignored
deriving DecidableEq, Repr

/-- What the two predicates of the commands say about a message of a kind. -/
def ClassifiedAs
    (libraries : Libraries) (commandMsg : Msg) : Kind → Prop
  | .start => isStartCommand libraries commandMsg = .ok true
  | .stop => isStopCommand libraries commandMsg = .ok true
  | .ignored =>
      isStartCommand libraries commandMsg = .ok false ∧
        isStopCommand libraries commandMsg = .ok false

section Kinds

variable {libraries : Libraries} {commandMsg : Msg}

/-- Behind an accepting verifier the identifier is inside of the message. -/
theorem hasSchema_eq (schema : Schema) :
    hasSchema libraries schema commandMsg =
      .ok
        ((libraries.verifier schema).accepts commandMsg.data &&
          decide
            (stringOfBytes ((commandMsg.data.drop 4).take 4) =
              schema.identifier)) := by
  rw [hasSchema]
  split
  · rename_i accepted
    rw [schemaId, if_pos ((libraries.verifier schema).long accepted),
      accepted]
    rfl
  · rename_i rejected
    rw [Bool.eq_false_iff.mpr rejected]
    rfl

theorem hasSchema_cases
    (libraries : Libraries) (commandMsg : Msg) (schema : Schema) :
    hasSchema libraries schema commandMsg = .ok true ∨
      hasSchema libraries schema commandMsg = .ok false := by
  rw [hasSchema_eq]
  rcases Bool.eq_false_or_eq_true
    ((libraries.verifier schema).accepts commandMsg.data &&
      decide (stringOfBytes ((commandMsg.data.drop 4).take 4) =
        schema.identifier)) with yes | no
  · exact .inl (congrArg Except.ok yes)
  · exact .inr (congrArg Except.ok no)

/-- A message with a schema was accepted by its verifier. -/
theorem accepted_of_hasSchema {schema : Schema}
    (has : hasSchema libraries schema commandMsg = .ok true) :
    (libraries.verifier schema).accepts commandMsg.data = true := by
  rw [hasSchema_eq] at has
  exact Bool.and_elim_left (Except.ok.inj has)

/-- No message has two schemas with different identifiers. -/
theorem identifier_eq_of_hasSchema {first second : Schema}
    (has : hasSchema libraries first commandMsg = .ok true)
    (again : hasSchema libraries second commandMsg = .ok true) :
    first.identifier = second.identifier := by
  rw [hasSchema_eq] at has again
  have firstId := of_decide_eq_true (Bool.and_elim_right (Except.ok.inj has))
  have secondId :=
    of_decide_eq_true (Bool.and_elim_right (Except.ok.inj again))
  exact firstId.symm.trans secondId

theorem not_stop_of_start
    (start : isStartCommand libraries commandMsg = .ok true) :
    isStopCommand libraries commandMsg = .ok false := by
  rcases hasSchema_cases libraries commandMsg .runStop with stop | notStop
  · have same := identifier_eq_of_hasSchema start stop
    exact absurd same (by decide)
  · exact notStop

/-- Every message is of exactly one kind. -/
theorem exists_unique_kind (libraries : Libraries) (commandMsg : Msg) :
    ∃! kind, ClassifiedAs libraries commandMsg kind := by
  rcases hasSchema_cases libraries commandMsg .runStart with
    start | notStart
  · refine ⟨.start, start, ?_⟩
    have notStop := not_stop_of_start start
    intro kind classified
    cases kind with
    | start => rfl
    | stop => cases notStop.symm.trans classified
    | ignored => cases start.symm.trans classified.1
  · rcases hasSchema_cases libraries commandMsg .runStop with
      stop | notStop
    · refine ⟨.stop, stop, ?_⟩
      intro kind classified
      cases kind with
      | start => cases notStart.symm.trans classified
      | stop => rfl
      | ignored => cases stop.symm.trans classified.2
    · refine ⟨.ignored, ⟨notStart, notStop⟩, ?_⟩
      intro kind classified
      cases kind with
      | start => cases notStart.symm.trans classified
      | stop => cases notStop.symm.trans classified
      | ignored => rfl

end Kinds

/-! ## The extraction of the commands -/

section Extraction

variable {runStart : RunStart} {runStop : RunStop}

theorem eq_some_of_present {field : Option String}
    (present : Parser.isMissing field = false) :
    field = some (field.getD "") := by
  cases field with
  | none => cases present
  | some text => rfl

/-- The fields that are used without looking were all looked at before. -/
theorem present_of_no_errors
    (none_ : (Parser.requiredFieldErrors runStart).isEmpty = true) :
    Parser.isMissing runStart.nexusStructure = false ∧
      Parser.isMissing runStart.jobId = false ∧
        Parser.isMissing runStart.filename = false := by
  simp only [Parser.requiredFieldErrors, String.isEmpty_iff,
    String.append_eq_empty_iff] at none_
  rcases none_ with ⟨⟨jobId, nexusStructure⟩, filename⟩
  refine ⟨?_, ?_, ?_⟩
  · by_contra missing
    rw [if_pos (eq_true_of_ne_false missing)] at nexusStructure
    exact absurd nexusStructure (by decide)
  · by_contra missing
    rw [if_pos (eq_true_of_ne_false missing)] at jobId
    exact absurd jobId (by decide)
  · by_contra missing
    rw [if_pos (eq_true_of_ne_false missing)] at filename
    exact absurd filename (by decide)

/-- The extraction of a start command always has a meaning. -/
theorem run_extractStartMessage
    (runStart : RunStart) (defaultStartTime : TimePoint) :
    (extractStartMessage runStart defaultStartTime).run =
      .ok (Parser.extractStartMessage runStart defaultStartTime) := by
  rw [extractStartMessage, Parser.extractStartMessage]
  split
  · rfl
  · rename_i none_
    have empty : (Parser.requiredFieldErrors runStart).isEmpty = true :=
      Bool.of_not_eq_false fun contrary => none_ (by rw [contrary]; rfl)
    rcases present_of_no_errors empty with ⟨nexusStructure, jobId, filename⟩
    rw [eq_some_of_present nexusStructure, eq_some_of_present jobId,
      eq_some_of_present filename]
    rfl

/-- A stop command has to have an id where it has a job id. -/
theorem hasMeaning_extractStopMessage_iff :
    HasMeaning (extractStopMessage runStop).run ↔
      (Parser.isMissing runStop.jobId = false →
        runStop.commandId.isSome = true) := by
  rw [extractStopMessage]
  split
  · rename_i missing
    apply iff_of_true
    · exact hasMeaning_ok
    · intro present
      exact absurd (present.symm.trans missing) (by decide)
  · rename_i present
    have jobId := Bool.eq_false_iff.mpr present
    cases runStop.commandId with
    | none =>
        apply iff_of_false
        · rw [eq_some_of_present jobId]
          exact not_hasMeaning_error
        · intro contrary
          cases contrary jobId
    | some commandID =>
        apply iff_of_true
        · rw [eq_some_of_present jobId]
          exact hasMeaning_ok
        · intro _
          rfl

theorem extractStopMessage_eq
    {outcome : Except String StopMessage}
    (ran : (extractStopMessage runStop).run = .ok outcome) :
    Parser.extractStopMessage runStop =
      outcome.mapError Parser.StopExtractError.runtimeError := by
  rw [extractStopMessage] at ran
  rw [Parser.extractStopMessage]
  split at ran
  · rename_i missing
    rw [if_pos missing]
    cases ran
    rfl
  · rename_i present
    rw [if_neg present]
    rw [eq_some_of_present (Bool.eq_false_iff.mpr present)] at ran
    cases commandId : runStop.commandId with
    | none =>
        rw [commandId] at ran
        cases ran
    | some commandID =>
        rw [commandId] at ran
        cases ran
        rfl

end Extraction

/-! ## The steps refine those of the command handler -/

section Steps

variable {World : Type*} {libraries : Libraries}
  {callbacks : Callbacks World} {handler : Handler} {world : World}
  {input : StartInput} {commandMsg : Msg}

/-- Where the look at an id has a meaning, it is the intended one. -/
theorem isValidUUID_eq {text : String} {valid : Bool}
    (ran : isValidUUID libraries text = .ok valid) :
    valid = libraries.context.isValidUUID text := by
  dsimp only [Libraries.context]
  rw [isValidUUID] at ran
  cases found : libraries.fromString text with
  | none =>
      rw [found] at ran
      cases ran
  | some id =>
      rw [found] at ran
      exact (Except.ok.inj ran).symm

theorem hasMeaning_isValidUUID_iff {text : String} :
    HasMeaning (isValidUUID libraries text) ↔
      (libraries.fromString text).isSome = true := by
  rw [isValidUUID]
  cases libraries.fromString text with
  | none => exact iff_of_false not_hasMeaning_error Bool.false_ne_true
  | some id => exact iff_of_true hasMeaning_ok rfl

/-- The look at an id refines a check that says no to what is no UUID. -/
theorem refines_checkId
    {Scope : Type*} {id : Scope → String} {response : CmdResponse Scope} :
    Refines (checkId libraries id response)
      (.check (fun scope => libraries.context.isValidUUID (id scope))
        response) := by
  constructor
  · intro scope outcome ran
    rcases map_eq_ok_iff.mp ran with ⟨valid, looked, same⟩
    rw [← same, isValidUUID_eq looked]
    rfl
  · rfl

/-- The id has to be a UUID where the loop comes to it. -/
theorem hasMeaning_runChecked_checkId_iff
    {Scope : Type*} {id : Scope → String} {response : CmdResponse Scope}
    {scope : Scope} (later : List (CommandStep Scope)) :
    HasMeaning
        (runChecked (checkId libraries id response :: later.map meant)
          scope) ↔
      (libraries.fromString (id scope)).isSome = true := by
  rw [← hasMeaning_isValidUUID_iff, hasMeaning_runChecked_cons_iff]
  constructor
  · rintro ⟨outcome, looked, _⟩
    exact hasMeaning_map_iff.mp ⟨outcome, looked⟩
  · intro looked
    rcases hasMeaning_map_iff.mpr looked with ⟨outcome, looked⟩
    refine ⟨outcome, looked, ?_⟩
    intro _
    exact hasMeaning_runChecked_map_meant later

theorem rootOf_eq_ok_iff {Table : Type}
    {verifier : Verifier} {getRoot : List UInt8 → Table} {table : Table} :
    rootOf verifier getRoot commandMsg = .ok table ↔
      verifier.accepts commandMsg.data = true ∧
        getRoot commandMsg.data = table := by
  rw [rootOf]
  split
  · rename_i accepted
    constructor
    · intro same
      exact ⟨accepted, Except.ok.inj same⟩
    · rintro ⟨_, rfl⟩
      rfl
  · rename_i rejected
    apply iff_of_false
    · intro contrary
      cases contrary
    · rintro ⟨accepted, _⟩
      exact rejected accepted

/-- The start command that a message carries, if it can be extracted. -/
def startOf (libraries : Libraries) (input : StartInput) :
    Except String StartMessage :=
  Parser.extractStartMessage (libraries.getRunStart input.commandMsg.data)
    input.defaultStartTime

/-- The stop command that a message carries, if it can be extracted. -/
def stopOf (libraries : Libraries) (commandMsg : Msg) :
    Except Parser.StopExtractError StopMessage :=
  StopAnswers.parsed libraries.context commandMsg

/-! ### The extraction of a start command -/

theorem run_extractStep_of_ok
    {startJob : StartMessage} {scope : StartScope World}
    (found : startOf libraries input = .ok startJob) :
    (extractStep libraries.context input).run scope =
      (.succeeded, { scope with startJob }) := by
  rw [startOf] at found
  simp only [extractStep, Libraries.context, found]

theorem run_extractStep_of_error
    {what : String} {scope : StartScope World}
    (failed : startOf libraries input = .error what) :
    (extractStep libraries.context input).run scope =
      (.failed, { scope with exceptionMessage := what }) := by
  rw [startOf] at failed
  simp only [extractStep, Libraries.context, failed]

/-- What is extracted from a message that was accepted. -/
theorem run_extractStartStep
    {scope : StartScope World}
    (accepted :
      (libraries.verifier .runStart).accepts input.commandMsg.data = true) :
    (extractStartStep libraries input).run scope =
      .ok ((extractStep libraries.context input).run scope) := by
  have root :
      rootOf (libraries.verifier .runStart) libraries.getRunStart
          input.commandMsg =
        .ok (libraries.getRunStart input.commandMsg.data) :=
    rootOf_eq_ok_iff.mpr ⟨accepted, rfl⟩
  have extracted :=
    run_extractStartMessage (libraries.getRunStart input.commandMsg.data)
      input.defaultStartTime
  rw [← startOf] at extracted
  unfold extractStartStep
  cases found : startOf libraries input with
  | error what =>
      rw [found] at extracted
      rw [run_extractStep_of_error found]
      simp only [root, Except.bind, extracted, Except.map]
  | ok startJob =>
      rw [found] at extracted
      rw [run_extractStep_of_ok found]
      simp only [root, Except.bind, extracted, Except.map]

theorem refines_extractStartStep :
    Refines (extractStartStep libraries input : CheckedStep (StartScope World))
      (extractStep libraries.context input) := by
  constructor
  · intro scope outcome ran
    rcases bind_eq_ok_iff.mp ran with ⟨_, root, _⟩
    rw [run_extractStartStep (rootOf_eq_ok_iff.mp root).1] at ran
    exact (Except.ok.inj ran).symm
  · rfl

/-! ### The extraction of a stop command -/

/-- Where the extraction has a meaning, it is the intended one. -/
theorem run_extractStopStep
    {scope : StopScope World} {outcome : Except String StopMessage}
    (accepted :
      (libraries.verifier .runStop).accepts commandMsg.data = true)
    (extracted :
      (extractStopMessage (libraries.getRunStop commandMsg.data)).run =
        .ok outcome) :
    (extractStopStep libraries commandMsg).run scope =
      .ok ((Handler.extractStopStep libraries.context commandMsg).run
        scope) := by
  have root :
      rootOf (libraries.verifier .runStop) libraries.getRunStop commandMsg =
        .ok (libraries.getRunStop commandMsg.data) :=
    rootOf_eq_ok_iff.mpr ⟨accepted, rfl⟩
  have found := extractStopMessage_eq extracted
  unfold extractStopStep Handler.extractStopStep
  cases outcome with
  | error what =>
      simp only [root, Except.bind, extracted, Except.map, Libraries.context,
        found, Except.mapError]
  | ok stopCmd =>
      simp only [root, Except.bind, extracted, Except.map, Libraries.context,
        found, Except.mapError]

theorem refines_extractStopStep :
    Refines
      (extractStopStep libraries commandMsg : CheckedStep (StopScope World))
      (Handler.extractStopStep libraries.context commandMsg) := by
  constructor
  · intro scope outcome ran
    rcases bind_eq_ok_iff.mp ran with ⟨runStop, root, extracted⟩
    rcases rootOf_eq_ok_iff.mp root with ⟨accepted, rfl⟩
    rcases map_eq_ok_iff.mp extracted with ⟨result, found, _⟩
    rw [run_extractStopStep accepted found] at ran
    exact (Except.ok.inj ran).symm
  · rfl

/-! ### The lists of steps -/

theorem refines_startSteps :
    List.Forall₂ Refines (startSteps libraries callbacks input)
      (Handler.startSteps libraries.context callbacks input) :=
  .cons refines_extractStartStep (.cons refines_meant (.cons refines_meant
    (.cons refines_checkId (.cons refines_meant
      (.cons refines_meant .nil)))))

theorem refines_stopSteps {built : StopMessage} :
    List.Forall₂ Refines
      (stopSteps libraries callbacks handler commandMsg built)
      (Handler.stopSteps libraries.context callbacks handler commandMsg
        built) :=
  .cons refines_extractStopStep (.cons refines_meant (.cons refines_meant
    (.cons refines_meant (.cons refines_checkId
      (.cons refines_meant .nil)))))

/-- A start command that is handled at all is handled as intended. -/
theorem handleStartCommand_eq {result : CommandResult World}
    (ran :
      handleStartCommand libraries callbacks handler world input =
        .ok result) :
    result =
      Handler.handleStartCommand libraries.context callbacks handler world
        input := by
  rcases map_eq_ok_iff.mp ran with ⟨loop, looped, rfl⟩
  unfold Handler.handleStartCommand
  rw [← runChecked_eq refines_startSteps looped]
  cases loop with
  | passed scope => rfl
  | rejected scope response =>
      unfold finishStart
      rcases scope.handler.revertCommandTopic input.outcomes with
        ⟨reverted, _ | _⟩
      · rfl
      · rfl
  | left scope => rfl

/-- A stop command that is handled at all is handled as intended. -/
theorem handleStopCommand_eq {result : CommandResult World}
    (ran :
      handleStopCommand libraries callbacks handler world commandMsg =
        .ok result) :
    result =
      Handler.handleStopCommand libraries.context callbacks handler world
        commandMsg := by
  rcases map_eq_ok_iff.mp ran with ⟨loop, looped, rfl⟩
  unfold Handler.handleStopCommand
  dsimp only at looped ⊢
  rw [← runChecked_eq refines_stopSteps looped]
  cases loop with
  | passed scope => rfl
  | rejected scope response => rfl
  | left scope => rfl

/-! ## Where the commands have a meaning -/

/-- The job id is looked at only if the steps before it have succeeded. -/
theorem hasMeaning_handleStartCommand_iff
    (accepted :
      (libraries.verifier .runStart).accepts input.commandMsg.data = true) :
    HasMeaning
        (handleStartCommand libraries callbacks handler world input) ↔
      ∀ startJob, startOf libraries input = .ok startJob →
        isForService handler input.isJobPoolCommand startJob.serviceID =
            true →
          callbacks.isWritingNow world = false →
            (libraries.fromString startJob.jobID).isSome = true := by
  have ran :
      (extractStartStep libraries input).run { handler, world } =
        .ok ((extractStep libraries.context input).run { handler, world }) :=
    run_extractStartStep accepted
  rw [handleStartCommand, hasMeaning_map_iff, startSteps]
  cases found : startOf libraries input with
  | error what =>
      rw [run_extractStep_of_error found] at ran
      apply iff_of_true (hasMeaning_runChecked_of_failed ran)
      intro startJob contrary
      cases contrary
  | ok startJob =>
      rw [run_extractStep_of_ok found] at ran
      have looked :
          HasMeaning
              (runChecked
                [jobIdStep libraries, meant (controlTopicStep input),
                  meant (doStartStep callbacks)]
                { handler, world, startJob }) ↔
            (libraries.fromString startJob.jobID).isSome = true :=
        hasMeaning_runChecked_checkId_iff
          [controlTopicStep input, doStartStep callbacks]
      rw [hasMeaning_runChecked_of_succeeded ran, serviceIdStep,
        hasMeaning_runChecked_check_iff, notWritingStep,
        hasMeaning_runChecked_check_iff, looked, Bool.not_eq_true']
      constructor
      · intro known other same
        cases same
        exact known
      · intro known
        exact known startJob rfl

/-- The command id is there, and it is looked at in the last check. -/
theorem hasMeaning_handleStopCommand_iff
    (accepted :
      (libraries.verifier .runStop).accepts commandMsg.data = true) :
    HasMeaning
        (handleStopCommand libraries callbacks handler world commandMsg) ↔
      (Parser.isMissing (libraries.getRunStop commandMsg.data).jobId =
            false →
          (libraries.getRunStop commandMsg.data).commandId.isSome = true) ∧
        ∀ stopCmd, stopOf libraries commandMsg = .ok stopCmd →
          isAccepted handler stopCmd = true →
            StopAnswers.Applies callbacks world stopCmd →
              (libraries.fromString stopCmd.commandID).isSome = true := by
  rw [handleStopCommand, hasMeaning_map_iff, stopSteps,
    ← hasMeaning_extractStopMessage_iff]
  rcases extracted :
      (extractStopMessage (libraries.getRunStop commandMsg.data)).run with
    fault | outcome
  · apply iff_of_false
    · intro meaning
      rcases hasMeaning_runChecked_cons_iff.mp meaning with ⟨_, ran, _⟩
      rcases bind_eq_ok_iff.mp ran with ⟨runStop, root, mapped⟩
      rcases rootOf_eq_ok_iff.mp root with ⟨_, rfl⟩
      rcases map_eq_ok_iff.mp mapped with ⟨result, contrary, _⟩
      cases extracted.symm.trans contrary
    · rintro ⟨contrary, _⟩
      exact not_hasMeaning_error contrary
  · have found :
        stopOf libraries commandMsg =
          outcome.mapError Parser.StopExtractError.runtimeError :=
      extractStopMessage_eq extracted
    have ran :
        (extractStopStep libraries commandMsg).run { world } =
          .ok ((Handler.extractStopStep libraries.context commandMsg).run
            { world }) :=
      run_extractStopStep accepted extracted
    rw [found, and_iff_right hasMeaning_ok]
    rw [stopOf, StopAnswers.parsed] at found
    simp only [Handler.extractStopStep, found] at ran
    cases outcome with
    | error what =>
        apply iff_of_true (hasMeaning_runChecked_of_failed ran)
        intro stopCmd contrary
        cases contrary
    | ok stopCmd =>
        have looked :
            HasMeaning
                (runChecked
                  [commandIdStep libraries,
                    meant (doStopStep libraries.context callbacks)]
                  { world, stopCmd }) ↔
              (libraries.fromString stopCmd.commandID).isSome = true :=
          hasMeaning_runChecked_checkId_iff
            [doStopStep libraries.context callbacks]
        rw [hasMeaning_runChecked_of_succeeded ran, stopServiceIdStep,
          hasMeaning_runChecked_check_iff, isWritingStep,
          hasMeaning_runChecked_check_iff, sameJobStep,
          hasMeaning_runChecked_check_iff, looked, beq_iff_eq]
        constructor
        · intro known other same isAccepted applies
          cases same
          exact known isAccepted applies.1 applies.2
        · intro known isAccepted writing sameJob
          exact known stopCmd rfl isAccepted ⟨writing, sameJob⟩

end Steps

/-! ## The branches of the dispatch -/

section Branches

variable {World : Type*} {libraries : Libraries}
  {callbacks : Callbacks World} {handler : Handler} {world : World}
  {input : StartInput} {commandMsg : Msg}

theorem handleCommand_of_start
    (start : ClassifiedAs libraries input.commandMsg .start) :
    handleCommand libraries callbacks handler world input =
      handleStartCommand libraries callbacks handler world input := by
  have asked : isStartCommand libraries input.commandMsg = .ok true := start
  rw [handleCommand, asked]
  rfl

theorem handleCommand_of_stop
    (stop : ClassifiedAs libraries input.commandMsg .stop) :
    handleCommand libraries callbacks handler world input =
      handleStopCommand libraries callbacks handler world
        input.commandMsg := by
  have asked : isStopCommand libraries input.commandMsg = .ok true := stop
  have notStart : isStartCommand libraries input.commandMsg = .ok false := by
    rcases hasSchema_cases libraries input.commandMsg .runStart with
      start | notStart
    · cases (not_stop_of_start start).symm.trans stop
    · exact notStart
  rw [handleCommand, notStart, asked]
  rfl

/-- One code after the other has a meaning if both of them have one. -/
theorem HasMeaning.orElse {first second : Except Fault Bool}
    (one : HasMeaning first) (other : HasMeaning second) :
    HasMeaning (orElse first second) := by
  rcases one with ⟨_ | _, rfl⟩
  · exact other
  · exact hasMeaning_ok

theorem hasMeaning_hasSchema (schema : Schema) :
    HasMeaning (hasSchema libraries schema commandMsg) := by
  rw [hasSchema_eq]
  exact hasMeaning_ok

/-- The schema id is read by one of the predicates in every case. -/
theorem hasMeaning_isOtherMessage
    (libraries : Libraries) (long : 8 ≤ commandMsg.data.length) :
    HasMeaning (isOtherMessage libraries commandMsg) := by
  have heartbeat : HasMeaning (isFileWriterHeartbeatMessage commandMsg) := by
    rw [isFileWriterHeartbeatMessage, hasMeaning_map_iff, schemaId,
      if_pos long]
    exact hasMeaning_ok
  exact (hasMeaning_hasSchema .status).orElse
    ((hasMeaning_hasSchema .actionResponse).orElse
      ((hasMeaning_hasSchema .finishedWriting).orElse heartbeat))

/-- A message that is no command is ignored where its schema id is read. -/
theorem handleCommand_of_ignored
    (ignored : ClassifiedAs libraries input.commandMsg .ignored)
    (long : 8 ≤ input.commandMsg.data.length) :
    handleCommand libraries callbacks handler world input =
      .ok (ignoring handler world) := by
  rcases hasMeaning_isOtherMessage libraries long with
    ⟨isOther, asked⟩
  rw [handleCommand, ignored.1, ignored.2, asked]
  dsimp only [Except.bind]
  rw [if_neg Bool.false_ne_true, if_neg Bool.false_ne_true]
  split
  · rfl
  · rw [if_neg (Nat.not_lt_of_le long), schemaId, if_pos long]
    rfl

/-- Nothing is checked before the schema id of a short message is read. -/
theorem not_hasMeaning_of_short
    (short : input.commandMsg.data.length < 8) :
    ¬ HasMeaning (handleCommand libraries callbacks handler world input) := by
  have no (schema : Schema) :
      hasSchema libraries schema input.commandMsg = .ok false := by
    rw [hasSchema, if_neg]
    intro accepted
    exact Nat.not_le_of_lt short
      ((libraries.verifier schema).long accepted)
  have other :
      isOtherMessage libraries input.commandMsg = .error .outsideMessage := by
    rw [isOtherMessage, isStatusMessage, isAnswerMessage,
      isWritingDoneMessage, no, no, no, isFileWriterHeartbeatMessage,
      schemaId, if_neg (Nat.not_le_of_lt short)]
    rfl
  rw [handleCommand, isStartCommand, isStopCommand, no, no, other]
  exact not_hasMeaning_error

end Branches

/-! ## Commands with an invalid id -/

section InvalidIds

variable {World : Type*} {context : CommandContext}
  {callbacks : Callbacks World} {handler : Handler} {world : World}
  {input : StartInput} {commandMsg : Msg}

/-- A start command with an invalid job id is rejected with nothing done. -/
theorem startSteps_of_invalid
    (callbacks : Callbacks World) (handler : Handler) (world : World)
    {startJob : StartMessage}
    (found :
      Parser.extractStartMessage (context.getRunStart input.commandMsg.data)
        input.defaultStartTime = .ok startJob)
    (invalid : context.isValidUUID startJob.jobID = false) :
    ∃ response,
      runSteps (Handler.startSteps context callbacks input)
          { handler, world } =
        .rejected { handler, world, startJob } response := by
  have ran :
      (extractStep context input).run { handler, world } =
        (.succeeded, { handler, world, startJob }) := by
    simp only [extractStep, found]
  have first :
      runSteps (Handler.startSteps context callbacks input)
          { handler, world } =
        runSteps
          [serviceIdStep input, notWritingStep callbacks,
            Handler.jobIdStep context, controlTopicStep input,
            doStartStep callbacks] { handler, world, startJob } :=
    runSteps_of_succeeded ran
  cases forService :
      isForService handler input.isJobPoolCommand startJob.serviceID with
  | false => exact ⟨_, first.trans (runSteps_of_not_check forService)⟩
  | true =>
      have second := first.trans (runSteps_of_check forService)
      cases writing : !callbacks.isWritingNow world with
      | false => exact ⟨_, second.trans (runSteps_of_not_check writing)⟩
      | true =>
          have third := second.trans (runSteps_of_check writing)
          exact ⟨_, third.trans (runSteps_of_not_check invalid)⟩

/-- No job is started for an invalid job id. -/
theorem handleStartCommand_of_invalid {startJob : StartMessage}
    (found :
      Parser.extractStartMessage (context.getRunStart input.commandMsg.data)
        input.defaultStartTime = .ok startJob)
    (invalid : context.isValidUUID startJob.jobID = false) :
    let result :=
      Handler.handleStartCommand context callbacks handler world input
    result.world = world ∧
      ∀ startInfo returned,
        HandlerEvent.doStart startInfo returned ∉ result.events := by
  intro result
  rcases startSteps_of_invalid callbacks handler world found invalid with
    ⟨response, loop⟩
  simp only [result, Handler.handleStartCommand, loop]
  rcases handler.revertCommandTopic input.outcomes with ⟨reverted, _ | _⟩
  · refine ⟨rfl, ?_⟩
    intro startInfo returned
    dsimp only [answerStart]
    split <;> simp
  · refine ⟨rfl, ?_⟩
    intro startInfo returned
    exact List.not_mem_nil

/-- The writer is not told to stop for an invalid command id. -/
theorem handleStopCommand_of_invalid {stopCmd : StopMessage}
    (found : StopAnswers.parsed context commandMsg = .ok stopCmd)
    (invalid : context.isValidUUID stopCmd.commandID = false) :
    let result :=
      Handler.handleStopCommand context callbacks handler world commandMsg
    result.world = world ∧ stopCallsOf result.events = [] := by
  intro result
  have rejected :
      ∃ response,
        runSteps (Handler.stopSteps context callbacks handler commandMsg {})
            { world } =
          .rejected { world, stopCmd } response := by
    have first :
        runSteps (Handler.stopSteps context callbacks handler commandMsg {})
            { world } =
          runSteps
            [stopServiceIdStep handler, isWritingStep callbacks handler {},
              sameJobStep callbacks handler {}, Handler.commandIdStep context,
              doStopStep context callbacks] { world, stopCmd } :=
      StopAnswers.runSteps_of_parsed found _
    cases accepted : isAccepted handler stopCmd with
    | false => exact ⟨_, first.trans (runSteps_of_not_check accepted)⟩
    | true =>
        have second := first.trans (runSteps_of_check accepted)
        cases writing : callbacks.isWritingNow world with
        | false => exact ⟨_, second.trans (runSteps_of_not_check writing)⟩
        | true =>
            have third := second.trans (runSteps_of_check writing)
            cases sameJob : callbacks.getJobId world == stopCmd.jobID with
            | false => exact ⟨_, third.trans (runSteps_of_not_check sameJob)⟩
            | true =>
                have fourth := third.trans (runSteps_of_check sameJob)
                exact ⟨_, fourth.trans (runSteps_of_not_check invalid)⟩
  rcases rejected with ⟨response, loop⟩
  simp only [result, Handler.handleStopCommand, loop]
  refine ⟨rfl, ?_⟩
  dsimp only [answerStop]
  split <;> rfl

end InvalidIds

/-! ## Safe messages -/

section Safety

variable {World : Type*} (libraries : Libraries)
  (callbacks : Callbacks World) (handler : Handler) (world : World)
  (input : StartInput)

/-- A message is dispatched as it is to be. -/
structure SafelyDispatched : Prop where
  /--
  No byte outside of the message is read, and neither an absent field nor an
  empty optional is used.
  -/
  hasMeaning :
    HasMeaning (handleCommand libraries callbacks handler world input)
  oneKind : ∃! kind, ClassifiedAs libraries input.commandMsg kind
  /-- Nothing is answered and nothing changes. -/
  ignored :
    ClassifiedAs libraries input.commandMsg .ignored →
      handleCommand libraries callbacks handler world input =
        .ok ⟨handler, world, []⟩
  start :
    ClassifiedAs libraries input.commandMsg .start →
      handleCommand libraries callbacks handler world input =
        .ok
          (Handler.handleStartCommand libraries.context callbacks handler
            world input)
  stop :
    ClassifiedAs libraries input.commandMsg .stop →
      handleCommand libraries callbacks handler world input =
        .ok
          (Handler.handleStopCommand libraries.context callbacks handler
            world input.commandMsg)
  /-- A job id that is no UUID is invalid. -/
  jobId :
    ClassifiedAs libraries input.commandMsg .start →
      ∀ startJob, startOf libraries input = .ok startJob →
        libraries.fromString startJob.jobID = none →
          ∃ result,
            handleCommand libraries callbacks handler world input =
                .ok result ∧
              result.world = world ∧
              ∀ startInfo returned,
                HandlerEvent.doStart startInfo returned ∉ result.events
  /-- A command id that is no UUID is invalid. -/
  commandId :
    ClassifiedAs libraries input.commandMsg .stop →
      ∀ stopCmd, stopOf libraries input.commandMsg = .ok stopCmd →
        libraries.fromString stopCmd.commandID = none →
          ∃ result,
            handleCommand libraries callbacks handler world input =
                .ok result ∧
              result.world = world ∧ stopCallsOf result.events = []

/-- The message avoids what is used without looking. -/
structure Harmless : Prop where
  /-- There is room for a schema id. -/
  long : 8 ≤ input.commandMsg.data.length
  /-- The job id is a UUID where it is looked at. -/
  jobId :
    ClassifiedAs libraries input.commandMsg .start →
      ∀ startJob, startOf libraries input = .ok startJob →
        isForService handler input.isJobPoolCommand startJob.serviceID =
            true →
          callbacks.isWritingNow world = false →
            (libraries.fromString startJob.jobID).isSome = true
  /-- A stop command with a job id has a command id. -/
  hasCommandId :
    ClassifiedAs libraries input.commandMsg .stop →
      Parser.isMissing
          (libraries.getRunStop input.commandMsg.data).jobId = false →
        (libraries.getRunStop
          input.commandMsg.data).commandId.isSome = true
  /-- The command id is a UUID where it is looked at. -/
  commandId :
    ClassifiedAs libraries input.commandMsg .stop →
      ∀ stopCmd, stopOf libraries input.commandMsg = .ok stopCmd →
        isAccepted handler stopCmd = true →
          StopAnswers.Applies callbacks world stopCmd →
            (libraries.fromString stopCmd.commandID).isSome = true

/-- A harmless message is handled without a fault, and only such a message. -/
theorem hasMeaning_handleCommand_iff :
    HasMeaning (handleCommand libraries callbacks handler world input) ↔
      Harmless libraries callbacks handler world input := by
  by_cases long : 8 ≤ input.commandMsg.data.length
  · rcases (exists_unique_kind libraries input.commandMsg) with
      ⟨kind, classified, only⟩
    cases kind with
    | start =>
        rw [handleCommand_of_start classified,
          hasMeaning_handleStartCommand_iff
            (accepted_of_hasSchema classified)]
        constructor
        · intro known
          refine ⟨long, fun _ => known, ?_, ?_⟩
          · intro stop
            cases only .stop stop
          · intro stop
            cases only .stop stop
        · intro harmless
          exact harmless.jobId classified
    | stop =>
        rw [handleCommand_of_stop classified,
          hasMeaning_handleStopCommand_iff
            (accepted_of_hasSchema classified)]
        constructor
        · rintro ⟨present, known⟩
          refine ⟨long, ?_, fun _ => present, fun _ => known⟩
          intro start
          cases only .start start
        · intro harmless
          exact
            ⟨harmless.hasCommandId classified,
              harmless.commandId classified⟩
    | ignored =>
        rw [handleCommand_of_ignored classified long]
        apply iff_of_true hasMeaning_ok
        refine ⟨long, ?_, ?_, ?_⟩
        · intro start
          cases only .start start
        · intro stop
          cases only .stop stop
        · intro stop
          cases only .stop stop
  · apply iff_of_false
    · exact not_hasMeaning_of_short (Nat.lt_of_not_le long)
    · intro harmless
      exact long harmless.long

/-- A message is dispatched safely exactly when it is harmless. -/
theorem safelyDispatched_iff :
    SafelyDispatched libraries callbacks handler world input ↔
      Harmless libraries callbacks handler world input := by
  rw [← hasMeaning_handleCommand_iff]
  constructor
  · intro safe
    exact safe.hasMeaning
  · intro meaning
    have long :=
      ((hasMeaning_handleCommand_iff libraries callbacks handler world
        input).mp meaning).long
    rcases meaning with ⟨result, ran⟩
    have asStart
        (start : ClassifiedAs libraries input.commandMsg .start) :
        handleCommand libraries callbacks handler world input =
          .ok
            (Handler.handleStartCommand libraries.context callbacks handler
              world input) := by
      rw [handleCommand_of_start start] at ran ⊢
      rw [ran, handleStartCommand_eq ran]
    have asStop (stop : ClassifiedAs libraries input.commandMsg .stop) :
        handleCommand libraries callbacks handler world input =
          .ok
            (Handler.handleStopCommand libraries.context callbacks handler
              world input.commandMsg) := by
      rw [handleCommand_of_stop stop] at ran ⊢
      rw [ran, handleStopCommand_eq ran]
    constructor
    · exact ⟨result, ran⟩
    · exact exists_unique_kind libraries input.commandMsg
    · intro ignored
      exact handleCommand_of_ignored ignored long
    · exact asStart
    · exact asStop
    · intro start startJob found notUuid
      refine ⟨_, asStart start, handleStartCommand_of_invalid found ?_⟩
      dsimp only [Libraries.context]
      rw [notUuid]
      rfl
    · intro stop stopCmd found notUuid
      refine ⟨_, asStop stop, handleStopCommand_of_invalid found ?_⟩
      dsimp only [Libraries.context]
      rw [notUuid]
      rfl

end Safety

/-- Libraries whose verifiers ask for nothing but room for an identifier. -/
def sampleLibraries : Libraries where
  verifier _ := ⟨fun data => 8 ≤ data.length, of_decide_eq_true⟩
  getRunStart _ := ⟨0, 0, none, none, none, none, none, none⟩
  getRunStop _ := ⟨0, none, none, none⟩
  fromString _ := none
  toUTCDateTime _ := ""

/-- A message of three bytes from the command topic. -/
def shortInput : StartInput where
  commandMsg := { data := [1, 2, 3] }
  isJobPoolCommand := false

/-- The schema id of a message of three bytes is read. -/
theorem short_message_not_safelyDispatched :
    ¬ SafelyDispatched sampleLibraries StopAnswers.idleCallbacks
      StopAnswers.sampleHandler () shortInput := by
  intro safe
  exact not_hasMeaning_of_short (by decide) safe.hasMeaning

end KafkaToNexus.Command.Dispatch
