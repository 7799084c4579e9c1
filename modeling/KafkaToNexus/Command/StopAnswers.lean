import KafkaToNexus.Command.Handler

/-!
# Answers to stop commands

Who gets an answer to a stop command, and when the writer is told to stop.
`handleStopCommand_events` runs through the list of steps once; everything else
is read off from it.  The two rejections that depend on the state of the writer
are never answered, since the list of steps decides about their answers before
the command is extracted.
-/

namespace KafkaToNexus.Command.StopAnswers

open KafkaToNexus
open KafkaToNexus.Command.Handler

variable {World : Type*}

/-- The responses among the events. -/
def responsesOf (events : List HandlerEvent) : List Response :=
  events.filterMap fun
    | .response response => some response
    | _ => none

/-- The calls that stop the writer among the events, with their outcomes. -/
def stopCallsOf (events : List HandlerEvent) : List Bool :=
  events.filterMap fun
    | .doStopNow returned => some returned
    | .doSetStopTime _ returned => some returned
    | _ => none

/-- The stop command that a message carries, if it can be extracted. -/
def parsed
    (context : CommandContext) (commandMsg : Msg) :
    Except Parser.StopExtractError StopMessage :=
  Parser.extractStopMessage (context.getRunStop commandMsg.data)

/-- The job of the command is being written. -/
def Applies
    (callbacks : Callbacks World) (world : World) (stopCmd : StopMessage) :
    Prop :=
  callbacks.isWritingNow world = true ∧
    callbacks.getJobId world = stopCmd.jobID

/-- The command is addressed to the service by its id. -/
def AddressedTo (handler : Handler) (stopCmd : StopMessage) : Prop :=
  stopCmd.serviceID ≠ "" ∧ stopCmd.serviceID = handler.serviceId

/-- The events of the handling of a message as a stop command. -/
def stopEvents
    (context : CommandContext) (callbacks : Callbacks World)
    (handler : Handler) (world : World) (commandMsg : Msg) :
    List HandlerEvent :=
  (handleStopCommand context callbacks handler world commandMsg).events

/-- What the answers to stop commands are to be. -/
structure AnswersStop
    (context : CommandContext) (callbacks : Callbacks World)
    (handler : Handler) (world : World) (commandMsg : Msg) : Prop where
  /-- A command with the id of the service gets one answer. -/
  addressed :
    ∀ stopCmd, parsed context commandMsg = .ok stopCmd →
      AddressedTo handler stopCmd →
        ∃ response,
          responsesOf
              (stopEvents context callbacks handler world commandMsg) =
            [response] ∧
          (response.result = .success ↔
            true ∈ stopCallsOf
              (stopEvents context callbacks handler world commandMsg))
  /-- A command with the id of another service has no effect. -/
  otherService :
    ∀ stopCmd, parsed context commandMsg = .ok stopCmd →
      stopCmd.serviceID ≠ "" → stopCmd.serviceID ≠ handler.serviceId →
        responsesOf
            (stopEvents context callbacks handler world commandMsg) = [] ∧
          stopCallsOf
            (stopEvents context callbacks handler world commandMsg) = []
  /-- A message that carries no command has no effect. -/
  unparsed :
    ∀ failure, parsed context commandMsg = .error failure →
      responsesOf
          (stopEvents context callbacks handler world commandMsg) = [] ∧
        stopCallsOf
          (stopEvents context callbacks handler world commandMsg) = []
  /-- A command to all services is not answered where it does not apply. -/
  broadcast :
    ∀ stopCmd, parsed context commandMsg = .ok stopCmd →
      stopCmd.serviceID = "" → ¬ Applies callbacks world stopCmd →
        responsesOf
          (stopEvents context callbacks handler world commandMsg) = []
  /-- The writer is told to stop at most once. -/
  once :
    (stopCallsOf
      (stopEvents context callbacks handler world commandMsg)).length ≤ 1
  /-- The writer is told to stop only for the job that is being written. -/
  allowed :
    stopCallsOf (stopEvents context callbacks handler world commandMsg) ≠ [] →
      ∃ stopCmd, parsed context commandMsg = .ok stopCmd ∧
        Applies callbacks world stopCmd

/-! ## The steps -/

theorem isAccepted_iff (handler : Handler) (stopCmd : StopMessage) :
    isAccepted handler stopCmd = true ↔
      stopCmd.serviceID = "" ∨ handler.serviceId = stopCmd.serviceID := by
  simp [isAccepted]

section Steps

variable {context : CommandContext} {callbacks : Callbacks World}
  {handler : Handler} {world : World} {commandMsg : Msg}
  {stopCmd : StopMessage}

/-- The steps of the handling of a message, from the first one on. -/
def stopLoop
    (context : CommandContext) (callbacks : Callbacks World)
    (handler : Handler) (world : World) (commandMsg : Msg) :
    LoopResult (StopScope World) :=
  runSteps (stopSteps context callbacks handler commandMsg {}) { world }

/-- The events after a step has failed. -/
theorem stopEvents_of_failed
    {scope : StopScope World} {response : CmdResponse (StopScope World)}
    (loop :
      stopLoop context callbacks handler world commandMsg =
        .rejected scope response) :
    stopEvents context callbacks handler world commandMsg =
      (answerStop handler scope .failure response).events := by
  unfold stopLoop at loop
  simp only [stopEvents, handleStopCommand, loop]

/-- The events after every step has passed. -/
theorem stopEvents_of_passed
    {scope : StopScope World}
    (loop :
      stopLoop context callbacks handler world commandMsg = .passed scope) :
    stopEvents context callbacks handler world commandMsg =
      (answerStop handler scope .success stoppedResponse).events := by
  unfold stopLoop at loop
  simp only [stopEvents, handleStopCommand, loop]

/-- A silent rejection has no events. -/
theorem stopEvents_of_silent
    {scope : StopScope World} {response : CmdResponse (StopScope World)}
    (loop :
      stopLoop context callbacks handler world commandMsg =
        .rejected scope response)
    (silent : response.sendResponse = false)
    (quiet : scope.events = []) :
    stopEvents context callbacks handler world commandMsg = [] := by
  rw [stopEvents_of_failed loop]
  simp [answerStop, silent, quiet]

/-- A message that carries no command has no events. -/
theorem stopEvents_of_error
    {failure : Parser.StopExtractError}
    (failed : parsed context commandMsg = .error failure) :
    stopEvents context callbacks handler world commandMsg = [] := by
  unfold parsed at failed
  cases failure with
  | runtimeError what =>
      have ran :
          (extractStopStep context commandMsg).run { world } =
            (.failed, { world, responseMessage := what }) := by
        simp only [extractStopStep, failed]
      exact stopEvents_of_silent (runSteps_of_failed ran) rfl rfl
  | nullDereference =>
      have loop : stopLoop context callbacks handler world commandMsg =
          .left { world } :=
        runSteps_of_left (by simp only [extractStopStep, failed])
      unfold stopLoop at loop
      simp [stopEvents, handleStopCommand, loop]

/-- The extraction of a command leads to the second step. -/
theorem runSteps_of_parsed
    (found : parsed context commandMsg = .ok stopCmd)
    (rest : List (CommandStep (StopScope World))) :
    runSteps (extractStopStep context commandMsg :: rest) { world } =
      runSteps rest { world, stopCmd } := by
  unfold parsed at found
  apply runSteps_of_succeeded
  simp only [extractStopStep, found]

/-- A command that is not accepted, or does not apply, has no events. -/
theorem stopEvents_of_rejected
    (found : parsed context commandMsg = .ok stopCmd)
    (rejected :
      isAccepted handler stopCmd = true →
        ¬ Applies callbacks world stopCmd) :
    stopEvents context callbacks handler world commandMsg = [] := by
  have extracted :
      stopLoop context callbacks handler world commandMsg =
        runSteps
          [stopServiceIdStep handler, isWritingStep callbacks handler {},
            sameJobStep callbacks handler {}, commandIdStep context,
            doStopStep context callbacks] { world, stopCmd } :=
    runSteps_of_parsed found _
  cases accepted : isAccepted handler stopCmd with
  | false =>
      exact stopEvents_of_silent
        (extracted.trans (runSteps_of_not_check accepted)) rfl rfl
  | true =>
      have admitted := extracted.trans (runSteps_of_check accepted)
      cases writing : callbacks.isWritingNow world with
      | false =>
          exact stopEvents_of_silent
            (admitted.trans (runSteps_of_not_check writing)) rfl rfl
      | true =>
          have otherJob :
              (callbacks.getJobId world == stopCmd.jobID) = false := by
            rw [beq_eq_false_iff_ne]
            exact fun same => rejected accepted ⟨writing, same⟩
          exact stopEvents_of_silent
            ((admitted.trans (runSteps_of_check writing)).trans
              (runSteps_of_not_check otherJob)) rfl rfl

/-- The steps of a command that applies, up to the check of its own id. -/
theorem stopLoop_of_applies
    (found : parsed context commandMsg = .ok stopCmd)
    (accepted : isAccepted handler stopCmd = true)
    (applies : Applies callbacks world stopCmd) :
    stopLoop context callbacks handler world commandMsg =
      runSteps [commandIdStep context, doStopStep context callbacks]
        { world, stopCmd } := by
  rcases applies with ⟨writing, sameJob⟩
  calc
    stopLoop context callbacks handler world commandMsg
        = runSteps
            [stopServiceIdStep handler, isWritingStep callbacks handler {},
              sameJobStep callbacks handler {}, commandIdStep context,
              doStopStep context callbacks] { world, stopCmd } :=
          runSteps_of_parsed found _
    _ = runSteps
          [isWritingStep callbacks handler {},
            sameJobStep callbacks handler {}, commandIdStep context,
            doStopStep context callbacks] { world, stopCmd } :=
          runSteps_of_check accepted
    _ = runSteps
          [sameJobStep callbacks handler {}, commandIdStep context,
            doStopStep context callbacks] { world, stopCmd } :=
          runSteps_of_check writing
    _ = runSteps [commandIdStep context, doStopStep context callbacks]
          { world, stopCmd } :=
          runSteps_of_check (beq_iff_eq.mpr sameJob)

/-- A call that stops the writer, with its outcome still open. -/
def IsStopCall (call : Bool → HandlerEvent) : Prop :=
  ∀ returned, stopCallsOf [call returned] = [returned] ∧
    responsesOf [call returned] = []

theorem isStopCall_callStop
    (context : CommandContext) (callbacks : Callbacks World)
    (stopCmd : StopMessage) (world : World) :
    IsStopCall (callStop context callbacks stopCmd world).2.1 := by
  unfold callStop
  intro returned
  split <;> exact ⟨rfl, rfl⟩

/--
A command that applies is answered.  Unless its own id is invalid, the writer
is told to stop before, and the answer says whether the call has returned.
-/
theorem stopEvents_of_applies
    (found : parsed context commandMsg = .ok stopCmd)
    (accepted : isAccepted handler stopCmd = true)
    (applies : Applies callbacks world stopCmd) :
    ∃ response,
      (stopEvents context callbacks handler world commandMsg =
          [.response response] ∧
        response.result = .failure) ∨
      ∃ call returned,
        stopEvents context callbacks handler world commandMsg =
          [call returned, .response response] ∧
        response.result = (if returned then .success else .failure) ∧
        IsStopCall call := by
  have steps := stopLoop_of_applies found accepted applies
  cases validId : context.isValidUUID stopCmd.commandID with
  | false =>
      have loop := steps.trans (runSteps_of_not_check validId)
      exact ⟨_, Or.inl ⟨stopEvents_of_failed loop, rfl⟩⟩
  | true =>
      have checked := steps.trans (runSteps_of_check validId)
      have isCall := isStopCall_callStop context callbacks stopCmd world
      rcases called : callStop context callbacks stopCmd world with
        ⟨⟨after, outcome⟩, call, message⟩
      rw [called] at isCall
      cases outcome with
      | none =>
          have ran :
              (doStopStep context callbacks).run { world, stopCmd } =
                (.succeeded,
                  { world := after, stopCmd, events := [call true]
                    responseMessage := message }) := by
            simp only [doStopStep, called, List.nil_append]
          have loop := checked.trans (runSteps_of_succeeded ran)
          exact ⟨_, Or.inr ⟨call, true, stopEvents_of_passed loop, rfl, isCall⟩⟩
      | some what =>
          have ran :
              (doStopStep context callbacks).run { world, stopCmd } =
                (.failed,
                  { world := after, stopCmd, events := [call false]
                    responseMessage := what }) := by
            simp only [doStopStep, called, List.nil_append]
          have loop := checked.trans (runSteps_of_failed ran)
          exact ⟨_, Or.inr ⟨call, false, stopEvents_of_failed loop, rfl, isCall⟩⟩

end Steps

/-! ## The answers -/

section Answers

variable {context : CommandContext} {callbacks : Callbacks World}
  {handler : Handler} {world : World} {commandMsg : Msg}
  {stopCmd : StopMessage}

/-- Where nothing is to be answered, silence is right. -/
theorem answersStop_of_silent
    (silent : stopEvents context callbacks handler world commandMsg = [])
    (unaddressed :
      ∀ stopCmd, parsed context commandMsg = .ok stopCmd →
        ¬ AddressedTo handler stopCmd) :
    AnswersStop context callbacks handler world commandMsg := by
  constructor
  · intro stopCmd found addressed
    exact absurd addressed (unaddressed stopCmd found)
  · intro _ _ _ _
    rw [silent]
    exact ⟨rfl, rfl⟩
  · intro _ _
    rw [silent]
    exact ⟨rfl, rfl⟩
  · intro _ _ _ _
    rw [silent]
    rfl
  · rw [silent]
    exact Nat.zero_le 1
  · intro called
    rw [silent] at called
    exact absurd rfl called

/-- An accepted command that applies is answered as it is to be. -/
theorem answersStop_of_applies
    (found : parsed context commandMsg = .ok stopCmd)
    (accepted : isAccepted handler stopCmd = true)
    (applies : Applies callbacks world stopCmd) :
    AnswersStop context callbacks handler world commandMsg := by
  have only :
      ∀ other, parsed context commandMsg = .ok other → other = stopCmd := by
    intro other otherFound
    rw [found] at otherFound
    exact (Except.ok.inj otherFound).symm
  have answered :
      ∃ response,
        responsesOf (stopEvents context callbacks handler world commandMsg) =
          [response] ∧
        (response.result = .success ↔
          true ∈ stopCallsOf
            (stopEvents context callbacks handler world commandMsg)) ∧
        (stopCallsOf (stopEvents context callbacks handler world
          commandMsg)).length ≤ 1 := by
    rcases stopEvents_of_applies found accepted applies with
      ⟨response, ⟨events, failure⟩ | ⟨call, returned, events, result, isCall⟩⟩
    · refine ⟨response, ?_, ?_, ?_⟩
      · rw [events]
        rfl
      · rw [events, failure]
        simp [stopCallsOf]
      · rw [events]
        exact Nat.zero_le 1
    · have calls :
          stopCallsOf [call returned, .response response] = [returned] :=
        (List.filterMap_append (l := [call returned])).trans
          (by rw [← stopCallsOf, (isCall returned).1]; rfl)
      have responses :
          responsesOf [call returned, .response response] = [response] :=
        (List.filterMap_append (l := [call returned])).trans
          (by rw [← responsesOf, (isCall returned).2]; rfl)
      refine ⟨response, ?_, ?_, ?_⟩
      · rw [events, responses]
      · rw [events, calls, result]
        cases returned <;> simp
      · rw [events, calls]
        exact Nat.le_refl 1
  rcases answered with ⟨response, sent, success, once⟩
  constructor
  · intro _ _ _
    exact ⟨response, sent, success⟩
  · intro other otherFound nonempty different
    rw [only other otherFound] at nonempty different
    rcases (isAccepted_iff handler stopCmd).mp accepted with empty | same
    · exact absurd empty nonempty
    · exact absurd same.symm different
  · intro failure failed
    rw [found] at failed
    cases failed
  · intro other otherFound _ notApplies
    rw [only other otherFound] at notApplies
    exact absurd applies notApplies
  · exact once
  · intro _
    exact ⟨stopCmd, found, applies⟩

end Answers

/--
The answers to a stop command are what they are to be exactly when a command
that is addressed to the service by its id applies to the job that is being
written.
-/
theorem answersStop_iff
    (context : CommandContext) (callbacks : Callbacks World)
    (handler : Handler) (world : World) (commandMsg : Msg) :
    AnswersStop context callbacks handler world commandMsg ↔
      ∀ stopCmd, parsed context commandMsg = .ok stopCmd →
        AddressedTo handler stopCmd → Applies callbacks world stopCmd := by
  constructor
  · intro answers stopCmd found addressed
    by_contra notApplies
    rcases answers.addressed stopCmd found addressed with ⟨response, sent, _⟩
    rw [stopEvents_of_rejected found (fun _ => notApplies)] at sent
    cases sent
  · intro applies
    cases found : parsed context commandMsg with
    | error failure =>
        apply answersStop_of_silent (stopEvents_of_error found)
        intro stopCmd contrary
        rw [found] at contrary
        cases contrary
    | ok stopCmd =>
        by_cases both :
            isAccepted handler stopCmd = true ∧
              Applies callbacks world stopCmd
        · exact answersStop_of_applies found both.1 both.2
        · apply answersStop_of_silent
          · exact stopEvents_of_rejected found
              (fun accepted holds => both ⟨accepted, holds⟩)
          · intro other otherFound addressed
            have holds := applies other otherFound addressed
            rw [found] at otherFound
            cases otherFound
            exact both
              ⟨(isAccepted_iff handler stopCmd).mpr (Or.inr addressed.2.symm),
                holds⟩

/-- A handler of the service with the given id. -/
def sampleHandler : Handler :=
  Handler.create "writer" ⟨"broker:9092", "commands"⟩

/-- Registered functions of a writer that has no job. -/
def idleCallbacks : Callbacks Unit where
  doStart _ world := (world, none)
  doSetStopTime _ world := (world, none)
  doStopNow world := (world, none)
  isWritingNow _ := false
  getJobId _ := "not_currently_writing"

/-- A context in which every stop command is the same. -/
def sampleContext (stop : RunStop) : CommandContext where
  getRunStart _ := ⟨0, 0, none, none, none, none, none, none⟩
  getRunStop _ := stop
  isValidUUID _ := true
  toUTCDateTime _ := ""

/-- A stop command with the id of the service, while no job is written. -/
theorem idle_service_does_not_answer :
    ¬ AnswersStop
      (sampleContext
        ⟨0, some "5e0e1a2c-3f0c-4c62-9d3b-1f7cf4f0a001", some "writer",
          some "5e0e1a2c-3f0c-4c62-9d3b-1f7cf4f0a002"⟩)
      idleCallbacks sampleHandler () {} := by
  intro answers
  have silent :
      stopEvents
        (sampleContext
          ⟨0, some "5e0e1a2c-3f0c-4c62-9d3b-1f7cf4f0a001", some "writer",
            some "5e0e1a2c-3f0c-4c62-9d3b-1f7cf4f0a002"⟩)
        idleCallbacks sampleHandler () {} = [] := by
    decide
  rcases answers.addressed _ rfl ⟨by decide, rfl⟩ with ⟨response, sent, _⟩
  rw [silent] at sent
  cases sent

end KafkaToNexus.Command.StopAnswers
