import KafkaToNexus.Command.Handler

/-!
# Start commands while a job is being written

A start command that arrives while a job is being written is rejected before
anything was changed.  The clean-up after a rejection, however, always reverts
to the default command topic, also when the alternative topic is that of the
running job.
-/

namespace KafkaToNexus.Command.RejectedStart

open KafkaToNexus
open KafkaToNexus.Command.Handler

variable {World : Type*}

/--
The handling of a start command has left alone what the running job depends
on: the topics listened to and answered on, the flag of the alternative topic,
the structure of the file and the job itself.
-/
def Undisturbed
    (callbacks : Callbacks World) (handler : Handler) (world : World)
    (result : CommandResult World) : Prop :=
  result.handler.commandSource = handler.commandSource ∧
    result.handler.commandResponse = handler.commandResponse ∧
    result.handler.usingAltTopic = handler.usingAltTopic ∧
    result.handler.nexusStructure = handler.nexusStructure ∧
    callbacks.getJobId result.world = callbacks.getJobId world ∧
    callbacks.isWritingNow result.world = callbacks.isWritingNow world

/-- While a job is being written, a start command only reverts the topic. -/
theorem handleStartCommand_of_writing
    {callbacks : Callbacks World} {world : World}
    (context : CommandContext) (handler : Handler) (input : StartInput)
    (writing : callbacks.isWritingNow world = true) :
    let result := handleStartCommand context callbacks handler world input
    result.handler = (handler.revertCommandTopic input.outcomes).1 ∧
      result.world = world := by
  intro result
  rcases handleStartCommand_cases context callbacks handler world input with
    ⟨sameWorld, reverted⟩ | ⟨idle, _⟩ | ⟨idle, _⟩
  · exact ⟨reverted, sameWorld⟩
  · rw [writing] at idle
    cases idle
  · rw [writing] at idle
    cases idle

/--
A start command that arrives while a job is being written leaves everything
the job depends on alone exactly when no alternative topic is in use, or the
attempt to revert to the default topic fails.
-/
theorem rejected_start_undisturbed_iff
    (context : CommandContext) (callbacks : Callbacks World)
    (handler : Handler) (world : World) (input : StartInput)
    (writing : callbacks.isWritingNow world = true) :
    Undisturbed callbacks handler world
        (handleStartCommand context callbacks handler world input) ↔
      handler.usingAltTopic = false ∨ input.outcomes.revertThrows = true := by
  rcases handleStartCommand_of_writing context handler input writing with
    ⟨handlerEq, worldEq⟩
  simp only [Undisturbed, handlerEq, worldEq]
  cases inUse : handler.usingAltTopic with
  | false => simp [revertCommandTopic, inUse]
  | true =>
      cases throws : input.outcomes.revertThrows with
      | true => simp [revertCommandTopic, inUse, throws]
      | false => simp [revertCommandTopic, inUse, throws, reverted]

/-! ## A job with a control topic -/

/-- Registered functions of a writer that writes a job. -/
def writingCallbacks : Callbacks Unit where
  doStart _ world := (world, none)
  doSetStopTime _ world := (world, none)
  doStopNow world := (world, none)
  isWritingNow _ := true
  getJobId _ := "5e0e1a2c-3f0c-4c62-9d3b-1f7cf4f0a001"

/-- A context in which every start command lacks its required fields. -/
def emptyCommandContext : CommandContext where
  getRunStart _ := ⟨0, 0, none, none, none, none, none, none⟩
  getRunStop _ := ⟨0, none, none, none⟩
  isValidUUID _ := false
  toUTCDateTime _ := ""

/-- The handler of a service that uses the default topic. -/
def defaultHandler : Handler :=
  Handler.create "writer" ⟨"broker:9092", "commands"⟩

/-- An unreadable start command does not disturb a job without a topic. -/
theorem unreadable_start_undisturbed :
    Undisturbed writingCallbacks defaultHandler ()
      (handleStartCommand emptyCommandContext writingCallbacks defaultHandler
        () ⟨{}, false, 0, {}⟩) :=
  (rejected_start_undisturbed_iff emptyCommandContext writingCallbacks
    defaultHandler () ⟨{}, false, 0, {}⟩ rfl).mpr (Or.inl rfl)

/--
An unreadable start command takes the handler off the control topic of the
running job.
-/
theorem unreadable_start_disturbs :
    ¬ Undisturbed writingCallbacks
      (defaultHandler.switchedTo { controlTopic := "control" }) ()
      (handleStartCommand emptyCommandContext writingCallbacks
        (defaultHandler.switchedTo { controlTopic := "control" }) ()
        ⟨{}, false, 0, {}⟩) := by
  intro undisturbed
  have writing : writingCallbacks.isWritingNow () = true := rfl
  have reverts :=
    (handleStartCommand_of_writing emptyCommandContext
      (defaultHandler.switchedTo { controlTopic := "control" })
      ⟨{}, false, 0, {}⟩ writing).1
  have same := undisturbed.2.2.1
  rw [reverts] at same
  exact absurd same (by decide)

end KafkaToNexus.Command.RejectedStart
