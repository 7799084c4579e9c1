import KafkaToNexus.Service

/-!
# The main loop

The main loop of the service calls `Master::run` over and over.  A call lets
the handler go through the commands that have arrived, and then looks at the
controller of the current job.  An exception that leaves the call ends the main
loop, and with it the service.

What signals do to the loop is not part of it.
-/

namespace KafkaToNexus

open KafkaToNexus.Command
open KafkaToNexus.Foundations

/-- A command that has arrived, with what its handling takes from outside. -/
inductive CommandInput where
  | start (input : Handler.StartInput) (outcomes : CallOutcomes)
  | stop (commandMsg : Msg) (outcomes : CallOutcomes)
deriving DecidableEq, Repr

def CommandInput.toStep : CommandInput → ServiceInput
  | start input outcomes => .startCommand input outcomes
  | stop commandMsg outcomes => .stopCommand commandMsg outcomes

/-- What a call of `run` takes from outside. -/
structure RunInput where
  commands : List CommandInput
  /-- An exception leaves the loop function of the handler. -/
  loopThrows : Bool := false
  report : ControllerReport
  clients : ClientOutcomes := {}
deriving DecidableEq, Repr

/-- How a call of `run` ends. -/
structure RunEnd where
  service : Service
  events : List HandlerEvent
  /-- An exception leaves the call. -/
  threw : Bool
deriving DecidableEq, Repr

namespace Service

variable {Json : Type}

/-- The loop function of the handler. -/
def loopFunction
    (context : ServiceContext Json) (service : Service)
    (commands : List CommandInput) : Service × List HandlerEvent :=
  Mealy.run (step context) service (commands.map CommandInput.toStep)

/-- An exception leaves the look at the controller. -/
def finishThrows
    (context : ServiceContext Json) (service : Service)
    (report : ControllerReport) (clients : ClientOutcomes) : Bool :=
  if service.master.hasWritingStopped report then
    match service.master.finishedMessage context.master report with
    | none => true
    | some (.errorEncountered _ _ _ _) => false
    | some (.hasStopped jobId filePath metadata) =>
        (service.handler.sendHasStoppedMessage context.master.json jobId
          filePath metadata clients).threw
  else
    false

/-- A call of `Master::run`. -/
def run
    (context : ServiceContext Json) (service : Service) (input : RunInput) :
    RunEnd :=
  let (service, events) := service.loopFunction context input.commands
  if input.loopThrows then
    ⟨service, events, true⟩
  else
    let (next, messages) :=
      service.step context (.finishIfDone input.report input.clients)
    ⟨next, events ++ messages,
      service.finishThrows context input.report input.clients⟩

/-- The main loop; an exception ends it. -/
def mainLoop (context : ServiceContext Json) :
    Service → List RunInput → Service × List HandlerEvent
  | service, [] => (service, [])
  | service, input :: inputs =>
      let ran := service.run context input
      if ran.threw then
        (ran.service, ran.events)
      else
        let (final, later) := mainLoop context ran.service inputs
        (final, ran.events ++ later)

/-- The main loop goes on after a call that returns. -/
theorem mainLoop_of_returns
    {context : ServiceContext Json} {before : Service} {input : RunInput}
    (returns : (before.run context input).threw = false)
    (inputs : List RunInput) :
    before.mainLoop context (input :: inputs) =
      (((before.run context input).service.mainLoop context inputs).1,
        (before.run context input).events ++
          ((before.run context input).service.mainLoop context inputs).2) := by
  rw [mainLoop]
  dsimp only
  rw [returns]
  rfl

end Service

end KafkaToNexus
