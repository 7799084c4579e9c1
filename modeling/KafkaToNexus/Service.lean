import KafkaToNexus.Command.Handler
import KafkaToNexus.Master

/-!
# The command handler and the master together

The master registers its functions with the handler, and tells the handler
about finished jobs.  A call of `Master::run` is a sequence of the steps below:
the handling of at most two commands, followed by a look at the controller of
the current job.
-/

namespace KafkaToNexus

open KafkaToNexus.Command
open KafkaToNexus.Foundations

structure Service where
  handler : Handler
  master : Master
deriving DecidableEq, Repr

structure ServiceContext (Json : Type) where
  command : CommandContext
  master : MasterContext Json

/-- What the functions of the master take from outside. -/
structure CallOutcomes where
  start : StartOutcomes := ⟨.created [], false⟩
  now : TimePoint := 0
deriving DecidableEq, Repr

/-- One step of the service, with what it takes from outside. -/
inductive ServiceInput where
  | startCommand (input : Handler.StartInput) (outcomes : CallOutcomes)
  | stopCommand (commandMsg : Msg) (outcomes : CallOutcomes)
  | finishIfDone (report : ControllerReport) (clients : ClientOutcomes)
deriving DecidableEq, Repr

namespace Service

variable {Json : Type}

/-- Both parts as they are constructed. -/
def create (serviceId : String) (commandTopic : URI) : Service where
  handler := Handler.create serviceId commandTopic
  master := Master.create commandTopic.topic

/-- The text of the exception that a call throws. -/
def exceptionOf : CallResult → Option String
  | .returned => none
  | .threw what => some what
  | .nullDereference => some "null pointer"

/-- The functions that the master registers with the handler. -/
def callbacks (outcomes : CallOutcomes) : Callbacks Master where
  doStart startInfo master :=
    let (next, result) := master.startWriting startInfo outcomes.start
    (next, exceptionOf result)
  doSetStopTime stopTime master :=
    let (next, result) := master.setStopTime stopTime outcomes.now
    (next, exceptionOf result)
  doStopNow master :=
    let (next, result) := master.stopNow outcomes.now
    (next, exceptionOf result)
  isWritingNow master := decide (master.currentStatus.state = .writing)
  getJobId master := master.currentStatus.jobId

/-- The service and the events after a command was handled. -/
def ofResult
    (result : Handler.CommandResult Master) : Service × List HandlerEvent :=
  (⟨result.handler, result.world⟩, result.events)

/--
Send the message about a finished job and reset the master, unless an
exception leaves the function before.
-/
def setToIdle
    (context : ServiceContext Json) (service : Service)
    (message : Master.FinishedMessage Json) (clients : ClientOutcomes) :
    Service × List HandlerEvent :=
  match message with
  | .errorEncountered jobId fileName metadata errorMessage =>
      (⟨service.handler, service.master.reset⟩,
        [.stoppedMsg
          (service.handler.sendErrorEncounteredMessage jobId fileName metadata
            errorMessage)])
  | .hasStopped jobId filePath metadata =>
      let sent :=
        service.handler.sendHasStoppedMessage context.master.json jobId
          filePath metadata clients
      (⟨sent.handler, if sent.threw then service.master else service.master.reset⟩,
        sent.message.toList.map .stoppedMsg)

def step
    (context : ServiceContext Json) (service : Service) :
    ServiceInput → Service × List HandlerEvent
  | .startCommand input outcomes =>
      ofResult
        (Handler.handleStartCommand context.command (callbacks outcomes)
          service.handler service.master input)
  | .stopCommand commandMsg outcomes =>
      ofResult
        (Handler.handleStopCommand context.command (callbacks outcomes)
          service.handler service.master commandMsg)
  | .finishIfDone report clients =>
      if service.master.hasWritingStopped report then
        match service.master.finishedMessage context.master report with
        | none => (service, [])
        | some message => service.setToIdle context message clients
      else
        (service, [])

end Service

end KafkaToNexus
