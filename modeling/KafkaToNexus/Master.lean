import KafkaToNexus.Command.Commands
import KafkaToNexus.Foundations.Mealy
import KafkaToNexus.JsonLibrary
import KafkaToNexus.Status

/-!
# The master of the service

`Master` owns the stream controller of the current job, its status, the
metadata of its start command and the status reporter.  It starts jobs, passes
stop times on to them and winds them up when they are done.

The creation of a job and of a status topic may throw; whether they do, what
the controller of the job reports and what the clock says are inputs of the
calls.  The messages to the command handler are outputs.
-/

namespace KafkaToNexus

open KafkaToNexus.Command
open KafkaToNexus.Foundations
open KafkaToNexus.Status

/-- The stream controller of a job, as far as the master acts on it. -/
structure StreamControllerHandle where
  startInfo : StartInfo
  stopTime : TimePoint
  stopped : Bool := false
deriving DecidableEq, Repr

namespace StreamControllerHandle

def stop (controller : StreamControllerHandle) : StreamControllerHandle :=
  { controller with stopped := true }

def setStopTime
    (controller : StreamControllerHandle) (stopTime : TimePoint) :
    StreamControllerHandle :=
  { controller with stopTime }

end StreamControllerHandle

/-- What the master takes from outside. -/
structure MasterContext (Json : Type) where
  json : JsonLibrary Json
  /-- The report on the status and on the metadata of the tracker. -/
  createJSONReport : JobStatusInfo → List String → Json
  /-- The path of a file under the output prefix. -/
  filePath : String → String

structure Master where
  currentStreamController : Option StreamControllerHandle := none
  currentStatus : JobStatusInfo := {}
  currentMetadata : String := ""
  metaDataTracker : List String := []
  reporter : StatusReporter
deriving DecidableEq, Repr

/-- How a call ends. -/
inductive CallResult where
  | returned
  | threw (what : String)
  /-- The null pointer was dereferenced. -/
  | nullDereference
deriving DecidableEq, Repr

/-- The outcome of `createFileWritingJob`, with what it has registered. -/
inductive JobCreation where
  | created (registered : List String)
  | threw (what : String) (registered : List String)
deriving DecidableEq, Repr

/-- The outcomes of what `startWriting` calls. -/
structure StartOutcomes where
  jobCreation : JobCreation
  /-- The construction of the alternative status topic throws. -/
  statusTopicThrows : Bool := false
deriving DecidableEq, Repr

/-- What the stream controller reports when a call of `run` looks at it. -/
structure ControllerReport where
  isDoneWriting : Bool
  hasErrorState : Bool := false
  errorMessage : String := ""
deriving DecidableEq, Repr

namespace Master

variable {Json : Type}

/-- The constructor. -/
def create (statusTopic : String) : Master :=
  { reporter := { statusProducerTopic := statusTopic } }

/-! ## Starting and stopping -/

/-- The last part of `startWriting`, once the job has been created. -/
def announceJob
    (master : Master) (startInfo : StartInfo) (statusTopicThrows : Bool) :
    Master × CallResult :=
  let (reporter, threw) :=
    if startInfo.controlTopic.isEmpty then (master.reporter, false)
    else
      master.reporter.useAlternativeStatusTopic startInfo.controlTopic
        statusTopicThrows
  let master := { master with reporter }
  if threw then
    (master, .threw "Can not create Kafka topic")
  else
    ({ master with
       currentStatus :=
         { state := .writing
           jobId := startInfo.jobID
           filename := startInfo.filename
           startTime := startInfo.startTime
           stopTime := startInfo.stopTime } }, .returned)

def startWriting
    (master : Master) (startInfo : StartInfo) (outcomes : StartOutcomes) :
    Master × CallResult :=
  if master.currentStatus.state = .writing then
    (master, .threw
      ("Unable to start new writing job (with id: \"" ++ startInfo.jobID ++
        "\") when waiting for the current one to finish."))
  else
    match outcomes.jobCreation with
    | .threw what registered =>
        ({ master with metaDataTracker := registered }, .threw what)
    | .created registered =>
        announceJob
          { master with
            metaDataTracker := registered
            currentStreamController := some ⟨startInfo, startInfo.stopTime, false⟩
            currentMetadata := startInfo.metadata }
          startInfo outcomes.statusTopicThrows

def setStopTimeInternal (master : Master) (newStopTime : TimePoint) : Master :=
  { master with
    currentStatus := { master.currentStatus with stopTime := newStopTime } }

def stopNow (master : Master) (now : TimePoint) : Master × CallResult :=
  if master.currentStatus.state ≠ .writing then
    (master, .threw "Unable to stop writing when not in \"Writing\" state.")
  else
    let master : Master :=
      { master with
        currentStreamController :=
          master.currentStreamController.map fun controller =>
            controller.stop.setStopTime now }
    (master.setStopTimeInternal 0, .returned)

def setStopTime
    (master : Master) (newStopTime now : TimePoint) : Master × CallResult :=
  if master.currentStatus.state ≠ .writing then
    (master, .threw "Unable to set stop time when not in \"Writing\" state.")
  else if master.currentStatus.stopTime < now then
    (master, .threw
      ("Unable to set a new stop time as the stop time " ++
        "has already been passed."))
  else
    match master.currentStreamController with
    | none => (master, .nullDereference)
    | some controller =>
        let master :=
          { master with
            currentStreamController :=
              some (controller.setStopTime newStopTime) }
        (master.setStopTimeInternal newStopTime, .returned)

/-- A job that was created is announced, or its status topic throws. -/
theorem announceJob_cases
    (master : Master) (startInfo : StartInfo) (statusTopicThrows : Bool) :
    let result := master.announceJob startInfo statusTopicThrows
    result.1.currentStreamController = master.currentStreamController ∧
      ((result.2 = .returned ∧
        result.1.currentStatus.state = .writing ∧
        result.1.currentStatus.jobId = startInfo.jobID) ∨
      ((∃ what, result.2 = .threw what) ∧
        result.1.currentStatus = master.currentStatus ∧
        startInfo.controlTopic ≠ "" ∧
        (master.reporter.useAlternativeStatusTopic startInfo.controlTopic
          statusTopicThrows).2 = true)) := by
  intro result
  by_cases noTopic : startInfo.controlTopic = ""
  · simp [result, announceJob, noTopic]
  · cases threw :
        (master.reporter.useAlternativeStatusTopic startInfo.controlTopic
          statusTopicThrows).2 <;>
      simp [result, announceJob, noTopic, threw]

/-- A start returns and leaves the new job, or throws and keeps the status. -/
theorem startWriting_status
    (master : Master) (startInfo : StartInfo) (outcomes : StartOutcomes) :
    let result := master.startWriting startInfo outcomes
    (result.2 = .returned ∧ result.1.currentStatus.state = .writing ∧
      result.1.currentStreamController =
        some ⟨startInfo, startInfo.stopTime, false⟩) ∨
    ((∃ what, result.2 = .threw what) ∧
      result.1.currentStatus = master.currentStatus) := by
  intro result
  by_cases writing : master.currentStatus.state = .writing
  · right
    simp [result, startWriting, writing]
  · cases creation : outcomes.jobCreation with
    | threw what registered =>
        right
        simp [result, startWriting, writing, creation]
    | created registered =>
        simp only [result, startWriting, writing, creation, if_false]
        rcases announceJob_cases _ startInfo outcomes.statusTopicThrows with
          ⟨controller, ⟨returned, state, _⟩ | ⟨threw, status, _⟩⟩
        · exact Or.inl ⟨returned, state, controller⟩
        · exact Or.inr ⟨threw, status⟩

/-! ## Winding up -/

def hasWritingStopped (master : Master) (report : ControllerReport) : Bool :=
  master.currentStreamController.isSome && report.isDoneWriting

/--
The JSON of the has-stopped message, unless building it throws.  Only parse
errors are caught.
-/
def stoppedMetadata
    (context : MasterContext Json) (master : Master) : Option Json := do
  let json := context.json
  let text ←
    json.dump
      (context.createJSONReport master.currentStatus master.metaDataTracker)
  let currentJSONStatus ← (json.parse text).toOption
  let staticMetaData ←
    match json.parse master.currentMetadata with
    | .ok value => some value
    | .error .parseError => some json.object
    | .error _ => none
  json.update currentJSONStatus staticMetaData

/-- The end of `setToIdle`, after the message was sent. -/
def reset (master : Master) : Master :=
  { master with
    currentStreamController := none
    metaDataTracker := []
    currentStatus := {}
    reporter := master.reporter.revertToDefaultStatusTopic }

/-- What the master tells the command handler about a finished job. -/
inductive FinishedMessage (Json : Type) where
  | hasStopped (jobId filePath : String) (metadata : Json)
  | errorEncountered (jobId fileName metadata errorMessage : String)
deriving DecidableEq, Repr

def FinishedMessage.jobId : FinishedMessage Json → String
  | .hasStopped jobId _ _ => jobId
  | .errorEncountered jobId _ _ _ => jobId

/-- The message of `setToIdle`, unless building it throws. -/
def finishedMessage
    (context : MasterContext Json) (master : Master)
    (report : ControllerReport) : Option (FinishedMessage Json) :=
  let status := master.currentStatus
  if report.hasErrorState then
    some (.errorEncountered status.jobId status.filename
      master.currentMetadata report.errorMessage)
  else
    (master.stoppedMetadata context).map fun metadata =>
      .hasStopped status.jobId (context.filePath status.filename) metadata

/-- How the call that sends the message ends. -/
inductive Sending where
  | returned
  | threwBeforePublishing
  | threwAfterPublishing
deriving DecidableEq, Repr

/-- An exception leaves the function before the master is reset. -/
def setToIdle
    (context : MasterContext Json) (master : Master)
    (report : ControllerReport) (sending : Sending) :
    Master × Option (FinishedMessage Json) :=
  match master.finishedMessage context report, sending with
  | some message, .returned => (master.reset, some message)
  | some message, .threwAfterPublishing => (master, some message)
  | some _, .threwBeforePublishing => (master, none)
  | none, _ => (master, none)

/-- The part of `run` that follows the loop function of the handler. -/
def finishIfDone
    (context : MasterContext Json) (master : Master)
    (report : ControllerReport) (sending : Sending) :
    Master × Option (FinishedMessage Json) :=
  if master.hasWritingStopped report then
    master.setToIdle context report sending
  else (master, none)

/-! ## Sequences of calls -/

/-- The functions that the master registers with the handler. -/
inductive MasterCall where
  | startWriting (startInfo : StartInfo) (outcomes : StartOutcomes)
  | setStopTime (newStopTime now : TimePoint)
  | stopNow (now : TimePoint)
deriving DecidableEq, Repr

/-- A call on the master from outside. -/
inductive MasterInput where
  | call (call : MasterCall)
  /--
  The loop function of the handler makes calls and catches what they throw.
  Unless it throws itself, the controller is looked at after it.
  -/
  | run (calls : List MasterCall) (loopThrows : Bool)
      (report : ControllerReport) (sending : Sending)
deriving DecidableEq, Repr

/-- One step of a call. -/
inductive MasterStep where
  | call (call : MasterCall)
  | finishIfDone (report : ControllerReport) (sending : Sending)
deriving DecidableEq, Repr

def MasterInput.steps : MasterInput → List MasterStep
  | .call made => [.call made]
  | .run calls loopThrows report sending =>
      calls.map .call ++
        if loopThrows then [] else [.finishIfDone report sending]

/-- What is seen of the life of a job. -/
inductive JobEvent where
  /-- A call of `startWriting` has returned. -/
  | started (jobId : String)
  /-- A message about a finished job was sent. -/
  | finished (jobId : String)
deriving DecidableEq, Repr

def perform (master : Master) : MasterCall → Master × CallResult
  | .startWriting startInfo outcomes => master.startWriting startInfo outcomes
  | .setStopTime newStopTime now => master.setStopTime newStopTime now
  | .stopNow now => master.stopNow now

/-- The events of a call with the given result. -/
def eventsOf : MasterCall → CallResult → List JobEvent
  | .startWriting startInfo _, .returned => [.started startInfo.jobID]
  | _, _ => []

def step
    (context : MasterContext Json) (master : Master) :
    MasterStep → Master × List JobEvent
  | .call call =>
      let (next, result) := master.perform call
      (next, eventsOf call result)
  | .finishIfDone report sending =>
      let (next, message) := master.finishIfDone context report sending
      (next, message.toList.map fun message => .finished message.jobId)

end Master

end KafkaToNexus
