import KafkaToNexus.MainLoop

/-!
# The run loop and its signals

The main thread looks at an atomic variable before every iteration, and the
signal handlers write to it.  A handler reads the variable and stores the new
value later, so that other handlers and the main thread may come in between.
A schedule says who takes the next step: the main thread goes from one access
of the variable to the next, a signal arrives, or a handler stores its value.

The main thread first looks for the topics and then makes the calls of
`Master::run`.
-/

namespace KafkaToNexus

open KafkaToNexus.Command
open KafkaToNexus.Foundations

/-! ## Looking for the topics -/

/-- How the query for the names of the topics ends. -/
inductive TopicList where
  | topics (names : List String)
  | metadataException
  | threw (what : String)
deriving DecidableEq, Repr

/-- The text about a topic that is not there. -/
def unableToFind (kind topic : String) : String :=
  "Unable to find " ++ kind ++ " topic with name \"" ++ topic ++ "\"."

/--
Whether the topics were found, unless an exception leaves the function, which
catches only those of the query.
-/
def tryToFindTopics
    (poolTopic commandTopic : String) : TopicList → Except String Bool
  | .topics names =>
      if poolTopic ∉ names then
        .error (unableToFind "job pool" poolTopic)
      else if commandTopic ∉ names then
        .error (unableToFind "command" commandTopic)
      else
        .ok true
  | .metadataException => .ok false
  | .threw what => .error what

/-- The options of the program, as far as the run loop uses them. -/
structure RunSettings where
  serviceId : String
  poolTopic : String
  commandBrokerURI : Command.URI
  minMetadataTimeout : Duration
  maxMetadataTimeout : Duration
deriving DecidableEq, Repr

/-! ## The state -/

inductive RunStates where
  | running
  | stopping
  | sigintReceived
  | sigintWaiting
  | sigintKafkaWait
deriving DecidableEq, Repr

inductive Signal where
  | sigint
  | sigterm
  | unknown
deriving DecidableEq, Repr

/-- What the handler of a signal stores, from the state that it has read. -/
def signalHandler (runState : RunStates) : Signal → RunStates
  | .sigint =>
      if runState = .running then .sigintReceived else .stopping
  | .sigterm => .stopping
  | .unknown => .stopping

/-- Why the run loop was left. -/
inductive LeaveReason where
  | stopRequested
  /-- A `SIGINT` came while the topics were looked for. -/
  | noTopics
  /-- A `SIGINT` came while no file was being written. -/
  | nothingToStop
  | gaveUp
  | finished
  | exception (what : Option String)
deriving DecidableEq, Repr

/-- Where the main thread is. -/
inductive LoopPoint where
  /-- At the condition of the loop. -/
  | condition
  /-- Before the comparison with `SIGINT_Received`. -/
  | firstLook
  | received
  | storeWaiting
  /-- Before the comparison with `SIGINT_Waiting`. -/
  | secondLook
  | waiting
  | storeKafkaWait
  /-- In the block whose exceptions are caught. -/
  | body
  | left (reason : LeaveReason)
  | exited (reason : LeaveReason) (kafkaGracePeriod : Bool)
  /-- An exception has left `main`. -/
  | uncaught (what : String)
  | nullDereference
deriving DecidableEq, Repr

/-- The variables of the run loop. -/
structure RunLoop where
  runState : RunStates := .running
  /-- What the signal handlers that have not returned are going to store. -/
  handlers : List RunStates := []
  findTopicMode : Bool := true
  masterPtr : Option Service := none
  cMetaDataTimeout : Duration
  sigintStart : TimePoint := 0
  point : LoopPoint := .condition
deriving DecidableEq, Repr

def waitForStop : Duration := 5 * 10 ^ 9

/-- What a step of the main thread takes from outside. -/
structure MainInput where
  now : TimePoint := 0
  report : ControllerReport := ⟨false, false, ""⟩
  topicList : TopicList := .metadataException
  /-- The exception that leaves `GenerateMaster`. -/
  generateMaster : Option String := none
  run : RunInput := { commands := [], report := ⟨false, false, ""⟩ }
deriving DecidableEq, Repr

/-- The next step. -/
inductive ScheduleInput where
  | signal (signal : Signal)
  | store (handler : Nat)
  | main (input : MainInput)
deriving DecidableEq, Repr

inductive MainEvent where
  /-- The topics were looked for with this time-out. -/
  | searched (timeOut : Duration)
  /-- `stopNow` returned to the main thread. -/
  | stoppedNow (jobId : String)
  | waitsFrom (sigintStart : TimePoint)
  /-- The main thread goes on with the loop while it waits. -/
  | waited (sigintStart now : TimePoint)
  | ran (input : RunInput) (events : List HandlerEvent)
deriving DecidableEq, Repr

def Master.writingIsFinished
    (master : Master) (report : ControllerReport) : Bool :=
  master.currentStreamController.isNone || report.isDoneWriting

namespace RunLoop

variable {Json : Type}

def create (settings : RunSettings) : RunLoop where
  cMetaDataTimeout := settings.minMetadataTimeout

def goTo (loop : RunLoop) (point : LoopPoint) : RunLoop :=
  { loop with point }

/--
After a `SIGINT` the job is stopped, or the loop is left.  The call of
`stopNow` stands outside of the block whose exceptions are caught.
-/
def stopJob
    (loop : RunLoop) (input : MainInput) : RunLoop × List MainEvent :=
  if loop.findTopicMode then
    (loop.goTo (.left .noTopics), [])
  else
    match loop.masterPtr with
    | none => (loop.goTo .nullDereference, [])
    | some service =>
        if service.master.writingIsFinished input.report then
          (loop.goTo (.left .nothingToStop), [])
        else
          let (master, result) := service.master.stopNow input.now
          let loop :=
            { loop with masterPtr := some { service with master } }
          match result with
          | .returned =>
              (loop.goTo .storeWaiting,
                [.stoppedNow master.currentStatus.jobId])
          | .threw what => (loop.goTo (.uncaught what), [])
          | .nullDereference => (loop.goTo .nullDereference, [])

/-- The main thread waits for the job that it has stopped. -/
def wait (loop : RunLoop) (input : MainInput) : RunLoop × List MainEvent :=
  if loop.sigintStart.add waitForStop < input.now then
    (loop.goTo (.left .gaveUp), [])
  else
    match loop.masterPtr with
    | none => (loop.goTo .nullDereference, [])
    | some service =>
        if service.master.writingIsFinished input.report then
          (loop.goTo .storeKafkaWait, [])
        else
          (loop.goTo .body, [.waited loop.sigintStart input.now])

/-- The body while the topics are looked for. -/
def findTopics
    (settings : RunSettings) (loop : RunLoop) (input : MainInput) : RunLoop :=
  match tryToFindTopics settings.poolTopic settings.commandBrokerURI.topic
      input.topicList with
  | .error what => loop.goTo (.left (.exception (some what)))
  | .ok true =>
      match input.generateMaster with
      | some what => loop.goTo (.left (.exception (some what)))
      | none =>
          { loop with
            masterPtr :=
              some
                (Service.create settings.serviceId settings.commandBrokerURI)
            findTopicMode := false
            point := .condition }
  | .ok false =>
      { loop with
        cMetaDataTimeout :=
          loop.cMetaDataTimeout.doubledUpTo settings.maxMetadataTimeout
        point := .condition }

def body
    (context : ServiceContext Json) (settings : RunSettings)
    (loop : RunLoop) (input : MainInput) : RunLoop × List MainEvent :=
  if loop.findTopicMode then
    (loop.findTopics settings input, [.searched loop.cMetaDataTimeout])
  else
    match loop.masterPtr with
    | none => (loop.goTo .nullDereference, [])
    | some service =>
        let ran := service.run context input.run
        ({ loop with
           masterPtr := some ran.service
           point :=
             if ran.threw then .left (.exception none) else .condition },
          [.ran input.run ran.events])

/-- The main thread goes on to its next access of the run state. -/
def mainStep
    (context : ServiceContext Json) (settings : RunSettings)
    (loop : RunLoop) (input : MainInput) : RunLoop × List MainEvent :=
  match loop.point with
  | .condition =>
      (loop.goTo
        (if loop.runState = .stopping then .left .stopRequested
          else .firstLook), [])
  | .firstLook =>
      (loop.goTo
        (if loop.runState = .sigintReceived then .received
          else .secondLook), [])
  | .received => loop.stopJob input
  | .storeWaiting =>
      ({ loop with
         runState := .sigintWaiting
         sigintStart := input.now
         point := .body }, [.waitsFrom input.now])
  | .secondLook =>
      (loop.goTo
        (if loop.runState = .sigintWaiting then .waiting else .body), [])
  | .waiting => loop.wait input
  | .storeKafkaWait =>
      ({ loop with
         runState := .sigintKafkaWait
         point := .left .finished }, [])
  | .body => loop.body context settings input
  | .left reason =>
      (loop.goTo
        (.exited reason (decide (loop.runState = .sigintKafkaWait))), [])
  | .exited _ _ => (loop, [])
  | .uncaught _ => (loop, [])
  | .nullDereference => (loop, [])

def step
    (context : ServiceContext Json) (settings : RunSettings)
    (loop : RunLoop) : ScheduleInput → RunLoop × List MainEvent
  | .signal signal =>
      ({ loop with
         handlers :=
           loop.handlers ++ [signalHandler loop.runState signal] }, [])
  | .store handler =>
      match loop.handlers[handler]? with
      | none => (loop, [])
      | some runState =>
          ({ loop with
             runState
             handlers := loop.handlers.eraseIdx handler }, [])
  | .main input => loop.mainStep context settings input

end RunLoop

end KafkaToNexus
