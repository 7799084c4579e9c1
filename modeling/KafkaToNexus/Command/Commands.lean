import KafkaToNexus.TimeUtility

/-!
# Start and stop commands

The flatbuffer tables of the two commands as their accessors show them, and the
functions that extract the commands from them.  A string field of a table may
be absent, in which case its accessor returns a null pointer.
-/

namespace KafkaToNexus.Command

open KafkaToNexus
open KafkaToNexus.Foundations

/-- The parts of a URI that the command system uses. -/
structure URI where
  hostPort : String
  topic : String
deriving DecidableEq, Repr

/-- The constructor that replaces the topic of a URI. -/
def URI.withTopic (template : URI) (newTopic : String) : URI :=
  { template with topic := newTopic }

/-- What a job is started with. -/
structure StartInfo where
  jobID : String := ""
  filename : String := ""
  nexusStructure : String := ""
  metadata : String := ""
  startTime : TimePoint := 0
  stopTime : TimePoint := TimePoint.max
  controlTopic : String := ""
deriving DecidableEq, Repr

/-- A start command. -/
structure StartMessage extends StartInfo where
  serviceID : String := ""
deriving DecidableEq, Repr

/-- A stop command. -/
structure StopMessage where
  jobID : String := ""
  commandID : String := ""
  stopTime : TimePoint := 0
  serviceID : String := ""
deriving DecidableEq, Repr

/-- The table of a start command. -/
structure RunStart where
  startTime : UInt64
  stopTime : UInt64
  jobId : Option String
  nexusStructure : Option String
  filename : Option String
  serviceId : Option String
  metadata : Option String
  controlTopic : Option String
deriving DecidableEq, Repr

/-- The table of a stop command. -/
structure RunStop where
  stopTime : UInt64
  jobId : Option String
  serviceId : Option String
  commandId : Option String
deriving DecidableEq, Repr

namespace Parser

/-- The field is absent or empty. -/
def isMissing (field : Option String) : Bool :=
  match field with
  | none => true
  | some text => text.isEmpty

/-- An unsigned number of milliseconds as a time point. -/
def timeOfMilliseconds (count : UInt64) : TimePoint :=
  TimePoint.ofMilliseconds (SignedWord.wrap 64 count.toNat)

/-- The text of all errors, empty when no required field is missing. -/
def requiredFieldErrors (runStart : RunStart) : String :=
  (if isMissing runStart.jobId then
    "Job ID missing, this field is required\n" else "") ++
  (if isMissing runStart.nexusStructure then
    "NeXus Structure missing, this field is required\n" else "") ++
  (if isMissing runStart.filename then
    "Filename missing, this field is required\n" else "")

/-- The command, or the text of the exception. -/
def extractStartMessage
    (runStart : RunStart) (defaultStartTime : TimePoint) :
    Except String StartMessage :=
  let errors := requiredFieldErrors runStart
  if !errors.isEmpty then
    .error ("Errors encountered parsing run start message:\n" ++ errors)
  else
    .ok
      { startTime :=
          if 0 < runStart.startTime then timeOfMilliseconds runStart.startTime
          else defaultStartTime
        stopTime :=
          if runStart.stopTime ≠ 0 then timeOfMilliseconds runStart.stopTime
          else TimePoint.max
        nexusStructure := runStart.nexusStructure.getD ""
        jobID := runStart.jobId.getD ""
        serviceID := runStart.serviceId.getD ""
        filename := runStart.filename.getD ""
        metadata := runStart.metadata.getD ""
        controlTopic := runStart.controlTopic.getD "" }

/-- How the extraction of a stop command may fail. -/
inductive StopExtractError where
  | runtimeError (what : String)
  /-- The accessor of an absent field was dereferenced. -/
  | nullDereference
deriving DecidableEq, Repr

def extractStopMessage
    (runStop : RunStop) : Except StopExtractError StopMessage :=
  if isMissing runStop.jobId then
    .error (.runtimeError
      ("Errors encountered parsing run stop message:\n" ++
        "Job ID missing, this field is required"))
  else
    match runStop.commandId with
    | none => .error .nullDereference
    | some commandID =>
        .ok
          { jobID := runStop.jobId.getD ""
            stopTime := timeOfMilliseconds runStop.stopTime
            commandID
            serviceID := runStop.serviceId.getD "" }

end Parser

end KafkaToNexus.Command
