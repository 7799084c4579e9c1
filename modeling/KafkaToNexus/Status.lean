import KafkaToNexus.JsonValue
import KafkaToNexus.TimeUtility

/-!
# The status of the service

The status of the current job and the reporter that publishes it, on the
default status topic or on that of the job.
-/

namespace KafkaToNexus.Status

open KafkaToNexus

inductive WorkerState where
  | idle
  | writing
deriving DecidableEq, Repr

structure JobStatusInfo where
  state : WorkerState := .idle
  jobId : String := "not_currently_writing"
  filename : String := ""
  startTime : TimePoint := 0
  stopTime : TimePoint := 0
deriving DecidableEq, Repr

/-- The JSON part of the status message, with what is known of the job. -/
def createJSONReport {Real : Type}
    (extra : List (String × JsonValue Real)) (currentStatus : JobStatusInfo) :
    JsonValue Real :=
  .object
    [("extra", .object extra),
      ("file_being_written", .string currentStatus.filename),
      ("job_id", .string currentStatus.jobId),
      ("start_time",
        .integer (.ofInt (TimePoint.toMilliSeconds currentStatus.startTime))),
      ("state",
        .string
          (match currentStatus.state with
          | .idle => "idle"
          | .writing => "writing")),
      ("stop_time",
        .integer (.ofInt (TimePoint.toMilliSeconds currentStatus.stopTime)))]

/-- The topics of the reporter. -/
structure StatusReporter where
  statusProducerTopic : String
  altStatusProducerTopic : Option String := none
  usingAlternativeStatusTopic : Bool := false
  /-- The topic to revert to is at hand while it is needed. -/
  alternative :
    usingAlternativeStatusTopic = true →
      altStatusProducerTopic.isSome = true := by decide
deriving DecidableEq, Repr

namespace StatusReporter

/-- The new reporter, and whether the constructor of the topic threw. -/
def useAlternativeStatusTopic
    (reporter : StatusReporter) (altTopicName : String)
    (constructorThrows : Bool) : StatusReporter × Bool :=
  if reporter.usingAlternativeStatusTopic then
    (reporter, false)
  else if constructorThrows then
    (reporter, true)
  else
    ({ statusProducerTopic := altTopicName
       altStatusProducerTopic := some reporter.statusProducerTopic
       usingAlternativeStatusTopic := true
       alternative := fun _ => rfl }, false)

def revertToDefaultStatusTopic (reporter : StatusReporter) : StatusReporter :=
  if inUse : reporter.usingAlternativeStatusTopic = true then
    { statusProducerTopic :=
        reporter.altStatusProducerTopic.get (reporter.alternative inUse)
      altStatusProducerTopic := some reporter.statusProducerTopic
      usingAlternativeStatusTopic := false
      alternative := fun contrary => nomatch contrary }
  else
    reporter

end StatusReporter

end KafkaToNexus.Status
