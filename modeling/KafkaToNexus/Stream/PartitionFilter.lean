import KafkaToNexus.TimeUtility

/-!
# When to stop consuming a partition

`PartitionFilter` decides from the status of each poll whether consumption is
to end: after a forced stop, at the end of the partition or on a time-out once
the stop time has passed, or when polling has failed for too long.  The clock
is read in up to two places of one decision; each reading is an argument.
-/

namespace KafkaToNexus

/-- The outcome of polling a Kafka consumer. -/
inductive PollStatus where
  | message
  | error
  | endOfPartition
  | timedOut
deriving DecidableEq, Repr

namespace Stream

inductive PartitionState where
  | default
  | endOfPartition
  | error
  | timeout
deriving DecidableEq, Repr

structure PartitionFilter where
  forceStopRequested : Bool := false
  state : PartitionState := .default
  statusOccurrenceTime : TimePoint := 0
  stopTime : TimePoint
  stopLeeway : Duration
  timeLimit : Duration
deriving DecidableEq, Repr

namespace PartitionFilter

/-- The constructor. -/
def create
    (stopAtTime : TimePoint) (stopTimeLeeway timeLimit : Duration) :
    PartitionFilter :=
  { stopTime := backOffStopTime stopAtTime stopTimeLeeway
    stopLeeway := stopTimeLeeway
    timeLimit }

def setStopTime (filter : PartitionFilter) (stop : TimePoint) :
    PartitionFilter :=
  { filter with stopTime := stop }

def forceStop (filter : PartitionFilter) : PartitionFilter :=
  { filter with forceStopRequested := true }

def hasForceStopBeenRequested (filter : PartitionFilter) : Bool :=
  filter.forceStopRequested

def hasExceededTimeLimit
    (filter : PartitionFilter) (now : TimePoint) : Bool :=
  decide
    (TimePoint.add filter.statusOccurrenceTime filter.timeLimit < now)

def hasTopicTimedOut
    (filter : PartitionFilter) (now : TimePoint) : Bool :=
  filter.hasExceededTimeLimit now && decide (filter.state = .timeout)

/-- Only a change of state sets the time of the occurrence. -/
def updateStatusOccurrenceTime
    (filter : PartitionFilter) (comparisonState : PartitionState)
    (now : TimePoint) : PartitionFilter :=
  if filter.state ≠ comparisonState then
    { filter with state := comparisonState, statusOccurrenceTime := now }
  else
    filter

/-- The clock has passed the stop time and its leeway. -/
def hasPassedStopTime
    (filter : PartitionFilter) (now : TimePoint) : Bool :=
  decide (TimePoint.add filter.stopTime filter.stopLeeway < now)

/--
The decision about one poll.  `occurred` is the reading of the clock for the
occurrence of a new status, `now` the reading for the comparison after it.
-/
def shouldStopPartition
    (filter : PartitionFilter) (currentPollStatus : PollStatus)
    (occurred now : TimePoint) : PartitionFilter × Bool :=
  if filter.hasForceStopBeenRequested then
    (filter, true)
  else
    match currentPollStatus with
    | .message => ({ filter with state := .default }, false)
    | .endOfPartition =>
        ({ filter with state := .endOfPartition },
          filter.hasPassedStopTime now)
    | .timedOut =>
        (filter.updateStatusOccurrenceTime .timeout occurred,
          filter.hasPassedStopTime now)
    | .error =>
        let updated := filter.updateStatusOccurrenceTime .error occurred
        (updated, updated.hasExceededTimeLimit now)

/-- The fields of the stop logic that no poll changes. -/
theorem shouldStopPartition_settings
    (filter : PartitionFilter) (status : PollStatus)
    (occurred now : TimePoint) :
    let next := (filter.shouldStopPartition status occurred now).1
    next.forceStopRequested = filter.forceStopRequested ∧
      next.stopTime = filter.stopTime ∧
      next.stopLeeway = filter.stopLeeway ∧
      next.timeLimit = filter.timeLimit := by
  unfold shouldStopPartition updateStatusOccurrenceTime
  cases status <;> dsimp only <;> split <;> (try split) <;>
    exact ⟨rfl, rfl, rfl, rfl⟩

end PartitionFilter

end Stream

end KafkaToNexus
