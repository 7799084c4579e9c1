import KafkaToNexus.Stream.PartitionFilter
import KafkaToNexus.Stream.SourceFilter
import Std.Data.TreeMap.Lemmas

/-!
# The consumer of one partition

A `Partition` owns one filter for each writer hash of its source map.  It polls
its consumer, counts what it gets, asks its `PartitionFilter` whether to go on
and passes every message that is a flatbuffer to the filters of its source.
A filter that has finished is destroyed; when none is left, or the stop time
has passed, the partition has finished.

`pollForMessage` is one task of the partition's executor.  Whether the
streamers are paused, what the consumer returns and what the clock says are
inputs of the task; the calls on the writer and whether the task queues the
next poll are outputs.
-/

namespace KafkaToNexus.Stream

open KafkaToNexus

variable {Dest : Type*}

/-- One entry of the map from sources to writer modules. -/
structure SrcDstKey (Dest : Type*) where
  srcHash : SrcHash
  writeHash : SrcHash
  destination : Dest
  acceptsRepeatedTimestamps : Bool
deriving DecidableEq, Repr

abbrev SrcToDst (Dest : Type*) := List (SrcDstKey Dest)

/-- The counters of a partition. -/
structure PartitionMetrics where
  kafkaTimeouts : Nat := 0
  kafkaErrors : Nat := 0
  messagesReceived : Nat := 0
  messagesProcessed : Nat := 0
  badOffsets : Nat := 0
  endOfPartition : Nat := 0
  flatbufferErrors : Nat := 0
  bufferTooSmallErrors : Nat := 0
  notValidFlatbufferErrors : Nat := 0
  unknownFlatbufferIdErrors : Nat := 0
  badFlatbufferTimestampErrors : Nat := 0
deriving DecidableEq, Repr

structure Partition (Dest : Type*) where
  metrics : PartitionMetrics := {}
  partitionTimeOutLogged : Bool := false
  hasFinished : Bool := false
  currentOffset : Int := 0
  stopTime : TimePoint
  stopTimeLeeway : Duration
  stopTester : PartitionFilter
  msgFilters : List (SrcHash × SourceFilter Dest)
deriving DecidableEq, Repr

/-- The readings of the clock that one poll may take, in their order. -/
structure PollClock where
  /-- Read for the time-out warning. -/
  checked : TimePoint
  /-- Read when the status has changed. -/
  occurred : TimePoint
  /-- Read for the decision to stop. -/
  now : TimePoint
deriving DecidableEq, Repr

/-- What one poll task finds outside of the partition. -/
structure PollInput where
  streamersPaused : Bool
  status : PollStatus
  message : Msg
  clock : PollClock
deriving DecidableEq, Repr

namespace Partition

/-! ## Construction -/

/-- The two maps that the constructor fills while it reads the source map. -/
structure FilterMaps (Dest : Type*) where
  tempFilterMap : Std.TreeMap SrcHash (SourceFilter Dest)
  writerToSourceHashMap : Std.TreeMap SrcHash SrcHash

def FilterMaps.empty : FilterMaps Dest :=
  ⟨∅, ∅⟩

/-- One iteration of the constructor's loop over the source map. -/
def FilterMaps.addEntry
    (start stop : TimePoint)
    (maps : FilterMaps Dest) (srcDestInfo : SrcDstKey Dest) :
    FilterMaps Dest :=
  let filter :=
    maps.tempFilterMap.getD srcDestInfo.writeHash
      (SourceFilter.create start stop srcDestInfo.acceptsRepeatedTimestamps)
  { tempFilterMap :=
      maps.tempFilterMap.insert srcDestInfo.writeHash
        (filter.addDestinationPtr srcDestInfo.destination)
    writerToSourceHashMap :=
      maps.writerToSourceHashMap.insert srcDestInfo.writeHash
        srcDestInfo.srcHash }

/-- The loop over the source map. -/
def buildFilterMaps
    (start stop : TimePoint) (map : SrcToDst Dest) : FilterMaps Dest :=
  map.foldl (FilterMaps.addEntry start stop) FilterMaps.empty

/-- The loop that moves the filters out of the temporary map, in its order. -/
def FilterMaps.toMsgFilters
    (maps : FilterMaps Dest) : List (SrcHash × SourceFilter Dest) :=
  maps.tempFilterMap.toList.map fun item =>
    (maps.writerToSourceHashMap.getD item.1 0, item.2)

/-- The constructor. -/
def create
    (map : SrcToDst Dest) (start stop : TimePoint)
    (stopLeeway kafkaErrorTimeout : Duration) : Partition Dest :=
  { stopTime := backOffStopTime stop stopLeeway
    stopTimeLeeway := stopLeeway
    stopTester := PartitionFilter.create stop stopLeeway kafkaErrorTimeout
    msgFilters := (buildFilterMaps start stop map).toMsgFilters }

/-- The events of the destructor: the remaining filters are destroyed. -/
def destroy (partition : Partition Dest) : List (SendEvent Dest) :=
  partition.msgFilters.flatMap fun item => item.2.destroy

/-! ## The tasks of the executor -/

def forceStop (partition : Partition Dest) : Partition Dest :=
  { partition with stopTester := partition.stopTester.forceStop }

/-- The task queued by `Partition::setStopTime`. -/
def applyStopTime
    (partition : Partition Dest) (stop : TimePoint) : Partition Dest :=
  { partition with
    stopTime := stop
    stopTester := partition.stopTester.setStopTime stop
    msgFilters :=
      partition.msgFilters.map fun item => (item.1, item.2.setStopTime stop) }

def hasStopBeenRequested (partition : Partition Dest) : Bool :=
  partition.stopTester.hasForceStopBeenRequested

/-- The new partition, and whether the time-out warning was logged. -/
def checkAndLogPartitionTimeOut
    (partition : Partition Dest) (now : TimePoint) :
    Partition Dest × Bool :=
  if partition.stopTester.hasTopicTimedOut now then
    if partition.partitionTimeOutLogged then
      (partition, false)
    else
      ({ partition with partitionTimeOutLogged := true }, true)
  else
    ({ partition with partitionTimeOutLogged := false }, false)

/-- The outcome of `shouldStopBasedOnPollStatus`. -/
structure StopDecision (Dest : Type*) where
  partition : Partition Dest
  /-- The time-out warning was logged. -/
  warned : Bool
  /-- The returned value. -/
  stopped : Bool
deriving DecidableEq, Repr

def shouldStopBasedOnPollStatus
    (partition : Partition Dest) (cStatus : PollStatus)
    (clock : PollClock) : StopDecision Dest :=
  let (partition, warned) :=
    partition.checkAndLogPartitionTimeOut clock.checked
  let (stopTester, stopped) :=
    partition.stopTester.shouldStopPartition cStatus clock.occurred clock.now
  { partition := { partition with stopTester }, warned, stopped }

/-- The counters of a message that is no flatbuffer. -/
def countFlatbufferError
    (metrics : PartitionMetrics) (failure : FlatbufferError) :
    PartitionMetrics :=
  let metrics :=
    { metrics with flatbufferErrors := metrics.flatbufferErrors + 1 }
  match failure with
  | .bufferTooSmall =>
      { metrics with
        bufferTooSmallErrors := metrics.bufferTooSmallErrors + 1 }
  | .invalidFlatbufferTimestamp =>
      { metrics with
        badFlatbufferTimestampErrors :=
          metrics.badFlatbufferTimestampErrors + 1 }
  | .unknownFlatbufferID =>
      { metrics with
        unknownFlatbufferIdErrors := metrics.unknownFlatbufferIdErrors + 1 }
  | .notValidFlatbuffer =>
      { metrics with
        notValidFlatbufferErrors := metrics.notValidFlatbufferErrors + 1 }
  | .stdException => metrics

/-- One filter's share of the loop that offers a message to every filter. -/
def offerMessage
    (fbMsg : FlatbufferMessage) (item : SrcHash × SourceFilter Dest) :
    (SrcHash × SourceFilter Dest) × List (SendEvent Dest) :=
  if item.1 = fbMsg.sourceNameIDHash then
    let result := item.2.filterMessage fbMsg
    ((item.1, result.filter), result.events)
  else
    (item, [])

/--
Offer a message to every filter, then destroy the filters that have finished.
Erasing them from the vector destroys them in the order of their positions.
-/
def filterAndErase
    (msgFilters : List (SrcHash × SourceFilter Dest))
    (fbMsg : FlatbufferMessage) :
    List (SrcHash × SourceFilter Dest) × List (SendEvent Dest) :=
  let offered := msgFilters.map (offerMessage fbMsg)
  let filters := offered.map (·.1)
  (filters.filter fun item => !item.2.hasFinished,
    offered.flatMap (·.2) ++
      (filters.filter fun item => item.2.hasFinished).flatMap
        fun item => item.2.destroy)

def processMessage
    (context : MessageContext) (partition : Partition Dest)
    (message : Msg) : Partition Dest × List (SendEvent Dest) :=
  let metrics := partition.metrics
  let metrics :=
    if partition.currentOffset ≠ 0 ∧
        partition.currentOffset + 1 ≠ message.metaData.offset then
      { metrics with badOffsets := metrics.badOffsets + 1 }
    else
      metrics
  let partition := { partition with currentOffset := message.metaData.offset }
  match FlatbufferMessage.ofKafkaMessage context message with
  | .error failure =>
      ({ partition with metrics := countFlatbufferError metrics failure }, [])
  | .ok fbMsg =>
      let metrics :=
        if partition.msgFilters.any
            (fun item => item.1 == fbMsg.sourceNameIDHash) then
          { metrics with messagesProcessed := metrics.messagesProcessed + 1 }
        else
          metrics
      let (msgFilters, events) := filterAndErase partition.msgFilters fbMsg
      ({ partition with metrics, msgFilters }, events)

/-- The counter of a poll status. -/
def countPollStatus
    (metrics : PartitionMetrics) : PollStatus → PartitionMetrics
  | .message =>
      { metrics with messagesReceived := metrics.messagesReceived + 1 }
  | .endOfPartition =>
      { metrics with endOfPartition := metrics.endOfPartition + 1 }
  | .timedOut => { metrics with kafkaTimeouts := metrics.kafkaTimeouts + 1 }
  | .error => { metrics with kafkaErrors := metrics.kafkaErrors + 1 }

/-- What one poll task leaves and does. -/
structure PollOutcome (Dest : Type*) where
  partition : Partition Dest
  /-- The consumer was polled. -/
  polled : Bool
  events : List (SendEvent Dest)
  /-- `addPollTask` was called. -/
  requeued : Bool
deriving DecidableEq, Repr

/-- The part of `pollForMessage` that follows the return of the poll. -/
def handlePoll
    (context : MessageContext) (partition : Partition Dest)
    (status : PollStatus) (message : Msg) (clock : PollClock) :
    PollOutcome Dest :=
  let partition :=
    { partition with metrics := countPollStatus partition.metrics status }
  let decision := partition.shouldStopBasedOnPollStatus status clock
  if decision.stopped then
    { partition := { decision.partition with hasFinished := true }
      polled := true, events := [], requeued := false }
  else if status = .message then
    let (partition, events) := processMessage context decision.partition message
    if partition.msgFilters.isEmpty then
      { partition := { partition with hasFinished := true }
        polled := true, events, requeued := false }
    else if TimePoint.add partition.stopTime partition.stopTimeLeeway <
        message.metaData.timestamp then
      { partition := { partition with hasFinished := true }
        polled := true, events, requeued := false }
    else
      { partition, polled := true, events, requeued := true }
  else
    { partition := decision.partition
      polled := true, events := [], requeued := true }

def pollForMessage
    (context : MessageContext) (partition : Partition Dest)
    (input : PollInput) : PollOutcome Dest :=
  if partition.hasStopBeenRequested then
    { partition := { partition with hasFinished := true }
      polled := false, events := [], requeued := false }
  else if input.streamersPaused then
    { partition, polled := false, events := [], requeued := true }
  else
    handlePoll context partition input.status input.message input.clock

/-! ## What a decision and a poll task can do -/

/-- The flag is set exactly when the topic is found to have timed out. -/
theorem checkAndLogPartitionTimeOut_eq
    (partition : Partition Dest) (now : TimePoint) :
    partition.checkAndLogPartitionTimeOut now =
      ({ partition with
          partitionTimeOutLogged := partition.stopTester.hasTopicTimedOut now },
        partition.stopTester.hasTopicTimedOut now &&
          !partition.partitionTimeOutLogged) := by
  unfold checkAndLogPartitionTimeOut
  cases timedOut : partition.stopTester.hasTopicTimedOut now <;>
    cases logged : partition.partitionTimeOutLogged <;>
      simp
  rw [← logged]

/-- A decision changes the flag and the stop logic and nothing else. -/
theorem shouldStopBasedOnPollStatus_eq
    (partition : Partition Dest) (status : PollStatus) (clock : PollClock) :
    partition.shouldStopBasedOnPollStatus status clock =
      { partition :=
          { partition with
            partitionTimeOutLogged :=
              partition.stopTester.hasTopicTimedOut clock.checked
            stopTester :=
              (partition.stopTester.shouldStopPartition status clock.occurred
                clock.now).1 }
        warned :=
          partition.stopTester.hasTopicTimedOut clock.checked &&
            !partition.partitionTimeOutLogged
        stopped :=
          (partition.stopTester.shouldStopPartition status clock.occurred
            clock.now).2 } := by
  simp [shouldStopBasedOnPollStatus, checkAndLogPartitionTimeOut_eq]

/-- Unless a stop was requested, a message does not stop the partition. -/
theorem message_not_stopped
    {partition : Partition Dest} (clock : PollClock)
    (free : partition.hasStopBeenRequested = false) :
    (partition.shouldStopBasedOnPollStatus .message clock).stopped = false := by
  have released :
      partition.stopTester.hasForceStopBeenRequested = false := free
  simp [shouldStopBasedOnPollStatus_eq, PartitionFilter.shouldStopPartition,
    released]

/-- The effect of a message on the filters, whether or not it is readable. -/
def offerPolled
    (context : MessageContext)
    (items : List (SrcHash × SourceFilter Dest)) (message : Msg) :
    List (SrcHash × SourceFilter Dest) × List (SendEvent Dest) :=
  match FlatbufferMessage.ofKafkaMessage context message with
  | .error _ => (items, [])
  | .ok fbMsg => filterAndErase items fbMsg

theorem processMessage_effect
    (context : MessageContext) (partition : Partition Dest) (message : Msg) :
    (processMessage context partition message).1.msgFilters =
        (offerPolled context partition.msgFilters message).1 ∧
      (processMessage context partition message).2 =
        (offerPolled context partition.msgFilters message).2 := by
  unfold processMessage offerPolled
  dsimp only
  split <;> exact ⟨rfl, rfl⟩

/-- Once the poll has returned the consumer has been polled. -/
theorem handlePoll_polled
    (context : MessageContext) (partition : Partition Dest)
    (status : PollStatus) (message : Msg) (clock : PollClock) :
    (handlePoll context partition status message clock).polled = true := by
  simp only [handlePoll]
  split
  · rfl
  · split
    · split
      · rfl
      · split <;> rfl
    · rfl

/-- A message that was polled is offered to the filters. -/
theorem handlePoll_message
    (context : MessageContext) {partition : Partition Dest}
    (message : Msg) (clock : PollClock)
    (free : partition.hasStopBeenRequested = false) :
    let outcome := handlePoll context partition .message message clock
    outcome.partition.msgFilters =
        (offerPolled context partition.msgFilters message).1 ∧
      outcome.events =
        (offerPolled context partition.msgFilters message).2 := by
  intro outcome
  let counted : Partition Dest :=
    { partition with metrics := countPollStatus partition.metrics .message }
  let decision := counted.shouldStopBasedOnPollStatus .message clock
  have goesOn : decision.stopped = false :=
    message_not_stopped clock free
  have same : decision.partition.msgFilters = partition.msgFilters := by
    simp [decision, shouldStopBasedOnPollStatus_eq, counted]
  have effect := processMessage_effect context decision.partition message
  rw [same] at effect
  have filters :
      outcome.partition.msgFilters =
        (processMessage context decision.partition message).1.msgFilters := by
    simp only [outcome, handlePoll]
    rw [if_neg (by simpa using goesOn), if_pos trivial]
    split
    · rfl
    · split <;> rfl
  have events :
      outcome.events =
        (processMessage context decision.partition message).2 := by
    simp only [outcome, handlePoll]
    rw [if_neg (by simpa using goesOn), if_pos trivial]
    split
    · rfl
    · split <;> rfl
  rw [filters, events]
  exact effect

/-- A poll that brings no message leaves the filters alone. -/
theorem handlePoll_other
    (context : MessageContext) (partition : Partition Dest)
    {status : PollStatus} (message : Msg) (clock : PollClock)
    (other : status ≠ .message) :
    let outcome := handlePoll context partition status message clock
    outcome.partition.msgFilters = partition.msgFilters ∧
      outcome.events = [] := by
  simp only [handlePoll, if_neg other]
  split <;> simp [shouldStopBasedOnPollStatus_eq]

/-- The stop settings of a partition, and whether a stop was requested. -/
def stopSettings (partition : Partition Dest) :
    Bool × TimePoint × Duration × TimePoint :=
  (partition.hasStopBeenRequested, partition.stopTime,
    partition.stopTimeLeeway, partition.stopTester.stopTime)

theorem processMessage_stopSettings
    (context : MessageContext) (partition : Partition Dest) (message : Msg) :
    (processMessage context partition message).1.stopSettings =
      partition.stopSettings := by
  unfold processMessage
  dsimp only
  split <;> rfl

theorem shouldStopBasedOnPollStatus_stopSettings
    (partition : Partition Dest) (status : PollStatus) (clock : PollClock) :
    (partition.shouldStopBasedOnPollStatus status
        clock).partition.stopSettings = partition.stopSettings := by
  rcases partition.stopTester.shouldStopPartition_settings status
      clock.occurred clock.now with ⟨forced, stopTime, _, _⟩
  rw [shouldStopBasedOnPollStatus_eq]
  simp only [stopSettings, hasStopBeenRequested,
    PartitionFilter.hasForceStopBeenRequested, forced, stopTime]

/-- No poll changes the stop settings. -/
theorem handlePoll_stopSettings
    (context : MessageContext) (partition : Partition Dest)
    (status : PollStatus) (message : Msg) (clock : PollClock) :
    (handlePoll context partition status message
        clock).partition.stopSettings = partition.stopSettings := by
  have decided :=
    shouldStopBasedOnPollStatus_stopSettings
      { partition with metrics := countPollStatus partition.metrics status }
      status clock
  simp only [handlePoll]
  split
  · exact decided
  · split
    · split
      · exact (processMessage_stopSettings context _ _).trans decided
      · split <;>
          exact (processMessage_stopSettings context _ _).trans decided
    · exact decided

theorem processMessage_hasFinished
    (context : MessageContext) (partition : Partition Dest) (message : Msg) :
    (processMessage context partition message).1.hasFinished =
      partition.hasFinished := by
  unfold processMessage
  dsimp only
  split <;> rfl

/-- A poll sets the flag exactly when the task does not queue the next one. -/
theorem handlePoll_hasFinished
    (context : MessageContext) (partition : Partition Dest)
    (status : PollStatus) (message : Msg) (clock : PollClock) :
    let outcome := handlePoll context partition status message clock
    outcome.partition.hasFinished =
      (partition.hasFinished || !outcome.requeued) := by
  have decided :
      (({ partition with
          metrics :=
            countPollStatus partition.metrics status }).shouldStopBasedOnPollStatus
        status clock).partition.hasFinished = partition.hasFinished := by
    rw [shouldStopBasedOnPollStatus_eq]
  simp only [handlePoll]
  split
  · simp
  · split
    · split
      · simp
      · split
        · simp
        · simp [processMessage_hasFinished, decided]
    · simp [decided]

/-! ## The stop times of the filters -/

/-- The filters that are left have the stop times that they had. -/
theorem filterAndErase_stop
    {items : List (SrcHash × SourceFilter Dest)} {fbMsg : FlatbufferMessage}
    {item : SrcHash × SourceFilter Dest}
    (member : item ∈ (filterAndErase items fbMsg).1) :
    ∃ old ∈ items, item.2.stop = old.2.stop := by
  have offered := (List.mem_filter.mp member).1
  rw [List.map_map] at offered
  rcases List.mem_map.mp offered with ⟨old, oldMember, rfl⟩
  refine ⟨old, oldMember, ?_⟩
  simp only [Function.comp_apply, offerMessage]
  split
  · exact old.2.filterMessage_stop fbMsg
  · rfl

theorem handlePoll_stop
    {context : MessageContext} {partition : Partition Dest}
    {status : PollStatus} {message : Msg} {clock : PollClock}
    {item : SrcHash × SourceFilter Dest}
    (member :
      item ∈ (handlePoll context partition status message
        clock).partition.msgFilters) :
    ∃ old ∈ partition.msgFilters, item.2.stop = old.2.stop := by
  let counted : Partition Dest :=
    { partition with metrics := countPollStatus partition.metrics status }
  let decision := counted.shouldStopBasedOnPollStatus status clock
  have same : decision.partition.msgFilters = partition.msgFilters := by
    simp [decision, counted, shouldStopBasedOnPollStatus_eq]
  have processed :
      ∀ item ∈ (processMessage context decision.partition
        message).1.msgFilters,
        ∃ old ∈ partition.msgFilters, item.2.stop = old.2.stop := by
    intro item processedMember
    rw [(processMessage_effect context decision.partition message).1,
      same] at processedMember
    unfold offerPolled at processedMember
    split at processedMember
    · exact ⟨item, processedMember, rfl⟩
    · exact filterAndErase_stop processedMember
  have unchanged :
      ∀ item ∈ decision.partition.msgFilters,
        ∃ old ∈ partition.msgFilters, item.2.stop = old.2.stop := by
    intro item sameMember
    rw [same] at sameMember
    exact ⟨item, sameMember, rfl⟩
  simp only [handlePoll] at member
  split at member
  · exact unchanged item member
  · split at member
    · split at member
      · exact processed item member
      · split at member <;> exact processed item member
    · exact unchanged item member

end Partition

/-! ## The filters that the constructor builds -/

/-- The entries of the map that share a writer hash. -/
def groupOf (map : SrcToDst Dest) (writeHash : SrcHash) : SrcToDst Dest :=
  map.filter fun entry => entry.writeHash == writeHash

theorem mem_groupOf
    {map : SrcToDst Dest} {writeHash : SrcHash} {entry : SrcDstKey Dest} :
    entry ∈ groupOf map writeHash ↔
      entry ∈ map ∧ entry.writeHash = writeHash := by
  simp [groupOf]

/--
The constructor keeps, for every writer hash, a filter with the destinations
of its entries in their order, and the source hash of the last of them.
-/
theorem buildFilterMaps_spec
    (start stop : TimePoint) (map : SrcToDst Dest) (writeHash : SrcHash) :
    let maps := Partition.buildFilterMaps start stop map
    let group := groupOf map writeHash
    maps.tempFilterMap[writeHash]? =
        group.head?.map (fun first =>
          (SourceFilter.create start stop
            first.acceptsRepeatedTimestamps).addDestinationPtrs
              (group.map (·.destination))) ∧
      maps.writerToSourceHashMap[writeHash]? =
        group.getLast?.map (·.srcHash) := by
  induction map using List.reverseRecOn with
  | nil => simp [Partition.buildFilterMaps, Partition.FilterMaps.empty, groupOf]
  | append_singleton map entry induction =>
      have extended :
          Partition.buildFilterMaps start stop (map ++ [entry]) =
            Partition.FilterMaps.addEntry start stop
              (Partition.buildFilterMaps start stop map) entry := by
        simp [Partition.buildFilterMaps]
      dsimp only at induction ⊢
      rw [extended]
      by_cases same : entry.writeHash = writeHash
      · subst same
        have sameGroup :
            groupOf (map ++ [entry]) entry.writeHash =
              groupOf map entry.writeHash ++ [entry] := by
          simp [groupOf]
        rw [sameGroup]
        simp only [Partition.FilterMaps.addEntry,
          Std.TreeMap.getElem?_insert_self, Std.TreeMap.getD_eq_getD_getElem?,
          induction.1, SourceFilter.addDestinationPtrs_eq]
        constructor
        · cases groupOf map entry.writeHash <;>
            simp [SourceFilter.create, SourceFilter.addDestinationPtr]
        · rw [List.getLast?_concat]
          rfl
      · have sameGroup :
            groupOf (map ++ [entry]) writeHash = groupOf map writeHash := by
          simp [groupOf, same]
        rw [sameGroup, ← induction.1, ← induction.2]
        simp [Partition.FilterMaps.addEntry, Std.TreeMap.getElem?_insert, same]

/-- Every filter that the constructor builds has the given stop time. -/
theorem Partition.stop_of_mem_create
    {map : SrcToDst Dest} {start stop : TimePoint}
    {leeway kafkaErrorTimeout : Duration}
    {item : SrcHash × SourceFilter Dest}
    (member :
      item ∈ (Partition.create map start stop leeway
        kafkaErrorTimeout).msgFilters) :
    item.2.stop = stop := by
  rcases List.mem_map.mp member with ⟨⟨writeHash, filter⟩, listed, rfl⟩
  have found := Std.TreeMap.mem_toList_iff_getElem?_eq_some.mp listed
  rw [(buildFilterMaps_spec start stop map writeHash).1] at found
  rcases Option.map_eq_some_iff.mp found with ⟨first, _, rfl⟩
  rw [SourceFilter.addDestinationPtrs_eq]
  rfl

end KafkaToNexus.Stream
