import KafkaToNexus.Stream.PartitionInterleavings
import KafkaToNexus.Stream.StopTimeRange
import KafkaToNexus.Stream.Topic

/-!
# What a partition covers of its log

A topic looks up the offset of the first message that is not older than the
start time, less a leeway, and a partition reads from there until a message or
the clock is past the stop time and its own leeway.  The two leeways are for
sources whose timestamps differ from those of the broker.

When the differences are within the leeways, nothing that lies between start
and stop in the log of a source is missed, although the partition has read
neither the beginning nor the end of the log.
-/

namespace KafkaToNexus.Stream.LogCoverage

open KafkaToNexus
open KafkaToNexus.Foundations
open KafkaToNexus.Foundations.SignedWord
open KafkaToNexus.Foundations.Windowing
open KafkaToNexus.Stream.ChangingStopTimes
open KafkaToNexus.Stream.PartitionDelivery
open KafkaToNexus.Stream.PartitionInterleavings
open KafkaToNexus.Stream.PollChain
open KafkaToNexus.Stream.StopTimeRange hiding sampleContext

variable {Thread Dest : Type*}

/-! ## Where consumption begins -/

/--
The time in milliseconds for which a topic asks the broker for the offset to
begin with.
-/
def usedTime (startConsumeTime : TimePoint) (startLeeway : Duration) : Int :=
  TimePoint.toMilliSeconds (TimePoint.sub startConsumeTime startLeeway)

/--
The broker has returned an offset for a time in milliseconds: every message
before the offset has an earlier timestamp.
-/
def FoundOffset (log : List Msg) (time : Int) (offset : Nat) : Prop :=
  ∀ message ∈ log.take offset, message.metaData.timestampCount < time

instance (log : List Msg) (time : Int) (offset : Nat) :
    Decidable (FoundOffset log time offset) :=
  inferInstanceAs (Decidable (∀ _ ∈ _, _))

/-- An offset as a place in a log, where a negative one stands for its end. -/
def placeInLog (log : List Msg) (offset : Int) : Nat :=
  if offset < 0 then log.length else offset.toNat

/-- The broker answers a question with offsets that it found in its logs. -/
def AnswersFrom
    (logs : Int → List Msg) (query : Topic.OffsetQuery)
    (partitionOffsets : List (Int × Int)) : Prop :=
  ∀ entry ∈ partitionOffsets,
    FoundOffset (logs entry.1) query.usedTime
      (placeInLog (logs entry.1) entry.2)

/--
The task that creates the partitions of a topic gets the offsets that the
broker has found for the start time, less its leeway.
-/
theorem getOffsetsForPartitions_found
    {logs : Int → List Msg} {topic : Topic Dest} {reset : Bool}
    {partitions : List Int} {partitionOffsets : List (Int × Int)}
    (answers :
      AnswersFrom logs (topic.offsetQuery reset partitions) partitionOffsets)
    (now : TimePoint) :
    let next :=
      topic.getOffsetsForPartitions reset partitions
        (.found partitionOffsets) now
    next.executor.taskQueue =
        topic.executor.taskQueue ++
          [⟨topic.self, .createStreams partitionOffsets⟩] ∧
      ∀ entry ∈ partitionOffsets,
        FoundOffset (logs entry.1)
          (usedTime topic.startConsumeTime topic.startLeeway)
          (placeInLog (logs entry.1) entry.2) := by
  refine ⟨?_, answers⟩
  cases reset <;> rfl

/--
The timestamps in the log of a partition.  Those of the broker do not decrease,
nor do those of the source, which are at most the first leeway later and the
second one earlier than those of the broker.
-/
structure PunctualLog
    (context : MessageContext) (hash : SrcHash)
    (startLeeway stopLeeway : Duration) (log : List Msg) : Prop where
  fits :
    ∀ message ∈ log,
      InRange 64 (message.metaData.timestampCount * 1000000)
  appended :
    log.Pairwise fun message later =>
      message.metaData.timestampCount ≤ later.metaData.timestampCount
  ordered :
    (messagesOfSource context hash log).Pairwise fun msg later =>
      msg.timestamp ≤ later.timestamp
  notAhead :
    ∀ message ∈ log, ∀ fbMsg ∈ messageOfSource context hash message,
      messageTime fbMsg ≤ message.metaData.timestamp + startLeeway
  notBehind :
    ∀ message ∈ log, ∀ fbMsg ∈ messageOfSource context hash message,
      message.metaData.timestamp ≤ messageTime fbMsg + stopLeeway

/-- A message before the offset is from before the start time. -/
theorem early_of_before_offset
    {context : MessageContext} {hash : SrcHash}
    {start : TimePoint} {startLeeway stopLeeway : Duration}
    {log : List Msg} {offset : Nat}
    (punctual : PunctualLog context hash startLeeway stopLeeway log)
    (fits : InRange 64 (start - startLeeway))
    (found : FoundOffset log (usedTime start startLeeway) offset)
    {message : Msg} (before : message ∈ log.take offset)
    {fbMsg : FlatbufferMessage}
    (own : messageOfSource context hash message = some fbMsg) :
    isEarly start fbMsg = true := by
  have member := List.mem_of_mem_take before
  have earlier := found message before
  have time : message.metaData.timestamp =
      message.metaData.timestampCount * 1000000 :=
    wrap_of_inRange (punctual.fits message member)
  have ahead := punctual.notAhead message member fbMsg own
  have lower := TimePoint.milliseconds_lt_of_lt_toMilliSeconds earlier
  rw [TimePoint.sub, wrap_of_inRange fits] at lower
  rw [time] at ahead
  exact decide_eq_true (Int.lt_of_le_of_lt ahead (by omega))

/-! ## Selecting from a log -/

/-- The message lies between the start and the stop time. -/
def isInside (start stop : TimePoint) (msg : FlatbufferMessage) : Bool :=
  !isEarly start msg && !isPast stop msg

/-- What lies between start and stop in the log of one source. -/
def insideOfLog
    (context : MessageContext) (hash : SrcHash)
    (start stop : TimePoint) (acceptsRepeated : Bool)
    (log : List Msg) : List FlatbufferMessage :=
  (withoutRepeats acceptsRepeated (messagesOfSource context hash log)).filter
    (isInside start stop)

/-- Whether a message is inside depends on its timestamp only. -/
def timestampInside (start stop : TimePoint) (timestamp : Int) : Bool :=
  !decide (TimePoint.ofMicrosecondCast timestamp < start) &&
    !decide (stop < TimePoint.ofMicrosecondCast timestamp)

theorem withoutRepeats_sublist
    (acceptsRepeated : Bool) (msgs : List FlatbufferMessage) :
    List.Sublist (withoutRepeats acceptsRepeated msgs) msgs := by
  unfold withoutRepeats
  split
  · exact List.Sublist.refl msgs
  · exact dropRepeats_sublist FlatbufferMessage.timestamp msgs

/-- Selecting the messages inside commutes with dropping repeats. -/
theorem filter_withoutRepeats
    (start stop : TimePoint) (acceptsRepeated : Bool)
    {source : List FlatbufferMessage}
    (ordered :
      source.Pairwise fun msg later => msg.timestamp ≤ later.timestamp) :
    (withoutRepeats acceptsRepeated source).filter (isInside start stop) =
      withoutRepeats acceptsRepeated
        (source.filter (isInside start stop)) := by
  unfold withoutRepeats
  split
  · rfl
  · exact filter_dropRepeats (timestampInside start stop) ordered

/-- A part of a log without anything inside can be left out. -/
theorem insideOfLog_of_outside
    {context : MessageContext} {hash : SrcHash} {start stop : TimePoint}
    (acceptsRepeated : Bool) {before middle after : List Msg}
    (ordered :
      (messagesOfSource context hash (before ++ middle ++ after)).Pairwise
        fun msg later => msg.timestamp ≤ later.timestamp)
    (early :
      ∀ msg ∈ messagesOfSource context hash before, isEarly start msg = true)
    (past :
      ∀ msg ∈ messagesOfSource context hash after, isPast stop msg = true) :
    insideOfLog context hash start stop acceptsRepeated
        (before ++ middle ++ after) =
      insideOfLog context hash start stop acceptsRepeated middle := by
  unfold messagesOfSource at ordered early past
  unfold insideOfLog messagesOfSource
  rw [List.filterMap_append, List.filterMap_append] at ordered ⊢
  have middleOrdered :=
    (List.pairwise_append.mp (List.pairwise_append.mp ordered).1).2.1
  rw [filter_withoutRepeats start stop acceptsRepeated ordered,
    filter_withoutRepeats start stop acceptsRepeated middleOrdered,
    List.filter_append, List.filter_append]
  have noneBefore :
      (before.filterMap (messageOfSource context hash)).filter
        (isInside start stop) = [] := by
    rw [List.filter_eq_nil_iff]
    intro msg member
    simp [isInside, early msg member]
  have noneAfter :
      (after.filterMap (messageOfSource context hash)).filter
        (isInside start stop) = [] := by
    rw [List.filter_eq_nil_iff]
    intro msg member
    simp [isInside, past msg member]
  rw [noneBefore, noneAfter, List.nil_append, List.append_nil]

/-- The messages inside a log, with at most one around them on each side. -/
def AroundInside
    (start stop : TimePoint)
    (inside delivered : List FlatbufferMessage) : Prop :=
  ∃ before after,
    delivered = before ++ inside ++ after ∧
      before.length ≤ 1 ∧ (∀ msg ∈ before, isEarly start msg = true) ∧
      after.length ≤ 1 ∧ ∀ msg ∈ after, isPast stop msg = true

theorem aroundInside_window
    (context : MessageContext) (hash : SrcHash) (start stop : TimePoint)
    (acceptsRepeated : Bool) {log : List Msg}
    (ordered :
      (messagesOfSource context hash log).Pairwise fun msg later =>
        msg.timestamp ≤ later.timestamp) :
    AroundInside start stop
      (insideOfLog context hash start stop acceptsRepeated log)
      (window (isEarly start) (isPast stop)
        (withoutRepeats acceptsRepeated
          (messagesOfSource context hash log))) := by
  have fresh :
      (withoutRepeats acceptsRepeated
          (messagesOfSource context hash log)).Pairwise fun msg later =>
        messageTime msg ≤ messageTime later := by
    refine (ordered.sublist ?_).imp fun {msg later} lower =>
      TimePoint.ofMicrosecondCast_le_ofMicrosecondCast lower
    exact withoutRepeats_sublist acceptsRepeated _
  refine window_around_inside (fresh.imp ?_) (fresh.imp ?_)
  · intro msg later lower laterEarly
    exact decide_eq_true (lower.trans_lt (of_decide_eq_true laterEarly))
  · intro msg later lower past
    exact decide_eq_true ((of_decide_eq_true past).trans_le lower)

/-! ## How consumption ends -/

/-- A poll whose outcome may end the consumption of a partition. -/
inductive EndedBy (limit : Int) (poll : PollInput) : Prop where
  | message :
      poll.status = .message → limit < poll.message.metaData.timestamp →
        EndedBy limit poll
  | endOfPartition :
      poll.status = .endOfPartition → limit < poll.clock.now →
        EndedBy limit poll
  | timedOut : poll.status = .timedOut → EndedBy limit poll
  | error : poll.status = .error → EndedBy limit poll

/-- What the poll was like after which the partition has finished. -/
theorem endedBy_of_hasFinished
    {partition : Partition Dest} {stop leeway : Int}
    (has : HasStop partition stop leeway)
    (fits : InRange 64 (stop + leeway)) (context : MessageContext)
    (free : partition.hasStopBeenRequested = false)
    (notFinished : partition.hasFinished = false) {poll : PollInput}
    (running : poll.streamersPaused = false)
    (finished :
      (partition.pollForMessage context poll).partition.hasFinished = true) :
    (partition.pollForMessage context poll).partition.msgFilters = [] ∨
      EndedBy (stop + leeway) poll := by
  have stops : (partition.pollForMessage context poll).requeued = false := by
    have flag :=
      partition.handlePoll_hasFinished context poll.status poll.message
        poll.clock
    rw [Partition.pollForMessage, free, running] at finished ⊢
    simp only [Bool.false_eq_true, if_false] at finished ⊢
    dsimp only at flag
    rw [notFinished, finished, Bool.false_or] at flag
    simpa using flag.symm
  have compares := has.comparesExactly fits context
  cases status : poll.status with
  | message =>
      by_cases none :
          (partition.pollForMessage context poll).partition.msgFilters = []
      · exact .inl none
      · exact .inr (.message status
          ((compares.timestamp poll free running status none).mp stops))
  | endOfPartition =>
      exact .inr (.endOfPartition status
        ((compares.clock poll free running (.inl status)).mp stops))
  | timedOut => exact .inr (.timedOut status)
  | error => exact .inr (.error status)

/-! ## Executions without changes of the stop time -/

/-- The polls of an execution that have returned. -/
def pollsOf (labels : List (PartitionLabel Thread Dest)) : List PollInput :=
  labels.filterMap fun
    | .pollReturned status message clock =>
        some ⟨false, status, message, clock⟩
    | _ => none

/-- The messages that were polled. -/
def messagesOf (polls : List PollInput) : List Msg :=
  polls.filterMap fun poll =>
    if poll.status = .message then some poll.message else none

theorem pollsOf_append (first second : List (PartitionLabel Thread Dest)) :
    pollsOf (first ++ second) = pollsOf first ++ pollsOf second :=
  List.filterMap_append

theorem messagesOf_append (first second : List PollInput) :
    messagesOf (first ++ second) = messagesOf first ++ messagesOf second :=
  List.filterMap_append

/-- The task of a stop or of a new stop time is carried out. -/
def changesStop : PartitionLabel Thread Dest → Bool
  | .forceStop => true
  | .applyStopTime _ => true
  | _ => false

/-- No stop and no new stop time has reached the partition. -/
def Undisturbed (labels : List (PartitionLabel Thread Dest)) : Prop :=
  ∀ label ∈ labels, changesStop label = false

instance (labels : List (PartitionLabel Thread Dest)) :
    Decidable (Undisturbed labels) :=
  inferInstanceAs (Decidable (∀ _ ∈ _, _))

theorem Undisturbed.of_concat
    {labels : List (PartitionLabel Thread Dest)}
    {label : PartitionLabel Thread Dest}
    (undisturbed : Undisturbed (labels ++ [label])) :
    Undisturbed labels ∧ changesStop label = false :=
  ⟨fun earlier member =>
      undisturbed earlier (List.mem_append_left _ member),
    undisturbed label (by simp)⟩

/-- All messages are polled under the one stop time. -/
theorem pollHistory_of_undisturbed
    (stop : TimePoint) {labels : List (PartitionLabel Thread Dest)}
    (undisturbed : Undisturbed labels) :
    pollHistory stop labels =
      ⟨stop, (messagesOf (pollsOf labels)).map (stop, ·)⟩ := by
  induction labels using List.reverseRecOn with
  | nil => rfl
  | append_singleton labels label induction =>
      rcases undisturbed.of_concat with ⟨before, quiet⟩
      rw [pollHistory_concat, induction before, pollsOf_append,
        messagesOf_append, List.map_append]
      cases label with
      | forceStop => cases quiet
      | applyStopTime _ => cases quiet
      | pollReturned status message clock =>
          cases status with
          | message => rfl
          | _ => exact congrArg (PollHistory.mk stop) (List.append_nil _).symm
      | _ => exact congrArg (PollHistory.mk stop) (List.append_nil _).symm

/-- A step is no turn, or one of the four that are. -/
theorem turnOf_cases (label : PartitionLabel Thread Dest) :
    (turnOf label = [] ∧ pollsOf [label] = []) ∨
      changesStop label = true ∨ label = .seeStop ∨
      ∃ status message clock, label = .pollReturned status message clock := by
  cases label with
  | forceStop => exact .inr (.inl rfl)
  | applyStopTime _ => exact .inr (.inl rfl)
  | seeStop => exact .inr (.inr (.inl rfl))
  | pollReturned status message clock =>
      exact .inr (.inr (.inr ⟨status, message, clock, rfl⟩))
  | _ => exact .inl ⟨rfl, rfl⟩

/-- A partition that reads on under one stop time, or has ended to. -/
structure Reading
    (stop leeway : Int) (polls : List PollInput)
    (timed : TimedPartition Dest) : Prop where
  told : timed.stop = stop
  has : HasStop timed.partition stop leeway
  free : timed.partition.hasStopBeenRequested = false
  ended :
    timed.partition.hasFinished = true →
      ∃ poll, polls.getLast? = some poll ∧
        (timed.partition.msgFilters = [] ∨ EndedBy (stop + leeway) poll)

theorem Reading.poll
    {stop leeway : Int} {polls : List PollInput} {timed : TimedPartition Dest}
    (reading : Reading stop leeway polls timed)
    (fits : InRange 64 (stop + leeway)) (context : MessageContext)
    (notFinished : timed.partition.hasFinished = false) {poll : PollInput}
    (running : poll.streamersPaused = false) :
    Reading stop leeway (polls ++ [poll])
      (turn context timed (.poll poll)).1 := by
  refine ⟨reading.told, reading.has.pollForMessage context poll, ?_,
    fun finished => ?_⟩
  · change
      (timed.partition.pollForMessage context
        poll).partition.hasStopBeenRequested = false
    rw [Partition.pollForMessage, reading.free, running]
    exact
      (hasStopBeenRequested_handlePoll timed.partition _ _ _).trans
        reading.free
  · exact ⟨poll, List.getLast?_concat,
      endedBy_of_hasFinished reading.has fits context reading.free notFinished
        running finished⟩

variable [DecidableEq Thread] {context : MessageContext}

omit [DecidableEq Thread] in
theorem sequentialRun_turn
    (created : TimedPartition Dest)
    (labels : List (PartitionLabel Thread Dest))
    {label : PartitionLabel Thread Dest} {taken : PartitionTurn}
    (isTurn : turnOf label = [taken]) :
    (sequentialRun context created (labels ++ [label])).1 =
      (turn context (sequentialRun context created labels).1 taken).1 := by
  rw [sequentialRun_concat, turnsTaken, isTurn]
  rfl

/-- The sequential run stands where the worker is inside of a task. -/
theorem sequentialRun_of_running
    {self : Thread} {created : TimedPartition Dest}
    {labels : List (PartitionLabel Thread Dest)}
    {node : RunningPartition Thread Dest} {task : PartitionTask Dest}
    (run :
      Execution (RunningPartition.Step context)
        (.ofPartition self created.partition) labels node)
    (running : node.executor.worker = .running task)
    (other : isForwarding task = false) :
    (sequentialRun context created labels).1.partition = node.partition := by
  rcases (followed self created run).phase with working | leaving
  · rw [working.state]
    exact (settled_of_running running other).1
  · have exited := leaving.exited
    rw [running] at exited
    cases exited

/-- An undisturbed execution that starts its partition once. -/
theorem reading_run
    (self : Thread) {created : TimedPartition Dest} {stop leeway : Int}
    (fits : InRange 64 (stop + leeway))
    (new : Reading stop leeway [] created)
    (notFinished : created.partition.hasFinished = false)
    {labels : List (PartitionLabel Thread Dest)}
    {node : RunningPartition Thread Dest}
    (run :
      Execution (RunningPartition.Step context)
        (.ofPartition self created.partition) labels node)
    (startedOnce : starts labels ≤ 1) (undisturbed : Undisturbed labels) :
    Reading stop leeway (pollsOf labels)
      (sequentialRun context created labels).1 := by
  induction run with
  | refl => exact new
  | @snoc labels node next label before taken induction =>
      rcases undisturbed.of_concat with ⟨quietBefore, quiet⟩
      have counted :
          starts (labels ++ [label]) =
            starts labels + (isStart label).toNat :=
        countP_concat isStart labels label
      have fewer : starts labels ≤ 1 := by omega
      have reading := induction fewer quietBefore
      rcases turnOf_cases label with
        ⟨noTurn, noPoll⟩ | disturbs | rfl | ⟨status, message, clock, rfl⟩
      · rw [pollsOf_append, noPoll, List.append_nil,
          sequentialRun_quiet created labels noTurn]
        exact reading
      · rw [quiet] at disturbs
        cases disturbs
      · cases taken with
        | seeStop running requested =>
            have free := reading.free
            rw [sequentialRun_of_running before running rfl,
              requested] at free
            cases free
      · cases taken with
        | pollReturned _ _ _ running =>
            have same := sequentialRun_of_running before running rfl
            have alone :
                chainLength (.ofPartition self created.partition) = 0 := by
              change 0 + 0 + created.partition.hasFinished.toNat = 0
              rw [notFinished]
              rfl
            have length := chainLength_run before (by omega)
            have going :=
              (alone_of_running running rfl (by omega)).2
            rw [← same] at going
            rw [pollsOf_append, sequentialRun_turn created labels rfl]
            exact reading.poll fits context going rfl

/-! ## Reading on -/

/-- A poll that returns a message. -/
def readTurn (message : Msg) : PartitionTurn :=
  .poll ⟨false, .message, message, ⟨0, 0, 0⟩⟩

omit [DecidableEq Thread] in
theorem polledInTurns_append
    (timed : TimedPartition Dest) (first second : List PartitionTurn) :
    polledInTurns context timed (first ++ second) =
      polledInTurns context timed first ++
        polledInTurns context (Mealy.run (turn context) timed first).1
          second := by
  rw [polledInTurns, Mealy.run_append, timedPolledOf_append]
  rfl

/-- A partition that is not told to stop gets all that it polls. -/
theorem polledInTurns_readTurn
    {timed : TimedPartition Dest}
    (free : timed.partition.hasStopBeenRequested = false)
    (messages : List Msg) :
    polledInTurns context timed (messages.map readTurn) =
      messages.map (timed.stop, ·) := by
  induction messages generalizing timed with
  | nil => rfl
  | cons message rest induction =>
      let outcome :=
        timed.partition.handlePoll context .message message ⟨0, 0, 0⟩
      have next : outcome.partition.hasStopBeenRequested = false :=
        (hasStopBeenRequested_handlePoll timed.partition _ _ _).trans free
      have whole :
          timed.partition.pollForMessage context
              ⟨false, .message, message, ⟨0, 0, 0⟩⟩ = outcome := by
        simp [Partition.pollForMessage, free, outcome]
      have polled : outcome.polled = true :=
        timed.partition.handlePoll_polled context _ _ _
      rw [List.map_cons, readTurn, polledInTurns_poll, whole,
        @induction ⟨timed.stop, outcome.partition⟩ next]
      simp [polledMessage, polled]

variable [DecidableEq Dest]

omit [DecidableEq Thread] in
/-- Without filters nothing more is delivered. -/
theorem deliveredInTurns_append_of_noFilters
    (destination : Dest) (timed : TimedPartition Dest)
    {turns : List PartitionTurn} (more : List PartitionTurn)
    (none :
      (Mealy.run (turn context) timed turns).1.partition.msgFilters = []) :
    deliveredInTurns context destination timed (turns ++ more) =
      deliveredInTurns context destination timed turns := by
  have unrouted :
      Unrouted destination
        (Mealy.run (turn context) timed turns).1.partition.msgFilters := by
    rw [none]
    intro item member
    cases member
  have later :=
    Unrouted.deliveredInTurns context (Mealy.run (turn context) timed turns).1
      unrouted more
  have destroyed :
      (Mealy.run (turn context) timed turns).1.partition.destroy = [] := by
    rw [Partition.destroy, none]
    rfl
  rw [deliveredInTurns] at later ⊢
  rw [Mealy.run_append, timedSentOf_append, List.append_assoc,
    deliveredTo_append, later, List.append_nil, deliveredInTurns]
  rw [destroyed, List.append_nil]

/-- The selection from messages that were polled under one stop time. -/
theorem timedSelection_map
    (start stop : TimePoint) (acceptsRepeated : Bool) (hash : SrcHash)
    (messages : List Msg) :
    timedSelection start acceptsRepeated
        (timedMessagesOfSource context hash (messages.map (stop, ·))) =
      window (isEarly start) (isPast stop)
        (withoutRepeats acceptsRepeated
          (messagesOfSource context hash messages)) := by
  have source :
      timedMessagesOfSource context hash (messages.map (stop, ·)) =
        (messagesOfSource context hash messages).map (stop, ·) := by
    rw [timedMessagesOfSource, messagesOfSource, List.filterMap_map,
      List.map_filterMap]
    rfl
  have fresh (source : List FlatbufferMessage) :
      timedWithoutRepeats acceptsRepeated (source.map (stop, ·)) =
        (withoutRepeats acceptsRepeated source).map (stop, ·) := by
    unfold timedWithoutRepeats withoutRepeats
    split
    · rfl
    · exact dropRepeats_map _ _ source
  rw [source, timedSelection, fresh, window_map, List.map_map]
  exact List.map_id _

/-! ## The coverage theorem -/

/-- The start and stop time leave room for their leeways. -/
structure LeewaysFit
    (start stop startLeeway stopLeeway : Int) : Prop where
  startFits : InRange 64 (start - startLeeway)
  stopNotNegative : 0 ≤ stop
  leewayNotNegative : 0 ≤ stopLeeway
  room : stop + stopLeeway < TimePoint.max

omit [DecidableEq Dest] in
/-- A new partition keeps its stop time and has not finished. -/
theorem reading_create
    (map : SrcToDst Dest) {start stop startLeeway stopLeeway : Int}
    (kafkaErrorTimeout : Duration)
    (fit : LeewaysFit start stop startLeeway stopLeeway) :
    InRange 64 (stop + stopLeeway) ∧
      Reading stop stopLeeway []
        ⟨stop, Partition.create map start stop stopLeeway
          kafkaErrorTimeout⟩ := by
  rcases fit with ⟨_, notNegative, leewayNotNegative, room⟩
  have below : stop + stopLeeway < 2 ^ 63 - 1 := room
  have stopFits : InRange 64 stop := by
    constructor <;> omega
  have leewayFits : InRange 64 stopLeeway := by
    constructor <;> omega
  have kept : backOffStopTime stop stopLeeway = stop := by
    rw [backOffStopTime_eq_backedOff stopFits leewayFits notNegative
      leewayNotNegative, backedOff, if_neg]
    change ¬ 2 ^ 63 - 1 - stop ≤ stopLeeway
    omega
  refine ⟨by constructor <;> omega, rfl, ?_, rfl, fun finished => ?_⟩
  · have has :=
      hasStop_create map start stop stopLeeway kafkaErrorTimeout
    rw [kept] at has
    exact has
  · cases finished

/--
The last poll returned a message, or the end of the partition and whatever is
appended to the log after it has a later timestamp.
-/
def EndsOnLog (poll : PollInput) (remaining : List Msg) : Prop :=
  poll.status = .message ∨
    poll.status = .endOfPartition ∧
      ∀ message ∈ remaining, poll.clock.now ≤ message.metaData.timestamp

instance (poll : PollInput) (remaining : List Msg) :
    Decidable (EndsOnLog poll remaining) :=
  inferInstanceAs (Decidable (_ ∨ _ ∧ _))

omit [DecidableEq Dest] in
/-- What a partition has not read when a late poll ends its consumption. -/
theorem past_of_endedBy
    {hash : SrcHash} {stop : TimePoint} {startLeeway stopLeeway : Duration}
    {log remaining : List Msg} {offset : Nat} {polls : List PollInput}
    {poll : PollInput}
    (punctual : PunctualLog context hash startLeeway stopLeeway log)
    (reads : log.drop offset = messagesOf polls ++ remaining)
    (last : polls.getLast? = some poll)
    (ends : EndsOnLog poll remaining)
    (ended : EndedBy (stop + stopLeeway) poll) :
    ∀ msg ∈ messagesOfSource context hash remaining,
      isPast stop msg = true := by
  have suffix : ∀ message ∈ remaining, message ∈ log := by
    intro message member
    apply List.mem_of_mem_drop (i := offset)
    rw [reads]
    exact List.mem_append_right _ member
  have late :
      ∀ message ∈ remaining,
        stop + stopLeeway < message.metaData.timestamp := by
    cases ended with
    | message isMessage passed =>
        rcases List.getLast?_eq_some_iff.mp last with ⟨earlier, rfl⟩
        have lastMessage : messagesOf [poll] = [poll.message] := by
          simp [messagesOf, isMessage]
        have appended := punctual.appended.drop (i := offset)
        rw [reads, messagesOf_append, lastMessage, List.append_assoc,
          List.singleton_append] at appended
        have after := (List.pairwise_append.mp appended).2.1
        have polled : poll.message ∈ log := by
          apply List.mem_of_mem_drop (i := offset)
          rw [reads, messagesOf_append, lastMessage]
          simp
        intro message member
        have order := (List.pairwise_cons.mp after).1 message member
        have time (message : Msg) (member : message ∈ log) :
            message.metaData.timestamp =
              message.metaData.timestampCount * 1000000 :=
          wrap_of_inRange (punctual.fits message member)
        rw [time _ polled] at passed
        rw [time _ (suffix message member)]
        exact
          Int.lt_of_lt_of_le passed
            (Int.mul_le_mul_of_nonneg_right order (by decide))
    | endOfPartition isEnd passed =>
        rcases ends with isMessage | ⟨_, later⟩
        · rw [isEnd] at isMessage
          cases isMessage
        · intro message member
          exact passed.trans_le (later message member)
    | timedOut isTimedOut =>
        rcases ends with other | ⟨other, _⟩ <;>
          rw [isTimedOut] at other <;> cases other
    | error isError =>
        rcases ends with other | ⟨other, _⟩ <;>
          rw [isError] at other <;> cases other
  intro msg member
  rcases List.mem_filterMap.mp member with ⟨message, listed, own⟩
  have behind :=
    punctual.notBehind message (suffix message listed) msg own
  have passed := late message listed
  have inside : stop + stopLeeway < messageTime msg + stopLeeway :=
    passed.trans_le behind
  exact decide_eq_true (Int.lt_of_add_lt_add_right inside)

omit [DecidableEq Thread] in
/-- What a new partition delivers of messages polled under its stop time. -/
theorem create_deliveredInTurns_read
    {map : SrcToDst Dest} (start stop : TimePoint)
    (leeway kafkaErrorTimeout : Duration)
    (consistent : Consistent map)
    {entry : SrcDstKey Dest} (member : entry ∈ map)
    (unshared : Unshared map entry)
    {turns : List PartitionTurn} {messages : List Msg} :
    let created : TimedPartition Dest :=
      ⟨stop, Partition.create map start stop leeway kafkaErrorTimeout⟩
    polledInTurns context created turns = messages.map (stop, ·) →
      deliveredInTurns context entry.destination created turns =
        window (isEarly start) (isPast stop)
          (withoutRepeats entry.acceptsRepeatedTimestamps
            (messagesOfSource context entry.srcHash messages)) := by
  intro created read
  rw [create_deliveredInTurns context start stop leeway kafkaErrorTimeout
    consistent member unshared turns, read, timedSelection_map]

omit [DecidableEq Thread] in
/--
When a partition has finished, it has delivered what is selected from a part
of the log behind which nothing lies inside.
-/
theorem selected_part
    {map : SrcToDst Dest} {start stop : TimePoint}
    {startLeeway stopLeeway : Duration} (kafkaErrorTimeout : Duration)
    (consistent : Consistent map)
    {entry : SrcDstKey Dest} (member : entry ∈ map)
    (unshared : Unshared map entry)
    {log remaining : List Msg} {offset : Nat} {polls : List PollInput}
    {turns : List PartitionTurn} :
    let created : TimedPartition Dest :=
      ⟨stop, Partition.create map start stop stopLeeway kafkaErrorTimeout⟩
    let final := (Mealy.run (turn context) created turns).1
    Reading stop stopLeeway polls final →
    final.partition.hasFinished = true →
    polledInTurns context created turns = (messagesOf polls).map (stop, ·) →
    PunctualLog context entry.srcHash startLeeway stopLeeway log →
    log.drop offset = messagesOf polls ++ remaining →
    (∀ poll ∈ polls.getLast?, EndsOnLog poll remaining) →
      ∃ read rest,
        log = log.take offset ++ read ++ rest ∧
          deliveredInTurns context entry.destination created turns =
            window (isEarly start) (isPast stop)
              (withoutRepeats entry.acceptsRepeatedTimestamps
                (messagesOfSource context entry.srcHash read)) ∧
          ∀ msg ∈ messagesOfSource context entry.srcHash rest,
            isPast stop msg = true := by
  intro created final reading finished polled punctual reads ends
  have selected {turns : List PartitionTurn} {messages : List Msg} :=
    @create_deliveredInTurns_read _ context _ map start stop stopLeeway
      kafkaErrorTimeout consistent entry member unshared turns messages
  rcases reading.ended finished with ⟨poll, last, noFilters | ended⟩
  · have read :
        polledInTurns context created (turns ++ remaining.map readTurn) =
          (messagesOf polls ++ remaining).map (stop, ·) := by
      rw [polledInTurns_append, polled, polledInTurns_readTurn reading.free,
        reading.told, List.map_append]
    refine ⟨messagesOf polls ++ remaining, [], ?_, ?_, ?_⟩
    · rw [List.append_nil, ← reads, List.take_append_drop]
    · rw [← selected read]
      exact
        (deliveredInTurns_append_of_noFilters entry.destination created
          (remaining.map readTurn) noFilters).symm
    · intro msg none
      cases none
  · refine ⟨messagesOf polls, remaining, ?_, selected polled,
      past_of_endedBy punctual reads last (ends poll last) ended⟩
    rw [List.append_assoc, ← reads, List.take_append_drop]

/--
Let a partition be built from a map whose entries agree within each writer
hash, with a stop time that leaves room for its leeway, and let it be started
once at the offset that the broker finds for the start time less its leeway.
Let the timestamps of the source of an entry and of the broker be ordered and
differ by no more than the leeways.  In every execution in which no stop and
no new stop time reaches the partition and which it ends by itself, on a
message or at the end of the log, the messages passed on for the destination
of the entry, until the destructor has returned, are all those of the whole
log that lie between start and stop, in their order, with at most one earlier
message before and at most one later message after them.
-/
theorem partition_covers_log
    (self : Thread) (map : SrcToDst Dest)
    (start stop : TimePoint)
    (startLeeway stopLeeway kafkaErrorTimeout : Duration)
    (fit : LeewaysFit start stop startLeeway stopLeeway)
    (consistent : Consistent map)
    (entry : SrcDstKey Dest) (member : entry ∈ map)
    (unshared : Unshared map entry)
    (log remaining : List Msg) (offset : Nat)
    (punctual :
      PunctualLog context entry.srcHash startLeeway stopLeeway log)
    (found : FoundOffset log (usedTime start startLeeway) offset)
    {labels : List (PartitionLabel Thread Dest)}
    {node : RunningPartition Thread Dest}
    (run :
      Execution (RunningPartition.Step context)
        (.ofPartition self
          (Partition.create map start stop stopLeeway kafkaErrorTimeout))
        labels node)
    (startedOnce : starts labels ≤ 1) (undisturbed : Undisturbed labels)
    (reads : log.drop offset = messagesOf (pollsOf labels) ++ remaining)
    (ends : ∀ poll ∈ (pollsOf labels).getLast?, EndsOnLog poll remaining)
    (finished : node.partition.hasFinished = true)
    (gone : node.life = .destroyed) :
    AroundInside start stop
      (insideOfLog context entry.srcHash start stop
        entry.acceptsRepeatedTimestamps log)
      (deliveredTo entry.destination
        (labels.flatMap PartitionLabel.sent)) := by
  let created : TimedPartition Dest :=
    ⟨stop, Partition.create map start stop stopLeeway kafkaErrorTimeout⟩
  rcases reading_create map kafkaErrorTimeout fit with ⟨fits, new⟩
  have reading : Reading stop stopLeeway (pollsOf labels)
      (Mealy.run (turn context) created (labels.flatMap turnOf)).1 :=
    reading_run self fits new rfl run startedOnce undisturbed
  have leaving := leaving_of_destroyed self created run gone
  have hasFinished :=
    (sequentialRun_hasFinished self created run).trans
      ((congrArg Partition.hasFinished (settled_of_exited leaving.exited)).trans
        finished)
  rcases deliveredTo_sent_of_destroyed self created entry.destination run gone
    with ⟨sent, polled⟩
  rw [pollHistory_of_undisturbed stop undisturbed] at polled
  dsimp only at polled
  rcases selected_part kafkaErrorTimeout consistent member unshared reading
      hasFinished polled punctual reads ends with
    ⟨read, rest, split, delivered, past⟩
  have early :
      ∀ msg ∈ messagesOfSource context entry.srcHash (log.take offset),
        isEarly start msg = true := by
    intro msg belongs
    rcases List.mem_filterMap.mp belongs with ⟨message, before, own⟩
    exact early_of_before_offset punctual fit.startFits found before own
  have ordered := punctual.ordered
  rw [split] at ordered
  have readOrdered :
      (messagesOfSource context entry.srcHash read).Pairwise fun msg later =>
        msg.timestamp ≤ later.timestamp := by
    refine ordered.sublist ?_
    exact
      ((List.sublist_append_right _ read).trans
        (List.sublist_append_left _ rest)).filterMap _
  rw [sent, delivered, split,
    insideOfLog_of_outside entry.acceptsRepeatedTimestamps ordered early past]
  exact
    aroundInside_window context entry.srcHash start stop
      entry.acceptsRepeatedTimestamps readOrdered

/-- A message that is no flatbuffer. -/
def unreadable (timestampCount offset : Int) : Msg :=
  ⟨[], ⟨timestampCount, offset⟩⟩

/-- The one buffer, between messages that are none. -/
def sampleLog : List Msg :=
  [unreadable 0 0, ⟨sampleBuffer, ⟨1, 1⟩⟩, unreadable 2 2, unreadable 3 3]

/-- The partition ends on a message that cannot be read. -/
theorem partition_covers_log_sample :
    ∃ labels : List (PartitionLabel Nat Nat),
      AroundInside 1000000 1000000 [sampleMessage]
          (deliveredTo 0 (labels.flatMap PartitionLabel.sent)) ∧
        messagesOf (pollsOf labels) = (sampleLog.drop 1).take 2 := by
  let Run (node : RunningPartition Nat Nat) :=
    Execution (RunningPartition.Step sampleContext) node
  have created :
      Run (.ofPartition 0
        (Partition.create [sampleEntry] 1000000 1000000 0 0)) [] _ := .refl
  have started := created.snoc (.start 1 rfl)
  have turned := started.snoc (.look (.highEmpty rfl rfl))
  have polls :=
    turned.snoc (.look (.takeLow rfl (ProducerQueue.dequeue_head _ [])))
  have polling := polls.snoc (.pollConsumer rfl rfl)
  have returned :=
    polling.snoc
      (.pollReturned .message ⟨sampleBuffer, ⟨1, 1⟩⟩ ⟨0, 0, 0⟩ rfl)
  have counted := returned.snoc (.forward rfl)
  have forwarded := counted.snoc (.forward rfl)
  have queued := forwarded.snoc (.requeue rfl)
  have turnedAgain := queued.snoc (.look (.highEmpty rfl rfl))
  have pollsAgain :=
    turnedAgain.snoc (.look (.takeLow rfl (ProducerQueue.dequeue_head _ [])))
  have pollingAgain := pollsAgain.snoc (.pollConsumer rfl rfl)
  have returnedAgain :=
    pollingAgain.snoc (.pollReturned .message (unreadable 2 2) ⟨0, 0, 0⟩ rfl)
  have finished := returnedAgain.snoc (.finish rfl)
  have destroying := finished.snoc (.destroy 1 rfl)
  have exits :=
    destroying.snoc (.look (.takeHigh rfl (ProducerQueue.dequeue_head _ [])))
  have exited := exits.snoc (.exitThread rfl)
  have joined := exited.snoc (.join rfl rfl)
  have destroyed := joined.snoc (.destroyed rfl)
  have covered :=
    partition_covers_log 0 [sampleEntry] 1000000 1000000 0 0 0
      ⟨by decide, by decide, by decide, by decide⟩ (by decide) sampleEntry
      (by decide) (by decide) sampleLog [unreadable 3 3] 1
      ⟨by decide, by decide, by decide, by decide, by decide⟩ (by decide)
      destroyed (by decide) (by decide) (by decide)
      (by decide) rfl rfl
  exact ⟨_, covered, by decide⟩

end KafkaToNexus.Stream.LogCoverage
