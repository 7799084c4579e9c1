import KafkaToNexus.Stream.PartitionDelivery

/-!
# Deliveries while the stop time changes

A stop time that is set between two polls of a partition applies to the
messages that are polled after it.  A message is therefore taken together with
the stop time that was in force when it was polled, and the window of a
destination is that of the timed messages: it is closed by the first message
that lies behind its own stop time.
-/

namespace KafkaToNexus.Stream.ChangingStopTimes

open KafkaToNexus
open KafkaToNexus.Foundations
open KafkaToNexus.Foundations.Windowing
open KafkaToNexus.Stream.PartitionDelivery

variable {Dest : Type*}

/-! ## One filter -/

/-- The timed message is from before the start time. -/
def isTimedEarly
    (start : TimePoint) (timed : TimePoint × FlatbufferMessage) : Bool :=
  isEarly start timed.2

/-- The timed message is from after its stop time. -/
def isTimedPast (timed : TimePoint × FlatbufferMessage) : Bool :=
  isPast timed.1 timed.2

/-- The timed messages that do not repeat the timestamp before them. -/
def freshTimedAfter
    (acceptRepeated : Bool) (previous : Int)
    (timed : List (TimePoint × FlatbufferMessage)) :
    List (TimePoint × FlatbufferMessage) :=
  if acceptRepeated then timed
  else dropRepeatsAfter (fun item => item.2.timestamp) previous timed

/--
The messages that a filter transmits when every message is offered to it under
its own stop time.
-/
def timedDeliveries
    (filter : SourceFilter Dest) :
    List (TimePoint × FlatbufferMessage) → List FlatbufferMessage
  | [] => bufferOf filter
  | (stop, msg) :: rest =>
      let result := (filter.setStopTime stop).filterMessage msg
      transmittedOf result.events ++
        if result.filter.hasFinished then bufferOf result.filter
        else timedDeliveries result.filter rest

theorem freshTimedAfter_of_repeats
    {filter : SourceFilter Dest} {msg : FlatbufferMessage} (stop : TimePoint)
    (rest : List (TimePoint × FlatbufferMessage))
    (repeats : filter.Repeats msg) :
    freshTimedAfter filter.writeRepeatedTimestamps filter.currentTimeStamp
        ((stop, msg) :: rest) =
      freshTimedAfter filter.writeRepeatedTimestamps filter.currentTimeStamp
        rest := by
  rcases repeats with ⟨same, rejected⟩
  simp [freshTimedAfter, rejected, dropRepeatsAfter, same]

theorem freshTimedAfter_of_new
    {filter : SourceFilter Dest} {msg : FlatbufferMessage} (stop : TimePoint)
    (rest : List (TimePoint × FlatbufferMessage))
    (new : ¬ filter.Repeats msg) :
    freshTimedAfter filter.writeRepeatedTimestamps filter.currentTimeStamp
        ((stop, msg) :: rest) =
      (stop, msg) ::
        freshTimedAfter filter.writeRepeatedTimestamps msg.timestamp rest := by
  unfold SourceFilter.Repeats at new
  cases accepts : filter.writeRepeatedTimestamps with
  | true => simp [freshTimedAfter]
  | false =>
      have different : msg.timestamp ≠ filter.currentTimeStamp := by
        intro same
        exact new ⟨same, accepts⟩
      simp [freshTimedAfter, dropRepeatsAfter, different]

/-- What a valid message does to a filter under a stop time. -/
theorem setStopTime_filterMessage_effect
    (filter : SourceFilter Dest) (stop : TimePoint) {msg : FlatbufferMessage}
    (valid : msg.valid = true) :
    let result := (filter.setStopTime stop).filterMessage msg
    result.filter.start = filter.start ∧
      result.filter.writeRepeatedTimestamps =
        filter.writeRepeatedTimestamps ∧
      ((filter.Repeats msg ∧ transmittedOf result.events = [] ∧
          bufferOf result.filter = bufferOf filter ∧
          result.filter.isDone = filter.isDone ∧
          result.filter.currentTimeStamp = filter.currentTimeStamp) ∨
        (¬ filter.Repeats msg ∧
          isTimedEarly filter.start (stop, msg) = true ∧
          transmittedOf result.events = [] ∧
          bufferOf result.filter = [msg] ∧
          result.filter.isDone = filter.isDone ∧
          result.filter.currentTimeStamp = msg.timestamp) ∨
        (¬ filter.Repeats msg ∧
          isTimedEarly filter.start (stop, msg) = false ∧
          transmittedOf result.events = bufferOf filter ++ [msg] ∧
          bufferOf result.filter = [] ∧
          result.filter.isDone =
            (filter.isDone || isTimedPast (stop, msg)) ∧
          result.filter.currentTimeStamp = msg.timestamp)) := by
  intro result
  rcases filterMessage_effect (filter.setStopTime stop) valid with
    ⟨⟨start, _, accepts⟩, effect⟩
  refine ⟨start, accepts, ?_⟩
  rcases effect with repeated | ⟨fresh, early, rest⟩ | ⟨fresh, onTime, rest⟩
  · exact .inl repeated
  · exact .inr (.inl ⟨fresh, decide_eq_true early, rest⟩)
  · exact .inr (.inr ⟨fresh, decide_eq_false onTime, rest⟩)

/--
What a filter delivers of timed messages: the window of the buffered message,
under any stop time, and of the messages that do not repeat a timestamp.
-/
theorem timedDeliveries_eq_window
    (filter : SourceFilter Dest)
    (timed held : List (TimePoint × FlatbufferMessage))
    (notDone : filter.isDone = false)
    (buffered : held.map Prod.snd = bufferOf filter)
    (heldEarly : ∀ item ∈ held, isTimedEarly filter.start item = true)
    (valid : ∀ item ∈ timed, item.2.valid = true) :
    timedDeliveries filter timed =
      (window (isTimedEarly filter.start) isTimedPast
        (held ++
          freshTimedAfter filter.writeRepeatedTimestamps
            filter.currentTimeStamp timed)).map Prod.snd := by
  have single : held.length ≤ 1 := by
    have length := congrArg List.length buffered
    rw [List.length_map] at length
    rw [length]
    exact bufferOf_length_le filter
  induction timed generalizing filter held with
  | nil =>
      have none :
          freshTimedAfter filter.writeRepeatedTimestamps
            filter.currentTimeStamp [] = [] := by
        simp [freshTimedAfter, dropRepeatsAfter]
      rw [none, List.append_nil, timedDeliveries, ← buffered]
      cases held with
      | nil => rfl
      | cons item more =>
          cases more with
          | nil => rfl
          | cons second more =>
              exact absurd single (by simp [List.length_cons])
  | cons item rest induction =>
      rcases item with ⟨stop, msg⟩
      have restValid : ∀ other ∈ rest, other.2.valid = true :=
        fun other member => valid other (List.mem_cons_of_mem _ member)
      have effect :=
        setStopTime_filterMessage_effect filter stop
          (valid (stop, msg) List.mem_cons_self)
      unfold timedDeliveries
      generalize (filter.setStopTime stop).filterMessage msg = result at effect ⊢
      rcases effect with ⟨startSame, acceptSame, effect⟩
      have later := induction result.filter
      rw [startSame, acceptSame] at later
      rcases effect with
        ⟨repeats, sent, buffer, done, current⟩ |
          ⟨fresh, early, sent, buffer, done, current⟩ |
          ⟨fresh, onTime, sent, buffer, done, current⟩
      · rw [notDone] at done
        rw [current, buffer] at later
        rw [freshTimedAfter_of_repeats stop rest repeats,
          ← later held done buffered heldEarly restValid single]
        simp [sent, SourceFilter.hasFinished, done]
      · rw [notDone] at done
        rw [current, buffer] at later
        rw [freshTimedAfter_of_new stop rest fresh,
          window_held_early _ single heldEarly early]
        have after :=
          later [(stop, msg)] done rfl (by simpa using early) restValid
            (Nat.le_refl 1)
        rw [List.singleton_append] at after
        simp [sent, SourceFilter.hasFinished, done, after]
      · rw [notDone, Bool.false_or] at done
        rw [current, buffer] at later
        rw [freshTimedAfter_of_new stop rest fresh,
          window_held_onTime _ single heldEarly onTime, List.map_append,
          buffered]
        cases past : isTimedPast (stop, msg) with
        | true => simp [sent, SourceFilter.hasFinished, done, past, buffer]
        | false =>
            rw [past] at done
            have after := later [] done rfl (by simp) restValid (by simp)
            rw [List.nil_append] at after
            simp [sent, SourceFilter.hasFinished, done, after]

/-! ## Runs of a partition -/

/-- What happens to a partition, one after the other. -/
inductive PartitionTurn where
  | forceStop
  | applyStopTime (stop : TimePoint)
  | poll (input : PollInput)
deriving DecidableEq, Repr

/-- What is seen of a partition whose stop time changes. -/
inductive TurnOutput (Dest : Type*) where
  /-- The consumer returned a message under a stop time. -/
  | polled (stop : TimePoint) (message : Msg)
  | sent (event : SendEvent Dest)
deriving DecidableEq, Repr

/-- A partition with the stop time that was set last, a history variable. -/
structure TimedPartition (Dest : Type*) where
  stop : TimePoint
  partition : Partition Dest
deriving DecidableEq, Repr

def turn
    (context : MessageContext) (timed : TimedPartition Dest) :
    PartitionTurn → TimedPartition Dest × List (TurnOutput Dest)
  | .forceStop => (⟨timed.stop, timed.partition.forceStop⟩, [])
  | .applyStopTime stop => (⟨stop, timed.partition.applyStopTime stop⟩, [])
  | .poll input =>
      let outcome := timed.partition.pollForMessage context input
      (⟨timed.stop, outcome.partition⟩,
        (polledMessage input outcome).map (.polled timed.stop) ++
          outcome.events.map .sent)

/-- The messages that the consumer returned, with their stop times. -/
def timedPolledOf
    (outputs : List (TurnOutput Dest)) : List (TimePoint × Msg) :=
  outputs.filterMap fun
    | .polled stop message => some (stop, message)
    | .sent _ => none

/-- The events of the filters. -/
def timedSentOf
    (outputs : List (TurnOutput Dest)) : List (SendEvent Dest) :=
  outputs.filterMap fun
    | .polled _ _ => none
    | .sent event => some event

/-- The flatbuffers of one source, with the stop times of their polls. -/
def timedMessagesOfSource
    (context : MessageContext) (hash : SrcHash)
    (messages : List (TimePoint × Msg)) :
    List (TimePoint × FlatbufferMessage) :=
  messages.filterMap fun item =>
    (messageOfSource context hash item.2).map (item.1, ·)

theorem timedPolledOf_append
    (first second : List (TurnOutput Dest)) :
    timedPolledOf (first ++ second) =
      timedPolledOf first ++ timedPolledOf second :=
  List.filterMap_append

theorem timedSentOf_append
    (first second : List (TurnOutput Dest)) :
    timedSentOf (first ++ second) =
      timedSentOf first ++ timedSentOf second :=
  List.filterMap_append

theorem timedPolledOf_poll
    (stop : TimePoint) (messages : List Msg)
    (events : List (SendEvent Dest)) :
    timedPolledOf (messages.map (.polled stop) ++ events.map .sent) =
      messages.map (stop, ·) := by
  simp [timedPolledOf, List.filterMap_append, List.filterMap_map]

theorem timedSentOf_poll
    (stop : TimePoint) (messages : List Msg)
    (events : List (SendEvent Dest)) :
    timedSentOf (messages.map (.polled stop) ++ events.map .sent) =
      events := by
  simp [timedSentOf, List.filterMap_append, List.filterMap_map]

section Destinations

variable [DecidableEq Dest]

/-- All that is delivered to a destination, the end included. -/
def deliveredInTurns
    (context : MessageContext) (destination : Dest)
    (timed : TimedPartition Dest) (turns : List PartitionTurn) :
    List FlatbufferMessage :=
  let result := Mealy.run (turn context) timed turns
  deliveredTo destination
    (timedSentOf result.2 ++ result.1.partition.destroy)

/-- The messages that the consumer returns, with their stop times. -/
def polledInTurns
    (context : MessageContext) (timed : TimedPartition Dest)
    (turns : List PartitionTurn) : List (TimePoint × Msg) :=
  timedPolledOf (Mealy.run (turn context) timed turns).2

theorem deliveredInTurns_poll
    (context : MessageContext) (destination : Dest)
    (timed : TimedPartition Dest) (input : PollInput)
    (rest : List PartitionTurn) :
    let outcome := timed.partition.pollForMessage context input
    deliveredInTurns context destination timed (.poll input :: rest) =
      deliveredTo destination outcome.events ++
        deliveredInTurns context destination
          ⟨timed.stop, outcome.partition⟩ rest := by
  intro outcome
  rw [deliveredInTurns, Mealy.run_cons]
  dsimp only [turn]
  rw [timedSentOf_append, timedSentOf_poll, List.append_assoc,
    deliveredTo_append]
  rfl

omit [DecidableEq Dest] in
theorem polledInTurns_poll
    (context : MessageContext)
    (timed : TimedPartition Dest) (input : PollInput)
    (rest : List PartitionTurn) :
    let outcome := timed.partition.pollForMessage context input
    polledInTurns context timed (.poll input :: rest) =
      (polledMessage input outcome).map (timed.stop, ·) ++
        polledInTurns context ⟨timed.stop, outcome.partition⟩ rest := by
  intro outcome
  rw [polledInTurns, Mealy.run_cons]
  dsimp only [turn]
  rw [timedPolledOf_append, timedPolledOf_poll]
  rfl

omit [DecidableEq Dest] in
theorem Unrouted.applyStopTime
    {destination : Dest} {partition : Partition Dest}
    (unrouted : Unrouted destination partition.msgFilters)
    (stop : TimePoint) :
    Unrouted destination (partition.applyStopTime stop).msgFilters := by
  intro item member
  rcases List.mem_map.mp member with ⟨old, oldMember, rfl⟩
  exact unrouted old oldMember

theorem Routed.applyStopTime
    {destination : Dest} {hash : SrcHash} {filter : SourceFilter Dest}
    {partition : Partition Dest}
    (routed : Routed destination hash filter partition.msgFilters)
    (stop : TimePoint) :
    Routed destination hash (filter.setStopTime stop)
      (partition.applyStopTime stop).msgFilters := by
  rcases routed.splits with ⟨before, after, equal, noBefore, noAfter⟩
  refine ⟨routed.once, before.map fun item => (item.1, item.2.setStopTime stop),
    after.map fun item => (item.1, item.2.setStopTime stop), ?_, ?_, ?_⟩
  · rw [Partition.applyStopTime, equal, List.map_append, List.map_cons]
  · intro item member
    rcases List.mem_map.mp member with ⟨old, oldMember, rfl⟩
    exact noBefore old oldMember
  · intro item member
    rcases List.mem_map.mp member with ⟨old, oldMember, rfl⟩
    exact noAfter old oldMember

/-- A destination that no filter knows never gets a message. -/
theorem Unrouted.deliveredInTurns
    {destination : Dest} (context : MessageContext)
    (timed : TimedPartition Dest)
    (unrouted : Unrouted destination timed.partition.msgFilters)
    (turns : List PartitionTurn) :
    deliveredInTurns context destination timed turns = [] := by
  induction turns generalizing timed with
  | nil => exact unrouted.deliveredTo_destroyed
  | cons next rest induction =>
      cases next with
      | forceStop =>
          exact induction ⟨timed.stop, timed.partition.forceStop⟩ unrouted
      | applyStopTime stop =>
          exact induction ⟨stop, timed.partition.applyStopTime stop⟩
            (Unrouted.applyStopTime unrouted stop)
      | poll input =>
          have later :=
            induction
              ⟨timed.stop,
                (timed.partition.pollForMessage context input).partition⟩
          rw [deliveredInTurns_poll]
          rcases pollForMessage_effect context timed.partition input with
            ⟨_, filters, events⟩ | ⟨_, filters, events⟩
          · rw [events, later (by rw [filters]; exact unrouted)]
            rfl
          · rw [events]
            unfold Partition.offerPolled at filters ⊢
            split
            · rename_i failure equal
              rw [equal] at filters
              rw [later (by rw [filters]; exact unrouted)]
              rfl
            · rename_i fbMsg equal
              rw [equal] at filters
              rcases unrouted.filterAndErase fbMsg with ⟨next, none⟩
              rw [none, later (by rw [filters]; exact next)]
              rfl

omit [DecidableEq Dest] in
/-- A filter that is told its own stop time again delivers the same. -/
theorem timedDeliveries_setStopTime
    (filter : SourceFilter Dest) (stop : TimePoint)
    (timed : List (TimePoint × FlatbufferMessage)) :
    timedDeliveries (filter.setStopTime stop) timed =
      timedDeliveries filter timed := by
  cases timed with
  | nil => rfl
  | cons item rest => rfl

omit [DecidableEq Dest] in
/-- Filtering a message keeps the stop time that was set last. -/
theorem filterMessage_current
    {filter : SourceFilter Dest} {stop : TimePoint}
    (current : filter.stop = stop) (fbMsg : FlatbufferMessage) :
    (filter.filterMessage fbMsg).filter.stop = stop := by
  rw [filter.filterMessage_stop, current]

/--
A destination gets in a run exactly what its filter delivers of the messages
of its source, each under the stop time of its poll.
-/
theorem Routed.deliveredInTurns
    {destination : Dest} {hash : SrcHash} {filter : SourceFilter Dest}
    (context : MessageContext) (timed : TimedPartition Dest)
    (routed : Routed destination hash filter timed.partition.msgFilters)
    (current : filter.stop = timed.stop)
    (notDone : filter.isDone = false)
    (turns : List PartitionTurn) :
    deliveredInTurns context destination timed turns =
      timedDeliveries filter
        (timedMessagesOfSource context hash
          (polledInTurns context timed turns)) := by
  induction turns generalizing timed filter with
  | nil =>
      rcases routed.splits with ⟨before, after, equal, noBefore, noAfter⟩
      change deliveredTo destination timed.partition.destroy = bufferOf filter
      simp only [Partition.destroy, equal, List.flatMap_append,
        List.flatMap_cons, deliveredTo_append, noBefore.deliveredTo_destroyed,
        noAfter.deliveredTo_destroyed, deliveredTo_destroy_of_count routed.once]
      simp
  | cons next rest induction =>
      cases next with
      | forceStop =>
          exact
            induction ⟨timed.stop, timed.partition.forceStop⟩ routed current
              notDone
      | applyStopTime stop =>
          have told :=
            induction ⟨stop, timed.partition.applyStopTime stop⟩
              (Routed.applyStopTime routed stop) rfl notDone
          rw [timedDeliveries_setStopTime] at told
          exact told
      | poll input =>
          have later {following : SourceFilter Dest} :=
            @induction following
              ⟨timed.stop,
                (timed.partition.pollForMessage context input).partition⟩
          rw [deliveredInTurns_poll, polledInTurns_poll]
          unfold timedMessagesOfSource at later ⊢
          rcases pollForMessage_effect context timed.partition input with
            ⟨polled, filters, events⟩ | ⟨polled, filters, events⟩
          · rw [events, polled,
              later (by rw [filters]; exact routed) current notDone]
            rfl
          · rw [events, polled, List.map_singleton, List.singleton_append]
            cases own : messageOfSource context hash input.message with
            | none =>
              rcases routed.offerPolled_other notDone own with
                ⟨next, delivered⟩
              rw [delivered,
                List.filterMap_cons_none (by rw [own]; rfl),
                later (by rw [filters]; exact next) current notDone]
              rfl
            | some fbMsg =>
              have same : filter.setStopTime timed.stop = filter := by
                rw [← current]
                rfl
              rw [List.filterMap_cons_some (by rw [own]; rfl),
                timedDeliveries, same]
              cases finished :
                  (filter.filterMessage fbMsg).filter.hasFinished with
              | false =>
                  rcases (routed.offerPolled_own own).1 finished with
                    ⟨next, delivered⟩
                  rw [delivered,
                    later (by rw [filters]; exact next)
                      (filterMessage_current current fbMsg) finished]
                  simp
              | true =>
                  rcases (routed.offerPolled_own own).2 finished with
                    ⟨next, delivered⟩
                  rw [← filters] at next
                  rw [delivered,
                    Unrouted.deliveredInTurns context
                      ⟨timed.stop, _⟩ next rest]
                  simp

/-! ## What a destination should get -/

/-- The timed messages left when repeats of a timestamp are dropped, or not. -/
def timedWithoutRepeats
    (acceptsRepeated : Bool) (timed : List (TimePoint × FlatbufferMessage)) :
    List (TimePoint × FlatbufferMessage) :=
  if acceptsRepeated then timed
  else dropRepeats (fun item => item.2.timestamp) timed

/-- The window of timed messages of one source. -/
def timedSelection
    (start : TimePoint) (acceptsRepeated : Bool)
    (timed : List (TimePoint × FlatbufferMessage)) : List FlatbufferMessage :=
  (window (isTimedEarly start) isTimedPast
    (timedWithoutRepeats acceptsRepeated timed)).map Prod.snd

omit [DecidableEq Dest] in
/-- The timed message that a flatbuffer of a source was made from. -/
theorem valid_of_mem_timedMessagesOfSource
    {context : MessageContext} {hash : SrcHash}
    {messages : List (TimePoint × Msg)}
    {item : TimePoint × FlatbufferMessage}
    (member : item ∈ timedMessagesOfSource context hash messages) :
    item.2.valid = true ∧ item.2.timestamp ≠ 0 := by
  rcases List.mem_filterMap.mp member with ⟨⟨stop, message⟩, _, found⟩
  rcases Option.map_eq_some_iff.mp found with ⟨fbMsg, own, rfl⟩
  exact FlatbufferMessage.valid_of_ofKafkaMessage
    (messageOfSource_eq_some own).1

/--
A partition that was built from a map delivers to an unshared destination of
an entry the window of the messages of the source of the entry.
-/
theorem create_deliveredInTurns
    (context : MessageContext) {map : SrcToDst Dest}
    (start stop : TimePoint) (leeway kafkaErrorTimeout : Duration)
    (consistent : Consistent map)
    {entry : SrcDstKey Dest} (member : entry ∈ map)
    (unshared : Unshared map entry) (turns : List PartitionTurn) :
    let created : TimedPartition Dest :=
      ⟨stop, Partition.create map start stop leeway kafkaErrorTimeout⟩
    deliveredInTurns context entry.destination created turns =
      timedSelection start entry.acceptsRepeatedTimestamps
        (timedMessagesOfSource context entry.srcHash
          (polledInTurns context created turns)) := by
  intro created
  have routed :=
    routed_create start stop leeway kafkaErrorTimeout consistent member unshared
  have new : (filterFor map start stop entry).stop = stop ∧
      (filterFor map start stop entry).isDone = false := by
    rw [filterFor, SourceFilter.addDestinationPtrs_eq]
    exact ⟨rfl, rfl⟩
  rw [Routed.deliveredInTurns context created routed new.1 new.2 turns]
  have valid :=
    @valid_of_mem_timedMessagesOfSource context entry.srcHash
      (polledInTurns context created turns)
  rw [timedDeliveries_eq_window _ _ [] new.2 _ (by simp)
    fun item known => (valid known).1]
  · rw [filterFor, SourceFilter.addDestinationPtrs_eq]
    simp only [SourceFilter.create, freshTimedAfter, List.nil_append]
    rw [dropRepeatsAfter_eq_dropRepeats fun item known => (valid known).2]
    rfl
  · rw [filterFor, SourceFilter.addDestinationPtrs_eq]
    rfl

omit [DecidableEq Dest] in
/-- No filter of a new partition knows a destination that no entry names. -/
theorem unrouted_create
    {map : SrcToDst Dest} {destination : Dest}
    (start stop : TimePoint) (leeway kafkaErrorTimeout : Duration)
    (unknown : destination ∉ map.map (·.destination)) :
    Unrouted destination
      (Partition.create map start stop leeway kafkaErrorTimeout).msgFilters := by
  intro item member known
  rcases List.mem_map.mp member with ⟨⟨writeHash, filter⟩, listed, rfl⟩
  have found := Std.TreeMap.mem_toList_iff_getElem?_eq_some.mp listed
  rw [(buildFilterMaps_spec start stop map writeHash).1] at found
  rcases Option.map_eq_some_iff.mp found with ⟨first, _, rfl⟩
  rw [SourceFilter.addDestinationPtrs_eq] at known
  rcases List.mem_map.mp known with ⟨entry, inGroup, same⟩
  apply unknown
  rw [← same]
  exact List.mem_map_of_mem (mem_groupOf.mp inGroup).1

end Destinations

end KafkaToNexus.Stream.ChangingStopTimes
