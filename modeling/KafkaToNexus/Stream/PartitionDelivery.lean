import KafkaToNexus.Foundations.Mealy
import KafkaToNexus.Foundations.Windowing
import KafkaToNexus.Stream.Partition
import Mathlib.Data.List.Nodup

/-!
# What one partition delivers

From the source map to the writer: a partition is built, polled any number of
times, possibly told to stop, and destroyed.  For every destination this
module determines the messages that reach the writer for it, as a function of
the messages that were polled.

The proof goes through one filter at a time.  `deliveries_eq_window` says what
a filter makes of a list of messages; `Routed` says that a destination belongs
to exactly one filter of a partition, which every poll keeps.
-/

namespace KafkaToNexus.Stream.PartitionDelivery

open KafkaToNexus
open KafkaToNexus.Foundations
open KafkaToNexus.Foundations.Windowing

variable {Dest : Type*}

/-! ## One filter -/

/-- The message is from before the start time. -/
def isEarly (start : TimePoint) (msg : FlatbufferMessage) : Bool :=
  decide (messageTime msg < start)

/-- The message is from after the stop time. -/
def isPast (stop : TimePoint) (msg : FlatbufferMessage) : Bool :=
  decide (stop < messageTime msg)

/-- The messages that do not repeat the timestamp before them. -/
def freshAfter
    (acceptRepeated : Bool) (previous : Int)
    (msgs : List FlatbufferMessage) : List FlatbufferMessage :=
  if acceptRepeated then msgs
  else dropRepeatsAfter FlatbufferMessage.timestamp previous msgs

/--
The messages that a filter transmits when it is offered a list of messages and
destroyed at the end, or as soon as it has finished.
-/
def deliveries
    (filter : SourceFilter Dest) :
    List FlatbufferMessage → List FlatbufferMessage
  | [] => bufferOf filter
  | msg :: rest =>
      let result := filter.filterMessage msg
      transmittedOf result.events ++
        if result.filter.hasFinished then bufferOf result.filter
        else deliveries result.filter rest

theorem freshAfter_of_repeats
    {filter : SourceFilter Dest} {msg : FlatbufferMessage}
    (rest : List FlatbufferMessage)
    (repeats : filter.Repeats msg) :
    freshAfter filter.writeRepeatedTimestamps filter.currentTimeStamp
        (msg :: rest) =
      freshAfter filter.writeRepeatedTimestamps filter.currentTimeStamp
        rest := by
  rcases repeats with ⟨same, rejected⟩
  simp [freshAfter, rejected, dropRepeatsAfter, same]

theorem freshAfter_of_new
    {filter : SourceFilter Dest} {msg : FlatbufferMessage}
    (rest : List FlatbufferMessage)
    (new : ¬ filter.Repeats msg) :
    freshAfter filter.writeRepeatedTimestamps filter.currentTimeStamp
        (msg :: rest) =
      msg :: freshAfter filter.writeRepeatedTimestamps msg.timestamp rest := by
  unfold SourceFilter.Repeats at new
  cases accepts : filter.writeRepeatedTimestamps with
  | true => simp [freshAfter]
  | false =>
      have different : msg.timestamp ≠ filter.currentTimeStamp := by
        intro same
        exact new ⟨same, accepts⟩
      simp [freshAfter, dropRepeatsAfter, different]

/-- The settings of a filter that `filterMessage` never changes. -/
def SameWindow (filter next : SourceFilter Dest) : Prop :=
  next.start = filter.start ∧ next.stop = filter.stop ∧
    next.writeRepeatedTimestamps = filter.writeRepeatedTimestamps

/-- A valid message leaves a filter in one of three ways. -/
theorem filterMessage_effect
    (filter : SourceFilter Dest) {msg : FlatbufferMessage}
    (valid : msg.valid = true) :
    let next := (filter.filterMessage msg).filter
    let sent := transmittedOf (filter.filterMessage msg).events
    SameWindow filter next ∧
      ((filter.Repeats msg ∧ sent = [] ∧ bufferOf next = bufferOf filter ∧
          next.isDone = filter.isDone ∧
          next.currentTimeStamp = filter.currentTimeStamp) ∨
        (¬ filter.Repeats msg ∧ messageTime msg < filter.start ∧
          sent = [] ∧ bufferOf next = [msg] ∧
          next.isDone = filter.isDone ∧
          next.currentTimeStamp = msg.timestamp) ∨
        (¬ filter.Repeats msg ∧ ¬ messageTime msg < filter.start ∧
          sent = bufferOf filter ++ [msg] ∧ bufferOf next = [] ∧
          next.isDone =
            (filter.isDone || decide (filter.stop < messageTime msg)) ∧
          next.currentTimeStamp = msg.timestamp)) := by
  intro next sent
  rcases filter.filterMessage_classification msg with
    invalid | ⟨_, repeats⟩ | ⟨_, fresh, early⟩ | ⟨_, fresh, onTime⟩
  · rw [valid] at invalid
    exact absurd invalid (by decide)
  · have result := filter.filterMessage_of_repeats valid repeats
    dsimp only [next, sent]
    rw [result]
    exact ⟨⟨rfl, rfl, rfl⟩, Or.inl ⟨repeats, rfl, rfl, rfl, rfl⟩⟩
  · rcases filter.filterMessage_of_early valid fresh early with
      ⟨repeated, unordered, result⟩
    dsimp only [next, sent]
    rw [result]
    refine ⟨⟨rfl, rfl, rfl⟩,
      Or.inr (Or.inl ⟨fresh, early, rfl, ?_, rfl, rfl⟩)⟩
    simp [bufferOf, SourceFilter.bufferMessage, valid]
  · rcases filter.filterMessage_of_onTime valid fresh onTime with
      ⟨repeated, unordered, result⟩
    dsimp only [next, sent]
    rw [result]
    refine ⟨⟨rfl, rfl, rfl⟩,
      Or.inr (Or.inr ⟨fresh, onTime, ?_, ?_, rfl, rfl⟩)⟩
    · simp [sendMessage_events]
    · cases held : filter.bufferedMessage.valid <;> simp [bufferOf, held]

/-- The buffered message of a filter is from before its start time. -/
def HoldsEarly (filter : SourceFilter Dest) : Prop :=
  ∀ msg ∈ bufferOf filter, messageTime msg < filter.start

/-- Offering a valid message to a filter keeps its buffer early. -/
theorem HoldsEarly.filterMessage
    {filter : SourceFilter Dest} {msg : FlatbufferMessage}
    (held : HoldsEarly filter) (valid : msg.valid = true) :
    HoldsEarly (filter.filterMessage msg).filter := by
  intro buffered member
  rcases filterMessage_effect filter valid with ⟨⟨startSame, _⟩, effect⟩
  rw [startSame]
  rcases effect with
    ⟨_, _, same, _⟩ | ⟨_, early, _, replaced, _⟩ | ⟨_, _, _, emptied, _⟩
  · rw [same] at member
    exact held buffered member
  · rw [replaced, List.mem_singleton] at member
    subst member
    exact early
  · rw [emptied] at member
    simp at member

/--
What a filter delivers: the window between its start and stop times of the
buffered message and the messages that do not repeat a timestamp.
-/
theorem deliveries_eq_window
    (filter : SourceFilter Dest) (msgs : List FlatbufferMessage)
    (notDone : filter.isDone = false)
    (held : HoldsEarly filter)
    (valid : ∀ msg ∈ msgs, msg.valid = true) :
    deliveries filter msgs =
      window (isEarly filter.start) (isPast filter.stop)
        (bufferOf filter ++
          freshAfter filter.writeRepeatedTimestamps filter.currentTimeStamp
            msgs) := by
  induction msgs generalizing filter with
  | nil =>
      have none :
          freshAfter filter.writeRepeatedTimestamps filter.currentTimeStamp
            [] = [] := by
        simp [freshAfter, dropRepeatsAfter]
      rw [none, List.append_nil, deliveries]
      unfold bufferOf
      split <;> rfl
  | cons msg rest induction =>
      have msgValid := valid msg List.mem_cons_self
      have later :=
        induction (filter.filterMessage msg).filter
      have restHeld := held.filterMessage msgValid
      have restValid : ∀ other ∈ rest, other.valid = true :=
        fun other member => valid other (List.mem_cons_of_mem msg member)
      rcases filterMessage_effect filter msgValid with
        ⟨⟨startSame, stopSame, acceptSame⟩, effect⟩
      rw [startSame, stopSame, acceptSame] at later
      have single := bufferOf_length_le filter
      have heldEarly :
          ∀ buffered ∈ bufferOf filter, isEarly filter.start buffered = true :=
        fun buffered member => decide_eq_true (held buffered member)
      rcases effect with
        ⟨repeats, sent, buffer, done, current⟩ |
          ⟨fresh, early, sent, buffer, done, current⟩ |
          ⟨fresh, onTime, sent, buffer, done, current⟩
      · rw [notDone] at done
        rw [buffer, current] at later
        rw [freshAfter_of_repeats rest repeats,
          ← later done restHeld restValid]
        simp [deliveries, sent, SourceFilter.hasFinished, done]
      · rw [notDone] at done
        rw [buffer, current] at later
        rw [freshAfter_of_new rest fresh,
          window_held_early _ single heldEarly (decide_eq_true early)]
        simpa [deliveries, sent, SourceFilter.hasFinished, done] using
          later done restHeld restValid
      · rw [notDone, Bool.false_or] at done
        rw [buffer, current, List.nil_append] at later
        rw [freshAfter_of_new rest fresh,
          window_held_onTime _ single heldEarly (decide_eq_false onTime)]
        by_cases past : filter.stop < messageTime msg
        · simp [deliveries, sent, SourceFilter.hasFinished, done, past, buffer,
            isPast]
        · have open_ : (filter.filterMessage msg).filter.isDone = false := by
            simp [done, past]
          simp [deliveries, sent, SourceFilter.hasFinished, open_, past,
            isPast, later open_ restHeld restValid]

/-! ## Messages for one destination -/

section Destinations

variable [DecidableEq Dest]

/-- The messages passed to `addMessage` for a destination, in order. -/
def deliveredTo
    (destination : Dest) (events : List (SendEvent Dest)) :
    List FlatbufferMessage :=
  events.filterMap fun
    | .transmitted _ => none
    | .addMessage message =>
        if message.destPtr = destination then some message.fbMsg else none

@[simp]
theorem deliveredTo_nil (destination : Dest) :
    deliveredTo destination [] = [] :=
  rfl

@[simp]
theorem deliveredTo_append
    (destination : Dest) (first second : List (SendEvent Dest)) :
    deliveredTo destination (first ++ second) =
      deliveredTo destination first ++ deliveredTo destination second := by
  simp [deliveredTo]

theorem deliveredTo_flatMap
    {Source : Type*} (destination : Dest)
    (events : Source → List (SendEvent Dest)) (sources : List Source) :
    deliveredTo destination (sources.flatMap events) =
      sources.flatMap fun source => deliveredTo destination (events source) := by
  induction sources with
  | nil => rfl
  | cons source rest induction => simp [induction]

/-- A message is passed once for every registration of the destination. -/
theorem deliveredTo_handOver
    (destination : Dest) (destinations : List Dest)
    (msg : FlatbufferMessage) :
    deliveredTo destination (handOver destinations msg) =
      List.replicate (destinations.count destination) msg := by
  have calls :
      deliveredTo destination
          (destinations.map fun dest => .addMessage ⟨msg, dest⟩) =
        List.replicate (destinations.count destination) msg := by
    induction destinations with
    | nil => rfl
    | cons first rest induction =>
        by_cases same : first = destination
        · subst same
          simpa [deliveredTo, List.replicate_succ] using induction
        · simpa [deliveredTo, same] using induction
  simpa [deliveredTo, handOver] using calls

/-- A filter that does not know a destination sends nothing to it. -/
theorem deliveredTo_flatMap_handOver_of_notMem
    {destination : Dest} {destinations : List Dest}
    (unknown : destination ∉ destinations) (msgs : List FlatbufferMessage) :
    deliveredTo destination (msgs.flatMap (handOver destinations)) = [] := by
  rw [deliveredTo_flatMap]
  simp [deliveredTo_handOver, List.count_eq_zero_of_not_mem unknown]

/-- A filter that knows a destination once sends it every message once. -/
theorem deliveredTo_flatMap_handOver_of_count
    {destination : Dest} {destinations : List Dest}
    (once : destinations.count destination = 1)
    (msgs : List FlatbufferMessage) :
    deliveredTo destination (msgs.flatMap (handOver destinations)) = msgs := by
  rw [deliveredTo_flatMap]
  simp [deliveredTo_handOver, once]

/-! ## The filters of a partition -/

/-- No filter of the list knows the destination. -/
def Unrouted
    (destination : Dest) (items : List (SrcHash × SourceFilter Dest)) :
    Prop :=
  ∀ item ∈ items, destination ∉ item.2.destIDs

/--
One filter of the list knows the destination, under one registration, and
takes the messages of the given hash; no other filter knows it.
-/
structure Routed
    (destination : Dest) (hash : SrcHash) (filter : SourceFilter Dest)
    (items : List (SrcHash × SourceFilter Dest)) : Prop where
  once : filter.destIDs.count destination = 1
  splits :
    ∃ before after, items = before ++ (hash, filter) :: after ∧
      Unrouted destination before ∧ Unrouted destination after

omit [DecidableEq Dest] in
theorem offerMessage_destIDs
    (fbMsg : FlatbufferMessage) (item : SrcHash × SourceFilter Dest) :
    (Partition.offerMessage fbMsg item).1.2.destIDs = item.2.destIDs := by
  unfold Partition.offerMessage
  split
  · exact item.2.filterMessage_destIDs fbMsg
  · rfl

theorem deliveredTo_offerMessage_of_notMem
    {destination : Dest} (fbMsg : FlatbufferMessage)
    {item : SrcHash × SourceFilter Dest}
    (unknown : destination ∉ item.2.destIDs) :
    deliveredTo destination (Partition.offerMessage fbMsg item).2 = [] := by
  unfold Partition.offerMessage
  split
  · dsimp only
    rw [item.2.filterMessage_events fbMsg]
    exact deliveredTo_flatMap_handOver_of_notMem unknown _
  · rfl

theorem deliveredTo_destroy_of_notMem
    {destination : Dest} {filter : SourceFilter Dest}
    (unknown : destination ∉ filter.destIDs) :
    deliveredTo destination filter.destroy = [] := by
  rw [destroy_events]
  exact deliveredTo_flatMap_handOver_of_notMem unknown _

theorem deliveredTo_destroy_of_count
    {destination : Dest} {filter : SourceFilter Dest}
    (once : filter.destIDs.count destination = 1) :
    deliveredTo destination filter.destroy = bufferOf filter := by
  rw [destroy_events]
  exact deliveredTo_flatMap_handOver_of_count once _

omit [DecidableEq Dest] in
theorem Unrouted.offered
    {destination : Dest} {items : List (SrcHash × SourceFilter Dest)}
    (unrouted : Unrouted destination items) (fbMsg : FlatbufferMessage) :
    Unrouted destination
      ((items.map (Partition.offerMessage fbMsg)).map (·.1)) := by
  intro item member
  simp only [List.map_map, List.mem_map, Function.comp_apply] at member
  rcases member with ⟨old, oldMember, rfl⟩
  rw [offerMessage_destIDs]
  exact unrouted old oldMember

omit [DecidableEq Dest] in
theorem Unrouted.filter
    {destination : Dest} {items : List (SrcHash × SourceFilter Dest)}
    (unrouted : Unrouted destination items)
    (keep : SrcHash × SourceFilter Dest → Bool) :
    Unrouted destination (items.filter keep) := by
  intro item member
  exact unrouted item (List.mem_of_mem_filter member)

omit [DecidableEq Dest] in
theorem Unrouted.append
    {destination : Dest} {first second : List (SrcHash × SourceFilter Dest)}
    (firstUnrouted : Unrouted destination first)
    (secondUnrouted : Unrouted destination second) :
    Unrouted destination (first ++ second) := by
  intro item member
  rcases List.mem_append.mp member with inFirst | inSecond
  · exact firstUnrouted item inFirst
  · exact secondUnrouted item inSecond

/-- The calls made for a destination while a message is offered. -/
theorem Unrouted.deliveredTo_offered
    {destination : Dest} {items : List (SrcHash × SourceFilter Dest)}
    (unrouted : Unrouted destination items) (fbMsg : FlatbufferMessage) :
    deliveredTo destination
      ((items.map (Partition.offerMessage fbMsg)).flatMap (·.2)) = [] := by
  rw [deliveredTo_flatMap]
  apply List.flatMap_eq_nil_iff.mpr
  intro result member
  rcases List.mem_map.mp member with ⟨item, itemMember, rfl⟩
  exact deliveredTo_offerMessage_of_notMem fbMsg (unrouted item itemMember)

/-- The calls made for a destination while filters are destroyed. -/
theorem Unrouted.deliveredTo_destroyed
    {destination : Dest} {items : List (SrcHash × SourceFilter Dest)}
    (unrouted : Unrouted destination items) :
    deliveredTo destination
      (items.flatMap fun item => item.2.destroy) = [] := by
  rw [deliveredTo_flatMap]
  apply List.flatMap_eq_nil_iff.mpr
  intro item member
  exact deliveredTo_destroy_of_notMem (unrouted item member)

/-- Without a filter for it, a destination gets nothing of a message. -/
theorem Unrouted.filterAndErase
    {destination : Dest} {items : List (SrcHash × SourceFilter Dest)}
    (unrouted : Unrouted destination items) (fbMsg : FlatbufferMessage) :
    Unrouted destination (Partition.filterAndErase items fbMsg).1 ∧
      deliveredTo destination (Partition.filterAndErase items fbMsg).2 =
        [] := by
  have offered := unrouted.offered fbMsg
  constructor
  · exact offered.filter _
  · simp only [Partition.filterAndErase, deliveredTo_append,
      unrouted.deliveredTo_offered fbMsg, List.nil_append]
    exact (offered.filter _).deliveredTo_destroyed

/--
What a message does to the filter of a destination: the destination gets what
the filter transmits, and what it still holds when it has finished.
-/
theorem Routed.filterAndErase
    {destination : Dest} {hash : SrcHash} {filter : SourceFilter Dest}
    {items : List (SrcHash × SourceFilter Dest)}
    (routed : Routed destination hash filter items)
    (fbMsg : FlatbufferMessage) :
    let next := (Partition.offerMessage fbMsg (hash, filter)).1.2
    let sent := (Partition.offerMessage fbMsg (hash, filter)).2
    (next.hasFinished = false →
      Routed destination hash next (Partition.filterAndErase items fbMsg).1 ∧
        deliveredTo destination (Partition.filterAndErase items fbMsg).2 =
          deliveredTo destination sent) ∧
      (next.hasFinished = true →
        Unrouted destination (Partition.filterAndErase items fbMsg).1 ∧
          deliveredTo destination (Partition.filterAndErase items fbMsg).2 =
            deliveredTo destination sent ++ bufferOf next) := by
  intro next sent
  rcases routed.splits with ⟨before, after, equal, noBefore, noAfter⟩
  have hashSame :
      (Partition.offerMessage fbMsg (hash, filter)).1 = (hash, next) := by
    simp only [next, Partition.offerMessage]
    split <;> rfl
  have nextOnce : next.destIDs.count destination = 1 := by
    rw [offerMessage_destIDs]
    exact routed.once
  have offeredEq :
      (items.map (Partition.offerMessage fbMsg)).map (·.1) =
        ((before.map (Partition.offerMessage fbMsg)).map (·.1)) ++
          (hash, next) ::
            ((after.map (Partition.offerMessage fbMsg)).map (·.1)) := by
    simp [equal, hashSame]
  have sentEq :
      deliveredTo destination
          ((items.map (Partition.offerMessage fbMsg)).flatMap (·.2)) =
        deliveredTo destination sent := by
    rw [equal, List.map_append, List.map_cons, List.flatMap_append,
      List.flatMap_cons, deliveredTo_append, deliveredTo_append,
      noBefore.deliveredTo_offered, noAfter.deliveredTo_offered]
    simp [sent]
  have beforeOffered := noBefore.offered fbMsg
  have afterOffered := noAfter.offered fbMsg
  constructor
  · intro running
    constructor
    · refine ⟨nextOnce, ?_⟩
      refine ⟨_, _, ?_, beforeOffered.filter fun item => !item.2.hasFinished,
        afterOffered.filter fun item => !item.2.hasFinished⟩
      simp only [Partition.filterAndErase, offeredEq, List.filter_append]
      simp [running]
    · simp only [Partition.filterAndErase, deliveredTo_append, sentEq,
        offeredEq, List.filter_append, List.flatMap_append,
        (beforeOffered.filter _).deliveredTo_destroyed]
      simp only [List.filter_cons, running, Bool.false_eq_true, if_false,
        (afterOffered.filter _).deliveredTo_destroyed, List.append_nil]
  · intro finished
    constructor
    · simp only [Partition.filterAndErase, offeredEq, List.filter_append]
      simp only [List.filter_cons, finished, Bool.not_true,
        Bool.false_eq_true, if_false]
      exact (beforeOffered.filter _).append (afterOffered.filter _)
    · simp only [Partition.filterAndErase, deliveredTo_append, sentEq,
        offeredEq, List.filter_append, List.flatMap_append,
        (beforeOffered.filter _).deliveredTo_destroyed]
      simp only [List.filter_cons, finished, if_true, List.flatMap_cons,
        deliveredTo_append, deliveredTo_destroy_of_count nextOnce,
        (afterOffered.filter _).deliveredTo_destroyed, List.append_nil,
        List.nil_append]

/-! ## Runs of a partition -/

/-- What happens to a partition: a stop is forced, or a poll task runs. -/
inductive PartitionInput where
  | forceStop
  | poll (input : PollInput)
deriving DecidableEq, Repr

/-- What is seen of a partition from outside. -/
inductive PartitionOutput (Dest : Type*) where
  /-- The consumer returned a message. -/
  | polled (message : Msg)
  | sent (event : SendEvent Dest)
deriving DecidableEq, Repr

/-- The message that a poll task got from the consumer, if it got one. -/
def polledMessage
    (input : PollInput) (outcome : Partition.PollOutcome Dest) :
    List Msg :=
  if outcome.polled = true ∧ input.status = .message then [input.message]
  else []

def step
    (context : MessageContext) (partition : Partition Dest) :
    PartitionInput → Partition Dest × List (PartitionOutput Dest)
  | .forceStop => (partition.forceStop, [])
  | .poll input =>
      let outcome := partition.pollForMessage context input
      (outcome.partition,
        (polledMessage input outcome).map .polled ++
          outcome.events.map .sent)

/-- The messages that the consumer returned. -/
def polledOf (outputs : List (PartitionOutput Dest)) : List Msg :=
  outputs.filterMap fun
    | .polled message => some message
    | .sent _ => none

/-- The events of the filters. -/
def sentOf (outputs : List (PartitionOutput Dest)) : List (SendEvent Dest) :=
  outputs.filterMap fun
    | .polled _ => none
    | .sent event => some event

/-- The flatbuffer of a polled message, if it is one of the given source. -/
def messageOfSource
    (context : MessageContext) (hash : SrcHash) (message : Msg) :
    Option FlatbufferMessage :=
  match FlatbufferMessage.ofKafkaMessage context message with
  | .error _ => none
  | .ok fbMsg => if fbMsg.sourceNameIDHash = hash then some fbMsg else none

/-- The flatbuffers of one source among the polled messages, in poll order. -/
def messagesOfSource
    (context : MessageContext) (hash : SrcHash) (messages : List Msg) :
    List FlatbufferMessage :=
  messages.filterMap (messageOfSource context hash)

theorem messageOfSource_eq_some
    {context : MessageContext} {hash : SrcHash} {message : Msg}
    {fbMsg : FlatbufferMessage}
    (found : messageOfSource context hash message = some fbMsg) :
    FlatbufferMessage.ofKafkaMessage context message = .ok fbMsg ∧
      fbMsg.sourceNameIDHash = hash := by
  unfold messageOfSource at found
  split at found
  · cases found
  · rename_i built equal
    split at found
    · rename_i same
      cases found
      exact ⟨equal, same⟩
    · cases found

omit [DecidableEq Dest] in
/--
A poll task either gets no message and leaves the filters alone, or gets one
and offers it to them.
-/
theorem pollForMessage_effect
    (context : MessageContext) (partition : Partition Dest)
    (input : PollInput) :
    let outcome := partition.pollForMessage context input
    (polledMessage input outcome = [] ∧
      outcome.partition.msgFilters = partition.msgFilters ∧
      outcome.events = []) ∨
    (polledMessage input outcome = [input.message] ∧
      outcome.partition.msgFilters =
        (Partition.offerPolled context partition.msgFilters input.message).1 ∧
      outcome.events =
        (Partition.offerPolled context partition.msgFilters input.message).2) := by
  intro outcome
  cases requested : partition.hasStopBeenRequested with
  | true =>
      left
      simp [outcome, Partition.pollForMessage, requested, polledMessage]
  | false =>
      cases paused : input.streamersPaused with
      | true =>
          left
          simp [outcome, Partition.pollForMessage, requested, paused,
            polledMessage]
      | false =>
          have outcomeEq :
              outcome =
                Partition.handlePoll context partition input.status
                  input.message input.clock := by
            simp [outcome, Partition.pollForMessage, requested, paused]
          have polled : outcome.polled = true := by
            rw [outcomeEq]
            exact Partition.handlePoll_polled context partition _ _ _
          by_cases isMessage : input.status = .message
          · right
            have effect :=
              Partition.handlePoll_message context input.message input.clock
                requested
            rw [← isMessage, ← outcomeEq] at effect
            exact ⟨by simp [polledMessage, polled, isMessage], effect⟩
          · left
            have effect :=
              Partition.handlePoll_other context partition input.message
                input.clock isMessage
            rw [← outcomeEq] at effect
            exact ⟨by simp [polledMessage, isMessage], effect⟩

omit [DecidableEq Dest] in
theorem polledOf_step
    (messages : List Msg) (events : List (SendEvent Dest))
    (outputs : List (PartitionOutput Dest)) :
    polledOf (messages.map .polled ++ events.map .sent ++ outputs) =
      messages ++ polledOf outputs := by
  simp [polledOf, List.filterMap_append, List.filterMap_map]

omit [DecidableEq Dest] in
theorem sentOf_step
    (messages : List Msg) (events : List (SendEvent Dest))
    (outputs : List (PartitionOutput Dest)) :
    sentOf (messages.map .polled ++ events.map .sent ++ outputs) =
      events ++ sentOf outputs := by
  simp [sentOf, List.filterMap_append, List.filterMap_map]

/-- All that is delivered to a destination in a run, the end included. -/
def deliveredInRun
    (context : MessageContext) (destination : Dest)
    (partition : Partition Dest) (inputs : List PartitionInput) :
    List FlatbufferMessage :=
  deliveredTo destination
    (sentOf (Mealy.run (step context) partition inputs).2 ++
      (Mealy.run (step context) partition inputs).1.destroy)

/-- The messages that the consumer returns in a run. -/
def polledInRun
    (context : MessageContext)
    (partition : Partition Dest) (inputs : List PartitionInput) : List Msg :=
  polledOf (Mealy.run (step context) partition inputs).2

theorem deliveredInRun_poll
    (context : MessageContext) (destination : Dest)
    (partition : Partition Dest) (input : PollInput)
    (rest : List PartitionInput) :
    deliveredInRun context destination partition (.poll input :: rest) =
      deliveredTo destination
          (partition.pollForMessage context input).events ++
        deliveredInRun context destination
          (partition.pollForMessage context input).partition rest := by
  simp only [deliveredInRun, Mealy.run_cons, step, sentOf_step]
  simp only [deliveredTo_append, List.append_assoc]

omit [DecidableEq Dest] in
theorem polledInRun_poll
    (context : MessageContext)
    (partition : Partition Dest) (input : PollInput)
    (rest : List PartitionInput) :
    polledInRun context partition (.poll input :: rest) =
      polledMessage input (partition.pollForMessage context input) ++
        polledInRun context
          (partition.pollForMessage context input).partition rest := by
  simp only [polledInRun, Mealy.run_cons, step, polledOf_step]

/-- A destination that no filter knows never gets a message. -/
theorem Unrouted.deliveredInRun
    {destination : Dest} (context : MessageContext)
    {partition : Partition Dest}
    (unrouted : Unrouted destination partition.msgFilters)
    (inputs : List PartitionInput) :
    deliveredInRun context destination partition inputs = [] := by
  induction inputs generalizing partition with
  | nil =>
      have destroyed := unrouted.deliveredTo_destroyed
      simpa [PartitionDelivery.deliveredInRun, sentOf, Partition.destroy] using
        destroyed
  | cons input rest induction =>
      cases input with
      | forceStop => exact induction unrouted
      | poll input =>
          rw [deliveredInRun_poll]
          rcases pollForMessage_effect context partition input with
            ⟨_, filters, events⟩ | ⟨_, filters, events⟩
          · rw [events, induction (by rw [filters]; exact unrouted)]
            rfl
          · rw [events]
            unfold Partition.offerPolled at filters ⊢
            split
            · rename_i failure equal
              rw [equal] at filters
              rw [induction (by rw [filters]; exact unrouted)]
              rfl
            · rename_i fbMsg equal
              rw [equal] at filters
              rcases unrouted.filterAndErase fbMsg with ⟨next, none⟩
              rw [none, induction (by rw [filters]; exact next)]
              rfl

/-- A message of another source does not reach the filter. -/
theorem Routed.offerPolled_other
    {destination : Dest} {hash : SrcHash} {filter : SourceFilter Dest}
    {context : MessageContext} {items : List (SrcHash × SourceFilter Dest)}
    {message : Msg}
    (routed : Routed destination hash filter items)
    (notDone : filter.isDone = false)
    (other : messageOfSource context hash message = none) :
    Routed destination hash filter
        (Partition.offerPolled context items message).1 ∧
      deliveredTo destination
        (Partition.offerPolled context items message).2 = [] := by
  unfold Partition.offerPolled
  cases built : FlatbufferMessage.ofKafkaMessage context message with
  | error failure => exact ⟨routed, rfl⟩
  | ok fbMsg =>
      have different : hash ≠ fbMsg.sourceNameIDHash := by
        intro same
        simp [messageOfSource, built, same] at other
      have offered :
          Partition.offerMessage fbMsg (hash, filter) =
            ((hash, filter), []) := by
        simp [Partition.offerMessage, different]
      have effect := routed.filterAndErase fbMsg
      rw [offered] at effect
      exact effect.1 notDone

/-- A message of the source is filtered; the filter goes on or has finished. -/
theorem Routed.offerPolled_own
    {destination : Dest} {hash : SrcHash} {filter : SourceFilter Dest}
    {context : MessageContext} {items : List (SrcHash × SourceFilter Dest)}
    {message : Msg} {fbMsg : FlatbufferMessage}
    (routed : Routed destination hash filter items)
    (own : messageOfSource context hash message = some fbMsg) :
    let result := filter.filterMessage fbMsg
    let offered := Partition.offerPolled context items message
    (result.filter.hasFinished = false →
      Routed destination hash result.filter offered.1 ∧
        deliveredTo destination offered.2 = transmittedOf result.events) ∧
      (result.filter.hasFinished = true →
        Unrouted destination offered.1 ∧
          deliveredTo destination offered.2 =
            transmittedOf result.events ++ bufferOf result.filter) := by
  intro result offered
  have sent :
      deliveredTo destination result.events = transmittedOf result.events := by
    rw [filter.filterMessage_events fbMsg,
      deliveredTo_flatMap_handOver_of_count routed.once,
      ← filter.filterMessage_events fbMsg]
  rcases messageOfSource_eq_some own with ⟨built, same⟩
  have resultEq :
      Partition.offerMessage fbMsg (hash, filter) =
        ((hash, result.filter), result.events) := by
    simp [Partition.offerMessage, same, result]
  have effect := routed.filterAndErase fbMsg
  rw [resultEq] at effect
  simp only [sent] at effect
  simpa [offered, Partition.offerPolled, built] using effect

/--
A destination gets in a run exactly what its filter delivers of the messages
of its source that are polled in that run.
-/
theorem Routed.deliveredInRun
    {destination : Dest} {hash : SrcHash} {filter : SourceFilter Dest}
    (context : MessageContext) {partition : Partition Dest}
    (routed : Routed destination hash filter partition.msgFilters)
    (notDone : filter.isDone = false)
    (inputs : List PartitionInput) :
    deliveredInRun context destination partition inputs =
      deliveries filter
        (messagesOfSource context hash
          (polledInRun context partition inputs)) := by
  induction inputs generalizing partition filter with
  | nil =>
      rcases routed.splits with ⟨before, after, equal, noBefore, noAfter⟩
      simp only [PartitionDelivery.deliveredInRun, Mealy.run_nil,
        Partition.destroy, equal, List.flatMap_append, List.flatMap_cons,
        deliveredTo_append, noBefore.deliveredTo_destroyed,
        noAfter.deliveredTo_destroyed, deliveredTo_destroy_of_count routed.once]
      simp [sentOf, polledInRun, polledOf, messagesOfSource, deliveries]
  | cons input rest induction =>
      cases input with
      | forceStop => exact induction routed notDone
      | poll input =>
          rw [deliveredInRun_poll, polledInRun_poll]
          unfold messagesOfSource at induction ⊢
          rcases pollForMessage_effect context partition input with
            ⟨polled, filters, events⟩ | ⟨polled, filters, events⟩
          · rw [events, polled,
              induction (by rw [filters]; exact routed) notDone]
            rfl
          · rw [events, polled]
            cases own : messageOfSource context hash input.message with
            | none =>
              rcases routed.offerPolled_other notDone own with
                ⟨next, delivered⟩
              rw [delivered, List.singleton_append,
                List.filterMap_cons_none own,
                induction (by rw [filters]; exact next) notDone]
              rfl
            | some fbMsg =>
              rw [List.singleton_append, List.filterMap_cons_some own,
                deliveries]
              cases finished :
                  (filter.filterMessage fbMsg).filter.hasFinished with
              | false =>
                  rcases (routed.offerPolled_own own).1 finished with
                    ⟨next, delivered⟩
                  rw [delivered,
                    induction (by rw [filters]; exact next) finished]
                  simp
              | true =>
                  rcases (routed.offerPolled_own own).2 finished with
                    ⟨next, delivered⟩
                  rw [← filters] at next
                  rw [delivered, next.deliveredInRun context rest]
                  simp

/-! ## The filters of an entry -/

/-- The entries of one writer hash agree on what the filter takes from them. -/
def Consistent (map : SrcToDst Dest) : Prop :=
  ∀ first ∈ map, ∀ second ∈ map, first.writeHash = second.writeHash →
    first.srcHash = second.srcHash ∧
      first.acceptsRepeatedTimestamps = second.acceptsRepeatedTimestamps

instance (map : SrcToDst Dest) : Decidable (Consistent map) :=
  inferInstanceAs
    (Decidable
      (∀ first ∈ map, ∀ second ∈ map, first.writeHash = second.writeHash →
        first.srcHash = second.srcHash ∧
          first.acceptsRepeatedTimestamps =
            second.acceptsRepeatedTimestamps))

/-- The filter that the constructor makes for an entry of the map. -/
def filterFor
    (map : SrcToDst Dest) (start stop : TimePoint) (entry : SrcDstKey Dest) :
    SourceFilter Dest :=
  (SourceFilter.create start stop
    entry.acceptsRepeatedTimestamps).addDestinationPtrs
      ((groupOf map entry.writeHash).map (·.destination))

omit [DecidableEq Dest] in
/-- The maps hold the filter and the source hash of every entry. -/
theorem buildFilterMaps_of_mem
    {map : SrcToDst Dest} (start stop : TimePoint)
    (consistent : Consistent map)
    {entry : SrcDstKey Dest} (member : entry ∈ map) :
    let maps := Partition.buildFilterMaps start stop map
    maps.tempFilterMap[entry.writeHash]? =
        some (filterFor map start stop entry) ∧
      maps.writerToSourceHashMap[entry.writeHash]? = some entry.srcHash := by
  have inGroup : entry ∈ groupOf map entry.writeHash :=
    mem_groupOf.mpr ⟨member, rfl⟩
  have agree :
      ∀ other ∈ groupOf map entry.writeHash,
        other.srcHash = entry.srcHash ∧
          other.acceptsRepeatedTimestamps =
            entry.acceptsRepeatedTimestamps := by
    intro other otherMember
    rcases mem_groupOf.mp otherMember with ⟨otherInMap, sameHash⟩
    exact consistent other otherInMap entry member sameHash
  have spec := buildFilterMaps_spec start stop map entry.writeHash
  dsimp only at spec ⊢
  rw [spec.1, spec.2]
  have nonempty := List.ne_nil_of_mem inGroup
  rw [List.head?_eq_some_head nonempty, List.getLast?_eq_some_getLast nonempty]
  constructor
  · have first := agree _ (List.head_mem nonempty)
    simp [filterFor, first.2]
  · have last := agree _ (List.getLast_mem nonempty)
    simp [last.1]

/-- No other entry of the map names the destination of the entry. -/
def Unshared (map : SrcToDst Dest) (entry : SrcDstKey Dest) : Prop :=
  (map.map (·.destination)).count entry.destination = 1

instance (map : SrcToDst Dest) (entry : SrcDstKey Dest) :
    Decidable (Unshared map entry) :=
  inferInstanceAs
    (Decidable ((map.map (·.destination)).count entry.destination = 1))

/-- An entry with an unshared destination is found by its destination. -/
theorem Unshared.eq_of_destination
    {map : SrcToDst Dest} {entry other : SrcDstKey Dest}
    (unshared : Unshared map entry)
    (member : entry ∈ map) (otherMember : other ∈ map)
    (same : other.destination = entry.destination) :
    other = entry := by
  rcases List.append_of_mem member with ⟨before, after, rfl⟩
  simp only [Unshared, List.map_append, List.map_cons, List.count_append,
    List.count_cons_self] at unshared
  have nowhere :
      ∀ part : SrcToDst Dest,
        (part.map (·.destination)).count entry.destination = 0 →
          other ∉ part := by
    intro part absent inPart
    apply List.count_eq_zero.mp absent
    rw [← same]
    exact List.mem_map_of_mem inPart
  rcases List.mem_append.mp otherMember with inBefore | inRest
  · exact absurd inBefore (nowhere before (by omega))
  · rcases List.mem_cons.mp inRest with equal | inAfter
    · exact equal
    · exact absurd inAfter (nowhere after (by omega))

/-- The filter of an entry knows its unshared destination once. -/
theorem Unshared.count_group
    {map : SrcToDst Dest} {entry : SrcDstKey Dest}
    (unshared : Unshared map entry) (member : entry ∈ map) :
    ((groupOf map entry.writeHash).map (·.destination)).count
      entry.destination = 1 := by
  apply Nat.le_antisymm
  · rw [← unshared]
    exact (List.filter_sublist.map _).count_le _
  · apply List.one_le_count_iff.mpr
    exact List.mem_map_of_mem (mem_groupOf.mpr ⟨member, rfl⟩)

/--
In a partition built from a map, an unshared destination of an entry belongs
to the filter made for the entry, and to no other.
-/
theorem routed_create
    {map : SrcToDst Dest} (start stop : TimePoint)
    (leeway kafkaErrorTimeout : Duration)
    (consistent : Consistent map)
    {entry : SrcDstKey Dest} (member : entry ∈ map)
    (unshared : Unshared map entry) :
    Routed entry.destination entry.srcHash (filterFor map start stop entry)
      (Partition.create map start stop leeway
        kafkaErrorTimeout).msgFilters := by
  let maps := Partition.buildFilterMaps start stop map
  rcases buildFilterMaps_of_mem start stop consistent member with
    ⟨filterFound, hashFound⟩
  have inList :
      (entry.writeHash, filterFor map start stop entry) ∈
        maps.tempFilterMap.toList :=
    Std.TreeMap.mem_toList_iff_getElem?_eq_some.mpr filterFound
  rcases List.append_of_mem inList with ⟨before, after, split⟩
  have keys := Std.TreeMap.distinct_keys_toList (t := maps.tempFilterMap)
  rw [split, List.pairwise_append, List.pairwise_cons] at keys
  have elsewhere :
      ∀ item ∈ maps.tempFilterMap.toList, item.1 ≠ entry.writeHash →
        entry.destination ∉ item.2.destIDs := by
    rintro ⟨writeHash, filter⟩ itemMember different known
    have found := Std.TreeMap.mem_toList_iff_getElem?_eq_some.mp itemMember
    have spec := (buildFilterMaps_spec start stop map writeHash).1
    rw [show maps.tempFilterMap[writeHash]? = _ from spec] at found
    rcases Option.map_eq_some_iff.mp found with ⟨first, _, rfl⟩
    rw [SourceFilter.addDestinationPtrs_eq] at known
    rcases List.mem_map.mp known with ⟨other, otherMember, sameDestination⟩
    rcases mem_groupOf.mp otherMember with ⟨otherInMap, otherHash⟩
    have equal : other = entry :=
      unshared.eq_of_destination member otherInMap sameDestination
    exact different (by rw [← otherHash, equal])
  have listed : (Partition.create map start stop leeway
      kafkaErrorTimeout).msgFilters = maps.toMsgFilters := rfl
  constructor
  · rw [filterFor, SourceFilter.addDestinationPtrs_eq]
    exact unshared.count_group member
  · have hash :
        maps.writerToSourceHashMap.getD entry.writeHash 0 = entry.srcHash := by
      rw [Std.TreeMap.getD_eq_getD_getElem?, hashFound, Option.getD_some]
    let listItem : SrcHash × SourceFilter Dest → SrcHash × SourceFilter Dest :=
      fun item => (maps.writerToSourceHashMap.getD item.1 0, item.2)
    refine ⟨before.map listItem, after.map listItem, ?_, ?_, ?_⟩
    · rw [listed, Partition.FilterMaps.toMsgFilters, split, List.map_append,
        List.map_cons, hash]
    · intro item itemMember
      rcases List.mem_map.mp itemMember with ⟨pair, pairMember, rfl⟩
      apply elsewhere pair
      · rw [split]
        exact List.mem_append_left _ pairMember
      · intro same
        apply keys.2.2 pair pairMember _ List.mem_cons_self
        rw [same]
        exact Std.ReflCmp.compare_self
    · intro item itemMember
      rcases List.mem_map.mp itemMember with ⟨pair, pairMember, rfl⟩
      apply elsewhere pair
      · rw [split]
        exact List.mem_append_right _ (List.mem_cons_of_mem _ pairMember)
      · intro same
        apply keys.2.1.1 pair pairMember
        rw [same]
        exact Std.ReflCmp.compare_self

/-! ## The delivery theorem -/

/-- The messages left when repeats of a timestamp are dropped, or not. -/
def withoutRepeats
    (acceptsRepeated : Bool) (msgs : List FlatbufferMessage) :
    List FlatbufferMessage :=
  if acceptsRepeated then msgs
  else dropRepeats FlatbufferMessage.timestamp msgs

/-- A polled flatbuffer is valid and its timestamp is not zero. -/
theorem valid_of_mem_messagesOfSource
    {context : MessageContext} {hash : SrcHash} {messages : List Msg}
    {fbMsg : FlatbufferMessage}
    (member : fbMsg ∈ messagesOfSource context hash messages) :
    fbMsg.valid = true ∧ fbMsg.timestamp ≠ 0 := by
  rcases List.mem_filterMap.mp member with ⟨message, _, found⟩
  exact FlatbufferMessage.valid_of_ofKafkaMessage
    (messageOfSource_eq_some found).1

/-- The selection from messages whose timestamps do not decrease. -/
theorem window_withoutRepeats_of_ordered
    (start stop : TimePoint) (acceptsRepeated : Bool)
    {msgs : List FlatbufferMessage}
    (ordered :
      msgs.Pairwise fun msg later => msg.timestamp ≤ later.timestamp) :
    let fresh := withoutRepeats acceptsRepeated msgs
    window (isEarly start) (isPast stop) fresh =
      (fresh.filter (isEarly start)).getLast?.toList ++
        throughFirst (isPast stop)
          (fresh.filter fun msg => !isEarly start msg) := by
  intro fresh
  have part : List.Sublist fresh msgs := by
    unfold fresh withoutRepeats
    cases acceptsRepeated with
    | true => exact List.Sublist.refl msgs
    | false =>
        cases msgs with
        | nil => exact List.Sublist.slnil
        | cons msg rest =>
            exact (dropRepeatsAfter_sublist _ _ rest).cons_cons msg
  apply window_of_ordered
  refine (ordered.sublist part).imp ?_
  intro msg later notLater laterEarly
  simp only [isEarly, decide_eq_true_eq] at laterEarly ⊢
  exact
    lt_of_le_of_lt
      (TimePoint.ofMicrosecondCast_le_ofMicrosecondCast notLater)
      laterEarly

/--
End-to-end delivery of one partition.  Let the partition be built from a map
whose entries agree within each writer hash, be polled any number of times with
any results while stops are forced at any point, and then be destroyed.  The
messages passed to the writer for a destination that one entry names are the
window between start and stop of the polled messages of its source, without
repeated timestamps unless these are accepted.  When the timestamps of these
messages do not decrease, this is the last message from before the start time,
if there is one, followed by the messages from the start time on up to the
first from after the stop time.
-/
theorem partition_delivers_window
    (context : MessageContext) (map : SrcToDst Dest)
    (start stop : TimePoint) (leeway kafkaErrorTimeout : Duration)
    (inputs : List PartitionInput)
    (consistent : Consistent map)
    (entry : SrcDstKey Dest) (member : entry ∈ map)
    (unshared : Unshared map entry) :
    let created :=
      Partition.create map start stop leeway kafkaErrorTimeout
    let source :=
      messagesOfSource context entry.srcHash
        (polledInRun context created inputs)
    let fresh := withoutRepeats entry.acceptsRepeatedTimestamps source
    deliveredInRun context entry.destination created inputs =
        window (isEarly start) (isPast stop) fresh ∧
      ((source.Pairwise fun msg later => msg.timestamp ≤ later.timestamp) →
        deliveredInRun context entry.destination created inputs =
          (fresh.filter (isEarly start)).getLast?.toList ++
            throughFirst (isPast stop)
              (fresh.filter fun msg => !isEarly start msg)) := by
  intro created source fresh
  have routed :=
    routed_create start stop leeway kafkaErrorTimeout consistent member unshared
  have delivered :
      deliveredInRun context entry.destination created inputs =
        window (isEarly start) (isPast stop) fresh := by
    have notDone : (filterFor map start stop entry).isDone = false := by
      rw [filterFor, SourceFilter.addDestinationPtrs_eq]
      rfl
    rw [routed.deliveredInRun context notDone inputs,
      deliveries_eq_window _ _ notDone]
    · have noZero : ∀ msg ∈ source, msg.timestamp ≠ 0 :=
        fun msg known => (valid_of_mem_messagesOfSource known).2
      rw [filterFor, SourceFilter.addDestinationPtrs_eq]
      simp only [SourceFilter.create, bufferOf, freshAfter,
        Bool.false_eq_true, if_false, List.nil_append]
      rw [dropRepeatsAfter_eq_dropRepeats noZero]
      rfl
    · intro msg held
      rw [filterFor, SourceFilter.addDestinationPtrs_eq] at held
      simp [bufferOf, SourceFilter.create] at held
    · intro msg known
      exact (valid_of_mem_messagesOfSource known).1
  refine ⟨delivered, fun ordered => ?_⟩
  rw [delivered]
  exact window_withoutRepeats_of_ordered start stop _ ordered

end Destinations

/-! ## A run on one buffer -/

/--
An f144 buffer with the source name `s`, a byte as its value and a timestamp
of one millisecond after the epoch.
-/
def sampleBuffer : List UInt8 :=
  [20, 0, 0, 0, 102, 49, 52, 52,
    12, 0, 21, 0, 4, 0, 20, 0, 8, 0, 12, 0,
    12, 0, 0, 0, 20, 0, 0, 0, 32, 0, 0, 0,
    64, 66, 15, 0, 0, 0, 0, 0, 1, 0, 0, 0,
    1, 0, 0, 0, 115, 0, 0, 0,
    6, 0, 5, 0, 4, 0, 0, 0, 8, 0, 0, 0, 7]

/-- A registry whose reader for f144 knows the one buffer. -/
def sampleContext : MessageContext where
  findReader id :=
    if id = "f144" then
      some
        { verify := fun data => data == sampleBuffer
          sourceName := fun data =>
            if data = sampleBuffer then .ok "s" else .error .other
          timestamp := fun data =>
            if data = sampleBuffer then .ok 1000000 else .error .other }
    else
      none
  hash name := name.length.toUInt64

/-- The buffer as a flatbuffer message. -/
def sampleMessage : FlatbufferMessage where
  data := sampleBuffer
  sourceNameIDHash := 5
  sourcename := "s"
  id := "f144"
  timestamp := 1000000
  valid := true

/-- The buffer is polled once. -/
def sampleInputs : List PartitionInput :=
  [.poll ⟨false, .message, ⟨sampleBuffer, ⟨1, 0⟩⟩, ⟨0, 0, 0⟩⟩]

/-- An entry for the source of the buffer. -/
def sampleEntry : SrcDstKey Nat :=
  ⟨5, 9, 0, false⟩

/-- One entry alone gets the polled message. -/
theorem partition_delivers_window_sample :
    deliveredInRun sampleContext 0
        (Partition.create [sampleEntry] 0 1000000000 0 0) sampleInputs =
      [sampleMessage] := by
  have delivered :=
    (partition_delivers_window sampleContext [sampleEntry] 0 1000000000 0 0
      sampleInputs (by decide) sampleEntry (by decide) (by decide)).1
  exact delivered.trans (by decide)

/--
Two entries that name one destination are registered twice in the filter they
share, and the destination gets every message twice.
-/
theorem shared_destination_gets_message_twice :
    Consistent [sampleEntry, sampleEntry] ∧
      sampleEntry ∈ [sampleEntry, sampleEntry] ∧
      (let created :=
        Partition.create [sampleEntry, sampleEntry] 0 1000000000 0 0
      let source :=
        messagesOfSource sampleContext sampleEntry.srcHash
          (polledInRun sampleContext created sampleInputs)
      let fresh := withoutRepeats sampleEntry.acceptsRepeatedTimestamps source
      (source.Pairwise fun msg later => msg.timestamp ≤ later.timestamp) ∧
        deliveredInRun sampleContext sampleEntry.destination created
            sampleInputs ≠
          (fresh.filter (isEarly 0)).getLast?.toList ++
            throughFirst (isPast 1000000000)
              (fresh.filter fun msg => !isEarly 0 msg)) := by
  refine ⟨by decide, by decide, ?_⟩
  dsimp only
  decide

end KafkaToNexus.Stream.PartitionDelivery
