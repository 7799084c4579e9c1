import KafkaToNexus.Stream.SourceFilter
import Mathlib.Data.List.NodupEquivFin

/-!
# Conservation of messages in a source filter

A filter may be given messages in any order, valid or not, and its stop time
may be moved between any two of them.  Whatever happens, every message it has
received is accounted for: it was transmitted, discarded, or is the one in the
buffer.  What is transmitted keeps the order of arrival, and a message from
before the start time leaves the filter only in front of one that is not, or
through the destructor.

The module follows the calls on a filter as a run and carries one invariant,
`Ledger`, along it.
-/

namespace KafkaToNexus.Stream.SourceFilterConservation

open KafkaToNexus
open KafkaToNexus.Foundations

variable {Dest : Type*}

/-- The calls made on a filter once its destinations are registered. -/
inductive FilterCall where
  | filterMessage (inMsg : FlatbufferMessage)
  | setStopTime (stopTime : TimePoint)
deriving DecidableEq, Repr

/-- One call and the events it causes. -/
def perform
    (filter : SourceFilter Dest) :
    FilterCall → SourceFilter Dest × List (SendEvent Dest)
  | .filterMessage inMsg =>
      ((filter.filterMessage inMsg).filter, (filter.filterMessage inMsg).events)
  | .setStopTime stopTime => (filter.setStopTime stopTime, [])

/-- A sequence of calls and all the events it causes. -/
def performAll
    (filter : SourceFilter Dest) (calls : List FilterCall) :
    SourceFilter Dest × List (SendEvent Dest) :=
  Mealy.run perform filter calls

/-- The messages handed to `filterMessage`. -/
def receivedOf (calls : List FilterCall) : List FlatbufferMessage :=
  calls.filterMap fun
    | .filterMessage inMsg => some inMsg
    | .setStopTime _ => none

/-- The valid ones among the received messages. -/
def validOf (calls : List FilterCall) : List FlatbufferMessage :=
  (receivedOf calls).filter (·.valid)

/-- Every message from before `start` is followed by one that is not. -/
def EarlyFollowed
    (start : TimePoint) (sent : List FlatbufferMessage) : Prop :=
  ∀ index msg, sent[index]? = some msg → messageTime msg < start →
    ∃ next, sent[index + 1]? = some next ∧ start ≤ messageTime next

@[simp]
theorem receivedOf_concat_filterMessage
    (calls : List FilterCall) (inMsg : FlatbufferMessage) :
    receivedOf (calls ++ [.filterMessage inMsg]) =
      receivedOf calls ++ [inMsg] := by
  simp [receivedOf]

@[simp]
theorem receivedOf_concat_setStopTime
    (calls : List FilterCall) (stopTime : TimePoint) :
    receivedOf (calls ++ [.setStopTime stopTime]) = receivedOf calls := by
  simp [receivedOf]

theorem validOf_concat_filterMessage
    (calls : List FilterCall) {inMsg : FlatbufferMessage}
    (valid : inMsg.valid = true) :
    validOf (calls ++ [.filterMessage inMsg]) = validOf calls ++ [inMsg] := by
  simp [validOf, valid]

/-- The message that is sent now closes the requirement on the list before. -/
theorem EarlyFollowed.append_onTime
    {start : TimePoint} {sent buffered : List FlatbufferMessage}
    {msg : FlatbufferMessage}
    (followed : EarlyFollowed start sent)
    (single : buffered.length ≤ 1)
    (onTime : start ≤ messageTime msg) :
    EarlyFollowed start (sent ++ buffered ++ [msg]) := by
  intro index early found isEarly
  by_cases old : index < sent.length
  · rw [List.append_assoc, List.getElem?_append_left old] at found
    obtain ⟨next, nextFound, nextOnTime⟩ := followed index early found isEarly
    have inside : index + 1 < sent.length :=
      (List.getElem?_eq_some_iff.mp nextFound).1
    refine ⟨next, ?_, nextOnTime⟩
    rw [List.append_assoc, List.getElem?_append_left inside, nextFound]
  · by_cases inBuffer : index < sent.length + buffered.length
    · refine ⟨msg, ?_, onTime⟩
      have position : index + 1 = (sent ++ buffered).length := by
        rw [List.length_append]
        omega
      rw [position, List.getElem?_concat_length]
    · have last : index = (sent ++ buffered).length := by
        have bound := (List.getElem?_eq_some_iff.mp found).1
        simp only [List.length_append, List.length_singleton] at bound
        rw [List.length_append]
        omega
      rw [last, List.getElem?_concat_length] at found
      cases found
      exact absurd onTime (not_le.mpr isEarly)

/-! ## The invariant of a run -/

/--
The state of a filter after a list of calls that caused a list of events,
for a filter constructed with `start` and the given destinations.
-/
structure Ledger
    (start : TimePoint) (destinations : List Dest)
    (calls : List FilterCall) (events : List (SendEvent Dest))
    (filter : SourceFilter Dest) : Prop where
  start_eq : filter.start = start
  destIDs_eq : filter.destIDs = destinations
  received_eq : filter.messagesReceived = (receivedOf calls).length
  transmitted_eq : filter.messagesTransmitted = (transmittedOf events).length
  balance :
    filter.messagesReceived =
      filter.messagesTransmitted + filter.messagesDiscarded +
        (bufferOf filter).length
  order : List.Sublist (transmittedOf events ++ bufferOf filter) (validOf calls)
  handed : events = (transmittedOf events).flatMap (handOver destinations)
  followed : EarlyFollowed start (transmittedOf events)

theorem ledger_registered
    (start stop : TimePoint) (accept : Bool) (destinations : List Dest) :
    Ledger start destinations [] []
      ((SourceFilter.create start stop accept).addDestinationPtrs
        destinations) := by
  rw [SourceFilter.addDestinationPtrs_eq]
  constructor <;>
    simp [SourceFilter.create, receivedOf, validOf, bufferOf, EarlyFollowed]

/-- Discarding a message keeps the ledger: it is counted, and nothing moves. -/
theorem Ledger.discard
    {start : TimePoint} {destinations : List Dest}
    {calls : List FilterCall} {events : List (SendEvent Dest)}
    {filter next : SourceFilter Dest} {inMsg : FlatbufferMessage}
    (ledger : Ledger start destinations calls events filter)
    (same :
      next.start = filter.start ∧ next.destIDs = filter.destIDs ∧
        next.bufferedMessage = filter.bufferedMessage ∧
        next.messagesTransmitted = filter.messagesTransmitted)
    (received : next.messagesReceived = filter.messagesReceived + 1)
    (discarded : next.messagesDiscarded = filter.messagesDiscarded + 1) :
    Ledger start destinations (calls ++ [.filterMessage inMsg]) events next := by
  obtain ⟨startSame, destSame, bufferSame, transmittedSame⟩ := same
  have buffer : bufferOf next = bufferOf filter := by
    simp [bufferOf, bufferSame]
  constructor
  · rw [startSame, ledger.start_eq]
  · rw [destSame, ledger.destIDs_eq]
  · simpa [received] using ledger.received_eq
  · rw [transmittedSame, ledger.transmitted_eq]
  · rw [received, transmittedSame, discarded, buffer, ledger.balance]
    omega
  · rw [buffer]
    refine ledger.order.trans ?_
    simp [validOf]
  · exact ledger.handed
  · exact ledger.followed

/-- Buffering a message discards the one it replaces. -/
theorem Ledger.buffer
    {start : TimePoint} {destinations : List Dest}
    {calls : List FilterCall} {events : List (SendEvent Dest)}
    {filter next : SourceFilter Dest} {inMsg : FlatbufferMessage}
    (ledger : Ledger start destinations calls events filter)
    (valid : inMsg.valid = true)
    (same :
      next.start = filter.start ∧ next.destIDs = filter.destIDs ∧
        next.messagesTransmitted = filter.messagesTransmitted)
    (buffered : next.bufferedMessage = inMsg)
    (received : next.messagesReceived = filter.messagesReceived + 1)
    (discarded :
      next.messagesDiscarded =
        filter.messagesDiscarded + (bufferOf filter).length) :
    Ledger start destinations (calls ++ [.filterMessage inMsg]) events next := by
  obtain ⟨startSame, destSame, transmittedSame⟩ := same
  have buffer : bufferOf next = [inMsg] := by
    simp [bufferOf, buffered, valid]
  constructor
  · rw [startSame, ledger.start_eq]
  · rw [destSame, ledger.destIDs_eq]
  · simpa [received] using ledger.received_eq
  · rw [transmittedSame, ledger.transmitted_eq]
  · rw [received, transmittedSame, discarded, buffer, ledger.balance]
    simp only [List.length_singleton]
    omega
  · have earlier :
        List.Sublist (transmittedOf events) (validOf calls) :=
      (List.sublist_append_left _ _).trans ledger.order
    rw [buffer, validOf_concat_filterMessage calls valid]
    exact earlier.append (List.Sublist.refl [inMsg])
  · exact ledger.handed
  · exact ledger.followed

/-- Sending a message sends the buffered one first and empties the buffer. -/
theorem Ledger.send
    {start : TimePoint} {destinations : List Dest}
    {calls : List FilterCall} {events : List (SendEvent Dest)}
    {filter next : SourceFilter Dest} {inMsg : FlatbufferMessage}
    (ledger : Ledger start destinations calls events filter)
    (valid : inMsg.valid = true)
    (onTime : start ≤ messageTime inMsg)
    (same :
      next.start = filter.start ∧ next.destIDs = filter.destIDs ∧
        next.messagesDiscarded = filter.messagesDiscarded)
    (emptied : bufferOf next = [])
    (received : next.messagesReceived = filter.messagesReceived + 1)
    (transmitted :
      next.messagesTransmitted =
        filter.messagesTransmitted + (bufferOf filter).length + 1) :
    Ledger start destinations (calls ++ [.filterMessage inMsg])
      (events ++ (filter.destroy ++ (filter.sendMessage inMsg).2)) next := by
  obtain ⟨startSame, destSame, discardedSame⟩ := same
  have sent :
      transmittedOf
          (events ++ (filter.destroy ++ (filter.sendMessage inMsg).2)) =
        transmittedOf events ++ bufferOf filter ++ [inMsg] := by
    simp [sendMessage_events]
  constructor
  · rw [startSame, ledger.start_eq]
  · rw [destSame, ledger.destIDs_eq]
  · simpa [received] using ledger.received_eq
  · rw [sent, transmitted, ledger.transmitted_eq]
    simp only [List.length_append, List.length_singleton]
  · rw [received, transmitted, discardedSame, emptied, ledger.balance]
    simp only [List.length_nil]
    omega
  · rw [sent, emptied, List.append_nil,
      validOf_concat_filterMessage calls valid]
    exact ledger.order.append (List.Sublist.refl [inMsg])
  · rw [sent, List.flatMap_append, List.flatMap_append, ← ledger.handed,
      destroy_events, sendMessage_events, ledger.destIDs_eq]
    simp
  · rw [sent]
    exact ledger.followed.append_onTime (bufferOf_length_le filter) onTime

/-- Every call keeps the ledger. -/
theorem Ledger.perform
    {start : TimePoint} {destinations : List Dest}
    {calls : List FilterCall} {events : List (SendEvent Dest)}
    {filter : SourceFilter Dest}
    (ledger : Ledger start destinations calls events filter)
    (call : FilterCall) :
    Ledger start destinations (calls ++ [call])
      (events ++ (perform filter call).2) (perform filter call).1 := by
  cases call with
  | setStopTime stopTime =>
      simp only [SourceFilterConservation.perform, List.append_nil]
      exact
        { start_eq := ledger.start_eq
          destIDs_eq := ledger.destIDs_eq
          received_eq := by
            rw [receivedOf_concat_setStopTime]
            exact ledger.received_eq
          transmitted_eq := ledger.transmitted_eq
          balance := ledger.balance
          order := by
            rw [validOf, receivedOf_concat_setStopTime]
            exact ledger.order
          handed := ledger.handed
          followed := ledger.followed }
  | filterMessage inMsg =>
      rcases filter.filterMessage_classification inMsg with
        invalid | ⟨valid, repeats⟩ | ⟨valid, fresh, early⟩ |
          ⟨valid, fresh, onTime⟩
      · simp only [SourceFilterConservation.perform,
          filter.filterMessage_of_invalid invalid, List.append_nil]
        exact ledger.discard ⟨rfl, rfl, rfl, rfl⟩ rfl rfl
      · simp only [SourceFilterConservation.perform,
          filter.filterMessage_of_repeats valid repeats, List.append_nil]
        exact ledger.discard ⟨rfl, rfl, rfl, rfl⟩ rfl rfl
      · obtain ⟨repeated, unordered, result⟩ :=
          filter.filterMessage_of_early valid fresh early
        simp only [SourceFilterConservation.perform, result, List.append_nil]
        refine ledger.buffer valid ⟨rfl, rfl, rfl⟩ rfl rfl ?_
        cases held : filter.bufferedMessage.valid <;>
          simp [SourceFilter.bufferMessage, bufferOf, held]
      · obtain ⟨repeated, unordered, result⟩ :=
          filter.filterMessage_of_onTime valid fresh onTime
        simp only [SourceFilterConservation.perform, result]
        rw [ledger.start_eq] at onTime
        refine ledger.send valid (not_lt.mp onTime) ⟨rfl, rfl, rfl⟩ ?_ rfl ?_
        · cases held : filter.bufferedMessage.valid <;>
            simp [bufferOf, held]
        · cases held : filter.bufferedMessage.valid <;>
            simp [bufferOf, held]

/-- The ledger holds after every sequence of calls. -/
theorem ledger_performAll
    (start stop : TimePoint) (accept : Bool) (destinations : List Dest)
    (calls : List FilterCall) :
    let filter :=
      (SourceFilter.create start stop accept).addDestinationPtrs destinations
    Ledger start destinations calls (performAll filter calls).2
      (performAll filter calls).1 :=
  Mealy.run_induction
    (fun calls events filter =>
      Ledger start destinations calls events filter)
    (ledger_registered start stop accept destinations)
    (fun _ _ _ call ledger => ledger.perform call) calls

/-! ## Finishing -/

/-- A finished filter stays finished. -/
theorem hasFinished_perform
    (filter : SourceFilter Dest) (call : FilterCall)
    (finished : filter.hasFinished = true) :
    (perform filter call).1.hasFinished = true := by
  change filter.isDone = true at finished
  cases call with
  | setStopTime stopTime => exact finished
  | filterMessage inMsg =>
      rcases filter.filterMessage_classification inMsg with
        invalid | ⟨valid, repeats⟩ | ⟨valid, fresh, early⟩ |
          ⟨valid, fresh, onTime⟩
      · rw [perform, filter.filterMessage_of_invalid invalid]
        exact finished
      · rw [perform, filter.filterMessage_of_repeats valid repeats]
        exact finished
      · obtain ⟨repeated, unordered, result⟩ :=
          filter.filterMessage_of_early valid fresh early
        rw [perform, result]
        exact finished
      · obtain ⟨repeated, unordered, result⟩ :=
          filter.filterMessage_of_onTime valid fresh onTime
        simp [perform, result, SourceFilter.hasFinished, finished]

theorem hasFinished_performAll
    (filter : SourceFilter Dest) (calls : List FilterCall)
    (finished : filter.hasFinished = true) :
    (performAll filter calls).1.hasFinished = true :=
  Mealy.run_induction
    (fun _ _ (state : SourceFilter Dest) => state.hasFinished = true)
    finished (fun _ _ state call => hasFinished_perform state call) calls

/-! ## The conservation theorem -/

/--
After every sequence of calls on a filter, received messages are exactly the
transmitted, the discarded and the buffered ones; the transmitted messages
followed by the buffered one sit at increasing positions in the list of valid
messages received; each transmitted message went once to each destination, in
the order of registration; a message from before the start time is only ever
transmitted in front of one that is not, or as the last one by the destructor;
and a filter that has finished stays so through all later calls.
-/
theorem sourceFilter_conserves_messages
    (start stop : TimePoint) (accept : Bool) (destinations : List Dest)
    (calls : List FilterCall) :
    let created :=
      (SourceFilter.create start stop accept).addDestinationPtrs destinations
    let filter := (performAll created calls).1
    let events := (performAll created calls).2
    let sent := transmittedOf events
    let sentAtLast := transmittedOf (events ++ filter.destroy)
    filter.messagesReceived = (receivedOf calls).length ∧
      filter.messagesTransmitted = sent.length ∧
      filter.messagesReceived =
        filter.messagesTransmitted + filter.messagesDiscarded +
          (if filter.bufferedMessage.valid then 1 else 0) ∧
      (∃ position : Nat ↪o Nat, ∀ index,
        (sent ++ bufferOf filter)[index]? =
          (validOf calls)[position index]?) ∧
      events = sent.flatMap (handOver destinations) ∧
      EarlyFollowed start sent ∧
      (∀ index msg, sentAtLast[index]? = some msg → messageTime msg < start →
        (∃ next, sentAtLast[index + 1]? = some next ∧
          start ≤ messageTime next) ∨
        (index = sent.length ∧ filter.bufferedMessage.valid = true ∧
          msg = filter.bufferedMessage)) ∧
      (∀ later,
        filter.hasFinished = true →
          (performAll created (calls ++ later)).1.hasFinished = true) := by
  intro created filter events sent sentAtLast
  have ledger : Ledger start destinations calls events filter :=
    ledger_performAll start stop accept destinations calls
  have final : sentAtLast = sent ++ bufferOf filter := by
    simp [sentAtLast, sent]
  refine ⟨ledger.received_eq, ledger.transmitted_eq, ?_, ?_, ledger.handed,
    ledger.followed, ?_, ?_⟩
  · have counted := ledger.balance
    cases held : filter.bufferedMessage.valid <;>
      simpa [bufferOf, held] using counted
  · exact List.sublist_iff_exists_orderEmbedding_getElem?_eq.mp ledger.order
  · intro index msg found early
    rw [final] at found ⊢
    by_cases old : index < sent.length
    · left
      rw [List.getElem?_append_left old] at found
      obtain ⟨next, nextFound, onTime⟩ :=
        ledger.followed index msg found early
      have inside : index + 1 < sent.length :=
        (List.getElem?_eq_some_iff.mp nextFound).1
      exact ⟨next, by rw [List.getElem?_append_left inside, nextFound], onTime⟩
    · right
      rw [List.getElem?_append_right (not_lt.mp old)] at found
      cases held : filter.bufferedMessage.valid with
      | false => simp [bufferOf, held] at found
      | true =>
          simp only [bufferOf, held, if_true] at found
          have position : index - sent.length < 1 :=
            (List.getElem?_eq_some_iff.mp found).1
          have first : index - sent.length = 0 := by omega
          rw [first] at found
          cases found
          exact ⟨by omega, rfl, rfl⟩
  · intro later finished
    have split :
        (performAll created (calls ++ later)).1 =
          (performAll filter later).1 := by
      simp [performAll, Mealy.run_append, filter]
    rw [split]
    exact hasFinished_performAll filter later finished

end KafkaToNexus.Stream.SourceFilterConservation
