import KafkaToNexus.Foundations.BlockStarts
import KafkaToNexus.Foundations.Mealy
import KafkaToNexus.WriterModule.Ev42Writer

/-!
# The index of events

The events of the pulses are blocks in long vectors, and the event index says
where each block starts.  The writer counts the events in 64 bits but the index
is a dataset of 32 bits, so that the index is right as long as all pulses but
the last have fewer than `2 ^ 32` events.
-/

namespace KafkaToNexus.WriterModule.Ev42

open KafkaToNexus.Foundations KafkaToNexus.NeXusDataset

/-- The datasets hold the events of the messages and where they start. -/
structure IndexesEvents (messages : List EventMessage) (writer : Writer) :
    Prop where
  eventId : writer.eventId.elements = messages.flatMap (·.detectorId)
  eventTimeOffset :
    writer.eventTimeOffset.elements = messages.flatMap (·.timeOfFlight)
  eventTimeZero : writer.eventTimeZero.elements = messages.map (·.pulseTime)
  /-- As natural numbers, so that no value is cut off. -/
  eventIndex :
    writer.eventIndex.elements.map UInt32.toNat =
      starts (messages.map fun message => message.detectorId.length)

/-- What the datasets hold after any messages. -/
structure Tracks (messages : List EventMessage) (writer : Writer) : Prop where
  idAtEnd : writer.eventId.AtEnd
  timeOffsetAtEnd : writer.eventTimeOffset.AtEnd
  timeZeroAtEnd : writer.eventTimeZero.AtEnd
  indexAtEnd : writer.eventIndex.AtEnd
  eventId : writer.eventId.elements = messages.flatMap (·.detectorId)
  eventTimeOffset :
    writer.eventTimeOffset.elements = messages.flatMap (·.timeOfFlight)
  eventTimeZero : writer.eventTimeZero.elements = messages.map (·.pulseTime)
  eventsWritten :
    writer.eventsWritten =
      .ofNat
        ((messages.map fun message => message.detectorId.length).map
          (· % 2 ^ 32)).sum
  eventIndex :
    writer.eventIndex.elements =
      (starts
        ((messages.map fun message => message.detectorId.length).map
          (· % 2 ^ 32))).map fun start => clipToUInt32 (.ofNat start)

variable {config : Config} {messages : List EventMessage} {writer : Writer}

/-- The size of a vector is taken modulo `2 ^ 32`. -/
theorem toUInt64_currentNumberOfEvents (message : EventMessage) :
    (currentNumberOfEvents message).toUInt64 =
      .ofNat (message.detectorId.length % 2 ^ 32) := by
  apply UInt64.toNat.inj
  rw [UInt32.toNat_toUInt64, currentNumberOfEvents, UInt32.toNat_ofNat',
    UInt64.toNat_ofNat']
  omega

theorem tracks_empty : Tracks [] {} :=
  ⟨rfl, rfl, rfl, rfl, rfl, rfl, rfl, rfl, rfl⟩

theorem Tracks.appendEvents
    (tracks : Tracks messages writer) (message : EventMessage) :
    Tracks (messages ++ [message]) (appendEvents message writer).1 := by
  constructor
  · exact tracks.idAtEnd.appendArrayAdapter message.detectorId
  · exact tracks.timeOffsetAtEnd.appendArrayAdapter message.timeOfFlight
  · exact tracks.timeZeroAtEnd.appendElement message.pulseTime
  · exact tracks.indexAtEnd.appendElement _
  · show (writer.eventId.appendArrayAdapter message.detectorId).elements = _
    rw [ExtensibleDataset.elements_appendArrayAdapter tracks.idAtEnd,
      tracks.eventId, List.flatMap_append, List.flatMap_singleton]
  · show
      (writer.eventTimeOffset.appendArrayAdapter
        message.timeOfFlight).elements = _
    rw [ExtensibleDataset.elements_appendArrayAdapter tracks.timeOffsetAtEnd,
      tracks.eventTimeOffset, List.flatMap_append, List.flatMap_singleton]
  · show (writer.eventTimeZero.appendElement message.pulseTime).elements = _
    rw [ExtensibleDataset.elements_appendElement tracks.timeZeroAtEnd,
      tracks.eventTimeZero, List.map_append, List.map_singleton]
  · show writer.eventsWritten + (currentNumberOfEvents message).toUInt64 = _
    rw [tracks.eventsWritten, List.map_append, List.map_append,
      List.sum_append, UInt64.ofNat_add, toUInt64_currentNumberOfEvents]
    rfl
  · show (writer.eventIndex.appendElement _).elements = _
    rw [ExtensibleDataset.elements_appendElement tracks.indexAtEnd,
      tracks.eventIndex, tracks.eventsWritten, List.map_append,
      List.map_append, List.map_singleton, List.map_singleton, starts_concat,
      List.map_append, List.map_singleton]

/-- The rest of a call does not touch the events and their index. -/
theorem Tracks.write
    (tracks : Tracks messages writer) (message : EventMessage) :
    Tracks (messages ++ [message]) (write config message writer).1 := by
  apply Throwing.inOrder_cons_keeps (Tracks (messages ++ [message]))
  · have of_same {next last : Writer}
        (held : Tracks (messages ++ [message]) next)
        (same :
          (last.eventId, last.eventTimeOffset, last.eventTimeZero,
              last.eventIndex, last.eventsWritten) =
            (next.eventId, next.eventTimeOffset, next.eventTimeZero,
              next.eventIndex, next.eventsWritten)) :
        Tracks (messages ++ [message]) last := by
      simp only [Prod.mk.injEq] at same
      rcases same with ⟨id, timeOffset, timeZero, index, written⟩
      constructor
      · rw [id]
        exact held.idAtEnd
      · rw [timeOffset]
        exact held.timeOffsetAtEnd
      · rw [timeZero]
        exact held.timeZeroAtEnd
      · rw [index]
        exact held.indexAtEnd
      · rw [id]
        exact held.eventId
      · rw [timeOffset]
        exact held.eventTimeOffset
      · rw [timeZero]
        exact held.eventTimeZero
      · rw [written]
        exact held.eventsWritten
      · rw [index]
        exact held.eventIndex
    intro piece member next held
    simp only [List.mem_cons, List.not_mem_nil, or_false] at member
    rcases member with rfl | rfl | rfl
    · apply of_same held
      unfold appendCue
      split
      · split <;> rfl
      · rfl
    · apply of_same held
      unfold writeAdcPulseData
      split
      · split <;> rfl
      · rfl
    · exact of_same held rfl
  · exact tracks.appendEvents message

theorem tracks_run (config : Config) (messages : List EventMessage) :
    Tracks messages
      (Mealy.run (Throwing.call (Ev42.write config)) {} messages).1 := by
  apply Mealy.run_induction fun messages _ writer => Tracks messages writer
  · exact tracks_empty
  · intro messages _ writer message tracks
    exact tracks.write message

/-- What the index holds is right up to `2 ^ 32` events. -/
theorem Tracks.indexesEvents_iff (tracks : Tracks messages writer) :
    IndexesEvents messages writer ↔
      (messages.dropLast.map fun message => message.detectorId.length).sum <
        2 ^ 32 := by
  have last :
      (messages.dropLast.map fun message => message.detectorId.length) =
        (messages.map fun message => message.detectorId.length).dropLast :=
    List.map_dropLast
  rw [last]
  constructor
  · intro indexes
    rw [← forall_starts_lt_iff (by decide)]
    intro start member
    rw [← indexes.eventIndex] at member
    rcases List.mem_map.mp member with ⟨stored, _, rfl⟩
    exact stored.toNat_lt
  · intro below
    have keeps : ∀ size < 2 ^ 32, size % 2 ^ 32 = size :=
      fun size small => Nat.mod_eq_of_lt small
    refine ⟨tracks.eventId, tracks.eventTimeOffset, tracks.eventTimeZero, ?_⟩
    rw [tracks.eventIndex, starts_map_of_lt (· % 2 ^ 32) keeps below,
      List.map_map]
    have stored :
        ∀ start ∈
          starts (messages.map fun message => message.detectorId.length),
          (UInt32.toNat ∘ fun start => clipToUInt32 (.ofNat start)) start =
            id start := by
      intro start member
      have small := (forall_starts_lt_iff (by decide)).mpr below start member
      rw [Function.comp_apply, toNat_clipToUInt32, UInt64.toNat_ofNat']
      show _ = start
      omega
    rw [List.map_congr_left stored, List.map_id]

/--
After any messages the datasets hold the events and where those of each
message start, exactly when all messages but the last have together fewer than
`2 ^ 32` events.
-/
theorem event_index_ties_iff (config : Config) (messages : List EventMessage) :
    IndexesEvents messages
        (Mealy.run (Throwing.call (Ev42.write config)) {} messages).1 ↔
      (messages.dropLast.map fun message => message.detectorId.length).sum <
        2 ^ 32 :=
  (tracks_run config messages).indexesEvents_iff

/-- A pulse with `2 ^ 16` events. -/
def fullPulse : EventMessage :=
  { pulseTime := 1
    timeOfFlight := List.replicate (2 ^ 16) 0
    detectorId := List.replicate (2 ^ 16) 0 }

theorem length_fullPulse : fullPulse.detectorId.length = 2 ^ 16 :=
  List.length_replicate

/-- Behind `2 ^ 16` such pulses the index of the next one is cut off. -/
theorem event_index_cut_off :
    ¬IndexesEvents (List.replicate (2 ^ 16 + 1) fullPulse)
      (Mealy.run (Throwing.call (Ev42.write {})) {}
        (List.replicate (2 ^ 16 + 1) fullPulse)).1 := by
  rw [(tracks_run _ _).indexesEvents_iff, List.dropLast_replicate,
    List.map_replicate, List.sum_replicate_nat, length_fullPulse]
  decide

end KafkaToNexus.WriterModule.Ev42
