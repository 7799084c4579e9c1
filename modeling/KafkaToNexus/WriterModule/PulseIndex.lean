import KafkaToNexus.Foundations.BlockStarts
import KafkaToNexus.Foundations.Mealy
import KafkaToNexus.WriterModule.Ev44Writer

/-!
# The index of pulses

A message says for each of its pulses which of its own events is the first.  In
the file the events of all messages lie one after the other, but the index is
written as it was in the message.  It is the position in the file only for the
pulses that have no events before their message.
-/

namespace KafkaToNexus.WriterModule.Ev44

open KafkaToNexus.Foundations KafkaToNexus.NeXusDataset

/-- The pulses have a time and an index each, and the events are complete. -/
structure WellFormed (message : Event44Message) : Prop where
  pulses : message.referenceTime.length = message.referenceTimeIndex.length
  ordered : message.referenceTimeIndex.Pairwise (· ≤ ·)
  bounded :
    ∀ index ∈ message.referenceTimeIndex,
      index.toInt ≤ message.pixelId.length
  events : message.timeOfFlight.length = message.pixelId.length

/-- The number of events of some messages. -/
def numberOfEvents (messages : List Event44Message) : Nat :=
  (messages.map fun message => message.pixelId.length).sum

/--
The position of the first event of each pulse, behind a number of events of
earlier messages.
-/
def pulsePositions (earlier : Nat) : List Event44Message → List Int
  | [] => []
  | message :: rest =>
      (message.referenceTimeIndex.map fun index =>
          (earlier : Int) + index.toInt) ++
        pulsePositions (earlier + message.pixelId.length) rest

/-- Each pulse has a time, and the position of its first event. -/
structure IndexesPulses (messages : List Event44Message) (writer : Writer) :
    Prop where
  lengths :
    writer.eventTimeZero.elements.length =
      writer.eventTimeZeroIndex.elements.length
  /-- As integers, so that no value is cut off. -/
  positions :
    writer.eventTimeZeroIndex.elements.map (fun index => (index.toNat : Int)) =
      pulsePositions 0 messages

/--
A pulse has no events before its message, or its index is negative and makes
up for them.
-/
def NoneBefore (messages : List Event44Message) : Prop :=
  ∀ before message after, messages = before ++ message :: after →
    ∀ index ∈ message.referenceTimeIndex,
      if 0 ≤ index.toInt then numberOfEvents before = 0
      else (numberOfEvents before : Int) = -index.toInt

/-! ## What is written -/

/-- What the datasets of the pulses hold after any messages. -/
structure TracksPulses (messages : List Event44Message) (writer : Writer) :
    Prop where
  timeAtEnd : writer.eventTimeZero.AtEnd
  indexAtEnd : writer.eventTimeZeroIndex.AtEnd
  times :
    writer.eventTimeZero.elements =
      messages.flatMap fun message => message.referenceTime.map clipToUInt64
  indices :
    writer.eventTimeZeroIndex.elements =
      messages.flatMap fun message =>
        message.referenceTimeIndex.map clipInt32ToUInt32

variable {config : Config} {messages : List Event44Message} {writer : Writer}

/-- The cues and the metadata are apart from the pulses. -/
theorem TracksPulses.write
    (tracks : TracksPulses messages writer) (message : Event44Message) :
    TracksPulses (messages ++ [message]) (write config message writer).1 := by
  apply Throwing.inOrder_cons_keeps (TracksPulses (messages ++ [message]))
  · intro piece member next held
    rcases List.mem_pair.mp member with rfl | rfl
    · have same :
          (appendCue config message next).1.eventTimeZero =
              next.eventTimeZero ∧
            (appendCue config message next).1.eventTimeZeroIndex =
              next.eventTimeZeroIndex := by
        rw [appendCue]
        split
        · split <;> exact ⟨rfl, rfl⟩
        · exact ⟨rfl, rfl⟩
      constructor
      · rw [same.1]
        exact held.timeAtEnd
      · rw [same.2]
        exact held.indexAtEnd
      · rw [same.1]
        exact held.times
      · rw [same.2]
        exact held.indices
    · exact ⟨held.timeAtEnd, held.indexAtEnd, held.times, held.indices⟩
  · constructor
    · exact tracks.timeAtEnd.appendArrayAdapter _
    · exact tracks.indexAtEnd.appendArrayAdapter _
    · show (writer.eventTimeZero.appendArrayAdapter _).elements = _
      rw [ExtensibleDataset.elements_appendArrayAdapter tracks.timeAtEnd,
        tracks.times, List.flatMap_append, List.flatMap_singleton]
    · show (writer.eventTimeZeroIndex.appendArrayAdapter _).elements = _
      rw [ExtensibleDataset.elements_appendArrayAdapter tracks.indexAtEnd,
        tracks.indices, List.flatMap_append, List.flatMap_singleton]

theorem tracksPulses_run (config : Config) (messages : List Event44Message) :
    TracksPulses messages
      (Mealy.run (Throwing.call (Ev44.write config)) {} messages).1 := by
  apply Mealy.run_induction fun messages _ writer =>
    TracksPulses messages writer
  · exact ⟨rfl, rfl, rfl, rfl⟩
  · intro messages _ writer message tracks
    exact tracks.write message

/-! ## What it says -/

/-- Of one pulse the index in the file is right in these cases. -/
theorem stored_eq_iff (earlier : Nat) (index : Int32) :
    ((clipInt32ToUInt32 index).toNat : Int) = earlier + index.toInt ↔
      if 0 ≤ index.toInt then earlier = 0
      else (earlier : Int) = -index.toInt := by
  rw [toNat_clipInt32ToUInt32]
  split <;> omega

/-- The indices of all messages are right when those of each one are. -/
theorem indices_eq_iff (earlier : Nat) (messages : List Event44Message) :
    ((messages.flatMap fun message =>
          message.referenceTimeIndex.map clipInt32ToUInt32).map
        fun index => (index.toNat : Int)) =
        pulsePositions earlier messages ↔
      EachFrom (fun message => message.pixelId.length)
        (fun start message =>
          ∀ index ∈ message.referenceTimeIndex,
            if 0 ≤ index.toInt then start = 0
            else (start : Int) = -index.toInt)
        earlier messages := by
  induction messages generalizing earlier with
  | nil => exact iff_of_true rfl trivial
  | cons message rest induction =>
      have own :
          (message.referenceTimeIndex.map clipInt32ToUInt32).map
                (fun index => (index.toNat : Int)) =
              message.referenceTimeIndex.map
                (fun index => (earlier : Int) + index.toInt) ↔
            ∀ index ∈ message.referenceTimeIndex,
              if 0 ≤ index.toInt then earlier = 0
              else (earlier : Int) = -index.toInt := by
        rw [List.map_map, List.map_inj_left]
        exact forall₂_congr fun index _ => stored_eq_iff earlier index
      rw [EachFrom, ← induction, ← own, List.flatMap_cons, List.map_append,
        pulsePositions]
      constructor
      · intro same
        apply List.append_inj same
        rw [List.length_map, List.length_map, List.length_map]
      · rintro ⟨first, others⟩
        rw [first, others]

theorem noneBefore_iff (messages : List Event44Message) :
    NoneBefore messages ↔
      EachFrom (fun message => message.pixelId.length)
        (fun start message =>
          ∀ index ∈ message.referenceTimeIndex,
            if 0 ≤ index.toInt then start = 0
            else (start : Int) = -index.toInt)
        0 messages := by
  rw [eachFrom_iff]
  simp only [Nat.zero_add]
  exact Iff.rfl

theorem TracksPulses.indexesPulses_iff
    (tracks : TracksPulses messages writer)
    (wellFormed : ∀ message ∈ messages, WellFormed message) :
    IndexesPulses messages writer ↔ NoneBefore messages := by
  have positions :
      writer.eventTimeZeroIndex.elements.map
            (fun index => (index.toNat : Int)) =
          pulsePositions 0 messages ↔
        NoneBefore messages := by
    rw [tracks.indices, indices_eq_iff, noneBefore_iff]
  constructor
  · exact fun indexes => positions.mp indexes.positions
  · intro noneBefore
    refine ⟨?_, positions.mpr noneBefore⟩
    rw [tracks.times, tracks.indices, List.length_flatMap,
      List.length_flatMap]
    congr 1
    apply List.map_congr_left
    intro message member
    rw [List.length_map, List.length_map]
    exact (wellFormed message member).pulses

/--
After any messages the index of the pulses is right exactly when no message
with pulses comes behind events.
-/
theorem pulse_index_iff
    (config : Config) (messages : List Event44Message)
    (wellFormed : ∀ message ∈ messages, WellFormed message) :
    IndexesPulses messages
        (Mealy.run (Throwing.call (Ev44.write config)) {} messages).1 ↔
      NoneBefore messages :=
  (tracksPulses_run config messages).indexesPulses_iff wellFormed

/-- Two pulses of three events, of which the second has one. -/
def twoPulses : Event44Message :=
  { referenceTime := [10, 20]
    referenceTimeIndex := [0, 2]
    timeOfFlight := [1, 2, 3]
    pixelId := [4, 5, 6] }

theorem wellFormed_twoPulses : WellFormed twoPulses := by
  constructor
  · rfl
  · decide
  · show ∀ index ∈ ([0, 2] : List Int32), index.toInt ≤ 3
    rw [List.forall_mem_cons, List.forall_mem_singleton]
    decide
  · rfl

/-- A pulse without events. -/
def darkPulse : Event44Message :=
  { referenceTime := [5]
    referenceTimeIndex := [0]
    timeOfFlight := []
    pixelId := [] }

theorem wellFormed_darkPulse : WellFormed darkPulse := by
  constructor
  · rfl
  · decide
  · show ∀ index ∈ ([0] : List Int32), index.toInt ≤ 0
    rw [List.forall_mem_singleton]
    decide
  · rfl

/-- Pulses behind one without events are indexed. -/
theorem first_events_are_indexed :
    IndexesPulses [darkPulse, twoPulses]
      (Mealy.run (Throwing.call (Ev44.write {})) {}
        [darkPulse, twoPulses]).1 := by
  rw [pulse_index_iff {} [darkPulse, twoPulses]
    (List.forall_mem_cons.mpr
      ⟨wellFormed_darkPulse,
        List.forall_mem_singleton.mpr wellFormed_twoPulses⟩),
    noneBefore_iff]
  refine ⟨?_, ?_, trivial⟩
  · show
      ∀ index ∈ ([0] : List Int32),
        if 0 ≤ index.toInt then 0 = 0 else (0 : Int) = -index.toInt
    rw [List.forall_mem_singleton]
    decide
  · show
      ∀ index ∈ ([0, 2] : List Int32),
        if 0 ≤ index.toInt then 0 = 0 else (0 : Int) = -index.toInt
    rw [List.forall_mem_cons, List.forall_mem_singleton]
    decide

/-- Those of a second message get the positions of the first one. -/
theorem second_message_is_not_rebased :
    ¬IndexesPulses [twoPulses, twoPulses]
      (Mealy.run (Throwing.call (Ev44.write {})) {}
        [twoPulses, twoPulses]).1 := by
  intro indexes
  exact absurd indexes.positions (by decide)

end KafkaToNexus.WriterModule.Ev44
