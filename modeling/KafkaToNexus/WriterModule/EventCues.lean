import KafkaToNexus.Foundations.Marks
import KafkaToNexus.Foundations.Mealy
import KafkaToNexus.WriterModule.Ev42Writer
import KafkaToNexus.WriterModule.Ev44Writer

/-!
# The cues of events

Both writers of events add a cue when the events since the last cue are more
than an interval.  The cue is the position of the last event of the message and
its time, which is read at the end of the times of flight.  Whether there is
such a time is not checked: an empty message, or one with fewer times than
events, is read outside of its vectors when its cue is due.
-/

namespace KafkaToNexus.WriterModule

open KafkaToNexus.Foundations KafkaToNexus.NeXusDataset

variable {Message Failure : Type*}

/-- The part of a writer that the cues are computed from. -/
structure EventCues where
  cueIndex : ExtensibleDataset UInt32 := {}
  cueTimestampZero : ExtensibleDataset UInt64 := {}
  eventsWritten : UInt64 := 0
  lastEventIndex : UInt64 := 0

/--
The cues after some messages: nothing was read outside of a vector; the cues
are the last events of the messages that are due over unbounded integers; and
the test of the code says of each message whether it is due.
-/
structure CuesHold (interval : UInt64) (events : Message → Nat)
    (messages : List Message)
    (run : List Message → EventCues × List (Option Failure)) : Prop where
  inBounds : ∀ outcome ∈ (run messages).2, outcome = none
  lengths :
    (run messages).1.cueIndex.elements.length =
      (run messages).1.cueTimestampZero.elements.length
  increasing :
    ((run messages).1.cueIndex.elements.map UInt32.toNat).Pairwise (· < ·)
  positions :
    ((run messages).1.cueIndex.elements.map UInt32.toNat).map some =
      (Marks.ofSizes interval.toNat (messages.map events)).positions
  sameTest :
    ∀ before message after, messages = before ++ message :: after →
      ((run before).1.lastEventIndex + interval <
          (run before).1.eventsWritten +
            (UInt32.ofNat (events message)).toUInt64 ↔
        (Marks.ofSizes interval.toNat (before.map events)).Exceeds
          interval.toNat (events message))

/--
Each message whose cue is due has events, and their last time can be read; and
the cue is a position of 32 bits.
-/
def CuesReadable (interval : UInt64) (events : Message → Nat)
    (readable : Message → Prop) (messages : List Message) : Prop :=
  ∀ before message after, messages = before ++ message :: after →
    (Marks.ofSizes interval.toNat (before.map events)).Exceeds
        interval.toNat (events message) →
      0 < events message ∧ readable message ∧
        (Marks.ofSizes interval.toNat (before.map events)).total +
            events message ≤ 2 ^ 32

/-! ## One message -/

/-- What a message brings to the cues. -/
structure EventBlock (Failure : Type*) where
  events : Nat
  /-- The time of the last event, or what reading it ends in. -/
  lastTime : Except Failure UInt64

namespace EventCues

/-- The events of a message are counted, and its cue is added if it is due. -/
def append (interval : UInt64) (block : EventBlock Failure) :
    Throwing EventCues Failure :=
  fun cues =>
    let written :=
      cues.eventsWritten + (UInt32.ofNat block.events).toUInt64
    if cues.lastEventIndex + interval < written then
      match block.lastTime with
      | .error failure =>
          ({ cues with eventsWritten := written }, some failure)
      | .ok time =>
          ({ cueIndex :=
               cues.cueIndex.appendElement (clipToUInt32 (written - 1))
             cueTimestampZero := cues.cueTimestampZero.appendElement time
             eventsWritten := written
             lastEventIndex := written - 1 }, none)
    else
      ({ cues with eventsWritten := written }, none)

/-- The counters are the unbounded ones, and the cues are the marks. -/
structure Tracks (interval : UInt64) (sizes : List Nat) (cues : EventCues) :
    Prop where
  indexAtEnd : cues.cueIndex.AtEnd
  timestampAtEnd : cues.cueTimestampZero.AtEnd
  lengths :
    cues.cueIndex.elements.length = cues.cueTimestampZero.elements.length
  positions :
    (cues.cueIndex.elements.map UInt32.toNat).map some =
      (Marks.ofSizes interval.toNat sizes).positions
  eventsWritten :
    cues.eventsWritten.toNat = (Marks.ofSizes interval.toNat sizes).total
  lastEventIndex :
    cues.lastEventIndex.toNat = (Marks.ofSizes interval.toNat sizes).last
  /-- There is a mark only if the interval is short. -/
  short :
    (Marks.ofSizes interval.toNat sizes).last = 0 ∨
      (Marks.ofSizes interval.toNat sizes).last < 2 ^ 32 ∧
        interval.toNat < 2 ^ 32
  few :
    (Marks.ofSizes interval.toNat sizes).total ≤ 2 ^ 32 ∨
      (Marks.ofSizes interval.toNat sizes).total ≤
        (Marks.ofSizes interval.toNat sizes).last + interval.toNat

variable {interval : UInt64} {sizes : List Nat} {cues : EventCues}
  {block : EventBlock Failure}

theorem tracks_empty : Tracks interval [] {} := by
  constructor
  · rfl
  · rfl
  · rfl
  · rfl
  · rfl
  · rfl
  · exact Or.inl rfl
  · exact Or.inl (Nat.zero_le _)

/-- The next cue is a position of 32 bits, if it is due. -/
def Narrow (interval : UInt64) (sizes : List Nat) (events : Nat) : Prop :=
  (Marks.ofSizes interval.toNat sizes).Exceeds interval.toNat events →
    0 < events ∧ (Marks.ofSizes interval.toNat sizes).total + events ≤ 2 ^ 32

theorem Tracks.toNat_written
    (tracks : Tracks interval sizes cues) {events : Nat}
    (small : events < 2 ^ 32) (narrow : Narrow interval sizes events) :
    (cues.eventsWritten + (UInt32.ofNat events).toUInt64).toNat =
      (Marks.ofSizes interval.toNat sizes).total + events := by
  have bound := interval.toNat_lt
  have size : (UInt32.ofNat events).toUInt64.toNat = events := by
    rw [UInt32.toNat_toUInt64, UInt32.toNat_ofNat']
    exact Nat.mod_eq_of_lt small
  rw [UInt64.toNat_add, size, tracks.eventsWritten]
  apply Nat.mod_eq_of_lt
  have short := tracks.short
  by_cases due :
      (Marks.ofSizes interval.toNat sizes).Exceeds interval.toNat events
  · have here := (narrow due).2
    omega
  · have here := Nat.le_of_not_lt due
    omega

/-- The test says whether the cue is due. -/
theorem Tracks.test_iff
    (tracks : Tracks interval sizes cues) {events : Nat}
    (small : events < 2 ^ 32) (narrow : Narrow interval sizes events) :
    cues.lastEventIndex + interval <
        cues.eventsWritten + (UInt32.ofNat events).toUInt64 ↔
      (Marks.ofSizes interval.toNat sizes).Exceeds interval.toNat events := by
  have bound := interval.toNat_lt
  have short := tracks.short
  have threshold :
      (cues.lastEventIndex + interval).toNat =
        (Marks.ofSizes interval.toNat sizes).last + interval.toNat := by
    rw [UInt64.toNat_add, tracks.lastEventIndex]
    apply Nat.mod_eq_of_lt
    omega
  rw [UInt64.lt_iff_toNat_lt, tracks.toNat_written small narrow, threshold]
  exact Iff.rfl

theorem append_of_due {time : UInt64}
    (due :
      cues.lastEventIndex + interval <
        cues.eventsWritten + (UInt32.ofNat block.events).toUInt64)
    (read : block.lastTime = .ok time) :
    append interval block cues =
      ({ cueIndex :=
           cues.cueIndex.appendElement
             (clipToUInt32
               (cues.eventsWritten +
                 (UInt32.ofNat block.events).toUInt64 - 1))
         cueTimestampZero := cues.cueTimestampZero.appendElement time
         eventsWritten :=
           cues.eventsWritten + (UInt32.ofNat block.events).toUInt64
         lastEventIndex :=
           cues.eventsWritten +
             (UInt32.ofNat block.events).toUInt64 - 1 }, none) := by
  simp only [append]
  rw [if_pos due, read]

theorem append_of_not_due
    (notDue :
      ¬cues.lastEventIndex + interval <
        cues.eventsWritten + (UInt32.ofNat block.events).toUInt64) :
    append interval block cues =
      ({ cues with
         eventsWritten :=
           cues.eventsWritten + (UInt32.ofNat block.events).toUInt64 },
        none) :=
  if_neg notDue

/-- A call that is due returns only when the last time can be read. -/
theorem readable_of_returns
    (due :
      cues.lastEventIndex + interval <
        cues.eventsWritten + (UInt32.ofNat block.events).toUInt64)
    (returns : (append interval block cues).2 = none) :
    ∃ time, block.lastTime = .ok time := by
  cases read : block.lastTime with
  | error failure =>
      simp only [append] at returns
      rw [if_pos due, read] at returns
      cases returns
  | ok time => exact ⟨time, rfl⟩

/-- A cue that is due and can be read is the next mark. -/
theorem Tracks.append_due {time : UInt64}
    (tracks : Tracks interval sizes cues)
    (small : block.events < 2 ^ 32)
    (narrow : Narrow interval sizes block.events)
    (due :
      (Marks.ofSizes interval.toNat sizes).Exceeds interval.toNat
        block.events)
    (read : block.lastTime = .ok time) :
    (append interval block cues).2 = none ∧
      Tracks interval (sizes ++ [block.events])
        (append interval block cues).1 := by
  have written := tracks.toNat_written small narrow
  rcases narrow due with ⟨some_, fits⟩
  have over_ : _ < _ := due
  have marks := Marks.add_of_exceeds due
  have last :
      (cues.eventsWritten +
            (UInt32.ofNat block.events).toUInt64 - 1).toNat =
        (Marks.ofSizes interval.toNat sizes).total + block.events - 1 := by
    rw [UInt64.toNat_sub_of_le _ _ (by
      rw [UInt64.le_iff_toNat_le, written]
      exact Nat.le_add_left_of_le some_), written]
    rfl
  have stored :
      (clipToUInt32
          (cues.eventsWritten +
            (UInt32.ofNat block.events).toUInt64 - 1)).toNat =
        (Marks.ofSizes interval.toNat sizes).total + block.events - 1 := by
    rw [toNat_clipToUInt32, last]
    omega
  have ends :
      Marks.endOf (Marks.ofSizes interval.toNat sizes).total block.events =
        some
          ((Marks.ofSizes interval.toNat sizes).total + block.events -
            1) := by
    rw [Marks.endOf_eq_some_iff]
    omega
  rw [append_of_due ((tracks.test_iff small narrow).mpr due) read]
  refine ⟨rfl, ?_⟩
  constructor
  · exact tracks.indexAtEnd.appendElement _
  · exact tracks.timestampAtEnd.appendElement _
  · simp only [
      ExtensibleDataset.elements_appendElement tracks.indexAtEnd,
      ExtensibleDataset.elements_appendElement tracks.timestampAtEnd,
      List.length_append, tracks.lengths, List.length_singleton]
  · simp only [Marks.ofSizes_concat, marks,
      ExtensibleDataset.elements_appendElement tracks.indexAtEnd,
      List.map_append, List.map_singleton, tracks.positions, stored, ends]
  · simp only [Marks.ofSizes_concat, marks, written]
  · simp only [Marks.ofSizes_concat, marks, last]
  · simp only [Marks.ofSizes_concat, marks]
    omega
  · simp only [Marks.ofSizes_concat, marks]
    exact Or.inl fits

/-- Where no cue is due, the events are counted. -/
theorem Tracks.append_not_due
    (tracks : Tracks interval sizes cues)
    (small : block.events < 2 ^ 32)
    (narrow : Narrow interval sizes block.events)
    (notDue :
      ¬(Marks.ofSizes interval.toNat sizes).Exceeds interval.toNat
        block.events) :
    (append interval block cues).2 = none ∧
      Tracks interval (sizes ++ [block.events])
        (append interval block cues).1 := by
  have written := tracks.toNat_written small narrow
  have marks := Marks.add_of_not_exceeds notDue
  have within := Nat.le_of_not_lt notDue
  rw [append_of_not_due (mt (tracks.test_iff small narrow).mp notDue)]
  refine ⟨rfl, ?_⟩
  constructor
  · exact tracks.indexAtEnd
  · exact tracks.timestampAtEnd
  · exact tracks.lengths
  · simp only [Marks.ofSizes_concat, marks]
    exact tracks.positions
  · simp only [Marks.ofSizes_concat, marks, written]
  · simp only [Marks.ofSizes_concat, marks]
    exact tracks.lastEventIndex
  · simp only [Marks.ofSizes_concat, marks]
    exact tracks.short
  · simp only [Marks.ofSizes_concat, marks]
    exact Or.inr within

/-- A message whose cue can be read keeps the counters right. -/
theorem Tracks.append
    (tracks : Tracks interval sizes cues)
    (small : block.events < 2 ^ 32)
    (narrow : Narrow interval sizes block.events)
    (readable :
      (Marks.ofSizes interval.toNat sizes).Exceeds interval.toNat
          block.events →
        ∃ time, block.lastTime = .ok time) :
    (append interval block cues).2 = none ∧
      Tracks interval (sizes ++ [block.events])
        (append interval block cues).1 := by
  by_cases due :
      (Marks.ofSizes interval.toNat sizes).Exceeds interval.toNat block.events
  · rcases readable due with ⟨time, read⟩
    exact tracks.append_due small narrow due read
  · exact tracks.append_not_due small narrow due

/-! ## Runs -/

/-- The cues after some messages, with the outcomes of the calls. -/
def run (interval : UInt64) (blocks : List (EventBlock Failure)) :
    EventCues × List (Option Failure) :=
  Mealy.run (Throwing.call (append interval)) {} blocks

theorem run_concat
    (blocks : List (EventBlock Failure)) (block : EventBlock Failure) :
    run interval (blocks ++ [block]) =
      ((append interval block (run interval blocks).1).1,
        (run interval blocks).2 ++
          [(append interval block (run interval blocks).1).2]) :=
  Mealy.run_concat _ _ _ _

variable {toBlock : Message → EventBlock Failure} {messages : List Message}

theorem cuesReadable_init
    {events : Message → Nat} {readable : Message → Prop} {message : Message}
    (all : CuesReadable interval events readable (messages ++ [message])) :
    CuesReadable interval events readable messages := by
  intro before other after split
  apply all before other (after ++ [message])
  simp only [split, List.append_assoc, List.cons_append]

/-- Readable cues keep the counters right and nothing fails. -/
theorem tracks_run
    (small : ∀ message ∈ messages, (toBlock message).events < 2 ^ 32)
    (all :
      CuesReadable interval (fun message => (toBlock message).events)
        (fun message => ∃ time, (toBlock message).lastTime = .ok time)
        messages) :
    (∀ outcome ∈ (run interval (messages.map toBlock)).2, outcome = none) ∧
      Tracks interval (messages.map fun message => (toBlock message).events)
        (run interval (messages.map toBlock)).1 := by
  induction messages using List.reverseRecOn with
  | nil => exact ⟨fun _ member => absurd member List.not_mem_nil, tracks_empty⟩
  | append_singleton messages message induction =>
      rcases induction
          (fun other member => small other (List.mem_append_left _ member))
          (cuesReadable_init all) with
        ⟨returned, tracks⟩
      have here := all messages message [] rfl
      rcases tracks.append
          (small message (List.mem_append_right _ (List.mem_singleton_self _)))
          (fun due => ⟨(here due).1, (here due).2.2⟩)
          (fun due => (here due).2.1) with
        ⟨returns, next⟩
      simp only [List.map_append, List.map_singleton, run_concat]
      constructor
      · intro outcome member
        rcases List.mem_append.mp member with earlier | new
        · exact returned outcome earlier
        · exact (List.mem_singleton.mp new).trans returns
      · exact next

/-- The outcome of each call is among those of the run. -/
theorem outcome_mem_run
    (before after : List (EventBlock Failure)) (block : EventBlock Failure) :
    (append interval block (run interval before).1).2 ∈
      (run interval (before ++ block :: after)).2 := by
  rw [run, Mealy.run_append, Mealy.run_cons]
  apply List.mem_append_right
  apply List.mem_append_left
  exact List.mem_singleton_self _

/-- The cues are right exactly when they can be read. -/
theorem cuesHold_iff
    (interval : UInt64) (toBlock : Message → EventBlock Failure)
    (small : ∀ message ∈ messages, (toBlock message).events < 2 ^ 32) :
    CuesHold interval (fun message => (toBlock message).events) messages
        (fun taken => run interval (taken.map toBlock)) ↔
      CuesReadable interval (fun message => (toBlock message).events)
        (fun message => ∃ time, (toBlock message).lastTime = .ok time)
        messages := by
  constructor
  · intro hold before message after split due
    have test := (hold.sameTest before message after split).mpr due
    have mark :=
      @Marks.endOf_mem_positions _ _ _
        (after.map fun message => (toBlock message).events) due
    have whole :
        (messages.map fun message => (toBlock message).events) =
          (before.map fun message => (toBlock message).events) ++
            (toBlock message).events ::
              after.map fun message => (toBlock message).events := by
      rw [split, List.map_append, List.map_cons]
    rw [← whole, ← hold.positions] at mark
    rcases List.mem_map.mp mark with ⟨position, member, ends⟩
    rcases List.mem_map.mp member with ⟨index, _, rfl⟩
    have here := Marks.endOf_eq_some_iff.mp ends.symm
    have bound := index.toNat_lt
    refine ⟨here.2, ?_, by omega⟩
    apply readable_of_returns test
    apply hold.inBounds
    rw [split, List.map_append, List.map_cons]
    exact outcome_mem_run _ _ _
  · intro all
    have whole := tracks_run small all
    constructor
    · exact whole.1
    · exact whole.2.lengths
    · exact Marks.pairwise_of_positions whole.2.positions
    · exact whole.2.positions
    · intro before message after split
      have first :
          CuesReadable interval (fun message => (toBlock message).events)
            (fun message => ∃ time, (toBlock message).lastTime = .ok time)
            before := by
        intro earlier other between inside
        apply all earlier other (between ++ message :: after)
        simp only [split, inside, List.append_assoc, List.cons_append]
      have tracks :=
        tracks_run
          (fun other member =>
            small other (by
              rw [split]
              exact List.mem_append_left _ member))
          first
      apply tracks.2.test_iff
      · apply small
        rw [split]
        exact List.mem_append_right _ List.mem_cons_self
      · intro due
        have here := all before message after split due
        exact ⟨here.1, here.2.2⟩

end EventCues

theorem cuesReadable_congr
    {interval : UInt64} {events : Message → Nat}
    {readable other : Message → Prop} {messages : List Message}
    (same :
      ∀ message ∈ messages, 0 < events message →
        (readable message ↔ other message)) :
    CuesReadable interval events readable messages ↔
      CuesReadable interval events other messages := by
  have inside {before after : List Message} {message : Message}
      (split : messages = before ++ message :: after) :
      message ∈ messages := by
    rw [split]
    exact List.mem_append_right _ List.mem_cons_self
  constructor
  · intro all before message after split due
    rcases all before message after split due with ⟨some_, read, fits⟩
    exact ⟨some_, (same message (inside split) some_).mp read, fits⟩
  · intro all before message after split due
    rcases all before message after split due with ⟨some_, read, fits⟩
    exact ⟨some_, (same message (inside split) some_).mpr read, fits⟩

/-- The last of some events is at their number less one. -/
theorem getElem?_last_isSome_iff
    {Element : Type*} {elements : List Element} {count : Nat}
    (some_ : 0 < count) (small : count < 2 ^ 32) :
    (∃ element,
        elements[(UInt32.ofNat count - 1).toNat]? = some element) ↔
      count ≤ elements.length := by
  have last : (UInt32.ofNat count - 1).toNat = count - 1 := by
    have size : (UInt32.ofNat count).toNat = count := by
      rw [UInt32.toNat_ofNat']
      exact Nat.mod_eq_of_lt small
    rw [UInt32.toNat_sub_of_le _ _ (by
      rw [UInt32.le_iff_toNat_le, size]
      exact some_), size]
    rfl
  rw [last, ← Option.isSome_iff_exists, isSome_getElem?]
  omega

/-! ## The two writers -/

namespace Ev42

/-- The sizes of the vectors are numbers of 32 bits. -/
structure Verified (message : EventMessage) : Prop where
  detectorId : message.detectorId.length < 2 ^ 32
  timeOfFlight : message.timeOfFlight.length < 2 ^ 32

def Writer.cues (writer : Writer) : EventCues where
  cueIndex := writer.cueIndex
  cueTimestampZero := writer.cueTimestampZero
  eventsWritten := writer.eventsWritten
  lastEventIndex := writer.lastEventIndex

def EventMessage.block (message : EventMessage) :
    EventBlock WriteFailure where
  events := message.detectorId.length
  lastTime :=
    match message.timeOfFlight[(currentNumberOfEvents message - 1).toNat]? with
    | none => .error .outOfBounds
    | some lastRefTimeOffset =>
        .ok (message.pulseTime + lastRefTimeOffset.toUInt64)

theorem writeAdcPulseData_returns
    (config : Config) (message : EventMessage) (writer : Writer) :
    (writeAdcPulseData config message writer).2 = none ∧
      (writeAdcPulseData config message writer).1.cues = writer.cues := by
  simp only [writeAdcPulseData]
  split_ifs
  · cases message.adcPulseDebug <;> exact ⟨rfl, rfl⟩
  · exact ⟨rfl, rfl⟩

/-- A call counts the events of its message, whatever the ADC data are. -/
theorem cues_write
    (config : Config) (writer : Writer) (message : EventMessage) :
    ((write config message writer).1.cues, (write config message writer).2) =
      EventCues.append config.eventIndexInterval message.block
        writer.cues := by
  have counted :
      ((appendCue config message (appendEvents message writer).1).1.cues,
          (appendCue config message (appendEvents message writer).1).2) =
        EventCues.append config.eventIndexInterval message.block
          writer.cues := by
    by_cases due :
        writer.cues.lastEventIndex + config.eventIndexInterval <
          writer.cues.eventsWritten +
            (UInt32.ofNat message.block.events).toUInt64
    · have dueHere :
          (appendEvents message writer).1.lastEventIndex +
              config.eventIndexInterval <
            (appendEvents message writer).1.eventsWritten := due
      simp only [appendCue, EventCues.append, if_pos due, if_pos dueHere]
      simp only [EventMessage.block]
      cases message.timeOfFlight[
        (currentNumberOfEvents message - 1).toNat]? <;> rfl
    · have notDueHere :
          ¬(appendEvents message writer).1.lastEventIndex +
              config.eventIndexInterval <
            (appendEvents message writer).1.eventsWritten := due
      rw [EventCues.append_of_not_due due, appendCue, if_neg notDueHere]
      rfl
  rw [write, Throwing.inOrder_of_none rfl, ← counted]
  rcases ran : appendCue config message (appendEvents message writer).1 with
    ⟨next, _ | failure⟩
  · have adc := writeAdcPulseData_returns config message next
    rw [Throwing.inOrder_of_returned ran, Throwing.inOrder_of_none adc.1,
      Throwing.inOrder_of_none rfl]
    exact Prod.ext adc.2 rfl
  · rw [Throwing.inOrder_of_threw ran]

theorem cues_run (config : Config) (messages : List EventMessage) :
    ((Mealy.run (Throwing.call (write config)) {} messages).1.cues,
        (Mealy.run (Throwing.call (write config)) {} messages).2) =
      EventCues.run config.eventIndexInterval
        (messages.map EventMessage.block) := by
  apply Mealy.run_project Writer.cues EventMessage.block
  intro writer message
  simp only [Throwing.call, ← cues_write]

theorem block_readable_iff
    {message : EventMessage} (verified : Verified message)
    (some_ : 0 < message.detectorId.length) :
    (∃ time, message.block.lastTime = .ok time) ↔
      message.detectorId.length ≤ message.timeOfFlight.length := by
  rw [← getElem?_last_isSome_iff some_ verified.detectorId]
  simp only [EventMessage.block, currentNumberOfEvents]
  cases message.timeOfFlight[
    (UInt32.ofNat message.detectorId.length - 1).toNat]? with
  | none => simp
  | some offset => simp

end Ev42

namespace Ev44

/-- The sizes of the vectors are numbers of 32 bits. -/
structure Verified (message : Event44Message) : Prop where
  pixelId : message.pixelId.length < 2 ^ 32
  timeOfFlight : message.timeOfFlight.length < 2 ^ 32

def Writer.cues (writer : Writer) : EventCues where
  cueIndex := writer.cueIndex
  cueTimestampZero := writer.cueTimestampZero
  eventsWritten := writer.eventsWritten
  lastEventIndex := writer.lastEventIndex

def Event44Message.block (message : Event44Message) :
    EventBlock WriteFailure where
  events := message.pixelId.length
  lastTime :=
    match message.timeOfFlight[(currentNumberOfEvents message - 1).toNat]?,
        message.referenceTime.head? with
    | some lastRefTimeOffset, some currentRefTime =>
        .ok (clipToUInt64 (currentRefTime + lastRefTimeOffset.toInt64))
    | _, _ => .error .outOfBounds

theorem cues_write
    (config : Config) (writer : Writer) (message : Event44Message) :
    ((write config message writer).1.cues, (write config message writer).2) =
      EventCues.append config.eventIndexInterval message.block
        writer.cues := by
  have counted :
      ((appendCue config message (appendEvents message writer).1).1.cues,
          (appendCue config message (appendEvents message writer).1).2) =
        EventCues.append config.eventIndexInterval message.block
          writer.cues := by
    by_cases due :
        writer.cues.lastEventIndex + config.eventIndexInterval <
          writer.cues.eventsWritten +
            (UInt32.ofNat message.block.events).toUInt64
    · have dueHere :
          (appendEvents message writer).1.lastEventIndex +
              config.eventIndexInterval <
            (appendEvents message writer).1.eventsWritten := due
      simp only [appendCue, EventCues.append, if_pos due, if_pos dueHere]
      simp only [Event44Message.block]
      cases message.timeOfFlight[
        (currentNumberOfEvents message - 1).toNat]? <;>
      cases message.referenceTime.head? <;> rfl
    · have notDueHere :
          ¬(appendEvents message writer).1.lastEventIndex +
              config.eventIndexInterval <
            (appendEvents message writer).1.eventsWritten := due
      rw [EventCues.append_of_not_due due, appendCue, if_neg notDueHere]
      rfl
  rw [write, Throwing.inOrder_of_none rfl, ← counted]
  rcases ran : appendCue config message (appendEvents message writer).1 with
    ⟨next, _ | failure⟩
  · rw [Throwing.inOrder_of_returned ran, Throwing.inOrder_of_none rfl]
    rfl
  · rw [Throwing.inOrder_of_threw ran]

theorem cues_run (config : Config) (messages : List Event44Message) :
    ((Mealy.run (Throwing.call (write config)) {} messages).1.cues,
        (Mealy.run (Throwing.call (write config)) {} messages).2) =
      EventCues.run config.eventIndexInterval
        (messages.map Event44Message.block) := by
  apply Mealy.run_project Writer.cues Event44Message.block
  intro writer message
  simp only [Throwing.call, ← cues_write]

theorem block_readable_iff
    {message : Event44Message} (verified : Verified message)
    (some_ : 0 < message.pixelId.length) :
    (∃ time, message.block.lastTime = .ok time) ↔
      message.pixelId.length ≤ message.timeOfFlight.length ∧
        message.referenceTime ≠ [] := by
  rw [← getElem?_last_isSome_iff some_ verified.pixelId]
  simp only [Event44Message.block, currentNumberOfEvents]
  cases message.timeOfFlight[
      (UInt32.ofNat message.pixelId.length - 1).toNat]? with
  | none => simp
  | some offset =>
      cases message.referenceTime with
      | nil => simp
      | cons first rest => simp

end Ev44

/--
In both writers the cues of every run are right exactly when they can be read
and are positions of 32 bits.
-/
theorem event_cues_iff
    (config : Ev42.Config) (other : Ev44.Config)
    (messages : List Ev42.EventMessage) (others : List Ev44.Event44Message)
    (verified : ∀ message ∈ messages, Ev42.Verified message)
    (othersVerified : ∀ message ∈ others, Ev44.Verified message) :
    (CuesHold config.eventIndexInterval (·.detectorId.length) messages
          (fun taken =>
            ((Mealy.run (Throwing.call (Ev42.write config)) {} taken).1.cues,
              (Mealy.run (Throwing.call (Ev42.write config)) {} taken).2)) ↔
        CuesReadable config.eventIndexInterval (·.detectorId.length)
          (fun message =>
            message.detectorId.length ≤ message.timeOfFlight.length)
          messages) ∧
      (CuesHold other.eventIndexInterval (·.pixelId.length) others
          (fun taken =>
            ((Mealy.run (Throwing.call (Ev44.write other)) {} taken).1.cues,
              (Mealy.run (Throwing.call (Ev44.write other)) {} taken).2)) ↔
        CuesReadable other.eventIndexInterval (·.pixelId.length)
          (fun message =>
            message.pixelId.length ≤ message.timeOfFlight.length ∧
              message.referenceTime ≠ [])
          others) := by
  constructor
  · simp only [Ev42.cues_run]
    apply (EventCues.cuesHold_iff config.eventIndexInterval
      Ev42.EventMessage.block
      fun message member => (verified message member).detectorId).trans
    apply cuesReadable_congr
    exact fun message member => Ev42.block_readable_iff (verified message member)
  · simp only [Ev44.cues_run]
    apply (EventCues.cuesHold_iff other.eventIndexInterval
      Ev44.Event44Message.block
      fun message member => (othersVerified message member).pixelId).trans
    apply cuesReadable_congr
    exact fun message member =>
      Ev44.block_readable_iff (othersVerified message member)

/-- A pulse with one event, and one without events. -/
def Ev42.onePulse : Ev42.EventMessage :=
  { pulseTime := 10, timeOfFlight := [5], detectorId := [1] }

def Ev42.emptyPulse : Ev42.EventMessage :=
  { pulseTime := 20, timeOfFlight := [], detectorId := [] }

def Ev44.onePulse : Ev44.Event44Message :=
  { referenceTime := [10]
    referenceTimeIndex := [0]
    timeOfFlight := [5]
    pixelId := [1] }

def Ev44.emptyPulse : Ev44.Event44Message :=
  { referenceTime := [20]
    referenceTimeIndex := [0]
    timeOfFlight := []
    pixelId := [] }

theorem cuesReadable_nil
    {interval : UInt64} {events : Message → Nat}
    {readable : Message → Prop} :
    CuesReadable interval events readable [] := by
  intro before message after split
  simp at split

/-- One more message only adds the condition on its own cue. -/
theorem cuesReadable_concat_iff
    {interval : UInt64} {events : Message → Nat}
    {readable : Message → Prop} {messages : List Message}
    {message : Message} :
    CuesReadable interval events readable (messages ++ [message]) ↔
      CuesReadable interval events readable messages ∧
        ((Marks.ofSizes interval.toNat (messages.map events)).Exceeds
            interval.toNat (events message) →
          0 < events message ∧ readable message ∧
            (Marks.ofSizes interval.toNat (messages.map events)).total +
                events message ≤ 2 ^ 32) := by
  constructor
  · intro all
    refine ⟨fun before other after split => ?_, all messages message [] rfl⟩
    apply all before other (after ++ [message])
    rw [split, List.append_assoc, List.cons_append]
  · rintro ⟨earlier, last⟩ before other after split
    rcases List.eq_nil_or_concat after with rfl | ⟨front, final, rfl⟩
    · rcases List.append_inj' split rfl with ⟨rfl, same⟩
      cases same
      exact last
    · rw [List.concat_eq_append, ← List.cons_append,
        ← List.append_assoc] at split
      exact earlier before other front (List.append_inj' split rfl).1

/-- The cues of two pulses are right, also if one is due at each event. -/
theorem cues_of_two_pulses :
    CuesHold 0 (fun message => message.detectorId.length)
        [Ev42.onePulse, Ev42.onePulse]
        (fun taken =>
          let run :=
            Mealy.run (Throwing.call (Ev42.write { eventIndexInterval := 0 }))
              {} taken
          (run.1.cues, run.2)) ∧
      CuesHold 0 (fun message => message.pixelId.length)
        [Ev44.onePulse, Ev44.onePulse]
        (fun taken =>
          let run :=
            Mealy.run (Throwing.call (Ev44.write { eventIndexInterval := 0 }))
              {} taken
          (run.1.cues, run.2)) := by
  have both :=
    event_cues_iff { eventIndexInterval := 0 } { eventIndexInterval := 0 }
      [Ev42.onePulse, Ev42.onePulse] [Ev44.onePulse, Ev44.onePulse]
      (by
        rw [List.forall_mem_cons, List.forall_mem_singleton]
        exact ⟨⟨by decide, by decide⟩, ⟨by decide, by decide⟩⟩)
      (by
        rw [List.forall_mem_cons, List.forall_mem_singleton]
        exact ⟨⟨by decide, by decide⟩, ⟨by decide, by decide⟩⟩)
  constructor
  · apply both.1.mpr
    exact cuesReadable_concat_iff.mpr
      ⟨cuesReadable_concat_iff.mpr ⟨cuesReadable_nil, by decide⟩, by decide⟩
  · apply both.2.mpr
    exact cuesReadable_concat_iff.mpr
      ⟨cuesReadable_concat_iff.mpr ⟨cuesReadable_nil, by decide⟩, by decide⟩

/-- Behind it the last time of a pulse without events is read. -/
theorem cue_of_empty_pulse :
    ¬CuesHold 0 (fun message => message.detectorId.length)
        [Ev42.onePulse, Ev42.emptyPulse]
        (fun taken =>
          let run :=
            Mealy.run (Throwing.call (Ev42.write { eventIndexInterval := 0 }))
              {} taken
          (run.1.cues, run.2)) ∧
      ¬CuesHold 0 (fun message => message.pixelId.length)
        [Ev44.onePulse, Ev44.emptyPulse]
        (fun taken =>
          let run :=
            Mealy.run (Throwing.call (Ev44.write { eventIndexInterval := 0 }))
              {} taken
          (run.1.cues, run.2)) := by
  constructor
  · intro hold
    exact absurd hold.inBounds (by decide)
  · intro hold
    exact absurd hold.inBounds (by decide)

end KafkaToNexus.WriterModule
