import KafkaToNexus.WriterModule.EventIndex

/-!
# The alignment of ADC data

The data of the ADC are in five vectors beside the events, with a value for
each event.  A message without these data brings as many zeros as it has
events.  So the values of an event are in the place of the event, whichever
messages have data.
-/

namespace KafkaToNexus.WriterModule.Ev42

open KafkaToNexus.Foundations KafkaToNexus.NeXusDataset

/-- There is one value for each of some events. -/
structure AdcPulseDebug.HasLength (adcPulseDebug : AdcPulseDebug)
    (count : Nat) : Prop where
  amplitude : adcPulseDebug.amplitude.length = count
  peakArea : adcPulseDebug.peakArea.length = count
  background : adcPulseDebug.background.length = count
  thresholdTime : adcPulseDebug.thresholdTime.length = count
  peakTime : adcPulseDebug.peakTime.length = count

/-- Each event has a time, and ADC data if its message has them. -/
structure Complete (message : EventMessage) : Prop where
  times : message.timeOfFlight.length = message.detectorId.length
  adc :
    ∀ adcPulseDebug, message.adcPulseDebug = some adcPulseDebug →
      adcPulseDebug.HasLength message.detectorId.length

/-- The values of an event of a message are in a place of the datasets. -/
structure AdcAt (writer : Writer) (place : Nat) (message : EventMessage)
    (event : Nat) : Prop where
  eventId : writer.eventId.elements[place]? = message.detectorId[event]?
  recorded :
    ∀ adcPulseDebug, message.adcPulseDebug = some adcPulseDebug →
      writer.amplitude.elements[place]? = adcPulseDebug.amplitude[event]? ∧
      writer.peakArea.elements[place]? = adcPulseDebug.peakArea[event]? ∧
      writer.background.elements[place]? = adcPulseDebug.background[event]? ∧
      writer.thresholdTime.elements[place]? =
        adcPulseDebug.thresholdTime[event]? ∧
      writer.peakTime.elements[place]? = adcPulseDebug.peakTime[event]?
  padded :
    message.adcPulseDebug = none →
      writer.amplitude.elements[place]? = some 0 ∧
      writer.peakArea.elements[place]? = some 0 ∧
      writer.background.elements[place]? = some 0 ∧
      writer.thresholdTime.elements[place]? = some 0 ∧
      writer.peakTime.elements[place]? = some 0

/-- Each event of the messages has its ADC data beside it, or zeros. -/
structure AdcAligned (messages : List EventMessage) (writer : Writer) :
    Prop where
  amplitude :
    writer.amplitude.elements.length = writer.eventId.elements.length
  peakArea : writer.peakArea.elements.length = writer.eventId.elements.length
  background :
    writer.background.elements.length = writer.eventId.elements.length
  thresholdTime :
    writer.thresholdTime.elements.length = writer.eventId.elements.length
  peakTime : writer.peakTime.elements.length = writer.eventId.elements.length
  values :
    ∀ before message after, messages = before ++ message :: after →
      ∀ event < message.detectorId.length,
        AdcAt writer
          ((before.map fun earlier => earlier.detectorId.length).sum + event)
          message event

/-! ## The columns -/

/-- The ADC data of a message, or zeros. -/
def EventMessage.adcOrZeroes (message : EventMessage) : AdcPulseDebug :=
  match message.adcPulseDebug with
  | some adcPulseDebug => adcPulseDebug
  | none =>
      { amplitude := List.replicate message.timeOfFlight.length 0
        peakArea := List.replicate message.timeOfFlight.length 0
        background := List.replicate message.timeOfFlight.length 0
        thresholdTime := List.replicate message.timeOfFlight.length 0
        peakTime := List.replicate message.timeOfFlight.length 0 }

/-- There is one value for each event of a complete message. -/
theorem Complete.adcOrZeroes_hasLength
    {message : EventMessage} (complete : Complete message) :
    message.adcOrZeroes.HasLength message.detectorId.length := by
  rw [EventMessage.adcOrZeroes]
  cases adc : message.adcPulseDebug with
  | some adcPulseDebug => exact complete.adc adcPulseDebug adc
  | none =>
      have zeroes {Value : Type} (zero : Value) :
          (List.replicate message.timeOfFlight.length zero).length =
            message.detectorId.length :=
        List.length_replicate.trans complete.times
      exact ⟨zeroes 0, zeroes 0, zeroes 0, zeroes 0, zeroes 0⟩

/-- A dataset holds one of the vectors of all messages. -/
structure Column {Value : Type} (messages : List EventMessage)
    (vector : AdcPulseDebug → List Value)
    (dataset : ExtensibleDataset Value) : Prop where
  atEnd : dataset.AtEnd
  elements :
    dataset.elements =
      messages.flatMap fun message => vector message.adcOrZeroes

theorem Column.append
    {Value : Type} [Inhabited Value] {messages : List EventMessage}
    {vector : AdcPulseDebug → List Value} {dataset : ExtensibleDataset Value}
    (column : Column messages vector dataset) (message : EventMessage) :
    Column (messages ++ [message]) vector
      (dataset.appendArrayAdapter (vector message.adcOrZeroes)) := by
  constructor
  · exact column.atEnd.appendArrayAdapter _
  · rw [ExtensibleDataset.elements_appendArrayAdapter column.atEnd,
      column.elements, List.flatMap_append, List.flatMap_singleton]

/-- Nothing is missing for a message without values. -/
theorem Column.skip
    {Value : Type} {messages : List EventMessage}
    {vector : AdcPulseDebug → List Value} {dataset : ExtensibleDataset Value}
    (column : Column messages vector dataset) {message : EventMessage}
    (empty : (vector message.adcOrZeroes).length = 0) :
    Column (messages ++ [message]) vector dataset := by
  constructor
  · exact column.atEnd
  · rw [column.elements, List.flatMap_append, List.flatMap_singleton,
      List.length_eq_zero_iff.mp empty, List.append_nil]

/-- The value of an event is in the place of the event. -/
theorem Column.getElem?
    {Value : Type} {vector : AdcPulseDebug → List Value}
    {dataset : ExtensibleDataset Value}
    {before after : List EventMessage} {message : EventMessage}
    (column : Column (before ++ message :: after) vector dataset)
    (lengths :
      ∀ other ∈ before ++ message :: after,
        (vector other.adcOrZeroes).length = other.detectorId.length)
    {event : Nat} (inside : event < message.detectorId.length) :
    dataset.elements[
        (before.map fun earlier => earlier.detectorId.length).sum + event]? =
      (vector message.adcOrZeroes)[event]? := by
  have sizes :
      (before.map fun earlier => earlier.detectorId.length) =
        before.map fun earlier => (vector earlier.adcOrZeroes).length := by
    apply List.map_congr_left
    intro earlier member
    exact (lengths earlier (List.mem_append_left _ member)).symm
  have own :=
    lengths message (List.mem_append_right _ List.mem_cons_self)
  rw [sizes, column.elements]
  apply getElem?_flatMap_of_split fun message : EventMessage =>
    vector message.adcOrZeroes
  rw [own]
  exact inside

theorem Column.length
    {Value : Type} {messages : List EventMessage}
    {vector : AdcPulseDebug → List Value} {dataset : ExtensibleDataset Value}
    (column : Column messages vector dataset)
    (lengths :
      ∀ other ∈ messages,
        (vector other.adcOrZeroes).length = other.detectorId.length) :
    dataset.elements.length =
      (messages.flatMap (·.detectorId)).length := by
  rw [column.elements, List.length_flatMap, List.length_flatMap]
  congr 1
  exact List.map_congr_left lengths

/-! ## What a call keeps -/

/-- The five datasets hold the vectors of all messages. -/
structure TracksAdc (messages : List EventMessage) (writer : Writer) :
    Prop where
  amplitude : Column messages (·.amplitude) writer.amplitude
  peakArea : Column messages (·.peakArea) writer.peakArea
  background : Column messages (·.background) writer.background
  thresholdTime : Column messages (·.thresholdTime) writer.thresholdTime
  peakTime : Column messages (·.peakTime) writer.peakTime

variable {config : Config} {messages : List EventMessage}
  {message : EventMessage} {writer next : Writer}

theorem tracksAdc_empty : TracksAdc [] {} := by
  constructor <;> exact ⟨rfl, rfl⟩

/-- The datasets are the same in both states. -/
structure SameAdc (writer next : Writer) : Prop where
  amplitude : next.amplitude = writer.amplitude
  peakArea : next.peakArea = writer.peakArea
  background : next.background = writer.background
  thresholdTime : next.thresholdTime = writer.thresholdTime
  peakTime : next.peakTime = writer.peakTime

theorem TracksAdc.of_same
    (tracks : TracksAdc messages writer) (same : SameAdc writer next) :
    TracksAdc messages next := by
  constructor
  · rw [same.amplitude]
    exact tracks.amplitude
  · rw [same.peakArea]
    exact tracks.peakArea
  · rw [same.background]
    exact tracks.background
  · rw [same.thresholdTime]
    exact tracks.thresholdTime
  · rw [same.peakTime]
    exact tracks.peakTime

theorem sameAdc_appendCue :
    SameAdc writer (appendCue config message writer).1 := by
  simp only [appendCue]
  split_ifs
  · cases message.timeOfFlight[
        (currentNumberOfEvents message - 1).toNat]? <;>
      exact ⟨rfl, rfl, rfl, rfl, rfl⟩
  · exact ⟨rfl, rfl, rfl, rfl, rfl⟩

/-- Only the last time of a message without events cannot be read. -/
theorem noEvents_of_threw
    {failure : WriteFailure}
    (times : message.timeOfFlight.length = message.detectorId.length)
    (threw : (appendCue config message writer).2 = some failure) :
    message.detectorId.length = 0 := by
  have unread :
      message.timeOfFlight[(currentNumberOfEvents message - 1).toNat]? =
        none := by
    simp only [appendCue] at threw
    split_ifs at threw
    cases read :
        message.timeOfFlight[(currentNumberOfEvents message - 1).toNat]? with
    | none => rfl
    | some offset =>
        rw [read] at threw
        cases threw
  have outside := List.getElem?_eq_none_iff.mp unread
  have last :
      (currentNumberOfEvents message - 1).toNat =
        (2 ^ 32 - 1 + message.detectorId.length % 2 ^ 32) % 2 ^ 32 := by
    rw [UInt32.toNat_sub, currentNumberOfEvents, UInt32.toNat_ofNat']
    rfl
  rw [times, last] at outside
  omega

/-- What a message brings is appended, be it data or zeros. -/
theorem writeAdcPulseData_of_recording
    (recording : config.recordAdcPulseDebugData = true) :
    writeAdcPulseData config message writer =
      (writeAdcPulseDataFromMessageToFile message.adcOrZeroes writer,
        none) := by
  rw [writeAdcPulseData, if_pos recording, EventMessage.adcOrZeroes]
  cases message.adcPulseDebug <;> rfl

theorem TracksAdc.write
    (tracks : TracksAdc messages writer)
    (recording : config.recordAdcPulseDebugData = true)
    (complete : Complete message) :
    TracksAdc (messages ++ [message]) (write config message writer).1 := by
  have appended : TracksAdc messages (appendEvents message writer).1 :=
    tracks.of_same ⟨rfl, rfl, rfl, rfl, rfl⟩
  have cued :
      TracksAdc messages
        (appendCue config message (appendEvents message writer).1).1 :=
    appended.of_same sameAdc_appendCue
  rw [Ev42.write, Throwing.inOrder_of_none rfl]
  rcases ran : appendCue config message (appendEvents message writer).1 with
    ⟨next, _ | failure⟩
  · rw [ran] at cued
    rw [Throwing.inOrder_of_returned ran,
      Throwing.inOrder_of_returned (writeAdcPulseData_of_recording recording)]
    constructor
    · exact cued.amplitude.append message
    · exact cued.peakArea.append message
    · exact cued.background.append message
    · exact cued.thresholdTime.append message
    · exact cued.peakTime.append message
  · have empty :=
      noEvents_of_threw complete.times (congrArg Prod.snd ran)
    have lengths := complete.adcOrZeroes_hasLength
    rw [empty] at lengths
    rw [ran] at cued
    rw [Throwing.inOrder_of_threw ran]
    constructor
    · exact cued.amplitude.skip lengths.amplitude
    · exact cued.peakArea.skip lengths.peakArea
    · exact cued.background.skip lengths.background
    · exact cued.thresholdTime.skip lengths.thresholdTime
    · exact cued.peakTime.skip lengths.peakTime

theorem tracksAdc_run
    (recording : config.recordAdcPulseDebugData = true)
    (complete : ∀ message ∈ messages, Complete message) :
    TracksAdc messages
      (Mealy.run (Throwing.call (Ev42.write config)) {} messages).1 := by
  induction messages using List.reverseRecOn with
  | nil => exact tracksAdc_empty
  | append_singleton messages message induction =>
      rw [Mealy.run_concat]
      apply TracksAdc.write
      · apply induction
        intro other member
        exact complete other (List.mem_append_left _ member)
      · exact recording
      · exact complete message
          (List.mem_append_right _ (List.mem_singleton_self _))

/-! ## Alignment -/

/-- The datasets of the events and of the ADC are filled alike. -/
theorem TracksAdc.adcAligned
    (tracks : TracksAdc messages writer) (events : Tracks messages writer)
    (complete : ∀ message ∈ messages, Complete message) :
    AdcAligned messages writer := by
  have lengths (message) (member : message ∈ messages) :=
    (complete message member).adcOrZeroes_hasLength
  constructor
  · rw [events.eventId]
    exact tracks.amplitude.length fun other member =>
      (lengths other member).amplitude
  · rw [events.eventId]
    exact tracks.peakArea.length fun other member =>
      (lengths other member).peakArea
  · rw [events.eventId]
    exact tracks.background.length fun other member =>
      (lengths other member).background
  · rw [events.eventId]
    exact tracks.thresholdTime.length fun other member =>
      (lengths other member).thresholdTime
  · rw [events.eventId]
    exact tracks.peakTime.length fun other member =>
      (lengths other member).peakTime
  · rintro before message after rfl event inside
    have amplitude :=
      tracks.amplitude.getElem?
        (fun other member => (lengths other member).amplitude) inside
    have peakArea :=
      tracks.peakArea.getElem?
        (fun other member => (lengths other member).peakArea) inside
    have background :=
      tracks.background.getElem?
        (fun other member => (lengths other member).background) inside
    have thresholdTime :=
      tracks.thresholdTime.getElem?
        (fun other member => (lengths other member).thresholdTime) inside
    have peakTime :=
      tracks.peakTime.getElem?
        (fun other member => (lengths other member).peakTime) inside
    constructor
    · rw [events.eventId]
      exact getElem?_flatMap_of_split (·.detectorId) before after inside
    · intro adcPulseDebug recorded
      have own : message.adcOrZeroes = adcPulseDebug := by
        rw [EventMessage.adcOrZeroes, recorded]
      rw [own] at amplitude peakArea background thresholdTime peakTime
      exact ⟨amplitude, peakArea, background, thresholdTime, peakTime⟩
    · intro padded
      have timed : event < message.timeOfFlight.length := by
        rw [(complete message
          (List.mem_append_right _ List.mem_cons_self)).times]
        exact inside
      have zeroes {Value : Type} (zero : Value) :
          (List.replicate message.timeOfFlight.length zero)[event]? =
            some zero := by
        rw [List.getElem?_replicate, if_pos timed]
      simp only [EventMessage.adcOrZeroes, padded, zeroes]
        at amplitude peakArea background thresholdTime peakTime
      exact ⟨amplitude, peakArea, background, thresholdTime, peakTime⟩

/-- With the recording of ADC data each event has its data beside it. -/
theorem adc_aligned
    (config : Config) (messages : List EventMessage)
    (recording : config.recordAdcPulseDebugData = true)
    (complete : ∀ message ∈ messages, Complete message) :
    AdcAligned messages
      (Mealy.run (Throwing.call (Ev42.write config)) {} messages).1 :=
  (tracksAdc_run recording complete).adcAligned (tracks_run config messages)
    complete

/-- Two events with ADC data, and one without. -/
def recordedPulse : EventMessage :=
  { pulseTime := 10
    timeOfFlight := [1, 2]
    detectorId := [7, 8]
    adcPulseDebug :=
      some
        { amplitude := [3, 4]
          peakArea := [5, 6]
          background := [7, 8]
          thresholdTime := [9, 10]
          peakTime := [11, 12] } }

def plainPulse : EventMessage :=
  { pulseTime := 20, timeOfFlight := [3], detectorId := [9] }

theorem complete_plainPulse : Complete plainPulse := by
  constructor
  · rfl
  · intro adcPulseDebug recorded
    cases recorded

theorem complete_recordedPulse : Complete recordedPulse := by
  constructor
  · rfl
  · intro adcPulseDebug recorded
    cases recorded
    constructor <;> rfl

/-- Zeros come before the data of the second message. -/
theorem aligned_behind_zeroes :
    AdcAligned [plainPulse, recordedPulse]
      (Mealy.run
        (Throwing.call
          (Ev42.write
            { eventIndexInterval := 1, recordAdcPulseDebugData := true }))
        {} [plainPulse, recordedPulse]).1 := by
  apply adc_aligned
  · rfl
  · intro message member
    rcases List.mem_pair.mp member with rfl | rfl
    · exact complete_plainPulse
    · exact complete_recordedPulse

end KafkaToNexus.WriterModule.Ev42
