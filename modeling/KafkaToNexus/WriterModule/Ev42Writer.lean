import KafkaToNexus.Foundations.Throwing
import KafkaToNexus.NeXusDataset.ExtensibleDataset

/-!
# The writer of events

A message brings the events of a pulse: where each was detected and at what
time after the pulse.  The writer appends them to long vectors, and for each
pulse its time and the number of events before it.  It can also record the data
of the pulses in the ADC, or as many zeros where a message has none.

The length of a vector in a message is read as a 32-bit integer.
-/

namespace KafkaToNexus.WriterModule.Ev42

open KafkaToNexus.Foundations KafkaToNexus.NeXusDataset

structure AdcPulseDebug where
  amplitude : List UInt32
  peakArea : List UInt32
  background : List UInt32
  thresholdTime : List UInt64
  peakTime : List UInt64
deriving DecidableEq, Repr

structure EventMessage where
  pulseTime : UInt64
  timeOfFlight : List UInt32
  detectorId : List UInt32
  /-- The facility data, if it is that of the ADC. -/
  adcPulseDebug : Option AdcPulseDebug := none
deriving DecidableEq, Repr

/-- The read behind the last element of a vector. -/
inductive WriteFailure where
  | outOfBounds
deriving DecidableEq, Repr

structure Config where
  eventIndexInterval : UInt64 := .ofNat (2 ^ 64 - 1)
  recordAdcPulseDebugData : Bool := false
deriving DecidableEq, Repr

/-- The writer with its datasets, which are empty when they are created. -/
structure Writer where
  eventTimeOffset : ExtensibleDataset UInt32 := {}
  eventId : ExtensibleDataset UInt32 := {}
  eventTimeZero : ExtensibleDataset UInt64 := {}
  eventIndex : ExtensibleDataset UInt32 := {}
  cueIndex : ExtensibleDataset UInt32 := {}
  cueTimestampZero : ExtensibleDataset UInt64 := {}
  amplitude : ExtensibleDataset UInt32 := {}
  peakArea : ExtensibleDataset UInt32 := {}
  background : ExtensibleDataset UInt32 := {}
  thresholdTime : ExtensibleDataset UInt64 := {}
  peakTime : ExtensibleDataset UInt64 := {}
  eventsWritten : UInt64 := 0
  lastEventIndex : UInt64 := 0
  eventsWrittenMetadataField : UInt64 := 0
deriving DecidableEq, Repr

variable (config : Config) (message : EventMessage)

/-- The size of the vector of detectors. -/
def currentNumberOfEvents : UInt32 :=
  .ofNat message.detectorId.length

/-- The events are appended, and the pulse with its index. -/
def appendEvents : Throwing Writer WriteFailure :=
  fun writer =>
    ({ writer with
       eventTimeOffset :=
         writer.eventTimeOffset.appendArrayAdapter message.timeOfFlight
       eventId := writer.eventId.appendArrayAdapter message.detectorId
       eventTimeZero := writer.eventTimeZero.appendElement message.pulseTime
       eventIndex :=
         writer.eventIndex.appendElement (clipToUInt32 writer.eventsWritten)
       eventsWritten :=
         writer.eventsWritten + (currentNumberOfEvents message).toUInt64 },
      none)

/--
The cue of the last event, whose index is the largest integer when the message
has no events.  What the source does on this read behind the end of a vector
is left open by the language; here it is an exception, which the run survives.
-/
def appendCue : Throwing Writer WriteFailure :=
  fun writer =>
    if writer.lastEventIndex + config.eventIndexInterval <
        writer.eventsWritten then
      match message.timeOfFlight[(currentNumberOfEvents message - 1).toNat]? with
      | none => (writer, some .outOfBounds)
      | some lastRefTimeOffset =>
          ({ writer with
             cueTimestampZero :=
               writer.cueTimestampZero.appendElement
                 (message.pulseTime + lastRefTimeOffset.toUInt64)
             cueIndex :=
               writer.cueIndex.appendElement
                 (clipToUInt32 (writer.eventsWritten - 1))
             lastEventIndex := writer.eventsWritten - 1 }, none)
    else
      (writer, none)

def writeAdcPulseDataFromMessageToFile (adcPulseDebug : AdcPulseDebug)
    (writer : Writer) : Writer :=
  { writer with
    amplitude := writer.amplitude.appendArrayAdapter adcPulseDebug.amplitude
    peakArea := writer.peakArea.appendArrayAdapter adcPulseDebug.peakArea
    background := writer.background.appendArrayAdapter adcPulseDebug.background
    thresholdTime :=
      writer.thresholdTime.appendArrayAdapter adcPulseDebug.thresholdTime
    peakTime := writer.peakTime.appendArrayAdapter adcPulseDebug.peakTime }

def padDatasetsWithZeroesEqualToNumberOfEvents (writer : Writer) : Writer :=
  let numberOfEventsInMessage := message.timeOfFlight.length
  writeAdcPulseDataFromMessageToFile
    { amplitude := List.replicate numberOfEventsInMessage 0
      peakArea := List.replicate numberOfEventsInMessage 0
      background := List.replicate numberOfEventsInMessage 0
      thresholdTime := List.replicate numberOfEventsInMessage 0
      peakTime := List.replicate numberOfEventsInMessage 0 } writer

def writeAdcPulseData : Throwing Writer WriteFailure :=
  fun writer =>
    if config.recordAdcPulseDebugData then
      match message.adcPulseDebug with
      | none =>
          (padDatasetsWithZeroesEqualToNumberOfEvents message writer, none)
      | some adcPulseDebug =>
          (writeAdcPulseDataFromMessageToFile adcPulseDebug writer, none)
    else
      (writer, none)

def setMetadata : Throwing Writer WriteFailure :=
  fun writer =>
    ({ writer with eventsWrittenMetadataField := writer.eventsWritten }, none)

def write : Throwing Writer WriteFailure :=
  Throwing.inOrder
    [appendEvents message, appendCue config message,
      writeAdcPulseData config message, setMetadata]

end KafkaToNexus.WriterModule.Ev42
