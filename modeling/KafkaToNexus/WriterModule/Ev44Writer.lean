import KafkaToNexus.Foundations.Throwing
import KafkaToNexus.NeXusDataset.ExtensibleDataset

/-!
# The writer of events of several pulses

A message of ev44 brings the events of several pulses, with the time of each
pulse and the index of its first event.  All numbers in a message are signed,
while those in the file are not.  The writer has no ADC data; otherwise it does
what that of ev42 does.
-/

namespace KafkaToNexus.WriterModule.Ev44

open KafkaToNexus.Foundations KafkaToNexus.NeXusDataset

structure Event44Message where
  referenceTime : List Int64
  referenceTimeIndex : List Int32
  timeOfFlight : List Int32
  pixelId : List Int32
deriving DecidableEq

/-- The read behind the last element of a vector. -/
inductive WriteFailure where
  | outOfBounds
deriving DecidableEq, Repr

structure Config where
  eventIndexInterval : UInt64 := .ofNat (2 ^ 64 - 1)
deriving DecidableEq, Repr

/-- The writer with its datasets, which are empty when they are created. -/
structure Writer where
  eventTimeOffset : ExtensibleDataset UInt32 := {}
  eventId : ExtensibleDataset UInt32 := {}
  eventTimeZero : ExtensibleDataset UInt64 := {}
  eventTimeZeroIndex : ExtensibleDataset UInt32 := {}
  eventIndex : ExtensibleDataset UInt32 := {}
  cueIndex : ExtensibleDataset UInt32 := {}
  cueTimestampZero : ExtensibleDataset UInt64 := {}
  eventsWritten : UInt64 := 0
  lastEventIndex : UInt64 := 0
  eventsWrittenMetadataField : UInt64 := 0
deriving DecidableEq, Repr

variable (config : Config) (message : Event44Message)

/-- The size of the vector of pixels. -/
def currentNumberOfEvents : UInt32 :=
  .ofNat message.pixelId.length

/-- The events and the pulses are appended, and the message with its index. -/
def appendEvents : Throwing Writer WriteFailure :=
  fun writer =>
    ({ writer with
       eventTimeOffset :=
         writer.eventTimeOffset.appendArrayAdapter
           (message.timeOfFlight.map clipInt32ToUInt32)
       eventId :=
         writer.eventId.appendArrayAdapter
           (message.pixelId.map clipInt32ToUInt32)
       eventTimeZero :=
         writer.eventTimeZero.appendArrayAdapter
           (message.referenceTime.map clipToUInt64)
       eventTimeZeroIndex :=
         writer.eventTimeZeroIndex.appendArrayAdapter
           (message.referenceTimeIndex.map clipInt32ToUInt32)
       eventIndex :=
         writer.eventIndex.appendElement (clipToUInt32 writer.eventsWritten)
       eventsWritten :=
         writer.eventsWritten + (currentNumberOfEvents message).toUInt64 },
      none)

/--
The cue of the last event, whose index is the largest integer when the message
has no events.  What the source does on this read behind the end of a vector
is left open by the language; here it is an exception, which the run survives.
-/
def appendCue : Throwing Writer WriteFailure :=
  fun writer =>
    if writer.lastEventIndex + config.eventIndexInterval <
        writer.eventsWritten then
      match message.timeOfFlight[(currentNumberOfEvents message - 1).toNat]?,
          message.referenceTime.head? with
      | some lastRefTimeOffset, some currentRefTime =>
          ({ writer with
             cueTimestampZero :=
               writer.cueTimestampZero.appendElement
                 (clipToUInt64
                   (currentRefTime + lastRefTimeOffset.toInt64))
             cueIndex :=
               writer.cueIndex.appendElement
                 (clipToUInt32 (writer.eventsWritten - 1))
             lastEventIndex := writer.eventsWritten - 1 }, none)
      | _, _ => (writer, some .outOfBounds)
    else
      (writer, none)

def setMetadata : Throwing Writer WriteFailure :=
  fun writer =>
    ({ writer with eventsWrittenMetadataField := writer.eventsWritten }, none)

def write : Throwing Writer WriteFailure :=
  Throwing.inOrder
    [appendEvents message, appendCue config message, setMetadata]

end KafkaToNexus.WriterModule.Ev44
