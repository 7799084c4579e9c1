import KafkaToNexus.FlatbufferMessage
import KafkaToNexus.Foundations.Mealy

/-!
# The filter of one source

`SourceFilter` passes the messages of one source to the writer thread.  A
message from before the start time is held back in a one-message buffer; it is
sent when the first message at or after the start time arrives, or by the
destructor.  A message from after the stop time finishes the filter and is
still sent.

Everything a filter does to the outside is returned as a list of events: one
for the increment of the counter of transmitted messages and one for each call
of `MessageWriter::addMessage`.
-/

namespace KafkaToNexus.Stream

open KafkaToNexus

variable {Dest : Type*}

/-- A flatbuffer on its way to the writer module that is to write it. -/
structure Message (Dest : Type*) where
  fbMsg : FlatbufferMessage
  destPtr : Dest
deriving DecidableEq, Repr

/-- What a filter does to the outside. -/
inductive SendEvent (Dest : Type*) where
  /-- A message has been counted as transmitted. -/
  | transmitted (msg : FlatbufferMessage)
  /-- A call of `MessageWriter::addMessage`. -/
  | addMessage (message : Message Dest)
deriving DecidableEq, Repr

/-- The state of a filter, with the counters it reports. -/
structure SourceFilter (Dest : Type*) where
  start : TimePoint
  stop : TimePoint
  writeRepeatedTimestamps : Bool
  currentTimeStamp : Int := 0
  isDone : Bool := false
  bufferedMessage : FlatbufferMessage := {}
  destIDs : List Dest := []
  flatbufferInvalid : Nat := 0
  unorderedTimestamp : Nat := 0
  repeatedTimestamp : Nat := 0
  messagesReceived : Nat := 0
  messagesTransmitted : Nat := 0
  messagesDiscarded : Nat := 0
deriving DecidableEq, Repr

/-- What a call of `filterMessage` leaves, does and returns. -/
structure FilterResult (Dest : Type*) where
  filter : SourceFilter Dest
  events : List (SendEvent Dest)
  sent : Bool
deriving DecidableEq, Repr

/-- The time of a message as it is compared with the start and stop times. -/
def messageTime (msg : FlatbufferMessage) : TimePoint :=
  TimePoint.ofMicrosecondCast msg.timestamp

namespace SourceFilter

/-- The constructor. -/
def create
    (startTime stopTime : TimePoint) (acceptRepeatedTimestamps : Bool) :
    SourceFilter Dest :=
  { start := startTime
    stop := stopTime
    writeRepeatedTimestamps := acceptRepeatedTimestamps }

def addDestinationPtr
    (filter : SourceFilter Dest) (newDestination : Dest) :
    SourceFilter Dest :=
  { filter with destIDs := filter.destIDs ++ [newDestination] }

def setStopTime
    (filter : SourceFilter Dest) (stopTime : TimePoint) :
    SourceFilter Dest :=
  { filter with stop := stopTime }

def hasFinished (filter : SourceFilter Dest) : Bool :=
  filter.isDone

/-- Count a message as transmitted and hand it to every destination. -/
def sendMessage
    (filter : SourceFilter Dest) (msg : FlatbufferMessage) :
    SourceFilter Dest × List (SendEvent Dest) :=
  ({ filter with messagesTransmitted := filter.messagesTransmitted + 1 },
    .transmitted msg ::
      filter.destIDs.map fun dest => .addMessage ⟨msg, dest⟩)

def sendBufferedMessage
    (filter : SourceFilter Dest) :
    SourceFilter Dest × List (SendEvent Dest) :=
  if filter.bufferedMessage.valid then
    let (sent, events) := filter.sendMessage filter.bufferedMessage
    ({ sent with bufferedMessage := {} }, events)
  else
    (filter, [])

/-- The events of the destructor. -/
def destroy (filter : SourceFilter Dest) : List (SendEvent Dest) :=
  filter.sendBufferedMessage.2

/-- The counters touched by the comparison with the previous timestamp. -/
def countTimestamp
    (filter : SourceFilter Dest) (timestamp : Int) :
    SourceFilter Dest :=
  if timestamp = filter.currentTimeStamp then
    { filter with repeatedTimestamp := filter.repeatedTimestamp + 1 }
  else if timestamp < filter.currentTimeStamp then
    { filter with unorderedTimestamp := filter.unorderedTimestamp + 1 }
  else
    filter

/-- Keep a message from before the start time, in place of an earlier one. -/
def bufferMessage
    (filter : SourceFilter Dest) (msg : FlatbufferMessage) :
    SourceFilter Dest :=
  { filter with
    bufferedMessage := msg
    messagesDiscarded :=
      if filter.bufferedMessage.valid then filter.messagesDiscarded + 1
      else filter.messagesDiscarded }

def filterMessage
    (filter : SourceFilter Dest) (inMsg : FlatbufferMessage) :
    FilterResult Dest :=
  let filter := { filter with messagesReceived := filter.messagesReceived + 1 }
  if inMsg.valid = false then
    { filter :=
        { filter with
          messagesDiscarded := filter.messagesDiscarded + 1
          flatbufferInvalid := filter.flatbufferInvalid + 1 }
      events := []
      sent := false }
  else
    let repeated := inMsg.timestamp = filter.currentTimeStamp
    let filter := filter.countTimestamp inMsg.timestamp
    if repeated ∧ filter.writeRepeatedTimestamps = false then
      { filter :=
          { filter with messagesDiscarded := filter.messagesDiscarded + 1 }
        events := []
        sent := false }
    else
      let filter := { filter with currentTimeStamp := inMsg.timestamp }
      if messageTime inMsg < filter.start then
        { filter := filter.bufferMessage inMsg
          events := []
          sent := false }
      else
        let filter :=
          if filter.stop < messageTime inMsg then
            { filter with isDone := true }
          else
            filter
        let (filter, flushed) := filter.sendBufferedMessage
        let (filter, events) := filter.sendMessage inMsg
        { filter, events := flushed ++ events, sent := true }

/-- Register a list of destinations, one after the other. -/
def addDestinationPtrs
    (filter : SourceFilter Dest) (destinations : List Dest) :
    SourceFilter Dest :=
  destinations.foldl addDestinationPtr filter

theorem addDestinationPtrs_eq
    (filter : SourceFilter Dest) (destinations : List Dest) :
    filter.addDestinationPtrs destinations =
      { filter with destIDs := filter.destIDs ++ destinations } := by
  induction destinations generalizing filter with
  | nil => simp [addDestinationPtrs]
  | cons destination rest induction =>
      calc
        filter.addDestinationPtrs (destination :: rest)
            = (filter.addDestinationPtr destination).addDestinationPtrs
                rest := rfl
        _ = { filter with destIDs := filter.destIDs ++ destination :: rest } := by
            rw [induction]
            simp [addDestinationPtr]

/-! ## What a call of `filterMessage` can do -/

/-- The two counters of the timestamp comparison are all that it changes. -/
theorem countTimestamp_eq
    (filter : SourceFilter Dest) (timestamp : Int) :
    ∃ repeated unordered,
      filter.countTimestamp timestamp =
        { filter with
          repeatedTimestamp := repeated
          unorderedTimestamp := unordered } := by
  unfold countTimestamp
  split
  · exact ⟨_, _, rfl⟩
  · split
    · exact ⟨_, _, rfl⟩
    · exact ⟨_, _, rfl⟩

/-- An invalid message is counted as received and as discarded. -/
theorem filterMessage_of_invalid
    (filter : SourceFilter Dest) {inMsg : FlatbufferMessage}
    (invalid : inMsg.valid = false) :
    filter.filterMessage inMsg =
      { filter :=
          { filter with
            messagesReceived := filter.messagesReceived + 1
            messagesDiscarded := filter.messagesDiscarded + 1
            flatbufferInvalid := filter.flatbufferInvalid + 1 }
        events := []
        sent := false } := by
  simp [filterMessage, invalid]

/-- A valid message is dropped when it repeats the previous timestamp. -/
def Repeats
    (filter : SourceFilter Dest) (inMsg : FlatbufferMessage) : Prop :=
  inMsg.timestamp = filter.currentTimeStamp ∧
    filter.writeRepeatedTimestamps = false

instance (filter : SourceFilter Dest) (inMsg : FlatbufferMessage) :
    Decidable (filter.Repeats inMsg) :=
  inferInstanceAs (Decidable (_ ∧ _))

/-- A message whose timestamp repeats is counted and discarded. -/
theorem filterMessage_of_repeats
    (filter : SourceFilter Dest) {inMsg : FlatbufferMessage}
    (valid : inMsg.valid = true)
    (repeats : filter.Repeats inMsg) :
    filter.filterMessage inMsg =
      { filter :=
          { filter with
            messagesReceived := filter.messagesReceived + 1
            messagesDiscarded := filter.messagesDiscarded + 1
            repeatedTimestamp := filter.repeatedTimestamp + 1 }
        events := []
        sent := false } := by
  obtain ⟨same, rejected⟩ := repeats
  simp [filterMessage, valid, countTimestamp, same, rejected]

/-- A new message from before the start time takes the place in the buffer. -/
theorem filterMessage_of_early
    (filter : SourceFilter Dest) {inMsg : FlatbufferMessage}
    (valid : inMsg.valid = true)
    (fresh : ¬ filter.Repeats inMsg)
    (early : messageTime inMsg < filter.start) :
    ∃ repeated unordered,
      filter.filterMessage inMsg =
        { filter :=
            { filter.bufferMessage inMsg with
              messagesReceived := filter.messagesReceived + 1
              currentTimeStamp := inMsg.timestamp
              repeatedTimestamp := repeated
              unorderedTimestamp := unordered }
          events := []
          sent := false } := by
  obtain ⟨repeated, unordered, counted⟩ :=
    countTimestamp_eq
      { filter with messagesReceived := filter.messagesReceived + 1 }
      inMsg.timestamp
  refine ⟨repeated, unordered, ?_⟩
  unfold Repeats at fresh
  simp [filterMessage, valid, counted, fresh, early, bufferMessage]

/--
A new message from at or after the start time is sent, after the buffered one
if there is one.  The filter is finished when the message is from after the
stop time.
-/
theorem filterMessage_of_onTime
    (filter : SourceFilter Dest) {inMsg : FlatbufferMessage}
    (valid : inMsg.valid = true)
    (fresh : ¬ filter.Repeats inMsg)
    (onTime : ¬ messageTime inMsg < filter.start) :
    ∃ repeated unordered,
      filter.filterMessage inMsg =
        { filter :=
            { filter with
              messagesReceived := filter.messagesReceived + 1
              messagesTransmitted :=
                filter.messagesTransmitted +
                  (if filter.bufferedMessage.valid then 2 else 1)
              bufferedMessage :=
                if filter.bufferedMessage.valid then {}
                else filter.bufferedMessage
              isDone :=
                filter.isDone || decide (filter.stop < messageTime inMsg)
              currentTimeStamp := inMsg.timestamp
              repeatedTimestamp := repeated
              unorderedTimestamp := unordered }
          events :=
            filter.destroy ++ (filter.sendMessage inMsg).2
          sent := true } := by
  obtain ⟨repeated, unordered, counted⟩ :=
    countTimestamp_eq
      { filter with messagesReceived := filter.messagesReceived + 1 }
      inMsg.timestamp
  refine ⟨repeated, unordered, ?_⟩
  unfold Repeats at fresh
  by_cases buffered : filter.bufferedMessage.valid = true
  · by_cases past : filter.stop < messageTime inMsg <;>
      simp [filterMessage, valid, counted, fresh, onTime, past, buffered,
        sendBufferedMessage, sendMessage, destroy]
  · by_cases past : filter.stop < messageTime inMsg <;>
      simp [filterMessage, valid, counted, fresh, onTime, past, buffered,
        sendBufferedMessage, sendMessage, destroy]

/-- Every message falls under exactly one of the four descriptions above. -/
theorem filterMessage_classification
    (filter : SourceFilter Dest) (inMsg : FlatbufferMessage) :
    inMsg.valid = false ∨
      (inMsg.valid = true ∧ filter.Repeats inMsg) ∨
      (inMsg.valid = true ∧ ¬ filter.Repeats inMsg ∧
        messageTime inMsg < filter.start) ∨
      (inMsg.valid = true ∧ ¬ filter.Repeats inMsg ∧
        ¬ messageTime inMsg < filter.start) := by
  cases valid : inMsg.valid <;>
    by_cases repeats : filter.Repeats inMsg <;>
      by_cases early : messageTime inMsg < filter.start <;>
        simp [repeats, early]

/-- No message changes the stop time. -/
theorem filterMessage_stop
    (filter : SourceFilter Dest) (inMsg : FlatbufferMessage) :
    (filter.filterMessage inMsg).filter.stop = filter.stop := by
  rcases filter.filterMessage_classification inMsg with
    invalid | ⟨valid, repeats⟩ | ⟨valid, fresh, early⟩ |
      ⟨valid, fresh, onTime⟩
  · rw [filter.filterMessage_of_invalid invalid]
  · rw [filter.filterMessage_of_repeats valid repeats]
  · rcases filter.filterMessage_of_early valid fresh early with
      ⟨_, _, result⟩
    rw [result]
    rfl
  · rcases filter.filterMessage_of_onTime valid fresh onTime with
      ⟨_, _, result⟩
    rw [result]

end SourceFilter

/-! ## The messages behind the events -/

/-- The messages counted as transmitted, in order. -/
def transmittedOf (events : List (SendEvent Dest)) : List FlatbufferMessage :=
  events.filterMap fun
    | .transmitted msg => some msg
    | .addMessage _ => none

/-- The content of the buffer, as a list of at most one message. -/
def bufferOf (filter : SourceFilter Dest) : List FlatbufferMessage :=
  if filter.bufferedMessage.valid then [filter.bufferedMessage] else []

/-- The events of one message being sent to a list of destinations. -/
def handOver
    (destinations : List Dest) (msg : FlatbufferMessage) :
    List (SendEvent Dest) :=
  .transmitted msg :: destinations.map fun dest => .addMessage ⟨msg, dest⟩

@[simp]
theorem transmittedOf_append (first second : List (SendEvent Dest)) :
    transmittedOf (first ++ second) =
      transmittedOf first ++ transmittedOf second := by
  simp [transmittedOf]

@[simp]
theorem transmittedOf_nil :
    transmittedOf ([] : List (SendEvent Dest)) = [] :=
  rfl

@[simp]
theorem transmittedOf_handOver
    (destinations : List Dest) (msg : FlatbufferMessage) :
    transmittedOf (handOver destinations msg) = [msg] := by
  simp [transmittedOf, handOver]

theorem sendMessage_events
    (filter : SourceFilter Dest) (msg : FlatbufferMessage) :
    (filter.sendMessage msg).2 = handOver filter.destIDs msg :=
  rfl

theorem destroy_events (filter : SourceFilter Dest) :
    filter.destroy = (bufferOf filter).flatMap (handOver filter.destIDs) := by
  unfold SourceFilter.destroy SourceFilter.sendBufferedMessage bufferOf
  split <;> simp [SourceFilter.sendMessage, handOver]

@[simp]
theorem transmittedOf_destroy (filter : SourceFilter Dest) :
    transmittedOf filter.destroy = bufferOf filter := by
  rw [destroy_events]
  unfold bufferOf
  split <;> simp

theorem bufferOf_length_le (filter : SourceFilter Dest) :
    (bufferOf filter).length ≤ 1 := by
  unfold bufferOf
  split <;> simp

/-- A call hands every message it transmits to every destination. -/
theorem SourceFilter.filterMessage_events
    (filter : SourceFilter Dest) (inMsg : FlatbufferMessage) :
    (filter.filterMessage inMsg).events =
      (transmittedOf (filter.filterMessage inMsg).events).flatMap
        (handOver filter.destIDs) := by
  rcases filter.filterMessage_classification inMsg with
    invalid | ⟨valid, repeats⟩ | ⟨valid, fresh, early⟩ |
      ⟨valid, fresh, onTime⟩
  · simp [filter.filterMessage_of_invalid invalid]
  · simp [filter.filterMessage_of_repeats valid repeats]
  · rcases filter.filterMessage_of_early valid fresh early with
      ⟨repeated, unordered, result⟩
    simp [result]
  · rcases filter.filterMessage_of_onTime valid fresh onTime with
      ⟨repeated, unordered, result⟩
    simp only [result, transmittedOf_append, transmittedOf_destroy,
      sendMessage_events, transmittedOf_handOver, List.flatMap_append,
      List.flatMap_singleton, ← destroy_events]

theorem SourceFilter.filterMessage_destIDs
    (filter : SourceFilter Dest) (inMsg : FlatbufferMessage) :
    (filter.filterMessage inMsg).filter.destIDs = filter.destIDs := by
  rcases filter.filterMessage_classification inMsg with
    invalid | ⟨valid, repeats⟩ | ⟨valid, fresh, early⟩ |
      ⟨valid, fresh, onTime⟩
  · rw [filter.filterMessage_of_invalid invalid]
  · rw [filter.filterMessage_of_repeats valid repeats]
  · rcases filter.filterMessage_of_early valid fresh early with
      ⟨repeated, unordered, result⟩
    rw [result]
    rfl
  · rcases filter.filterMessage_of_onTime valid fresh onTime with
      ⟨repeated, unordered, result⟩
    rw [result]

end KafkaToNexus.Stream
