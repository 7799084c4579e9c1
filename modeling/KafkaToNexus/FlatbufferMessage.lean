import KafkaToNexus.TimeUtility

/-!
# Kafka messages and the flatbuffers they carry

A Kafka message is a byte string with the metadata the broker attached to it.
`FlatbufferMessage` is built from the bytes: the four-byte schema id selects a
reader, which verifies the buffer and extracts its source name and timestamp.

The readers are registered at start-up from the schema-specific extractors and
from generated flatbuffer code, and `std::hash` is the standard library's.
Both are gathered in `MessageContext`, over which everything here is stated.
-/

namespace KafkaToNexus

/-- The broker's metadata of one message. -/
structure MessageMetaData where
  /-- Milliseconds since the epoch. -/
  timestampCount : Int := 0
  offset : Int := 0
deriving DecidableEq, Repr

/-- The broker's timestamp as a time point. -/
def MessageMetaData.timestamp (metaData : MessageMetaData) : TimePoint :=
  TimePoint.ofMilliseconds metaData.timestampCount

/-- A message as polled from Kafka. -/
structure Msg where
  data : List UInt8 := []
  metaData : MessageMetaData := {}
deriving DecidableEq, Repr

/-- The hash of a flatbuffer id and a source name. -/
abbrev SrcHash := UInt64

/-- The exceptions a reader may raise while it looks into a buffer. -/
inductive ReaderException where
  | outOfRange
  | other
deriving DecidableEq, Repr

/-- The three functions of a registered flatbuffer reader. -/
structure FlatbufferReader where
  verify : List UInt8 → Bool
  sourceName : List UInt8 → Except ReaderException String
  timestamp : List UInt8 → Except ReaderException Int

/-- What the construction of a message takes from outside of it. -/
structure MessageContext where
  /-- The reader registry, keyed by schema id. -/
  findReader : String → Option FlatbufferReader
  /-- `std::hash<std::string>`. -/
  hash : String → UInt64

/-- The exceptions thrown by the constructor of `FlatbufferMessage`. -/
inductive FlatbufferError where
  | bufferTooSmall
  | unknownFlatbufferID
  | invalidFlatbufferTimestamp
  | notValidFlatbuffer
  | stdException
deriving DecidableEq, Repr

/-- A buffer together with the facts extracted from it. -/
structure FlatbufferMessage where
  data : List UInt8 := []
  sourceNameIDHash : SrcHash := 0
  sourcename : String := ""
  id : String := ""
  timestamp : Int := 0
  valid : Bool := false
deriving DecidableEq, Repr

namespace FlatbufferMessage

/-- The bytes of a buffer as the characters of a string. -/
def stringOfBytes (bytes : List UInt8) : String :=
  String.ofList (bytes.map fun byte => Char.ofNat byte.toNat)

/-- The hash that routes a message to the filters of its source. -/
def calcSourceHash
    (context : MessageContext) (id name : String) : SrcHash :=
  context.hash (id ++ name)

/--
How an exception of a reader leaves `extractPacketInfo`: the handler around
the registry lookup also covers the reader's own functions.
-/
def readerFailure : ReaderException → FlatbufferError
  | .outOfRange => .unknownFlatbufferID
  | .other => .stdException

/-- Verify a buffer and extract its source name and timestamp. -/
def extractPacketInfo
    (context : MessageContext) (data : List UInt8) :
    Except FlatbufferError FlatbufferMessage :=
  if data.length < 8 then
    .error .bufferTooSmall
  else
    let flatbufferID := stringOfBytes ((data.drop 4).take 4)
    match context.findReader flatbufferID with
    | none => .error .unknownFlatbufferID
    | some reader =>
        if reader.verify data = false then
          .error .notValidFlatbuffer
        else
          match reader.sourceName data with
          | .error failure => .error (readerFailure failure)
          | .ok sourcename =>
              match reader.timestamp data with
              | .error failure => .error (readerFailure failure)
              | .ok timestamp =>
                  if timestamp = 0 then
                    .error .invalidFlatbufferTimestamp
                  else
                    .ok
                      { data
                        sourceNameIDHash :=
                          calcSourceHash context flatbufferID sourcename
                        sourcename
                        id := flatbufferID
                        timestamp
                        valid := true }

/-- The constructor that takes a Kafka message. -/
def ofKafkaMessage
    (context : MessageContext) (message : Msg) :
    Except FlatbufferError FlatbufferMessage :=
  extractPacketInfo context message.data

/-- What a buffer and its message satisfy when the extraction succeeds. -/
theorem extractPacketInfo_ok
    {context : MessageContext} {data : List UInt8}
    {built : FlatbufferMessage}
    (success : extractPacketInfo context data = .ok built) :
    8 ≤ data.length ∧ built.id = stringOfBytes ((data.drop 4).take 4) ∧
      built.valid = true ∧ built.timestamp ≠ 0 := by
  unfold extractPacketInfo at success
  split at success
  · cases success
  · rename_i large
    dsimp only at success
    split at success
    · cases success
    · split at success
      · cases success
      · split at success
        · cases success
        · split at success
          · cases success
          · split at success
            · cases success
            · rename_i nonzero
              cases success
              exact ⟨Nat.le_of_not_lt large, rfl, rfl, nonzero⟩

/-- A message that could be constructed is valid and has a timestamp. -/
theorem valid_of_ofKafkaMessage
    {context : MessageContext} {message : Msg}
    {built : FlatbufferMessage}
    (success : ofKafkaMessage context message = .ok built) :
    built.valid = true ∧ built.timestamp ≠ 0 :=
  (extractPacketInfo_ok success).2.2

/-- The messages that can exist: the constructed ones and the empty one. -/
inductive Constructed (context : MessageContext) :
    FlatbufferMessage → Prop where
  | empty : Constructed context {}
  | ofKafkaMessage {message : Msg} {built : FlatbufferMessage} :
      ofKafkaMessage context message = .ok built →
      Constructed context built

/-- A schema id has four characters. -/
theorem length_id_of_ofKafkaMessage
    {context : MessageContext} {message : Msg}
    {built : FlatbufferMessage}
    (success : ofKafkaMessage context message = .ok built) :
    built.id.length = 4 := by
  rcases extractPacketInfo_ok success with ⟨large, id, _, _⟩
  rw [id, stringOfBytes, String.length_ofList, List.length_map,
    List.length_take, List.length_drop]
  omega

theorem Constructed.length_id
    {context : MessageContext} {msg : FlatbufferMessage}
    (constructed : Constructed context msg) (valid : msg.valid = true) :
    msg.id.length = 4 := by
  cases constructed with
  | empty => cases valid
  | ofKafkaMessage success => exact length_id_of_ofKafkaMessage success

end FlatbufferMessage

end KafkaToNexus
