import KafkaToNexus.FlatbufferMessage

/-!
# The sources of a job

A source is what one writer module is to write: the messages with its
flatbuffer id and its name.  Two hashes are computed for it, one with the
flatbuffer id and one with the name of the writer module.
-/

namespace KafkaToNexus.FileWriter

open FlatbufferMessage

structure Source (Writer : Type) where
  sourceName : String
  schemaID : String
  writerModuleID : String
  topicName : String
  srcHash : SrcHash
  moduleHash : SrcHash
  writerModule : Writer
deriving DecidableEq, Repr

/-- The constructor. -/
def Source.create {Writer : Type}
    (context : MessageContext) (name flatbufferID moduleID topic : String)
    (writer : Writer) : Source Writer where
  sourceName := name
  schemaID := flatbufferID
  writerModuleID := moduleID
  topicName := topic
  srcHash := calcSourceHash context flatbufferID name
  moduleHash := calcSourceHash context moduleID name
  writerModule := writer

end KafkaToNexus.FileWriter
