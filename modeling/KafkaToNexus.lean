import KafkaToNexus.Foundations.BlockStarts
import KafkaToNexus.Foundations.Boxes
import KafkaToNexus.Foundations.Checked
import KafkaToNexus.Foundations.Compaction
import KafkaToNexus.Foundations.Concatenation
import KafkaToNexus.Foundations.Coverings
import KafkaToNexus.Foundations.EveryNth
import KafkaToNexus.Foundations.Execution
import KafkaToNexus.Foundations.Extremes
import KafkaToNexus.Foundations.Fallible
import KafkaToNexus.Foundations.GrowingArray
import KafkaToNexus.Foundations.Marks
import KafkaToNexus.Foundations.Mealy
import KafkaToNexus.Foundations.OrderedMap
import KafkaToNexus.Foundations.Paths
import KafkaToNexus.Foundations.Periods
import KafkaToNexus.Foundations.ProducerQueue
import KafkaToNexus.Foundations.Publication
import KafkaToNexus.Foundations.Regex
import KafkaToNexus.Foundations.Rounding
import KafkaToNexus.Foundations.SignedWord
import KafkaToNexus.Foundations.Streak
import KafkaToNexus.Foundations.Throwing
import KafkaToNexus.Foundations.Windowing
import KafkaToNexus.Foundations.WorkList
import KafkaToNexus.Foundations.Writes
import KafkaToNexus.TimeUtility
import KafkaToNexus.CLIOptions
import KafkaToNexus.URI
import KafkaToNexus.URI.Scan
import KafkaToNexus.URI.FirstMatch
import KafkaToNexus.URI.Grammar
import KafkaToNexus.URI.Padding
import KafkaToNexus.URI.SetValues
import KafkaToNexus.URI.RoundTrip
import KafkaToNexus.JsonLibrary
import KafkaToNexus.JsonValue
import KafkaToNexus.FlatbufferMessage
import KafkaToNexus.AccessMessageMetadata.Extractors
import KafkaToNexus.FlatbufferReaderRegistry
import KafkaToNexus.ThreadedExecutor
import KafkaToNexus.ThreadedExecutor.Destruction
import KafkaToNexus.Metrics
import KafkaToNexus.Metrics.Lifetimes
import KafkaToNexus.Metrics.CarbonConnection
import KafkaToNexus.Metrics.CarbonDelivery
import KafkaToNexus.Stream.SourceFilter
import KafkaToNexus.Stream.SourceFilterConservation
import KafkaToNexus.Stream.PartitionFilter
import KafkaToNexus.Stream.StopDecisions
import KafkaToNexus.Stream.Partition
import KafkaToNexus.Stream.PartitionDelivery
import KafkaToNexus.Stream.StopTimeRange
import KafkaToNexus.Stream.RunningPartition
import KafkaToNexus.Stream.PollChain
import KafkaToNexus.Stream.ChangingStopTimes
import KafkaToNexus.AccessMessageMetadata.SafeIngestion
import KafkaToNexus.Stream.Topic
import KafkaToNexus.Stream.TopicSetUp
import KafkaToNexus.Stream.SetUpFailures
import KafkaToNexus.Stream.MessageWriter
import KafkaToNexus.Stream.WriteJobs
import KafkaToNexus.Stream.ModuleErrorMetrics
import KafkaToNexus.Stream.ExecutedJobs
import KafkaToNexus.Stream.WriterRefinement
import KafkaToNexus.Stream.FlushSchedule
import KafkaToNexus.StreamController
import KafkaToNexus.StreamController.FinishedStreams
import KafkaToNexus.StopTimePropagation.PartitionStops
import KafkaToNexus.StopTimePropagation.TopicStops
import KafkaToNexus.StopTimePropagation.ControllerStops
import KafkaToNexus.StopTimePropagation.Runs
import KafkaToNexus.Stopping.TopicStop
import KafkaToNexus.Stopping.ControllerStop
import KafkaToNexus.Shutdown.QuietJob
import KafkaToNexus.Shutdown.WriterDrain
import KafkaToNexus.NeXusDataset.ExtensibleDataset
import KafkaToNexus.NeXusDataset.Appending
import KafkaToNexus.NeXusDataset.MultiDimAppend
import KafkaToNexus.NeXusDataset.ChunkLayout
import KafkaToNexus.MultiVector
import KafkaToNexus.MultiVector.Indexing
import KafkaToNexus.HDFOperations.NestedArrays
import KafkaToNexus.HDFOperations.ArrayDimensions
import KafkaToNexus.HDFOperations.JsonArrays
import KafkaToNexus.HDFOperations.PaddedArrays
import KafkaToNexus.JsonConfig.Field
import KafkaToNexus.JsonConfig.FieldHandler
import KafkaToNexus.JsonConfig.ConfigFields
import KafkaToNexus.HDFOperations.HDFNode
import KafkaToNexus.HDFOperations.Structures
import KafkaToNexus.HDFOperations.StreamAttribution
import KafkaToNexus.HDFOperations.Links
import KafkaToNexus.HDFOperations.LinkTargets
import KafkaToNexus.WriterModule.Hs00.HistogramRecord
import KafkaToNexus.WriterModule.Hs00.WriterTyped
import KafkaToNexus.WriterModule.Hs00.RowAllocation
import KafkaToNexus.WriterModule.Hs00.SliceCounts
import KafkaToNexus.WriterModule.Hs00.CallEffect
import KafkaToNexus.WriterModule.Hs00.CommittedSlices
import KafkaToNexus.WriterModule.Hs00.Coverage
import KafkaToNexus.WriterModule.Hs00.TimestampsTable
import KafkaToNexus.WriterModule.Hs00.Layout
import KafkaToNexus.WriterModule.Hs00.Hs00Writer
import KafkaToNexus.WriterModule.LogWriter
import KafkaToNexus.WriterModule.LogModules
import KafkaToNexus.WriterModule.LogAlignment
import KafkaToNexus.WriterModule.LogCues
import KafkaToNexus.WriterModule.LogMetaData
import KafkaToNexus.WriterModule.Ev42Writer
import KafkaToNexus.WriterModule.EventIndex
import KafkaToNexus.WriterModule.SampleWriters
import KafkaToNexus.WriterModule.SampleCues
import KafkaToNexus.WriterModule.Ev44Writer
import KafkaToNexus.WriterModule.PulseIndex
import KafkaToNexus.WriterModule.EventCues
import KafkaToNexus.WriterModule.AdcAlignment
import KafkaToNexus.WriterModule.AreaDetector
import KafkaToNexus.WriterModule.FrameAlignment
import KafkaToNexus.WriterModule.FrameReads
import KafkaToNexus.WriterModule.Ns10Writer
import KafkaToNexus.WriterModule.Ns10Cues
import KafkaToNexus.JobCreator.StreamSettings
import KafkaToNexus.JobCreator.ExtraModules
import KafkaToNexus.RoutingKeys
import KafkaToNexus.Command.Commands
import KafkaToNexus.Command.Handler
import KafkaToNexus.Command.RejectedStart
import KafkaToNexus.Command.StopAnswers
import KafkaToNexus.Command.CommandTimes
import KafkaToNexus.Command.Dispatch
import KafkaToNexus.Command.SafeDispatch
import KafkaToNexus.Status
import KafkaToNexus.Master
import KafkaToNexus.Service
import KafkaToNexus.ErrorReporting
import KafkaToNexus.JobLifeCycle
import KafkaToNexus.CommandTopic
import KafkaToNexus.MainLoop
import KafkaToNexus.WindingUp
import KafkaToNexus.Stream.PartitionInterleavings
import KafkaToNexus.Foundations.Populations
import KafkaToNexus.JobDelivery.TopicRecords
import KafkaToNexus.JobDelivery.JobRecords
import KafkaToNexus.JobDelivery.TopicSources
import KafkaToNexus.JobDelivery.WrittenWindows
import KafkaToNexus.Stream.LogCoverage
import KafkaToNexus.JobDelivery.PendingMessages
import KafkaToNexus.JobDelivery.Backpressure
import KafkaToNexus.Foundations.Ownership
import KafkaToNexus.Kafka.Producer
import KafkaToNexus.Kafka.ProducerOwnership
import KafkaToNexus.Kafka.ProducerStatistics
import KafkaToNexus.JobDelivery.FileContents
import KafkaToNexus.RunLoop
import KafkaToNexus.RunLoop.SignalHandling
import KafkaToNexus.RunLoop.GracefulShutdown
import KafkaToNexus.RunLoop.Calls
