import KafkaToNexus.JobDelivery.WrittenWindows
import KafkaToNexus.WriterModule.LogAlignment

/-!
# What a job leaves in the file

The writer thread calls `write` of a module for each message that it executes,
and goes on with the next one when the call throws.  The datasets of a module
are therefore those of a run of the module over its messages.  For the writers
of logs they hold the windows that the partitions polled: each message once,
its time next to its value.
-/

namespace KafkaToNexus.JobDelivery

open KafkaToNexus
open KafkaToNexus.Foundations
open KafkaToNexus.Shutdown
open KafkaToNexus.Stream
open KafkaToNexus.Stream.PartitionDelivery
open KafkaToNexus.WriterModule

/-- A module after the calls of `write` with the messages of a destination. -/
def moduleAfter
    {Dest Input Module Failure : Type*} [DecidableEq Dest]
    (write : Input → Throwing Module Failure) (opened : Module)
    (decode : FlatbufferMessage → Input) (destination : Dest)
    (controller : StreamController Dest) : Module :=
  (Mealy.run (Throwing.call write) opened
    ((messagesFor destination controller.writerThread.executed).map
      decode)).1

section Logs

variable {Element Stored Double : Type*} [Inhabited Stored]
  {conversions : Conversions Element Stored Double} {config : LogConfig}

/-- The datasets hold the given messages, in some order, each of them once. -/
structure HoldsOnce
    (conversions : Conversions Element Stored Double) (config : LogConfig)
    (messages : List (LogData Element)) (writer : LogWriter Stored Double) :
    Prop where
  times : writer.timestamp.elements.Perm (messages.map (·.timestamp))
  /-- The rows are theirs if the vectors of arrays follow their tables. -/
  rows :
    (∀ message ∈ messages, message.FollowsTable) →
      writer.values.rows.Perm
        ((messages.filter LogData.addsRow).map
          (LogData.row conversions config))
  /-- If all of them add rows, times and values stand side by side. -/
  pairs :
    (∀ message ∈ messages, message.AddsItsRow conversions config) →
      (writer.timestamp.elements.zip writer.values.rows).Perm
        (messages.map fun message =>
          (message.timestamp, message.row conversions config))

theorem holdsOnce_of_tracks
    {written messages : List (LogData Element)}
    {writer : LogWriter Stored Double}
    (tracks : LogWriter.Tracks conversions config written writer)
    (same : written.Perm messages) :
    HoldsOnce conversions config messages writer where
  times := by
    rw [tracks.times]
    exact same.map _
  rows := by
    intro follow
    have own :
        (written.filter LogData.addsRow).map
            (LogData.rowFound conversions config) =
          (written.filter LogData.addsRow).map
            (LogData.row conversions config) :=
      List.map_congr_left fun message member =>
        (follow message
          (same.mem_iff.mp (List.mem_of_mem_filter member))).rowFound
    rw [tracks.rows, own]
    exact (same.filter _).map _
  pairs := by
    intro all
    have kept : written.filter LogData.addsRow = written :=
      List.filter_eq_self.mpr fun message member =>
        (all message (same.mem_iff.mp member)).1
    have own :
        written.map (LogData.rowFound conversions config) =
          written.map (LogData.row conversions config) :=
      List.map_congr_left fun message member =>
        (all message (same.mem_iff.mp member)).2
    rw [tracks.times, tracks.rows, kept, own, List.zip_map']
    exact same.map _

end Logs

section Jobs

variable {Dest : Type*} [DecidableEq Dest]

/-- The messages that a module gets are the windows of its source. -/
theorem exists_records_of_drained
    (context : MessageContext) (sources : List (Source Dest))
    (settings : StreamerOptions)
    (distinct : (sources.map (·.key.destination)).Nodup)
    {trace : List (StreamLabel Dest)} {controller : StreamController Dest}
    (run :
      Execution (DrainsQuietly context)
        (StreamController.create sources settings) trace controller)
    (gone : controller.main = .gone) :
    ∃ records : List (PartitionRecord Dest),
      RecordedRun context sources settings trace controller records ∧
        (∀ record ∈ records, record.Complete context sources settings) ∧
        ∀ source ∈ sources, Consistent (keysOf sources source.topic) →
          (messagesFor source.key.destination
              controller.writerThread.executed).Perm
            (windowsOf context settings source records) := by
  have steps := run.mono fun _ _ _ taken => taken.1
  rcases exists_records steps gone with ⟨records, recorded, complete⟩
  refine ⟨records, recorded, complete, ?_⟩
  intro source member consistent
  have kept := keepsMessages_of_drained run (by rw [gone]; rfl)
  exact (messagesFor_perm _ kept).trans
    (handedOver_perm_windowsOf recorded complete member distinct consistent)

/--
Let the sources of a job have writer modules of their own, and let the job run
to its end and drain quietly.  The run can be recorded with the histories of
all its partitions, such that the datasets of a module f142 or f144 hold the
windows of its source in the partitions of its topic, if the sources of the
topic that share a writer hash agree: every message of them once, and no other,
with its time and its value in the same place if all messages have values that
the module finds.
-/
theorem logs_hold_windows
    (context : MessageContext) (sources : List (Source Dest))
    (settings : StreamerOptions)
    (distinct : (sources.map (·.key.destination)).Nodup)
    {trace : List (StreamLabel Dest)} {controller : StreamController Dest}
    (run :
      Execution (DrainsQuietly context)
        (StreamController.create sources settings) trace controller)
    (gone : controller.main = .gone)
    {Element Stored Double : Type*} [Inhabited Stored] [Zero Double]
    [Add Double] [Div Double] [Min Double] [Max Double] [NatCast Double]
    (conversions : Conversions Element Stored Double) (config : LogConfig)
    (f142Of : FlatbufferMessage → F142.LogData Element)
    (f144Of : FlatbufferMessage → LogData Element) :
    ∃ records : List (PartitionRecord Dest),
      RecordedRun context sources settings trace controller records ∧
        (∀ record ∈ records, record.Complete context sources settings) ∧
        ∀ source ∈ sources, Consistent (keysOf sources source.topic) →
          let windows := windowsOf context settings source records
          HoldsOnce conversions config
              (windows.map fun message => (f142Of message).toLogData)
              (moduleAfter (F142.write conversions config)
                (F142.opened config : F142.Writer Stored Double) f142Of
                source.key.destination controller).toLogWriter ∧
            HoldsOnce conversions config (windows.map f144Of)
              (moduleAfter (F144.write conversions config)
                (F144.opened config : LogWriter Stored Double) f144Of
                source.key.destination controller) := by
  rcases exists_records_of_drained context sources settings distinct run gone
    with ⟨records, recorded, complete, executed⟩
  refine ⟨records, recorded, complete, ?_⟩
  intro source member consistent windows
  have same := executed source member consistent
  constructor
  · refine holdsOnce_of_tracks (F142.tracks_run conversions config _) ?_
    rw [List.map_map]
    exact same.map _
  · exact holdsOnce_of_tracks (F144.tracks_run conversions config _)
      (same.map _)

open StreamController

omit [DecidableEq Dest] in
/-- A job with one message, in either module. -/
theorem logs_hold_windows_sample :
    ∃ trace controller records,
      Execution (DrainsQuietly sampleContext)
          (create [sampleSource sampleEntry] (sampleOptions 0)) trace
          controller ∧
        controller.writerThread.executed = [⟨sampleMessage, 0⟩] ∧
        RecordedRun sampleContext [sampleSource sampleEntry]
          (sampleOptions 0) trace controller records ∧
        HoldsOnce plainConversions {}
          ((windowsOf sampleContext (sampleOptions 0)
              (sampleSource sampleEntry) records).map fun _ =>
            ⟨5, .scalar .int32 3⟩)
          (moduleAfter (F144.write plainConversions {})
            (F144.opened {} : LogWriter Nat Nat)
            (fun _ => ⟨5, .scalar .int32 3⟩) 0 controller) := by
  rcases sampleJob_gone with ⟨trace, controller, run, gone, executed⟩
  rcases logs_hold_windows sampleContext [sampleSource sampleEntry]
      (sampleOptions 0) (by decide) run gone plainConversions {}
      (fun _ => ⟨⟨5, .scalar .int32 3⟩, .noAlarm, .noAlarm⟩)
      (fun _ => ⟨5, .scalar .int32 3⟩)
    with ⟨records, recorded, _, held⟩
  exact ⟨trace, controller, records, run, executed, recorded,
    (held _ (List.mem_singleton_self _) (by decide)).2⟩

end Jobs

end KafkaToNexus.JobDelivery
