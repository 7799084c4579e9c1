import KafkaToNexus.Foundations.Mealy
import KafkaToNexus.WriterModule.LogModules
import Mathlib.Algebra.GroupWithZero.Nat

/-!
# Times and values of logs

Each message adds a time.  It adds a row of values only if its value is a
scalar or an array for which elements are found behind the table of the value,
so that an empty array, or a type that is not handled, shifts all later rows
against their times.
-/

namespace KafkaToNexus.WriterModule

open KafkaToNexus.Foundations KafkaToNexus.NeXusDataset

variable {Element Stored Double : Type*}

/-- The message has a value that is written. -/
def LogData.addsRow (message : LogData Element) : Bool :=
  match message.value with
  | .scalar _ _ => true
  | .array _ _ behind => behind.length ≠ 0
  | .other _ => false

/-- The vector of an array lies behind the table of the value. -/
def LogData.FollowsTable (message : LogData Element) : Prop :=
  match message.value with
  | .array _ values behind => behind = values
  | _ => True

variable [Inhabited Stored] (conversions : Conversions Element Stored Double)
  (config : LogConfig)

/-- The row that some elements of one type are stored as. -/
def storedRow (type : ElementType) (values : List Element) :
    List Nat → Stored :=
  MultiDimDataset.rowOf
    (values.map (conversions.convert type config.elementType))
    [values.length]

/-- The row that holds the value of a message. -/
def LogData.row (message : LogData Element) : List Nat → Stored :=
  match message.value with
  | .scalar type value => storedRow conversions config type [value]
  | .array type values _ => storedRow conversions config type values
  | .other _ => fun _ => default

/-- The row that the writers take from a message. -/
def LogData.rowFound (message : LogData Element) : List Nat → Stored :=
  match message.value with
  | .scalar type value => storedRow conversions config type [value]
  | .array type _ behind => storedRow conversions config type behind
  | .other _ => fun _ => default

/-- The message has a value, and the writers take its own row from it. -/
def LogData.AddsItsRow (message : LogData Element) : Prop :=
  message.addsRow = true ∧
    message.rowFound conversions config = message.row conversions config

variable {conversions config} in
/-- Where the vector lies behind the table, its elements are found. -/
theorem LogData.FollowsTable.rowFound
    {message : LogData Element} (follows : message.FollowsTable) :
    message.rowFound conversions config = message.row conversions config := by
  rcases message with ⟨timestamp, value⟩
  cases value with
  | scalar type value => rfl
  | array type values behind =>
      cases (follows : behind = values)
      rfl
  | other valueType => rfl

namespace LogWriter

/--
The times and the rows are those of the same messages: some of the messages
that have come, in their order.
-/
def Aligned (messages : List (LogData Element))
    (writer : LogWriter Stored Double) : Prop :=
  ∃ written : List (LogData Element), written.Sublist messages ∧
    writer.timestamp.elements = written.map (·.timestamp) ∧
    writer.values.rows = written.map (LogData.row conversions config)

/-- All messages have added times, and those with values have added rows. -/
structure Tracks (messages : List (LogData Element))
    (writer : LogWriter Stored Double) : Prop where
  atEnd : writer.timestamp.AtEnd
  rank : writer.values.dims.length = 1
  times : writer.timestamp.elements = messages.map (·.timestamp)
  rows :
    writer.values.rows =
      (messages.filter LogData.addsRow).map
        (LogData.rowFound conversions config)

variable {conversions config} {messages : List (LogData Element)}
  {message : LogData Element} {writer : LogWriter Stored Double}

/-- Only with rows for all times can both be those of the same messages. -/
theorem Tracks.aligned_iff
    (tracks : Tracks conversions config messages writer) :
    Aligned conversions config messages writer ↔
      ∀ message ∈ messages, message.AddsItsRow conversions config := by
  constructor
  · rintro ⟨written, sublist, times, rows⟩
    have timesLength := congrArg List.length (tracks.times.symm.trans times)
    have rowsLength := congrArg List.length (tracks.rows.symm.trans rows)
    simp only [List.length_map] at timesLength rowsLength
    have whole : written = messages := sublist.eq_of_length timesLength.symm
    rw [whole] at rows rowsLength
    have all := List.length_filter_eq_length_iff.mp rowsLength
    rw [tracks.rows, List.filter_eq_self.mpr all] at rows
    intro message member
    exact ⟨all message member, List.map_inj_left.mp rows message member⟩
  · intro all
    refine ⟨messages, List.Sublist.refl messages, tracks.times, ?_⟩
    rw [tracks.rows,
      List.filter_eq_self.mpr fun message member => (all message member).1]
    exact List.map_congr_left fun message member => (all message member).2

/-! ## What a call adds -/

/-- A row of one dimension can always be appended. -/
theorem appendRow_returns
    (conversions : Conversions Element Stored Double) (config : LogConfig)
    (rank : writer.values.dims.length = 1)
    (type : ElementType) (values : List Element) :
    ∃ dims, dims.length = 1 ∧
      appendRow conversions config type values writer =
        ({ writer with
           values :=
             { dims
               rows :=
                 writer.values.rows ++
                   [MultiDimDataset.rowOf
                     (values.map
                       (conversions.convert type config.elementType))
                     [values.length]] } }, none) := by
  have oneDimension : [values.length].length = writer.values.dims.length :=
    rank.symm
  refine ⟨List.zipWith Max.max writer.values.dims [values.length], ?_, ?_⟩
  · rw [List.length_zipWith, rank]
    rfl
  · rw [appendRow, MultiDimDataset.appendArray_of_rank oneDimension]

/-- A message adds its row, if it has one, and nothing else. -/
theorem appendValue_effect
    (rank : writer.values.dims.length = 1) (unknownType : String) :
    let next := (appendValue conversions config message unknownType writer).1
    next.timestamp = writer.timestamp ∧
      next.values.dims.length = 1 ∧
      next.values.rows =
        writer.values.rows ++
          ([message].filter LogData.addsRow).map
            (LogData.rowFound conversions config) := by
  rcases message with ⟨timestamp, value⟩
  cases value with
  | scalar type value =>
      rcases appendRow_returns conversions config rank type [value] with
        ⟨dims, one, appended⟩
      intro next
      have same : next = _ := congrArg Prod.fst appended
      rw [same]
      exact ⟨rfl, one, rfl⟩
  | array type values behind =>
      intro next
      cases behind with
      | nil =>
          refine ⟨rfl, rank, ?_⟩
          exact (List.append_nil _).symm
      | cons first rest =>
          rcases appendRow_returns conversions config rank type
              (first :: rest) with ⟨dims, one, appended⟩
          have same : next = _ := congrArg Prod.fst appended
          rw [same]
          exact ⟨rfl, one, rfl⟩
  | other valueType =>
      intro next
      refine ⟨rfl, rank, ?_⟩
      exact (List.append_nil _).symm

variable [Zero Double] [Add Double] [Div Double] [Min Double] [Max Double]
  [NatCast Double]

variable (conversions config message) in
/-- The cues and the metadata are apart from the times and values. -/
theorem write_effect
    (rank : writer.values.dims.length = 1) (unknownType : String) :
    let next := (write conversions config message unknownType writer).1
    next.timestamp = writer.timestamp.appendElement message.timestamp ∧
      next.values.dims.length = 1 ∧
      next.values.rows =
        writer.values.rows ++
          ([message].filter LogData.addsRow).map
            (LogData.rowFound conversions config) := by
  intro next
  let timed : LogWriter Stored Double :=
    { writer with
      timestamp := writer.timestamp.appendElement message.timestamp }
  have returned : appendTimestamp message writer = (timed, none) := rfl
  have unfolded :
      next =
        (Throwing.inOrder
          [appendValue conversions config message unknownType,
            appendCue config message,
            updateMetaData conversions config message] timed).1 := by
    show (Throwing.inOrder _ writer).1 = _
    rw [Throwing.inOrder_of_returned returned]
  rw [unfolded]
  apply Throwing.inOrder_cons_keeps fun next : LogWriter Stored Double =>
    next.timestamp = writer.timestamp.appendElement message.timestamp ∧
      next.values.dims.length = 1 ∧
      next.values.rows =
        writer.values.rows ++
          ([message].filter LogData.addsRow).map
            (LogData.rowFound conversions config)
  · intro piece member state holds
    rcases List.mem_pair.mp member with rfl | rfl
    · unfold appendCue
      dsimp only
      split
      · exact holds
      · split <;> exact holds
    · unfold updateMetaData
      split <;> exact holds
  · have timedRank : timed.values.dims.length = 1 := rank
    exact appendValue_effect timedRank unknownType

omit [Add Double] [Div Double] [Min Double] [Max Double]
  [NatCast Double] in
theorem tracks_opened :
    Tracks conversions config []
      (opened config : LogWriter Stored Double) :=
  ⟨ExtensibleDataset.atEnd_create, rfl, rfl, rfl⟩

theorem Tracks.write
    (tracks : Tracks conversions config messages writer)
    (message : LogData Element) (unknownType : String) :
    Tracks conversions config (messages ++ [message])
      (LogWriter.write conversions config message unknownType writer).1 := by
  rcases write_effect conversions config message tracks.rank unknownType with
    ⟨timestamp, rank, rows⟩
  constructor
  · rw [timestamp]
    exact tracks.atEnd.appendElement message.timestamp
  · exact rank
  · rw [timestamp, ExtensibleDataset.elements_appendElement tracks.atEnd,
      tracks.times, List.map_append]
    rfl
  · rw [rows, tracks.rows, List.filter_append, List.map_append]

end LogWriter

/-! ## Runs -/

variable [Zero Double] [Add Double] [Div Double] [Min Double] [Max Double]
  [NatCast Double]

namespace F142

/-- f142 does to the log what the common writer does. -/
theorem toLogWriter_write
    (message : LogData Element) (writer : Writer Stored Double) :
    (write conversions config message writer).1.toLogWriter =
      (LogWriter.write conversions config message.toLogData
        "Unknown data type in f142 flatbuffer." writer.toLogWriter).1 := by
  unfold write
  split
  · rename_i log failure ran
    rw [ran]
  · rename_i log ran
    rw [ran]
    unfold appendAlarm
    split <;> rfl

theorem failure_write
    (message : LogData Element) (writer : Writer Stored Double) :
    (write conversions config message writer).2 =
      (LogWriter.write conversions config message.toLogData
        "Unknown data type in f142 flatbuffer." writer.toLogWriter).2 := by
  unfold write
  split
  · rename_i log failure ran
    rw [ran]
  · rename_i log ran
    rw [ran]

/-- A run of f142 is one of the common writer, with the same exceptions. -/
theorem run_toLogWriter (messages : List (LogData Element)) :
    let run :=
      Mealy.run (Throwing.call (write conversions config))
        (opened config : Writer Stored Double) messages
    (run.1.toLogWriter, run.2) =
      Mealy.run
        (Throwing.call fun message =>
          LogWriter.write conversions config message
            "Unknown data type in f142 flatbuffer.")
        (LogWriter.opened config) (messages.map (·.toLogData)) := by
  apply Mealy.run_project Writer.toLogWriter LogData.toLogData
  intro writer message
  rw [Throwing.call, Throwing.call, toLogWriter_write, failure_write]

end F142

theorem LogWriter.tracks_run
    (unknownType : String) (messages : List (LogData Element)) :
    LogWriter.Tracks conversions config messages
      (Mealy.run
        (Throwing.call fun message =>
          LogWriter.write conversions config message unknownType)
        (LogWriter.opened config : LogWriter Stored Double) messages).1 := by
  apply Mealy.run_induction
    fun messages _ (writer : LogWriter Stored Double) =>
      LogWriter.Tracks conversions config messages writer
  · exact LogWriter.tracks_opened
  · intro messages _ writer message tracks
    exact tracks.write message unknownType

namespace F142

theorem tracks_run (messages : List (LogData Element)) :
    LogWriter.Tracks conversions config (messages.map (·.toLogData))
      (Mealy.run (Throwing.call (write conversions config))
        (opened config : Writer Stored Double) messages).1.toLogWriter := by
  have tracks :=
    @LogWriter.tracks_run _ Stored Double _ conversions config _ _ _ _ _ _
      "Unknown data type in f142 flatbuffer." (messages.map (·.toLogData))
  rw [← congrArg Prod.fst (run_toLogWriter conversions config messages)]
    at tracks
  exact tracks

end F142

namespace F144

theorem tracks_run (messages : List (LogData Element)) :
    LogWriter.Tracks conversions config messages
      (Mealy.run (Throwing.call (write conversions config))
        (opened config : LogWriter Stored Double) messages).1 :=
  LogWriter.tracks_run conversions config _ messages

end F144

/--
In both modules times and values are aligned after every call of a run exactly
when all messages have scalars or arrays for which, behind the table of the
value, elements are found that are stored as the row of the array.
-/
theorem values_aligned_iff
    (logs : List (F142.LogData Element)) (others : List (LogData Element)) :
    ((∀ taken, taken <+: logs →
        LogWriter.Aligned conversions config (taken.map (·.toLogData))
          (Mealy.run (Throwing.call (F142.write conversions config))
            (F142.opened config : F142.Writer Stored Double)
            taken).1.toLogWriter) ↔
      ∀ message ∈ logs, message.toLogData.AddsItsRow conversions config) ∧
    ((∀ taken, taken <+: others →
        LogWriter.Aligned conversions config taken
          (Mealy.run (Throwing.call (F144.write conversions config))
            (F144.opened config : LogWriter Stored Double) taken).1) ↔
      ∀ message ∈ others, message.AddsItsRow conversions config) := by
  constructor
  · constructor
    · intro throughout message member
      have aligned := throughout logs (List.prefix_refl logs)
      rw [(F142.tracks_run conversions config logs).aligned_iff] at aligned
      exact aligned _ (List.mem_map_of_mem member)
    · intro all taken first
      rw [(F142.tracks_run conversions config taken).aligned_iff]
      intro message member
      rcases List.mem_map.mp member with ⟨log, present, rfl⟩
      exact all log (first.subset present)
  · constructor
    · intro throughout
      have aligned := throughout others (List.prefix_refl others)
      rw [(F144.tracks_run conversions config others).aligned_iff] at aligned
      exact aligned
    · intro all taken first
      rw [(F144.tracks_run conversions config taken).aligned_iff]
      exact fun message member => all message (first.subset member)

/-- Natural numbers that are stored as they are. -/
def plainConversions : Conversions Nat Nat Nat :=
  { convert := fun _ _ value => value, double := id }

/-- Of a vector that lies elsewhere another row is stored. -/
example :
    ¬LogData.AddsItsRow plainConversions {} ⟨5, .array .int32 [1] [2]⟩ := by
  rintro ⟨_, same⟩
  exact absurd (congrFun same [0]) (by decide)

/-- An empty array leaves a time without a row, in either module. -/
theorem empty_array_adds_no_row :
    ¬LogWriter.Aligned plainConversions {} [⟨5, .inPlace .int32 []⟩]
        (Mealy.run (Throwing.call (F142.write plainConversions {}))
          (F142.opened {}) [{ timestamp := 5, value := .inPlace .int32 [] }]
          ).1.toLogWriter ∧
      ¬LogWriter.Aligned plainConversions {} [⟨5, .inPlace .int32 []⟩]
        (Mealy.run (Throwing.call (F144.write plainConversions {}))
          (F144.opened {}) [⟨5, .inPlace .int32 []⟩]).1 := by
  constructor
  · rintro ⟨written, _, times, rows⟩
    have count :=
      (congrArg List.length times).trans
        ((List.length_map _).trans
          ((List.length_map _).symm.trans (congrArg List.length rows).symm))
    exact absurd count (by decide)
  · rintro ⟨written, _, times, rows⟩
    have count :=
      (congrArg List.length times).trans
        ((List.length_map _).trans
          ((List.length_map _).symm.trans (congrArg List.length rows).symm))
    exact absurd count (by decide)

end KafkaToNexus.WriterModule
