import KafkaToNexus.Foundations.EveryNth
import KafkaToNexus.WriterModule.LogAlignment

/-!
# The cues of logs

After every so many writes there is an entry in the cues: the index of the
value and its timestamp.  The index counts the messages that were written,
while each message adds a time, whether or not it is written.  The interval is
a setting that is only used as a divisor, and the index is stored in 32 bits.
-/

namespace KafkaToNexus.WriterModule

open KafkaToNexus.Foundations KafkaToNexus.NeXusDataset

variable {Element Stored Double : Type*}

/-- The type of the value is one that is written. -/
def LogData.isHandled (message : LogData Element) : Bool :=
  match message.value with
  | .scalar _ _ => true
  | .array _ _ _ => true
  | .other _ => false

namespace LogWriter

/--
The cues after some calls: no call has divided by zero; there is a cue for each
full interval of written messages; and its timestamp is the time it points to.
-/
structure CueIndexed (interval : UInt32)
    (outcomes : List (Option WriteFailure))
    (writer : LogWriter Stored Double) : Prop where
  divides : ∀ outcome ∈ outcomes, outcome ≠ some .divisionByZero
  lengths :
    writer.cueIndex.elements.length = writer.cueTimestampZero.elements.length
  positions :
    ∀ cue, (cue + 1) * interval.toNat ≤ outcomes.countP Option.isNone →
      ∃ index, writer.cueIndex.elements[cue]? = some index ∧
        index.toNat + 1 = (cue + 1) * interval.toNat
  times :
    ∀ (cue : Nat) (index : UInt32),
      writer.cueIndex.elements[cue]? = some index →
      writer.cueTimestampZero.elements[cue]? =
        writer.timestamp.elements[index.toNat]?

/--
The interval is not zero, the last cue is a number of 32 bits, and each cue is
at messages with the same timestamp among all and among the written ones.
-/
structure CuesInStep (interval : UInt32) (messages : List (LogData Element)) :
    Prop where
  positive : interval ≠ 0
  fits :
    ∀ cue,
      (cue + 1) * interval.toNat ≤
        (messages.filter LogData.isHandled).length →
      (cue + 1) * interval.toNat ≤ 2 ^ 32
  sameTimes :
    ∀ cue,
      (cue + 1) * interval.toNat ≤
        (messages.filter LogData.isHandled).length →
      ((messages.filter LogData.isHandled).map
          (·.timestamp))[(cue + 1) * interval.toNat - 1]? =
        (messages.map (·.timestamp))[(cue + 1) * interval.toNat - 1]?

/-! ## The counting of writes -/

/-- The cues of a writer, with what they are computed from. -/
structure Cues where
  cueIndex : ExtensibleDataset UInt32 := {}
  cueTimestampZero : ExtensibleDataset UInt64 := {}
  lastIndexAtWrite : UInt64 := 0
  nrOfWrites : UInt64 := 0

def cues (writer : LogWriter Stored Double) : Cues where
  cueIndex := writer.cueIndex
  cueTimestampZero := writer.cueTimestampZero
  lastIndexAtWrite := writer.lastIndexAtWrite
  nrOfWrites := writer.nrOfWrites

namespace Cues

/-- One more message was written. -/
def count (interval : UInt32) (timestamp : UInt64) (cues : Cues) : Cues :=
  let writes := cues.nrOfWrites + 1
  if 0 < (writes - cues.lastIndexAtWrite) / interval.toUInt64 then
    { cueIndex := cues.cueIndex.appendElement (clipToUInt32 (writes - 1))
      cueTimestampZero := cues.cueTimestampZero.appendElement timestamp
      lastIndexAtWrite := writes
      nrOfWrites := writes }
  else
    { cues with nrOfWrites := writes }

/-- The cues are those of written messages with the given timestamps. -/
structure Tracks (interval : UInt32) (times : List UInt64) (cues : Cues) :
    Prop where
  indexAtEnd : cues.cueIndex.AtEnd
  timestampAtEnd : cues.cueTimestampZero.AtEnd
  nrOfWrites : cues.nrOfWrites.toNat = times.length
  lastIndexAtWrite :
    cues.lastIndexAtWrite.toNat =
      times.length / interval.toNat * interval.toNat
  cueIndex :
    cues.cueIndex.elements =
      (everyNth interval.toNat times).map
        fun entry => clipToUInt32 (.ofNat entry.2)
  cueTimestampZero :
    cues.cueTimestampZero.elements =
      (everyNth interval.toNat times).map Prod.fst

variable {interval : UInt32} {times : List UInt64} {cues : Cues}

theorem tracks_empty : Tracks interval [] {} := by
  constructor
  · rfl
  · rfl
  · rfl
  · show 0 = 0 / interval.toNat * interval.toNat
    rw [Nat.zero_div, Nat.zero_mul]
  · rfl
  · rfl

theorem toNat_succ_of_lt {value : UInt64} (few : value.toNat + 1 < 2 ^ 64) :
    (value + 1).toNat = value.toNat + 1 := by
  rw [UInt64.toNat_add]
  exact Nat.mod_eq_of_lt few

/-- There is a cue exactly when the writes make a full interval. -/
theorem Tracks.cue_iff
    (tracks : Tracks interval times cues)
    (positive : 0 < interval.toNat) (few : times.length + 1 < 2 ^ 64) :
    0 < (cues.nrOfWrites + 1 - cues.lastIndexAtWrite) / interval.toUInt64 ↔
      interval.toNat ∣ times.length + 1 := by
  have writes : (cues.nrOfWrites + 1).toNat = times.length + 1 := by
    rw [toNat_succ_of_lt (by rw [tracks.nrOfWrites]; exact few),
      tracks.nrOfWrites]
  have earlier :
      cues.lastIndexAtWrite ≤ cues.nrOfWrites + 1 := by
    rw [UInt64.le_iff_toNat_le, writes, tracks.lastIndexAtWrite]
    exact Nat.le_succ_of_le (Nat.div_mul_le_self _ _)
  rw [← dvd_succ_iff positive, UInt64.lt_iff_toNat_lt, UInt64.toNat_div,
    UInt64.toNat_sub_of_le _ _ earlier, writes, tracks.lastIndexAtWrite,
    UInt32.toNat_toUInt64]
  rfl

theorem Tracks.count
    (tracks : Tracks interval times cues)
    (positive : 0 < interval.toNat) (few : times.length + 1 < 2 ^ 64)
    (timestamp : UInt64) :
    Tracks interval (times ++ [timestamp])
      (cues.count interval timestamp) := by
  have length : (times ++ [timestamp]).length = times.length + 1 :=
    List.length_append
  have writes : (cues.nrOfWrites + 1).toNat = times.length + 1 := by
    rw [toNat_succ_of_lt (by rw [tracks.nrOfWrites]; exact few),
      tracks.nrOfWrites]
  have place : cues.nrOfWrites + 1 - 1 = .ofNat times.length := by
    rw [UInt64.add_sub_cancel, ← tracks.nrOfWrites, UInt64.ofNat_toNat]
  have quotient := @Nat.succ_div times.length interval.toNat
  unfold Cues.count
  dsimp only
  split
  · rename_i cue
    have divides := (tracks.cue_iff positive few).mp cue
    rw [if_pos divides] at quotient
    constructor
    · exact tracks.indexAtEnd.appendElement _
    · exact tracks.timestampAtEnd.appendElement _
    · exact writes.trans length.symm
    · rw [length, Nat.div_mul_cancel divides]
      exact writes
    · rw [ExtensibleDataset.elements_appendElement tracks.indexAtEnd,
        tracks.cueIndex, everyNth_concat, if_pos divides, List.map_append,
        place]
      rfl
    · rw [ExtensibleDataset.elements_appendElement tracks.timestampAtEnd,
        tracks.cueTimestampZero, everyNth_concat, if_pos divides,
        List.map_append]
      rfl
  · rename_i noCue
    have divides : ¬interval.toNat ∣ times.length + 1 :=
      fun divides => noCue ((tracks.cue_iff positive few).mpr divides)
    rw [if_neg divides] at quotient
    have same :
        everyNth interval.toNat (times ++ [timestamp]) =
          everyNth interval.toNat times := by
      rw [everyNth_concat, if_neg divides, List.append_nil]
    constructor
    · exact tracks.indexAtEnd
    · exact tracks.timestampAtEnd
    · exact writes.trans length.symm
    · rw [length, quotient]
      exact tracks.lastIndexAtWrite
    · rw [same]
      exact tracks.cueIndex
    · rw [same]
      exact tracks.cueTimestampZero

end Cues

/-! ## Calls -/

section Calls

variable [Inhabited Stored] {conversions : Conversions Element Stored Double}
  {config : LogConfig} {message : LogData Element}
  {writer : LogWriter Stored Double} {unknownType : String}

/-- A value of a handled type is appended, if it has elements. -/
theorem appendValue_of_handled
    (rank : writer.values.dims.length = 1)
    (handled : message.isHandled = true) :
    ∃ values, appendValue conversions config message unknownType writer =
      ({ writer with values := values }, none) := by
  rcases message with ⟨timestamp, value⟩
  cases value with
  | scalar type value =>
      rcases appendRow_returns conversions config rank type [value] with
        ⟨dims, _, appended⟩
      exact ⟨_, appended⟩
  | array type values behind =>
      cases behind with
      | nil => exact ⟨writer.values, rfl⟩
      | cons first rest =>
          rcases appendRow_returns conversions config rank type
              (first :: rest) with ⟨dims, _, appended⟩
          exact ⟨_, appended⟩
  | other valueType => cases handled

theorem appendValue_of_unhandled (unhandled : message.isHandled = false) :
    appendValue conversions config message unknownType writer =
      (writer, some (.writerException unknownType)) := by
  rcases message with ⟨timestamp, value⟩
  cases value with
  | scalar type value => cases unhandled
  | array type values behind => cases unhandled
  | other valueType => rfl

omit [Inhabited Stored] in
/-- Without a division by zero one more message is counted. -/
theorem appendCue_of_positive (positive : config.valueIndexInterval ≠ 0) :
    (appendCue config message writer).2 = none ∧
      (appendCue config message writer).1.cues =
        writer.cues.count config.valueIndexInterval message.timestamp := by
  unfold appendCue Cues.count
  dsimp only
  rw [if_neg positive]
  split
  · rename_i cue
    exact ⟨rfl, (if_pos cue).symm⟩
  · rename_i noCue
    exact ⟨rfl, (if_neg noCue).symm⟩

variable [Zero Double] [Add Double] [Div Double] [Min Double] [Max Double]
  [NatCast Double]

omit [Inhabited Stored] in
theorem updateMetaData_returns :
    (updateMetaData conversions config message writer).2 = none ∧
      (updateMetaData conversions config message writer).1.cues =
        writer.cues := by
  unfold updateMetaData
  split <;> exact ⟨rfl, rfl⟩

/-- A message of a type that is not handled is not counted. -/
theorem write_of_unhandled (unhandled : message.isHandled = false) :
    write conversions config message unknownType writer =
      ({ writer with
         timestamp := writer.timestamp.appendElement message.timestamp },
        some (.writerException unknownType)) := by
  have timed :
      appendTimestamp message writer =
        ({ writer with
           timestamp := writer.timestamp.appendElement message.timestamp },
          none) := rfl
  rw [write, Throwing.inOrder_of_returned timed,
    Throwing.inOrder_of_threw (appendValue_of_unhandled unhandled)]

/-- A message of another type gets to the cues. -/
theorem write_gets_to_cues
    (rank : writer.values.dims.length = 1)
    (handled : message.isHandled = true) :
    ∃ values,
      write conversions config message unknownType writer =
        Throwing.inOrder
          [appendCue config message,
            updateMetaData conversions config message]
          { writer with
            timestamp := writer.timestamp.appendElement message.timestamp
            values := values } := by
  let timed : LogWriter Stored Double :=
    { writer with
      timestamp := writer.timestamp.appendElement message.timestamp }
  have time : appendTimestamp message writer = (timed, none) := rfl
  have timedRank : timed.values.dims.length = 1 := rank
  rcases @appendValue_of_handled _ _ _ _ conversions config message timed
      unknownType timedRank handled with ⟨values, valued⟩
  refine ⟨values, ?_⟩
  rw [write, Throwing.inOrder_of_returned time,
    Throwing.inOrder_of_returned valued]

/-- Without a division by zero it is written and counted. -/
theorem write_of_handled
    (rank : writer.values.dims.length = 1)
    (positive : config.valueIndexInterval ≠ 0)
    (handled : message.isHandled = true) :
    (write conversions config message unknownType writer).2 = none ∧
      (write conversions config message unknownType writer).1.cues =
        writer.cues.count config.valueIndexInterval message.timestamp := by
  rcases @write_gets_to_cues _ _ _ _ conversions config message writer
      unknownType _ _ _ _ _ _ rank handled with ⟨values, reaches⟩
  let valued : LogWriter Stored Double :=
    { writer with
      timestamp := writer.timestamp.appendElement message.timestamp
      values := values }
  rcases @appendCue_of_positive _ _ _ config message valued positive with
    ⟨cueReturns, cues⟩
  rcases @updateMetaData_returns _ _ _ conversions config message
      (appendCue config message valued).1 _ _ _ _ _ _ with
    ⟨metaDataReturns, sameCues⟩
  rw [reaches, Throwing.inOrder_of_none cueReturns,
    Throwing.inOrder_of_none metaDataReturns]
  exact ⟨rfl, sameCues.trans cues⟩

end Calls

/-! ## Runs -/

section Runs

variable [Inhabited Stored] [Zero Double] [Add Double] [Div Double]
  [Min Double] [Max Double] [NatCast Double]
  {conversions : Conversions Element Stored Double} {config : LogConfig}
  {unknownType : String} {messages : List (LogData Element)}

/-- The timestamps of the messages that are written. -/
def writtenTimes (messages : List (LogData Element)) : List UInt64 :=
  (messages.filter LogData.isHandled).map (·.timestamp)

theorem length_writtenTimes :
    (writtenTimes messages).length =
      (messages.filter LogData.isHandled).length :=
  List.length_map _

theorem writtenTimes_concat (message : LogData Element) :
    writtenTimes (messages ++ [message]) =
      writtenTimes messages ++
        if message.isHandled then [message.timestamp] else [] := by
  rw [writtenTimes, List.filter_append, List.map_append, List.filter_cons,
    List.filter_nil]
  split <;> rfl

/-- The outcomes of the calls, unless there are divisions by zero. -/
def outcomesOf (unknownType : String) (messages : List (LogData Element)) :
    List (Option WriteFailure) :=
  messages.map fun message =>
    if message.isHandled then none
    else some (.writerException unknownType)

theorem count_outcomesOf :
    (outcomesOf unknownType messages).countP Option.isNone =
      (writtenTimes messages).length := by
  rw [outcomesOf, List.countP_map, length_writtenTimes,
    ← List.countP_eq_length_filter]
  apply List.countP_congr
  intro message _
  show (if message.isHandled = true then none
    else some (WriteFailure.writerException unknownType)).isNone = true ↔ _
  split <;> simp_all

/-- What a run with an interval that is not zero does. -/
structure RunTracks (conversions : Conversions Element Stored Double)
    (config : LogConfig) (unknownType : String)
    (messages : List (LogData Element))
    (outcomes : List (Option WriteFailure))
    (writer : LogWriter Stored Double) : Prop where
  log : Tracks conversions config messages writer
  outcomes : outcomes = outcomesOf unknownType messages
  cues :
    (writtenTimes messages).length < 2 ^ 64 →
      Cues.Tracks config.valueIndexInterval (writtenTimes messages)
        writer.cues

theorem RunTracks.write
    {outcomes : List (Option WriteFailure)} {writer : LogWriter Stored Double}
    (tracks :
      RunTracks conversions config unknownType messages outcomes writer)
    (positive : config.valueIndexInterval ≠ 0) (message : LogData Element) :
    RunTracks conversions config unknownType (messages ++ [message])
      (outcomes ++ [(write conversions config message unknownType writer).2])
      (LogWriter.write conversions config message unknownType writer).1 := by
  have log := tracks.log.write message unknownType
  have concat := @writtenTimes_concat _ messages message
  cases handled : message.isHandled with
  | false =>
      rw [handled, if_neg Bool.false_ne_true, List.append_nil] at concat
      constructor
      · exact log
      · rw [write_of_unhandled handled, tracks.outcomes, outcomesOf,
          outcomesOf, List.map_append, List.map_singleton, handled]
        rfl
      · rw [concat, write_of_unhandled handled]
        exact tracks.cues
  | true =>
      rw [handled, if_pos rfl] at concat
      rcases @write_of_handled _ _ _ _ conversions config message writer
          unknownType _ _ _ _ _ _ tracks.log.rank positive handled with
        ⟨returns, cues⟩
      constructor
      · exact log
      · rw [returns, tracks.outcomes, outcomesOf, outcomesOf, List.map_append,
          List.map_singleton, handled]
        rfl
      · rw [concat, cues, List.length_append]
        intro few
        have nonzero : 0 < config.valueIndexInterval.toNat :=
          Nat.pos_of_ne_zero fun zero => positive (UInt32.toNat_inj.mp zero)
        exact (tracks.cues (Nat.lt_of_succ_lt few)).count nonzero few
          message.timestamp

theorem run_tracks
    (positive : config.valueIndexInterval ≠ 0)
    (messages : List (LogData Element)) :
    let run :=
      Mealy.run
        (Throwing.call fun message =>
          LogWriter.write conversions config message unknownType)
        (opened config : LogWriter Stored Double) messages
    RunTracks conversions config unknownType messages run.2 run.1 := by
  apply Mealy.run_induction
    (RunTracks conversions config unknownType)
  · exact ⟨tracks_opened, rfl, fun _ => Cues.tracks_empty⟩
  · intro messages outcomes writer message tracks
    exact tracks.write positive message

/-- Cues of 32 bits are those of fewer than `2 ^ 64` messages. -/
theorem few_of_fits
    {interval count : Nat} (positive : 0 < interval)
    (narrow : interval < 2 ^ 32)
    (fits :
      ∀ cue, (cue + 1) * interval ≤ count → (cue + 1) * interval ≤ 2 ^ 32) :
    count < 2 ^ 64 := by
  have whole := Nat.div_add_mod' count interval
  have rest := Nat.mod_lt count positive
  rcases Nat.eq_zero_or_pos (count / interval) with none | some_
  · rw [none, Nat.zero_mul] at whole
    omega
  · have last := fits (count / interval - 1)
    rw [Nat.sub_add_cancel some_] at last
    have bound := last (Nat.div_mul_le_self count interval)
    omega

theorem toNat_pos_of_ne_zero {interval : UInt32} (positive : interval ≠ 0) :
    0 < interval.toNat :=
  Nat.pos_of_ne_zero fun zero => positive (UInt32.toNat_inj.mp zero)

/-- The timestamp of a cue is that of the last written message before it. -/
theorem Cues.Tracks.getElem?_cueTimestampZero
    {interval : UInt32} {times : List UInt64} {cues : Cues}
    (tracks : Cues.Tracks interval times cues) (positive : interval ≠ 0)
    (cue : Nat) :
    cues.cueTimestampZero.elements[cue]? =
      times[(cue + 1) * interval.toNat - 1]? := by
  rw [tracks.cueTimestampZero, List.getElem?_map,
    getElem?_everyNth (toNat_pos_of_ne_zero positive), Option.map_map]
  exact Option.map_id'

theorem Cues.Tracks.getElem?_cueIndex
    {interval : UInt32} {times : List UInt64} {cues : Cues}
    (tracks : Cues.Tracks interval times cues) (positive : interval ≠ 0)
    (cue : Nat) :
    cues.cueIndex.elements[cue]? =
      times[(cue + 1) * interval.toNat - 1]?.map
        fun _ =>
          clipToUInt32 (.ofNat ((cue + 1) * interval.toNat - 1)) := by
  rw [tracks.cueIndex, List.getElem?_map,
    getElem?_everyNth (toNat_pos_of_ne_zero positive), Option.map_map]
  rfl

omit [Zero Double] [Add Double] [Div Double] [Min Double] [Max Double]
  [NatCast Double] in
/-- With right cues the written messages are in step with all messages. -/
theorem RunTracks.inStep
    {outcomes : List (Option WriteFailure)} {writer : LogWriter Stored Double}
    (tracks :
      RunTracks conversions config unknownType messages outcomes writer)
    (positive : config.valueIndexInterval ≠ 0)
    (indexed : CueIndexed config.valueIndexInterval outcomes writer) :
    CuesInStep config.valueIndexInterval messages := by
  have positions := indexed.positions
  rw [tracks.outcomes, count_outcomesOf, length_writtenTimes] at positions
  have fits :
      ∀ cue,
        (cue + 1) * config.valueIndexInterval.toNat ≤
            (messages.filter LogData.isHandled).length →
          (cue + 1) * config.valueIndexInterval.toNat ≤ 2 ^ 32 := by
    intro cue full
    rcases positions cue full with ⟨index, _, place⟩
    have bound := index.toNat_lt
    omega
  refine ⟨positive, fits, fun cue full => ?_⟩
  have few :=
    few_of_fits (toNat_pos_of_ne_zero positive)
      config.valueIndexInterval.toNat_lt fits
  rw [← length_writtenTimes] at few
  rcases positions cue full with ⟨index, there, place⟩
  have own := (tracks.cues few).getElem?_cueTimestampZero positive cue
  have time := indexed.times cue index there
  have same :
      index.toNat = (cue + 1) * config.valueIndexInterval.toNat - 1 := by
    omega
  rw [tracks.log.times, same] at time
  exact own.symm.trans time

theorem CuesInStep.few {interval : UInt32}
    (inStep : CuesInStep interval messages) :
    (writtenTimes messages).length < 2 ^ 64 := by
  rw [length_writtenTimes]
  exact
    few_of_fits (toNat_pos_of_ne_zero inStep.positive) interval.toNat_lt
      inStep.fits

/-- The position of a full interval is stored as it is. -/
theorem CuesInStep.toNat_index {interval : UInt32}
    (inStep : CuesInStep interval messages) {cue : Nat}
    (full :
      (cue + 1) * interval.toNat ≤ (writtenTimes messages).length) :
    (clipToUInt32 (.ofNat ((cue + 1) * interval.toNat - 1))).toNat =
      (cue + 1) * interval.toNat - 1 := by
  have least : 0 < (cue + 1) * interval.toNat :=
    Nat.mul_pos (Nat.succ_pos cue) (toNat_pos_of_ne_zero inStep.positive)
  have fits := inStep.fits cue (by rw [← length_writtenTimes]; exact full)
  exact toNat_clip_of_lt (by omega)

omit [Zero Double] [Add Double] [Div Double] [Min Double] [Max Double]
  [NatCast Double] in
/-- With messages in step the cues are right. -/
theorem RunTracks.cueIndexed
    {outcomes : List (Option WriteFailure)} {writer : LogWriter Stored Double}
    (tracks :
      RunTracks conversions config unknownType messages outcomes writer)
    (inStep : CuesInStep config.valueIndexInterval messages) :
    CueIndexed config.valueIndexInterval outcomes writer := by
  have cues := tracks.cues inStep.few
  have least (cue : Nat) :
      0 < (cue + 1) * config.valueIndexInterval.toNat :=
    Nat.mul_pos (Nat.succ_pos cue) (toNat_pos_of_ne_zero inStep.positive)
  constructor
  · intro outcome member
    rw [tracks.outcomes] at member
    rcases List.mem_map.mp member with ⟨message, _, rfl⟩
    split <;> nofun
  · have index := congrArg List.length cues.cueIndex
    have timeZero := congrArg List.length cues.cueTimestampZero
    rw [List.length_map] at index timeZero
    exact index.trans timeZero.symm
  · intro cue full
    rw [tracks.outcomes, count_outcomesOf] at full
    have some_ := least cue
    have inside :
        (cue + 1) * config.valueIndexInterval.toNat - 1 <
          (writtenTimes messages).length := by
      omega
    have there := cues.getElem?_cueIndex inStep.positive cue
    rw [List.getElem?_eq_getElem inside] at there
    refine ⟨_, there, ?_⟩
    rw [inStep.toNat_index full]
    omega
  · intro cue index there
    have here : writer.cueIndex.elements[cue]? = _ :=
      cues.getElem?_cueIndex inStep.positive cue
    rw [there] at here
    rcases Option.map_eq_some_iff.mp here.symm with ⟨time, at_, rfl⟩
    have inside := (List.getElem?_eq_some_iff.mp at_).1
    have some_ := least cue
    have full :
        (cue + 1) * config.valueIndexInterval.toNat ≤
          (writtenTimes messages).length := by
      omega
    have own : writer.cueTimestampZero.elements[cue]? = _ :=
      cues.getElem?_cueTimestampZero inStep.positive cue
    rw [own, inStep.toNat_index full, tracks.log.times]
    exact inStep.sameTimes cue (by rw [← length_writtenTimes]; exact full)

variable (conversions config unknownType) in
/-- The cues of a run are right exactly when its messages are in step. -/
theorem cueIndexed_iff (messages : List (LogData Element)) :
    let run :=
      Mealy.run
        (Throwing.call fun message =>
          LogWriter.write conversions config message unknownType)
        (opened config : LogWriter Stored Double) messages
    CueIndexed config.valueIndexInterval run.2 run.1 ↔
      CuesInStep config.valueIndexInterval messages := by
  intro run
  constructor
  · intro indexed
    have positive : config.valueIndexInterval ≠ 0 := by
      intro zero
      have first := indexed.positions 0
      rw [zero] at first
      rcases first (Nat.zero_le _) with ⟨index, _, place⟩
      cases place
    exact (run_tracks positive messages).inStep positive indexed
  · intro inStep
    exact (run_tracks inStep.positive messages).cueIndexed inStep

end Runs

end LogWriter

variable [Inhabited Stored] [Zero Double] [Add Double] [Div Double]
  [Min Double] [Max Double] [NatCast Double]

/--
In both modules the cues of every run are right exactly when its messages are
in step.
-/
theorem cue_index_iff
    (conversions : Conversions Element Stored Double) (config : LogConfig)
    (logs : List (F142.LogData Element)) (others : List (LogData Element)) :
    (LogWriter.CueIndexed config.valueIndexInterval
          (Mealy.run (Throwing.call (F142.write conversions config))
            (F142.opened config : F142.Writer Stored Double) logs).2
          (Mealy.run (Throwing.call (F142.write conversions config))
            (F142.opened config : F142.Writer Stored Double)
            logs).1.toLogWriter ↔
        LogWriter.CuesInStep config.valueIndexInterval
          (logs.map (·.toLogData))) ∧
      (LogWriter.CueIndexed config.valueIndexInterval
          (Mealy.run (Throwing.call (F144.write conversions config))
            (F144.opened config : LogWriter Stored Double) others).2
          (Mealy.run (Throwing.call (F144.write conversions config))
            (F144.opened config : LogWriter Stored Double) others).1 ↔
        LogWriter.CuesInStep config.valueIndexInterval others) := by
  constructor
  · have same := @F142.run_toLogWriter _ Stored Double _ conversions config
      _ _ _ _ _ _ logs
    have common :=
      @LogWriter.cueIndexed_iff _ Stored Double _ _ _ _ _ _ _ conversions
        config "Unknown data type in f142 flatbuffer."
        (logs.map (·.toLogData))
    dsimp only at common
    rw [← same] at common
    exact common
  · exact LogWriter.cueIndexed_iff conversions config _ others

/-- A cue after each message, the first of which is not handled. -/
theorem cue_points_to_other_time :
    ¬LogWriter.CueIndexed 1
        (Mealy.run
          (Throwing.call
            (F142.write plainConversions { valueIndexInterval := 1 }))
          (F142.opened { valueIndexInterval := 1 })
          [{ timestamp := 7, value := .other 0 },
            { timestamp := 8, value := .scalar .int32 5 }]).2
        (Mealy.run
          (Throwing.call
            (F142.write plainConversions { valueIndexInterval := 1 }))
          (F142.opened { valueIndexInterval := 1 })
          [{ timestamp := 7, value := .other 0 },
            { timestamp := 8, value := .scalar .int32 5 }]).1.toLogWriter ∧
      ¬LogWriter.CueIndexed 1
        (Mealy.run
          (Throwing.call
            (F144.write plainConversions { valueIndexInterval := 1 }))
          (F144.opened { valueIndexInterval := 1 })
          [⟨7, .other 0⟩, ⟨8, .scalar .int32 5⟩]).2
        (Mealy.run
          (Throwing.call
            (F144.write plainConversions { valueIndexInterval := 1 }))
          (F144.opened { valueIndexInterval := 1 })
          [⟨7, .other 0⟩, ⟨8, .scalar .int32 5⟩]).1 := by
  constructor
  · intro indexed
    exact absurd (indexed.times 0 0 (by decide)) (by decide)
  · intro indexed
    exact absurd (indexed.times 0 0 (by decide)) (by decide)

end KafkaToNexus.WriterModule
