import KafkaToNexus.Foundations.BlockStarts
import KafkaToNexus.Foundations.Mealy
import KafkaToNexus.WriterModule.SampleWriters

/-!
# Packets, samples and cues

The packets are blocks of samples, and the cues say where each block starts.
The position of a packet is cut to 32 bits.  The timestamps of a packet are
appended as they are, however many there are, and those that are generated are
counted by an `int`.
-/

namespace KafkaToNexus.WriterModule

open KafkaToNexus.Foundations KafkaToNexus.NeXusDataset

variable {Element Stored TimeDelta Time : Type*}

/-! ## Positions in 32 bits -/

/-- What the dataset of the cues holds for positions. -/
theorem map_toNat_ofNat_eq_iff (positions : List Nat) :
    (positions.map UInt32.ofNat).map UInt32.toNat = positions ↔
      ∀ position ∈ positions, position < 2 ^ 32 := by
  rw [List.map_map]
  constructor
  · intro same position member
    rw [← same] at member
    rcases List.mem_map.mp member with ⟨_, _, rfl⟩
    exact UInt32.toNat_lt _
  · intro small
    have kept :
        ∀ position ∈ positions,
          (UInt32.toNat ∘ UInt32.ofNat) position = id position := by
      intro position member
      rw [Function.comp_apply, UInt32.toNat_ofNat']
      exact Nat.mod_eq_of_lt (small position member)
    rw [List.map_congr_left kept, List.map_id]

namespace SampleModule

variable (sampleModule : SampleModule Time)

/-- The messages with samples. -/
def nonEmpty (messages : List (SampleEnvironmentData Element TimeDelta Time)) :
    List (SampleEnvironmentData Element TimeDelta Time) :=
  messages.filter fun message => sampleModule.size message ≠ 0

/-- Where the packets of the messages with samples start. -/
def positions
    (messages : List (SampleEnvironmentData Element TimeDelta Time)) :
    List Nat :=
  starts ((sampleModule.nonEmpty messages).map sampleModule.size)

/--
A packet has as many timestamps as samples, or so many samples that they can be
counted by an `int`, and its own timestamp is not before the epoch.
-/
structure Fits (message : SampleEnvironmentData Element TimeDelta Time) :
    Prop where
  timestamps :
    match message.timestamps with
    | some timestamps => timestamps.length = sampleModule.size message
    | none => sampleModule.size message < 2 ^ 31
  packetTimestamp : 0 ≤ sampleModule.time.nanoseconds message.packetTimestamp

variable {sampleModule}

theorem nonEmpty_concat
    (messages : List (SampleEnvironmentData Element TimeDelta Time))
    (message : SampleEnvironmentData Element TimeDelta Time) :
    sampleModule.nonEmpty (messages ++ [message]) =
      if sampleModule.size message = 0 then sampleModule.nonEmpty messages
      else sampleModule.nonEmpty messages ++ [message] := by
  rw [nonEmpty, List.filter_append, List.filter_singleton]
  by_cases empty : sampleModule.size message = 0
  · simp [empty, nonEmpty]
  · simp [empty, nonEmpty]

/-- Messages without samples add nothing. -/
theorem sum_size_nonEmpty
    (messages : List (SampleEnvironmentData Element TimeDelta Time)) :
    ((sampleModule.nonEmpty messages).map sampleModule.size).sum =
      (messages.map sampleModule.size).sum := by
  induction messages using List.reverseRecOn with
  | nil => rfl
  | append_singleton messages message induction =>
      rw [nonEmpty_concat, List.map_append, List.sum_append, ← induction,
        List.map_singleton, List.sum_singleton]
      split
      · rename_i empty
        rw [empty, Nat.add_zero]
      · rw [List.map_append, List.sum_append, List.map_singleton,
          List.sum_singleton]

end SampleModule

/-! ## The timestamps of a packet -/

section Timestamps

variable (conversions : SampleConversions Element Stored TimeDelta)

/-- How many timestamps a call adds. -/
def SampleModule.timesAdded (sampleModule : SampleModule Time)
    (message : SampleEnvironmentData Element TimeDelta Time) : Nat :=
  if sampleModule.size message = 0 then 0
  else
    match message.timestamps with
    | some timestamps => timestamps.length
    | none =>
        match generateTimeStamps conversions
            (sampleModule.time.origin message.packetTimestamp)
            message.timeDelta (sampleModule.size message) with
        | .ok timestamps => timestamps.length
        | .error _ => 0

/-- As many timestamps are generated as an `int` can count. -/
theorem length_generateTimeStamps
    {originTimeStamp : UInt64} {timeDelta : TimeDelta}
    {numberOfElements : Nat} {timestamps : List UInt64}
    (generated :
      generateTimeStamps conversions originTimeStamp timeDelta
        numberOfElements = .ok timestamps) :
    timestamps.length < 2 ^ 31 ∧
      (numberOfElements < 2 ^ 31 → timestamps.length = numberOfElements) := by
  unfold generateTimeStamps at generated
  dsimp only at generated
  split at generated
  · cases generated
  · cases generated
    rw [List.length_map, List.length_range]
    exact ⟨Int32.toNatClampNeg_lt _, Int32.toNatClampNeg_ofNat_of_lt⟩

theorem generateTimeStamps_returns
    {numberOfElements : Nat} (small : numberOfElements < 2 ^ 31)
    (originTimeStamp : UInt64) (timeDelta : TimeDelta) :
    ∃ timestamps,
      generateTimeStamps conversions originTimeStamp timeDelta
        numberOfElements = .ok timestamps := by
  have counted : ¬Int32.ofNat numberOfElements < 0 := by
    rw [Int32.lt_iff_toInt_lt, Int32.toInt_ofNat_of_lt small]
    exact Int.not_lt.mpr (Int.natCast_nonneg _)
  exact ⟨_, if_neg counted⟩

variable {sampleModule : SampleModule Time}

/-- When a call adds as many timestamps as samples. -/
theorem timesAdded_eq_iff
    {message : SampleEnvironmentData Element TimeDelta Time}
    (some_ : sampleModule.size message ≠ 0) :
    sampleModule.timesAdded conversions message = sampleModule.size message ↔
      match message.timestamps with
      | some timestamps => timestamps.length = sampleModule.size message
      | none => sampleModule.size message < 2 ^ 31 := by
  rw [SampleModule.timesAdded, if_neg some_]
  cases message.timestamps with
  | some timestamps => exact Iff.rfl
  | none =>
      dsimp only
      constructor
      · intro count
        split at count
        · rename_i timestamps generated
          rw [← count]
          exact (length_generateTimeStamps conversions generated).1
        · exact absurd count.symm some_
      · intro small
        rcases generateTimeStamps_returns conversions small
            (sampleModule.time.origin message.packetTimestamp)
            message.timeDelta with ⟨timestamps, generated⟩
        rw [generated]
        exact (length_generateTimeStamps conversions generated).2 small

end Timestamps

/-! ## Runs of se00 and senv -/

namespace SampleWriter

variable (sampleModule : SampleModule Time)
  (conversions : SampleConversions Element Stored TimeDelta)
  (elementType : ElementType)

/-- The samples of a message as they are stored. -/
def storedSamples (message : SampleEnvironmentData Element TimeDelta Time) :
    List Stored :=
  (sampleModule.samples message).map fun sample =>
    conversions.convert sample.1 elementType sample.2

/-- The four datasets are in step. -/
structure InStep
    (messages : List (SampleEnvironmentData Element TimeDelta Time))
    (writer : SampleWriter Stored) : Prop where
  time : writer.timestamp.elements.length = writer.value.elements.length
  value :
    writer.value.elements =
      messages.flatMap (storedSamples sampleModule conversions elementType)
  cueIndex :
    writer.cueTimestampIndex.elements.map UInt32.toNat =
      sampleModule.positions messages
  cueTimestampZero :
    (writer.cueTimestamp.elements.map fun time => (time.toNat : Int)) =
      (sampleModule.nonEmpty messages).map fun message =>
        sampleModule.time.nanoseconds message.packetTimestamp

/-- What the datasets hold after any messages. -/
structure Tracks
    (messages : List (SampleEnvironmentData Element TimeDelta Time))
    (writer : SampleWriter Stored) : Prop where
  configured : writer.elementType = elementType
  valueAtEnd : writer.value.AtEnd
  timestampAtEnd : writer.timestamp.AtEnd
  cueIndexAtEnd : writer.cueTimestampIndex.AtEnd
  cueTimestampAtEnd : writer.cueTimestamp.AtEnd
  value :
    writer.value.elements =
      messages.flatMap (storedSamples sampleModule conversions elementType)
  time :
    writer.timestamp.elements.length =
      (messages.map (sampleModule.timesAdded conversions)).sum
  cueIndex :
    writer.cueTimestampIndex.elements =
      (sampleModule.positions messages).map UInt32.ofNat
  cueTimestampZero :
    writer.cueTimestamp.elements =
      (sampleModule.nonEmpty messages).map fun message =>
        sampleModule.time.stored message.packetTimestamp

variable {sampleModule conversions elementType}
  {messages : List (SampleEnvironmentData Element TimeDelta Time)}
  {writer : SampleWriter Stored}

theorem tracks_empty :
    Tracks sampleModule conversions elementType []
      ({ elementType } : SampleWriter Stored) :=
  ⟨rfl, rfl, rfl, rfl, rfl, rfl, rfl, rfl, rfl⟩

/-- The samples are as many as those of all packets. -/
theorem Tracks.length_value
    (tracks : Tracks sampleModule conversions elementType messages writer) :
    writer.value.elements.length = (messages.map sampleModule.size).sum := by
  rw [tracks.value, List.length_flatMap]
  congr 1
  apply List.map_congr_left
  intro message _
  exact List.length_map _

variable [Inhabited Stored]
  {message : SampleEnvironmentData Element TimeDelta Time}

/-- A message without samples leaves everything as it is. -/
theorem write_of_empty (empty : sampleModule.size message = 0) :
    write sampleModule conversions message writer = (writer, none) := by
  have nothing : sampleModule.samples message = [] :=
    List.length_eq_zero_iff.mp empty
  have same : appendSamples sampleModule conversions message writer = writer := by
    rw [appendSamples, nothing]
    rfl
  rw [write, if_pos empty, same]

variable (conversions) in
omit [Inhabited Stored] in
/-- The timestamps are appended behind the others, if there are any. -/
theorem appendTimestamps_effect
    (atEnd : writer.timestamp.AtEnd)
    (some_ : sampleModule.size message ≠ 0) :
    ∃ timestamp, (appendTimestamps sampleModule conversions message
        (sampleModule.size message) writer).1 =
          { writer with timestamp := timestamp } ∧
      timestamp.AtEnd ∧
      timestamp.elements.length =
        writer.timestamp.elements.length +
          sampleModule.timesAdded conversions message := by
  rw [SampleModule.timesAdded, if_neg some_]
  unfold appendTimestamps
  cases message.timestamps with
  | some timestamps =>
      refine ⟨_, rfl, atEnd.appendArrayAdapter _, ?_⟩
      rw [ExtensibleDataset.elements_appendArrayAdapter atEnd,
        List.length_append, List.length_map]
  | none =>
      dsimp only
      split
      · refine ⟨writer.timestamp, rfl, atEnd, ?_⟩
        rename_i failure threw
        rw [threw]
        rfl
      · rename_i timestamps generated
        refine ⟨_, rfl, atEnd.appendArray timestamps, ?_⟩
        rw [generated, ExtensibleDataset.elements_appendArray atEnd,
          List.length_append]

theorem Tracks.write
    (tracks : Tracks sampleModule conversions elementType messages writer)
    (message : SampleEnvironmentData Element TimeDelta Time) :
    Tracks sampleModule conversions elementType (messages ++ [message])
      (SampleWriter.write sampleModule conversions message writer).1 := by
  by_cases empty : sampleModule.size message = 0
  · have nothing : sampleModule.samples message = [] :=
      List.length_eq_zero_iff.mp empty
    have same : sampleModule.nonEmpty (messages ++ [message]) =
        sampleModule.nonEmpty messages := by
      rw [SampleModule.nonEmpty_concat, if_pos empty]
    rw [write_of_empty empty]
    constructor
    · exact tracks.configured
    · exact tracks.valueAtEnd
    · exact tracks.timestampAtEnd
    · exact tracks.cueIndexAtEnd
    · exact tracks.cueTimestampAtEnd
    · rw [List.flatMap_append, List.flatMap_singleton, storedSamples, nothing,
        tracks.value]
      exact (List.append_nil _).symm
    · rw [List.map_append, List.sum_append, List.map_singleton,
        List.sum_singleton, SampleModule.timesAdded, if_pos empty, tracks.time]
      rfl
    · rw [SampleModule.positions, same]
      exact tracks.cueIndex
    · rw [same]
      exact tracks.cueTimestampZero
  · have one : sampleModule.nonEmpty (messages ++ [message]) =
        sampleModule.nonEmpty messages ++ [message] := by
      rw [SampleModule.nonEmpty_concat, if_neg empty]
    let appended :=
      appendCue sampleModule message writer.value.elements.length
        (appendSamples sampleModule conversions message writer)
    have timestampAtEnd : appended.timestamp.AtEnd := tracks.timestampAtEnd
    rcases appendTimestamps_effect conversions timestampAtEnd empty with
      ⟨timestamp, next, atEnd, length⟩
    have result :
        (SampleWriter.write sampleModule conversions message writer).1 =
          { appended with timestamp := timestamp } := by
      rw [← next, SampleWriter.write, if_neg empty]
    rw [result]
    constructor
    · exact tracks.configured
    · exact tracks.valueAtEnd.appendArrayAdapter _
    · exact atEnd
    · exact tracks.cueIndexAtEnd.appendElement _
    · exact tracks.cueTimestampAtEnd.appendElement _
    · show (writer.value.appendArrayAdapter _).elements = _
      rw [ExtensibleDataset.elements_appendArrayAdapter tracks.valueAtEnd,
        tracks.value, tracks.configured, List.flatMap_append,
        List.flatMap_singleton]
      rfl
    · show timestamp.elements.length = _
      rw [length, List.map_append, List.sum_append, List.map_singleton,
        List.sum_singleton, ← tracks.time]
      rfl
    · show (writer.cueTimestampIndex.appendElement _).elements = _
      rw [ExtensibleDataset.elements_appendElement tracks.cueIndexAtEnd,
        tracks.cueIndex, tracks.length_value,
        ← SampleModule.sum_size_nonEmpty, SampleModule.positions,
        SampleModule.positions, one, List.map_append, List.map_singleton,
        starts_concat, List.map_append, List.map_singleton]
    · show (writer.cueTimestamp.appendElement _).elements = _
      rw [ExtensibleDataset.elements_appendElement tracks.cueTimestampAtEnd,
        tracks.cueTimestampZero, one, List.map_append, List.map_singleton]

theorem tracks_run
    (messages : List (SampleEnvironmentData Element TimeDelta Time)) :
    Tracks sampleModule conversions elementType messages
      (Mealy.run (Throwing.call (SampleWriter.write sampleModule conversions))
        ({ elementType } : SampleWriter Stored) messages).1 := by
  apply Mealy.run_induction
    fun messages _ (writer : SampleWriter Stored) =>
      Tracks sampleModule conversions elementType messages writer
  · exact tracks_empty
  · intro messages _ writer message tracks
    exact tracks.write message

/-- The datasets are in step after all calls of a run if the packets fit. -/
theorem inStep_iff
    (messages : List (SampleEnvironmentData Element TimeDelta Time)) :
    (∀ taken, taken <+: messages →
        InStep sampleModule conversions elementType taken
          (Mealy.run
            (Throwing.call (SampleWriter.write sampleModule conversions))
            ({ elementType } : SampleWriter Stored) taken).1) ↔
      (∀ message ∈ sampleModule.nonEmpty messages,
          sampleModule.Fits message) ∧
        ∀ position ∈ sampleModule.positions messages, position < 2 ^ 32 := by
  have tracks (taken : List (SampleEnvironmentData Element TimeDelta Time)) :=
    @tracks_run _ Stored _ _ sampleModule conversions elementType _ taken
  have counts :=
    forall_prefix_sum_eq_iff messages
      (sampleModule.timesAdded conversions) sampleModule.size
  constructor
  · intro throughout
    have whole := throughout messages (List.prefix_refl messages)
    have each : ∀ message ∈ messages,
        sampleModule.timesAdded conversions message =
          sampleModule.size message := by
      apply counts.mp
      intro taken first
      rw [← (tracks taken).time, ← (tracks taken).length_value]
      exact (throughout taken first).time
    have cues := whole.cueTimestampZero
    rw [(tracks messages).cueTimestampZero, List.map_map,
      List.map_inj_left] at cues
    constructor
    · intro message member
      rcases List.mem_filter.mp member with ⟨present, some_⟩
      refine ⟨?_, ?_⟩
      · exact (timesAdded_eq_iff conversions (of_decide_eq_true some_)).mp
          (each message present)
      · exact (sampleModule.time.stored_iff _).mp (cues message member)
    · rw [← map_toNat_ofNat_eq_iff, ← (tracks messages).cueIndex]
      exact whole.cueIndex
  · rintro ⟨fits, small⟩ taken first
    have someOf {message : SampleEnvironmentData Element TimeDelta Time}
        (member : message ∈ sampleModule.nonEmpty taken) :
        message ∈ sampleModule.nonEmpty messages :=
      (first.filter _).subset member
    constructor
    · rw [(tracks taken).time, (tracks taken).length_value]
      refine counts.mpr ?_ taken first
      intro message present
      by_cases empty : sampleModule.size message = 0
      · rw [SampleModule.timesAdded, if_pos empty, empty]
      · apply (timesAdded_eq_iff conversions empty).mpr
        exact (fits message
          (List.mem_filter.mpr ⟨present, decide_eq_true empty⟩)).timestamps
    · exact (tracks taken).value
    · rw [(tracks taken).cueIndex, map_toNat_ofNat_eq_iff]
      intro position member
      apply small
      exact (starts_mono ((first.filter _).map _)).subset member
    · rw [(tracks taken).cueTimestampZero, List.map_map, List.map_inj_left]
      intro message member
      exact (sampleModule.time.stored_iff _).mpr
        (fits message (someOf member)).packetTimestamp

end SampleWriter

/-! ## Runs of tdct -/

namespace Tdct

/-- A call of `write`, which throws nothing. -/
def call (writer : Writer) (timestamps : List UInt64) :
    Writer × List Unit :=
  (write timestamps writer, [])

/-- Where the timestamps of the messages with some start. -/
def positions (messages : List (List UInt64)) : List Nat :=
  starts ((messages.filter fun timestamps => timestamps ≠ []).map List.length)

structure InStep (messages : List (List UInt64)) (writer : Writer) : Prop where
  time : writer.timestamp.elements = messages.flatten
  cueIndex :
    writer.cueTimestampIndex.elements.map UInt32.toNat = positions messages
  cueTimestampZero :
    writer.cueTimestamp.elements = messages.filterMap List.head?

structure Tracks (messages : List (List UInt64)) (writer : Writer) : Prop where
  timestampAtEnd : writer.timestamp.AtEnd
  cueIndexAtEnd : writer.cueTimestampIndex.AtEnd
  cueTimestampAtEnd : writer.cueTimestamp.AtEnd
  time : writer.timestamp.elements = messages.flatten
  cueIndex :
    writer.cueTimestampIndex.elements = (positions messages).map UInt32.ofNat
  cueTimestampZero :
    writer.cueTimestamp.elements = messages.filterMap List.head?

theorem length_flatten_eq (messages : List (List UInt64)) :
    messages.flatten.length =
      ((messages.filter fun timestamps => timestamps ≠ []).map
        List.length).sum := by
  induction messages with
  | nil => rfl
  | cons timestamps rest induction =>
      rw [List.flatten_cons, List.length_append, induction]
      cases timestamps <;> simp

theorem Tracks.write
    {messages : List (List UInt64)} {writer : Writer}
    (tracks : Tracks messages writer) (timestamps : List UInt64) :
    Tracks (messages ++ [timestamps]) (Tdct.write timestamps writer) := by
  cases timestamps with
  | nil =>
      refine ⟨tracks.timestampAtEnd, tracks.cueIndexAtEnd,
        tracks.cueTimestampAtEnd, ?_, ?_, ?_⟩
      · rw [List.flatten_append, List.flatten_singleton, List.append_nil]
        exact tracks.time
      · rw [positions, List.filter_append, List.filter_singleton]
        show _ = (starts ((_ ++ []).map _)).map _
        rw [List.append_nil]
        exact tracks.cueIndex
      · rw [List.filterMap_append]
        show _ = _ ++ []
        rw [List.append_nil]
        exact tracks.cueTimestampZero
  | cons first rest =>
      constructor
      · exact tracks.timestampAtEnd.appendArrayAdapter _
      · exact tracks.cueIndexAtEnd.appendElement _
      · exact tracks.cueTimestampAtEnd.appendElement first
      · show (writer.timestamp.appendArrayAdapter _).elements = _
        rw [ExtensibleDataset.elements_appendArrayAdapter
            tracks.timestampAtEnd, tracks.time, List.flatten_append,
          List.flatten_singleton]
      · show (writer.cueTimestampIndex.appendElement _).elements = _
        rw [ExtensibleDataset.elements_appendElement tracks.cueIndexAtEnd,
          tracks.cueIndex, tracks.time, length_flatten_eq, positions,
          positions, List.filter_append, List.filter_singleton]
        show _ = (starts ((_ ++ [first :: rest]).map _)).map _
        rw [List.map_append, List.map_singleton, starts_concat,
          List.map_append, List.map_singleton]
      · show (writer.cueTimestamp.appendElement first).elements = _
        rw [ExtensibleDataset.elements_appendElement tracks.cueTimestampAtEnd,
          tracks.cueTimestampZero, List.filterMap_append]
        rfl

theorem tracks_run (messages : List (List UInt64)) :
    Tracks messages (Mealy.run call {} messages).1 := by
  apply Mealy.run_induction fun messages _ writer => Tracks messages writer
  · exact ⟨rfl, rfl, rfl, rfl, rfl, rfl⟩
  · intro messages _ writer timestamps tracks
    exact tracks.write timestamps

theorem inStep_iff (messages : List (List UInt64)) :
    (∀ taken, taken <+: messages →
        InStep taken (Mealy.run call {} taken).1) ↔
      ∀ position ∈ positions messages, position < 2 ^ 32 := by
  constructor
  · intro throughout
    rw [← map_toNat_ofNat_eq_iff, ← (tracks_run messages).cueIndex]
    exact (throughout messages (List.prefix_refl messages)).cueIndex
  · intro small taken first
    refine ⟨(tracks_run taken).time, ?_, (tracks_run taken).cueTimestampZero⟩
    rw [(tracks_run taken).cueIndex, map_toNat_ofNat_eq_iff]
    intro position member
    apply small
    exact (starts_mono ((first.filter _).map _)).subset member

end Tdct

/-! ## The three modules -/

/--
In the three modules the datasets are in step after all calls of a run exactly
when every packet with samples fits and starts below `2 ^ 32`.
-/
theorem packets_in_step_iff [Inhabited Stored]
    (conversions : SampleConversions Element Stored TimeDelta)
    (elementType : ElementType)
    (signed : List (SampleEnvironmentData Element TimeDelta Int64))
    (unsigned : List (SampleEnvironmentData Element TimeDelta UInt64))
    (choppers : List (List UInt64)) :
    ((∀ taken, taken <+: signed →
        SampleWriter.InStep Se00.sampleModule conversions elementType taken
          (Mealy.run (Throwing.call (Se00.write conversions))
            { elementType } taken).1) ↔
      (∀ message ∈ Se00.sampleModule.nonEmpty signed,
          Se00.sampleModule.Fits message) ∧
        ∀ position ∈ Se00.sampleModule.positions signed,
          position < 2 ^ 32) ∧
    ((∀ taken, taken <+: unsigned →
        SampleWriter.InStep Senv.sampleModule conversions elementType taken
          (Mealy.run (Throwing.call (Senv.write conversions))
            { elementType } taken).1) ↔
      (∀ message ∈ Senv.sampleModule.nonEmpty unsigned,
          Senv.sampleModule.Fits message) ∧
        ∀ position ∈ Senv.sampleModule.positions unsigned,
          position < 2 ^ 32) ∧
    ((∀ taken, taken <+: choppers →
        Tdct.InStep taken (Mealy.run Tdct.call {} taken).1) ↔
      ∀ position ∈ Tdct.positions choppers, position < 2 ^ 32) :=
  ⟨SampleWriter.inStep_iff signed, SampleWriter.inStep_iff unsigned,
    Tdct.inStep_iff choppers⟩

/-- Two samples with one timestamp leave a sample without a time. -/
theorem timestamps_of_other_length :
    ¬SampleWriter.InStep Senv.sampleModule ⟨fun _ _ value => value, fun _ _ => 0⟩
        .int64
        [⟨5, (), .array .int64 [10, 20], some [5]⟩]
        (Mealy.run
          (Throwing.call
            (Senv.write
              (⟨fun _ _ value => value, fun _ _ => 0⟩ :
                SampleConversions Nat Nat Unit)))
          {} [⟨5, (), .array .int64 [10, 20], some [5]⟩]).1 := by
  intro inStep
  exact absurd inStep.time (by decide)

end KafkaToNexus.WriterModule
