import KafkaToNexus.WriterModule.Ns10Writer

/-!
# The cues of cache entries

Values and times stay in step in every run.  A cue is the position of its
sample and the time in seconds; where the times of the samples are in
nanoseconds, the two are the same number only for times that are stored as
zero.
-/

namespace KafkaToNexus.WriterModule.Ns10

open KafkaToNexus.Foundations KafkaToNexus.NeXusDataset

/-- The cues increase, and each has the time that it points to. -/
structure CuesMatch (times : List UInt64) (index : List UInt32)
    (cueTimes : List UInt64) : Prop where
  lengths : index.length = cueTimes.length
  increasing : (index.map UInt32.toNat).Pairwise (· < ·)
  matches_ :
    ∀ (cue : Nat) (position : UInt32), index[cue]? = some position →
      ∃ time,
        cueTimes[cue]? = some time ∧ times[position.toNat]? = some time

/-- Values and times are in step, and the cues point at their samples. -/
structure CuesPointAtSamples {Double : Type*} (writer : Writer Double) :
    Prop where
  lengths : writer.values.elements.length = writer.timestamp.elements.length
  cues :
    CuesMatch writer.timestamp.elements writer.cueTimestampIndex.elements
      writer.cueTimestamp.elements

/--
If a message is converted and a cue is due, its time is stored as the same
number in both units.  Where its position does not fit in 32 bits, the time at
the position that is stored is what counts.
-/
def CueRight {Double : Type*} (library : Library Double)
    (cueInterval : Int32) (writer : Writer Double) (entry : CacheEntry) :
    Prop :=
  (∃ convertedValue, entry.converted library = .ok convertedValue) →
    writer.cueCounter + 1 = cueInterval →
      if writer.timestamp.elements.length < 2 ^ 32 then
        SameStored library entry.time
      else
        let stored :=
          (clipToUInt32 (.ofNat writer.timestamp.elements.length)).toNat
        (∀ position ∈ writer.cueTimestampIndex.elements,
            position.toNat < stored) ∧
          writer.timestamp.elements[stored]? =
            some (clipRatToUInt64 entry.time)

/-! ## Lists of cues -/

section CuesMatch

variable {times : List UInt64} {index : List UInt32} {cueTimes : List UInt64}

/-- Cues inside of the times are the same with one more time. -/
theorem cuesMatch_times_concat_iff
    (inside : ∀ position ∈ index, position.toNat < times.length)
    (time : UInt64) :
    CuesMatch (times ++ [time]) index cueTimes ↔
      CuesMatch times index cueTimes := by
  have same {cue : Nat} {position : UInt32}
      (there : index[cue]? = some position) :
      (times ++ [time])[position.toNat]? = times[position.toNat]? :=
    List.getElem?_append_left (inside position (List.mem_of_getElem? there))
  constructor
  · intro right
    refine ⟨right.lengths, right.increasing, ?_⟩
    intro cue position there
    rw [← same there]
    exact right.matches_ cue position there
  · intro right
    refine ⟨right.lengths, right.increasing, ?_⟩
    intro cue position there
    rw [same there]
    exact right.matches_ cue position there

/-- A new cue is right when it is behind the others and has its own time. -/
theorem cuesMatch_concat_iff
    (lengths : index.length = cueTimes.length) (position : UInt32)
    (time : UInt64) :
    CuesMatch times (index ++ [position]) (cueTimes ++ [time]) ↔
      CuesMatch times index cueTimes ∧
        (∀ other ∈ index, other.toNat < position.toNat) ∧
          times[position.toNat]? = some time := by
  constructor
  · intro right
    have increasing := right.increasing
    rw [List.map_append, List.pairwise_append] at increasing
    rcases increasing with ⟨earlier, _, behind⟩
    refine ⟨⟨lengths, earlier, ?_⟩, ?_, ?_⟩
    · intro cue other there
      have inside := (List.getElem?_eq_some_iff.mp there).1
      have first : (index ++ [position])[cue]? = some other := by
        rw [List.getElem?_append_left inside]
        exact there
      rcases right.matches_ cue other first with ⟨own, stored, found⟩
      rw [List.getElem?_append_left (by rw [← lengths]; exact inside)]
        at stored
      exact ⟨own, stored, found⟩
    · intro other member
      exact behind _ (List.mem_map_of_mem member) _
        (List.mem_singleton_self _)
    · rcases right.matches_ index.length position
          List.getElem?_concat_length with ⟨own, stored, found⟩
      rw [lengths, List.getElem?_concat_length] at stored
      cases stored
      exact found
  · rintro ⟨right, behind, found⟩
    constructor
    · simp only [List.length_append, List.length_singleton, lengths]
    · rw [List.map_append, List.pairwise_append]
      refine ⟨right.increasing, List.pairwise_singleton _ _, ?_⟩
      intro earlier member last single
      rcases List.mem_map.mp member with ⟨other, among, rfl⟩
      rw [List.mem_singleton.mp single]
      exact behind other among
    · intro cue other there
      rcases Nat.lt_or_ge cue index.length with inside | outside
      · rw [List.getElem?_append_left inside] at there
        rw [List.getElem?_append_left (by rw [← lengths]; exact inside)]
        exact right.matches_ cue other there
      · have last : cue = index.length := by
          have bound := (List.getElem?_eq_some_iff.mp there).1
          rw [List.length_append, List.length_singleton] at bound
          omega
        rw [last, List.getElem?_concat_length] at there
        cases there
        refine ⟨time, ?_, found⟩
        rw [last, lengths, List.getElem?_concat_length]

/-- When a cue for one more time is right. -/
theorem lastCue_iff
    (inside : ∀ position ∈ index, position.toNat < times.length)
    (time cueTime : UInt64) :
    ((∀ other ∈ index,
          other.toNat < (clipToUInt32 (.ofNat times.length)).toNat) ∧
        (times ++ [time])[(clipToUInt32 (.ofNat times.length)).toNat]? =
          some cueTime) ↔
      if times.length < 2 ^ 32 then time = cueTime
      else
        let stored := (clipToUInt32 (.ofNat times.length)).toNat
        (∀ position ∈ index, position.toNat < stored) ∧
          times[stored]? = some cueTime := by
  split_ifs with fits
  · rw [toNat_clip_of_lt fits, List.getElem?_concat_length, Option.some_inj]
    exact ⟨fun right => right.2, fun same => ⟨inside, same⟩⟩
  · have cut :
        (clipToUInt32 (.ofNat times.length)).toNat < times.length := by
      rw [toNat_clipToUInt32]
      omega
    rw [List.getElem?_append_left cut]

end CuesMatch

/-! ## Runs -/

variable {Double : Type*} [Inhabited Double] {library : Library Double}
  {cueInterval : Int32} {entry : CacheEntry} {writer : Writer Double}

/-- What every call keeps, whether or not the cues are right. -/
structure InStep (writer : Writer Double) : Prop where
  valuesAtEnd : writer.values.AtEnd
  timestampAtEnd : writer.timestamp.AtEnd
  indexAtEnd : writer.cueTimestampIndex.AtEnd
  cueTimestampAtEnd : writer.cueTimestamp.AtEnd
  lengths : writer.values.elements.length = writer.timestamp.elements.length
  cueLengths :
    writer.cueTimestampIndex.elements.length =
      writer.cueTimestamp.elements.length
  inside :
    ∀ position ∈ writer.cueTimestampIndex.elements,
      position.toNat < writer.timestamp.elements.length

omit [Inhabited Double] in
theorem inStep_empty : InStep ({} : Writer Double) := by
  constructor
  · rfl
  · rfl
  · rfl
  · rfl
  · rfl
  · rfl
  · exact fun position member => absurd member List.not_mem_nil

/-- A value and its time are appended together. -/
theorem InStep.append
    (inStep : InStep writer) (value : Double) (time : UInt64) :
    InStep
      { writer with
        values := writer.values.appendElement value
        timestamp := writer.timestamp.appendElement time } := by
  constructor
  · exact inStep.valuesAtEnd.appendElement value
  · exact inStep.timestampAtEnd.appendElement time
  · exact inStep.indexAtEnd
  · exact inStep.cueTimestampAtEnd
  · simp only [
      ExtensibleDataset.elements_appendElement inStep.valuesAtEnd,
      ExtensibleDataset.elements_appendElement inStep.timestampAtEnd,
      List.length_append, inStep.lengths, List.length_singleton]
  · exact inStep.cueLengths
  · intro position member
    simp only [
      ExtensibleDataset.elements_appendElement inStep.timestampAtEnd,
      List.length_append]
    exact Nat.lt_add_right _ (inStep.inside position member)

omit [Inhabited Double] in
theorem toNat_clipToUInt32_ofNat_le (position : Nat) :
    (clipToUInt32 (.ofNat position)).toNat ≤ position := by
  rw [toNat_clipToUInt32, UInt64.toNat_ofNat']
  omega

omit [Inhabited Double] in
theorem InStep.appendCue
    (inStep : InStep writer) (some_ : writer.timestamp.elements ≠ []) :
    InStep (appendCue cueInterval entry writer).1 := by
  simp only [Ns10.appendCue]
  split_ifs
  · constructor
    · exact inStep.valuesAtEnd
    · exact inStep.timestampAtEnd
    · exact inStep.indexAtEnd.appendElement _
    · exact inStep.cueTimestampAtEnd.appendElement _
    · exact inStep.lengths
    · simp only [
        ExtensibleDataset.elements_appendElement inStep.indexAtEnd,
        ExtensibleDataset.elements_appendElement inStep.cueTimestampAtEnd,
        List.length_append, inStep.cueLengths, List.length_singleton]
    · intro position member
      simp only [
        ExtensibleDataset.elements_appendElement inStep.indexAtEnd]
        at member
      rcases List.mem_append.mp member with earlier | new
      · exact inStep.inside position earlier
      · rw [List.mem_singleton.mp new]
        have last :=
          toNat_clipToUInt32_ofNat_le (writer.timestamp.elements.length - 1)
        have positive := List.length_pos_iff.mpr some_
        simp only
        omega
  · exact ⟨inStep.valuesAtEnd, inStep.timestampAtEnd, inStep.indexAtEnd,
      inStep.cueTimestampAtEnd, inStep.lengths, inStep.cueLengths,
      inStep.inside⟩

omit [Inhabited Double] in
theorem elements_appendTime
    (inStep : InStep writer) (time : UInt64) :
    (writer.timestamp.appendElement time).elements =
      writer.timestamp.elements ++ [time] :=
  ExtensibleDataset.elements_appendElement inStep.timestampAtEnd time

theorem InStep.write
    (inStep : InStep writer) (entry : CacheEntry) :
    InStep (write library cueInterval entry writer).1 := by
  cases converted : entry.converted library with
  | error failure =>
      rw [write_of_error converted]
      exact inStep
  | ok value =>
      rw [write_of_ok converted]
      apply (inStep.append value (storedTime library entry.time)).appendCue
      simp only [elements_appendTime inStep]
      exact List.append_ne_nil_of_right_ne_nil _ (List.cons_ne_nil _ _)

/-- A call keeps right cues exactly when the cue that it adds is right. -/
theorem cuesPointAtSamples_write_iff
    (inStep : InStep writer) (right : CuesPointAtSamples writer) :
    CuesPointAtSamples (write library cueInterval entry writer).1 ↔
      CueRight library cueInterval writer entry := by
  cases converted : entry.converted library with
  | error failure =>
      rw [write_of_error converted]
      apply iff_of_true right
      rintro ⟨value, ok⟩
      rw [converted] at ok
      cases ok
  | ok value =>
      have appended :=
        inStep.append value (storedTime library entry.time)
      have kept :=
        (cuesMatch_times_concat_iff inStep.inside
          (storedTime library entry.time)).mpr right.cues
      rw [write_of_ok converted]
      by_cases due : writer.cueCounter + 1 = cueInterval
      · have conditions :
            CueRight library cueInterval writer entry ↔
              if writer.timestamp.elements.length < 2 ^ 32 then
                storedTime library entry.time = clipRatToUInt64 entry.time
              else
                let stored :=
                  (clipToUInt32
                    (.ofNat writer.timestamp.elements.length)).toNat
                (∀ position ∈ writer.cueTimestampIndex.elements,
                    position.toNat < stored) ∧
                  writer.timestamp.elements[stored]? =
                    some (clipRatToUInt64 entry.time) := by
          rw [storedTime_eq_iff]
          exact ⟨fun cue => cue ⟨value, converted⟩ due, fun cue _ _ => cue⟩
        rw [conditions, ← lastCue_iff inStep.inside, appendCue, if_pos due]
        have cues :=
          @cuesMatch_concat_iff
            (writer.timestamp.elements ++ [storedTime library entry.time])
            _ _ inStep.cueLengths
            (clipToUInt32 (.ofNat writer.timestamp.elements.length))
            (clipRatToUInt64 entry.time)
        constructor
        · intro next
          have match_ := next.cues
          simp only [elements_appendTime inStep, List.length_append,
            List.length_singleton, Nat.add_sub_cancel,
            ExtensibleDataset.elements_appendElement inStep.indexAtEnd,
            ExtensibleDataset.elements_appendElement
              inStep.cueTimestampAtEnd] at match_
          exact (cues.mp match_).2
        · intro last
          refine ⟨appended.lengths, ?_⟩
          simp only [elements_appendTime inStep, List.length_append,
            List.length_singleton, Nat.add_sub_cancel,
            ExtensibleDataset.elements_appendElement inStep.indexAtEnd,
            ExtensibleDataset.elements_appendElement
              inStep.cueTimestampAtEnd]
          exact cues.mpr ⟨kept, last⟩
      · rw [appendCue, if_neg due]
        apply iff_of_true
        · refine ⟨appended.lengths, ?_⟩
          simp only [elements_appendTime inStep]
          exact kept
        · intro _ isDue
          exact absurd isDue due

/--
After every call of a run the cues point at their samples exactly when each cue
of the run is right.
-/
theorem cues_point_iff
    (library : Library Double) (cueInterval : Int32)
    (entries : List CacheEntry) :
    (∀ taken, taken <+: entries →
        CuesPointAtSamples
          (Mealy.run (Throwing.call (write library cueInterval)) {}
            taken).1) ↔
      Mealy.Admissible (Throwing.call (write library cueInterval))
        (CueRight library cueInterval) {} entries := by
  apply Mealy.holds_throughout_iff InStep CuesPointAtSamples
  · intro writer entry inStep
    exact inStep.write entry
  · intro writer entry inStep right
    exact cuesPointAtSamples_write_iff inStep right
  · exact inStep_empty
  · refine ⟨rfl, rfl, List.Pairwise.nil, ?_⟩
    intro cue position there
    cases there

/-- Whether or not the cues are right, values and times stay in step. -/
theorem inStep_run
    (library : Library Double) (cueInterval : Int32)
    (entries : List CacheEntry) :
    InStep
      (Mealy.run (Throwing.call (write library cueInterval)) {}
        entries).1 := by
  apply Mealy.run_induction fun _ _ writer => InStep writer
  · exact inStep_empty
  · intro _ _ writer entry inStep
    exact inStep.write entry

/-- A library in which every text is the number zero. -/
def zeroLibrary : Library Nat where
  stod _ := .ok 0
  lroundOutOfRange _ := 0

/-- The cue of a time of one second is not the time of its sample. -/
theorem cue_in_seconds :
    ¬∀ taken, taken <+: [(⟨some "key", 1, some "0"⟩ : CacheEntry)] →
      CuesPointAtSamples
        (Mealy.run (Throwing.call (write zeroLibrary 1)) {} taken).1 := by
  intro all
  have cues := (all _ List.prefix_rfl).cues
  rcases cues.matches_ 0 0 (by decide +kernel) with ⟨time, stored, found⟩
  rw [show (0 : UInt32).toNat = 0 from rfl, ← stored] at found
  exact absurd found (by decide +kernel)

end KafkaToNexus.WriterModule.Ns10
