import KafkaToNexus.Foundations.Extremes
import KafkaToNexus.WriterModule.LogCues
import Mathlib.Algebra.BigOperators.Group.List.Basic
import Mathlib.Algebra.Order.Field.Rat

/-!
# The minimum, maximum and mean of logs

With each message that is written the running values take in a summary of its
elements.  The summary of an empty array is all zeros.  It starts the running
values anew for as long as no element has been counted, so that zeros before
the first element leave the extremes alone, but the mean is then zero divided
by zero.  Zeros after the first element take part in the extremes.

The arithmetic is exact here.  Elements are counted in 64 bits.
-/

namespace KafkaToNexus.WriterModule

open KafkaToNexus.Foundations KafkaToNexus.NeXusDataset

variable {Element Stored : Type*}

/-- The elements of a message, as exact numbers. -/
def LogData.elements (conversions : Conversions Element Stored ℚ)
    (message : LogData Element) : List ℚ :=
  match message.value with
  | .scalar _ value => [conversions.double value]
  | .array _ values _ => values.map conversions.double
  | .other _ => []

/--
The elements that the modules find for a message.  Those of an array are looked
for behind the table of the value.
-/
def LogData.elementsFound (conversions : Conversions Element Stored ℚ)
    (message : LogData Element) : List ℚ :=
  match message.value with
  | .scalar _ value => [conversions.double value]
  | .array _ _ behind => behind.map conversions.double
  | .other _ => []

/-- Where the vector follows the table, its elements are found. -/
theorem LogData.FollowsTable.elementsFound
    {conversions : Conversions Element Stored ℚ}
    {message : LogData Element} (follows : message.FollowsTable) :
    message.elementsFound conversions = message.elements conversions := by
  rcases message with ⟨timestamp, value⟩
  cases value with
  | scalar type value => rfl
  | array type values behind =>
      exact congrArg (List.map conversions.double) follows
  | other valueType => rfl

namespace LogWriter

/-- The messages whose calls returned. -/
def writtenMessages (messages : List (LogData Element))
    (outcomes : List (Option WriteFailure)) : List (LogData Element) :=
  ((messages.zip outcomes).filter (·.2.isNone)).map Prod.fst

/-- All elements of some messages. -/
def allElements (elementsOf : LogData Element → List ℚ)
    (written : List (LogData Element)) : List ℚ :=
  written.flatMap elementsOf

/-- What takes part in the extremes: zero for a message without elements. -/
def orZero (elements : List ℚ) : List ℚ :=
  if elements = [] then [0] else elements

/-- All that takes part in the extremes of some messages. -/
def extremal (elementsOf : LogData Element → List ℚ)
    (written : List (LogData Element)) : List ℚ :=
  written.flatMap fun message => orZero (elementsOf message)

/--
The metadata of the written messages: if they have elements, their least and
greatest element and their mean; and no mean was divided by zero.
-/
structure Summarised (conversions : Conversions Element Stored ℚ)
    (written : List (LogData Element)) (writer : LogWriter Stored ℚ) :
    Prop where
  divides : written ≠ [] → writer.totalNrOfElementsWritten ≠ 0
  minimum :
    allElements (LogData.elements conversions) written ≠ [] →
      IsLeast {element |
          element ∈ allElements (LogData.elements conversions) written}
        writer.metaDataMin
  maximum :
    allElements (LogData.elements conversions) written ≠ [] →
      IsGreatest {element |
          element ∈ allElements (LogData.elements conversions) written}
        writer.metaDataMax
  mean :
    allElements (LogData.elements conversions) written ≠ [] →
      writer.metaDataMean =
        (allElements (LogData.elements conversions) written).sum /
          (allElements (LogData.elements conversions) written).length

/--
Elements are found, and their number is not zero in 64 bits; and if the messages
have elements, then these have the extremes of what is found, with zeros for the
messages without, and its mean over a count of 64 bits.
-/
structure Summarisable (conversions : Conversions Element Stored ℚ)
    (written : List (LogData Element)) : Prop where
  counted :
    written ≠ [] →
      ¬2 ^ 64 ∣
        (allElements (LogData.elementsFound conversions) written).length
  lowest :
    allElements (LogData.elements conversions) written ≠ [] →
      ∃ least,
        IsLeast {element |
          element ∈ extremal (LogData.elementsFound conversions) written}
          least ∧
        IsLeast {element |
          element ∈ allElements (LogData.elements conversions) written} least
  highest :
    allElements (LogData.elements conversions) written ≠ [] →
      ∃ greatest,
        IsGreatest {element |
          element ∈ extremal (LogData.elementsFound conversions) written}
          greatest ∧
        IsGreatest {element |
          element ∈ allElements (LogData.elements conversions) written}
          greatest
  averaged :
    allElements (LogData.elements conversions) written ≠ [] →
      (allElements (LogData.elementsFound conversions) written).sum /
          ((allElements (LogData.elementsFound conversions) written).length %
            2 ^ 64 : Nat) =
        (allElements (LogData.elements conversions) written).sum /
          (allElements (LogData.elements conversions) written).length

/--
There are elements, and their number is not zero in 64 bits; the mean is not
affected by a count of more than 64 bits; and if there is an empty array, there
are elements on both sides of zero.
-/
structure SummarisableInPlace (conversions : Conversions Element Stored ℚ)
    (written : List (LogData Element)) : Prop where
  counted :
    written ≠ [] →
      ¬2 ^ 64 ∣ (allElements (LogData.elements conversions) written).length
  averaged :
    2 ^ 64 ≤ (allElements (LogData.elements conversions) written).length →
      (allElements (LogData.elements conversions) written).sum = 0
  lowered :
    (∃ message ∈ written, message.elements conversions = []) →
      ∃ element ∈ allElements (LogData.elements conversions) written,
        element ≤ 0
  raised :
    (∃ message ∈ written, message.elements conversions = []) →
      ∃ element ∈ allElements (LogData.elements conversions) written,
        0 ≤ element

/-! ## The summary of one message -/

variable {conversions : Conversions Element Stored ℚ}
  {elementsOf : LogData Element → List ℚ}
  {config : LogConfig} {message : LogData Element}
  {written : List (LogData Element)}

/-- A summary of some elements, with zeros if there are none. -/
structure Describes (elements : List ℚ)
    (information : ValuesInformation ℚ) : Prop where
  min : IsLeast {element | element ∈ orZero elements} information.min
  max : IsGreatest {element | element ∈ orZero elements} information.max
  sum : information.sum = elements.sum
  nrOfElements : information.nrOfElements = elements.length

theorem describes_empty :
    Describes [] { min := 0, max := 0, sum := 0, nrOfElements := 0 } := by
  have zero : {element : ℚ | element ∈ orZero []} = {0} := by
    ext element
    exact List.mem_singleton
  constructor
  · rw [zero]
    exact isLeast_singleton
  · rw [zero]
    exact isGreatest_singleton
  · rfl
  · rfl

theorem describes_folds (start : ℚ) (others : List ℚ) :
    Describes (start :: others)
      { min := others.foldl Min.min start
        max := others.foldl Max.max start
        sum := others.foldl (· + ·) start
        nrOfElements := others.length + 1 } := by
  constructor
  · exact isLeast_foldl_min start others
  · exact isGreatest_foldl_max start others
  · show others.foldl (· + ·) start = (start :: others).sum
    rw [List.sum_eq_foldl, List.foldl_cons, zero_add]
  · rfl

/-- The summary is one of the elements that are found behind the table. -/
theorem describes_valuesInformation
    (enabled : config.metaData = true) :
    Describes (message.elementsFound conversions)
      (valuesInformation conversions config message) := by
  rcases message with ⟨timestamp, value⟩
  cases value with
  | scalar type value => exact describes_folds (conversions.double value) []
  | array type values behind =>
      cases behind with
      | nil => exact describes_empty
      | cons first rest =>
          have described :=
            describes_folds (conversions.double first)
              (rest.map conversions.double)
          rw [List.length_map] at described
          rw [valuesInformation]
          dsimp only
          rw [if_pos enabled]
          exact described
  | other valueType => exact describes_empty

/-! ## The running values -/

/-- The metadata of a writer, with what they are computed from. -/
structure MetaData where
  min : ℚ
  max : ℚ
  sum : ℚ
  totalNrOfElementsWritten : Nat
  metaDataMin : ℚ
  metaDataMax : ℚ
  metaDataMean : ℚ

def metaData (writer : LogWriter Stored ℚ) : MetaData where
  min := writer.min
  max := writer.max
  sum := writer.sum
  totalNrOfElementsWritten := writer.totalNrOfElementsWritten
  metaDataMin := writer.metaDataMin
  metaDataMax := writer.metaDataMax
  metaDataMean := writer.metaDataMean

namespace MetaData

/-- One more summary is taken in. -/
def add (information : ValuesInformation ℚ) (metaData : MetaData) :
    MetaData :=
  let first := metaData.totalNrOfElementsWritten = 0
  let min := Min.min
    (if first then information.min else metaData.min) information.min
  let max := Max.max
    (if first then information.max else metaData.max) information.max
  let sum := metaData.sum + information.sum
  let total :=
    (metaData.totalNrOfElementsWritten + information.nrOfElements) % 2 ^ 64
  { min, max, sum
    totalNrOfElementsWritten := total
    metaDataMin := min
    metaDataMax := max
    metaDataMean := sum / total }

/-- After the first message the count of elements is never zero. -/
def KeepsCount (elementsOf : LogData Element → List ℚ)
    (written : List (LogData Element)) : Prop :=
  ∀ taken, taken <+: written → taken ≠ [] →
    ¬2 ^ 64 ∣ (allElements elementsOf taken).length

/-- The metadata are those of written messages. -/
structure Tracks (elementsOf : LogData Element → List ℚ)
    (written : List (LogData Element)) (metaData : MetaData) : Prop where
  sum : metaData.sum = (allElements elementsOf written).sum
  total :
    metaData.totalNrOfElementsWritten =
      (allElements elementsOf written).length % 2 ^ 64
  metaDataMin : metaData.metaDataMin = metaData.min
  metaDataMax : metaData.metaDataMax = metaData.max
  metaDataMean :
    metaData.metaDataMean = metaData.sum / metaData.totalNrOfElementsWritten
  min :
    written ≠ [] → KeepsCount elementsOf written →
      IsLeast {element | element ∈ extremal elementsOf written} metaData.min
  max :
    written ≠ [] → KeepsCount elementsOf written →
      IsGreatest {element | element ∈ extremal elementsOf written}
        metaData.max

theorem KeepsCount.of_concat
    (keeps : KeepsCount elementsOf (written ++ [message])) :
    KeepsCount elementsOf written := by
  intro taken first
  exact keeps taken (first.trans (List.prefix_append written [message]))

theorem allElements_concat :
    allElements elementsOf (written ++ [message]) =
      allElements elementsOf written ++ elementsOf message := by
  rw [allElements, List.flatMap_append, List.flatMap_singleton]
  rfl

theorem extremal_concat :
    {element | element ∈ extremal elementsOf (written ++ [message])} =
      {element | element ∈ extremal elementsOf written} ∪
        {element | element ∈ orZero (elementsOf message)} := by
  ext element
  show element ∈ extremal elementsOf (written ++ [message]) ↔ _
  rw [extremal, List.flatMap_append, List.flatMap_singleton,
    List.mem_append]
  rfl

/-- The count is zero only before the first message. -/
theorem Tracks.total_eq_zero_iff {metaData : MetaData}
    (tracks : Tracks elementsOf written metaData)
    (keeps : KeepsCount elementsOf written) :
    metaData.totalNrOfElementsWritten = 0 ↔ written = [] := by
  rw [tracks.total]
  constructor
  · intro zero
    by_contra some_
    exact keeps written (List.prefix_refl written) some_
      (Nat.dvd_of_mod_eq_zero zero)
  · rintro rfl
    rfl

theorem Tracks.add {metaData : MetaData}
    {information : ValuesInformation ℚ}
    (tracks : Tracks elementsOf written metaData)
    (described : Describes (elementsOf message) information) :
    Tracks elementsOf (written ++ [message]) (metaData.add information) := by
  have extremal_first (none : written = []) :
      {element | element ∈ extremal elementsOf (written ++ [message])} =
        {element | element ∈ orZero (elementsOf message)} := by
    rw [none, List.nil_append, extremal, List.flatMap_singleton]
  constructor
  · show metaData.sum + information.sum = _
    rw [allElements_concat, List.sum_append, tracks.sum, described.sum]
  · show (metaData.totalNrOfElementsWritten + information.nrOfElements) %
      2 ^ 64 = _
    rw [allElements_concat, List.length_append, tracks.total,
      described.nrOfElements, Nat.mod_add_mod]
  · rfl
  · rfl
  · rfl
  · intro _ keeps
    have zero_iff := tracks.total_eq_zero_iff keeps.of_concat
    show IsLeast _ (Min.min (if _ then _ else _) _)
    by_cases first : written = []
    · rw [if_pos (zero_iff.mpr first), min_self, extremal_first first]
      exact described.min
    · rw [if_neg (mt zero_iff.mp first), extremal_concat]
      exact (tracks.min first keeps.of_concat).union described.min
  · intro _ keeps
    have zero_iff := tracks.total_eq_zero_iff keeps.of_concat
    show IsGreatest _ (Max.max (if _ then _ else _) _)
    by_cases first : written = []
    · rw [if_pos (zero_iff.mpr first), max_self, extremal_first first]
      exact described.max
    · rw [if_neg (mt zero_iff.mp first), extremal_concat]
      exact (tracks.max first keeps.of_concat).union described.max

/-- Zero takes part in the extremes if there is an empty array. -/
theorem mem_extremal_iff {element : ℚ} :
    element ∈ extremal elementsOf written ↔
      element ∈ allElements elementsOf written ∨
        element = 0 ∧
          ∃ message ∈ written, elementsOf message = [] := by
  rw [extremal, List.mem_flatMap, allElements, List.mem_flatMap]
  constructor
  · rintro ⟨message, member, there⟩
    rw [orZero] at there
    split at there
    · rename_i empty
      exact Or.inr ⟨List.mem_singleton.mp there, message, member, empty⟩
    · exact Or.inl ⟨message, member, there⟩
  · rintro (⟨message, member, there⟩ | ⟨rfl, message, member, empty⟩)
    · refine ⟨message, member, ?_⟩
      rw [orZero, if_neg (List.ne_nil_of_mem there)]
      exact there
    · refine ⟨message, member, ?_⟩
      rw [orZero, if_pos empty]
      exact List.mem_singleton_self 0

/-- With an empty array zero takes part in the extremes, else nothing does. -/
theorem extremal_eq_insert
    (empty : ∃ message ∈ written, elementsOf message = []) :
    {element | element ∈ extremal elementsOf written} =
      insert 0 {element | element ∈ allElements elementsOf written} := by
  ext element
  show element ∈ extremal elementsOf written ↔ _
  rw [mem_extremal_iff, Set.mem_insert_iff, or_comm]
  exact or_congr_left (and_iff_left empty)

theorem extremal_eq_of_no_empty
    (none : ¬∃ message ∈ written, elementsOf message = []) :
    {element | element ∈ extremal elementsOf written} =
      {element | element ∈ allElements elementsOf written} := by
  ext element
  show element ∈ extremal elementsOf written ↔ _
  rw [mem_extremal_iff]
  exact or_iff_left fun zero => none zero.2

theorem isLeast_iff_of_extremal {least : ℚ}
    (found :
      IsLeast {element | element ∈ extremal elementsOf written} least) :
    IsLeast {element | element ∈ allElements elementsOf written} least ↔
      ((∃ message ∈ written, elementsOf message = []) →
        ∃ element ∈ allElements elementsOf written, element ≤ 0) := by
  by_cases empty : ∃ message ∈ written, elementsOf message = []
  · rw [extremal_eq_insert empty] at found
    exact (isLeast_iff_of_insert found).trans (imp_iff_right empty).symm
  · rw [extremal_eq_of_no_empty empty] at found
    exact iff_of_true found fun some_ => absurd some_ empty

theorem isGreatest_iff_of_extremal {greatest : ℚ}
    (found :
      IsGreatest {element | element ∈ extremal elementsOf written}
        greatest) :
    IsGreatest {element | element ∈ allElements elementsOf written}
        greatest ↔
      ((∃ message ∈ written, elementsOf message = []) →
        ∃ element ∈ allElements elementsOf written, 0 ≤ element) := by
  by_cases empty : ∃ message ∈ written, elementsOf message = []
  · rw [extremal_eq_insert empty] at found
    exact (isGreatest_iff_of_insert found).trans (imp_iff_right empty).symm
  · rw [extremal_eq_of_no_empty empty] at found
    exact iff_of_true found fun some_ => absurd some_ empty

/-- A mean over a count of 64 bits is right if no bit is lost in the count. -/
theorem mean_iff {sum : ℚ} {count : Nat} (counted : ¬2 ^ 64 ∣ count) :
    sum / (count % 2 ^ 64 : Nat) = sum / count ↔
      (2 ^ 64 ≤ count → sum = 0) := by
  constructor
  · intro same many
    by_contra nonzero
    rw [div_eq_mul_inv, div_eq_mul_inv, mul_right_inj' nonzero, inv_inj]
      at same
    have counts : count % 2 ^ 64 = count := Nat.cast_injective same
    have bound := Nat.mod_lt count (Nat.two_pow_pos 64)
    omega
  · intro averaged
    rcases Nat.lt_or_ge count (2 ^ 64) with few | many
    · rw [Nat.mod_eq_of_lt few]
    · rw [averaged many, zero_div, zero_div]

/-- Messages with elements are there. -/
theorem ne_nil_of_allElements
    (some_ : allElements elementsOf written ≠ []) : written ≠ [] := by
  rintro rfl
  exact some_ rfl

end MetaData

/-- With a count that is never zero the metadata are right in these cases. -/
theorem MetaData.Tracks.summarised_iff {writer : LogWriter Stored ℚ}
    (tracks :
      MetaData.Tracks (LogData.elementsFound conversions) written
        writer.metaData)
    (keeps :
      MetaData.KeepsCount (LogData.elementsFound conversions) written) :
    Summarised conversions written writer ↔
      Summarisable conversions written := by
  have least (some_ : written ≠ []) :
      IsLeast {element |
          element ∈ extremal (LogData.elementsFound conversions) written}
        writer.metaDataMin := by
    rw [show writer.metaDataMin = _ from tracks.metaDataMin]
    exact tracks.min some_ keeps
  have greatest (some_ : written ≠ []) :
      IsGreatest {element |
          element ∈ extremal (LogData.elementsFound conversions) written}
        writer.metaDataMax := by
    rw [show writer.metaDataMax = _ from tracks.metaDataMax]
    exact tracks.max some_ keeps
  have mean :
      writer.metaDataMean =
        (allElements (LogData.elementsFound conversions) written).sum /
          ((allElements (LogData.elementsFound conversions) written).length %
            2 ^ 64 : Nat) := by
    rw [← tracks.sum, ← tracks.total]
    exact tracks.metaDataMean
  constructor
  · intro summarised
    constructor
    · exact keeps written (List.prefix_refl written)
    · intro some_
      exact
        ⟨_, least (MetaData.ne_nil_of_allElements some_),
          summarised.minimum some_⟩
    · intro some_
      exact
        ⟨_, greatest (MetaData.ne_nil_of_allElements some_),
          summarised.maximum some_⟩
    · intro some_
      exact mean.symm.trans (summarised.mean some_)
  · intro summarisable
    constructor
    · exact mt (tracks.total_eq_zero_iff keeps).mp
    · intro some_
      rcases summarisable.lowest some_ with ⟨lowest, found, own⟩
      have same :=
        found.unique (least (MetaData.ne_nil_of_allElements some_))
      exact same ▸ own
    · intro some_
      rcases summarisable.highest some_ with ⟨highest, found, own⟩
      have same :=
        found.unique (greatest (MetaData.ne_nil_of_allElements some_))
      exact same ▸ own
    · intro some_
      exact mean.trans (summarisable.averaged some_)

/-! ## Arrays behind their tables -/

theorem allElements_of_follow
    (follow : ∀ message ∈ written, message.FollowsTable) :
    allElements (LogData.elementsFound conversions) written =
      allElements (LogData.elements conversions) written :=
  List.flatMap_congr fun message member =>
    (follow message member).elementsFound

theorem extremal_of_follow
    (follow : ∀ message ∈ written, message.FollowsTable) :
    extremal (LogData.elementsFound conversions) written =
      extremal (LogData.elements conversions) written :=
  List.flatMap_congr fun message member =>
    congrArg orZero (follow message member).elementsFound

/-- The elements take part in the extremes. -/
theorem extremal_ne_nil
    (some_ : allElements elementsOf written ≠ []) :
    extremal elementsOf written ≠ [] := by
  rcases List.exists_mem_of_ne_nil _ some_ with ⟨element, there⟩
  exact List.ne_nil_of_mem (MetaData.mem_extremal_iff.mpr (Or.inl there))

theorem exists_isLeast_extremal
    (some_ : allElements elementsOf written ≠ []) :
    ∃ least,
      IsLeast {element | element ∈ extremal elementsOf written} least := by
  rcases List.exists_cons_of_ne_nil (extremal_ne_nil some_) with
    ⟨start, others, numbers⟩
  rw [numbers]
  exact ⟨_, isLeast_foldl_min start others⟩

theorem exists_isGreatest_extremal
    (some_ : allElements elementsOf written ≠ []) :
    ∃ greatest,
      IsGreatest {element | element ∈ extremal elementsOf written}
        greatest := by
  rcases List.exists_cons_of_ne_nil (extremal_ne_nil some_) with
    ⟨start, others, numbers⟩
  rw [numbers]
  exact ⟨_, isGreatest_foldl_max start others⟩

/--
If all arrays lie behind their tables, where they are looked for, the condition
is one on the elements alone.
-/
theorem summarisable_iff_of_follow
    (follow : ∀ message ∈ written, message.FollowsTable) :
    Summarisable conversions written ↔
      SummarisableInPlace conversions written := by
  have found := @allElements_of_follow _ _ conversions written follow
  have extremes := @extremal_of_follow _ _ conversions written follow
  have some_of_empty
      (counted :
        written ≠ [] →
          ¬2 ^ 64 ∣
            (allElements (LogData.elements conversions) written).length)
      (empty : ∃ message ∈ written, message.elements conversions = []) :
      allElements (LogData.elements conversions) written ≠ [] := by
    intro none
    apply counted (List.ne_nil_of_mem empty.choose_spec.1)
    rw [none]
    exact Nat.dvd_zero (2 ^ 64)
  constructor
  · rintro ⟨counted, lowest, highest, averaged⟩
    rw [found] at counted averaged
    rw [extremes] at lowest highest
    constructor
    · exact counted
    · intro many
      have some_ :
          allElements (LogData.elements conversions) written ≠ [] := by
        intro none
        rw [none] at many
        exact absurd (Nat.le_zero.mp many) (by decide)
      have keeps := counted (MetaData.ne_nil_of_allElements some_)
      exact (MetaData.mean_iff keeps).mp (averaged some_) many
    · intro empty
      rcases lowest (some_of_empty counted empty) with ⟨least, all, own⟩
      exact (MetaData.isLeast_iff_of_extremal all).mp own empty
    · intro empty
      rcases highest (some_of_empty counted empty) with ⟨greatest, all, own⟩
      exact (MetaData.isGreatest_iff_of_extremal all).mp own empty
  · rintro ⟨counted, averaged, lowered, raised⟩
    constructor
    · rw [found]
      exact counted
    · intro some_
      rw [extremes]
      rcases exists_isLeast_extremal some_ with ⟨least, all⟩
      exact
        ⟨least, all, (MetaData.isLeast_iff_of_extremal all).mpr lowered⟩
    · intro some_
      rw [extremes]
      rcases exists_isGreatest_extremal some_ with ⟨greatest, all⟩
      exact
        ⟨greatest, all,
          (MetaData.isGreatest_iff_of_extremal all).mpr raised⟩
    · intro some_
      rw [found]
      have keeps := counted (MetaData.ne_nil_of_allElements some_)
      exact (MetaData.mean_iff keeps).mpr averaged

/-! ## Calls -/

section Calls

variable [Inhabited Stored] {writer : LogWriter Stored ℚ}
  {unknownType : String}

/-- The call returns: the value is handled and there is no division by zero. -/
def isWritten (interval : UInt32) (message : LogData Element) : Bool :=
  message.isHandled && interval ≠ 0

omit [Inhabited Stored] in
theorem metaData_appendCue :
    (appendCue config message writer).1.metaData = writer.metaData := by
  rw [appendCue]
  dsimp only
  split
  · rfl
  · split <;> rfl

omit [Inhabited Stored] in
theorem metaData_updateMetaData (enabled : config.metaData = true) :
    (updateMetaData conversions config message writer).1.metaData =
      writer.metaData.add (valuesInformation conversions config message) := by
  rw [updateMetaData, if_pos enabled]
  rfl

/-- A message that is written adds its summary. -/
theorem write_of_written
    (enabled : config.metaData = true)
    (rank : writer.values.dims.length = 1)
    (written : isWritten config.valueIndexInterval message = true) :
    (write conversions config message unknownType writer).2 = none ∧
      (write conversions config message unknownType writer).1.metaData =
        writer.metaData.add
          (valuesInformation conversions config message) := by
  rcases Bool.and_eq_true_iff.mp written with ⟨handled, nonzero⟩
  have positive := of_decide_eq_true nonzero
  rcases @write_gets_to_cues _ _ _ _ conversions config message writer
      unknownType _ _ _ _ _ _ rank handled with ⟨values, reaches⟩
  have cueReturns (writer : LogWriter Stored ℚ) :=
    (@appendCue_of_positive _ _ _ config message writer positive).1
  have metaDataReturns (writer : LogWriter Stored ℚ) :=
    (@updateMetaData_returns _ _ _ conversions config message writer
      _ _ _ _ _ _).1
  rw [reaches, Throwing.inOrder_of_none (cueReturns _),
    Throwing.inOrder_of_none (metaDataReturns _)]
  constructor
  · rfl
  · show metaData (updateMetaData _ _ _ _).1 = _
    rw [metaData_updateMetaData enabled, metaData_appendCue]
    rfl

/-- A message that is not written throws, and its elements do not count. -/
theorem write_of_unwritten
    (rank : writer.values.dims.length = 1)
    (unwritten : isWritten config.valueIndexInterval message = false) :
    (write conversions config message unknownType writer).2 ≠ none ∧
      (write conversions config message unknownType writer).1.metaData =
        writer.metaData := by
  cases handled : message.isHandled with
  | false =>
      rw [write_of_unhandled handled]
      exact ⟨nofun, rfl⟩
  | true =>
      rw [isWritten, handled, Bool.true_and] at unwritten
      have zero := not_not.mp (of_decide_eq_false unwritten)
      rcases @write_gets_to_cues _ _ _ _ conversions config message writer
          unknownType _ _ _ _ _ _ rank handled with ⟨values, reaches⟩
      let valued : LogWriter Stored ℚ :=
        { writer with
          timestamp := writer.timestamp.appendElement message.timestamp
          values := values }
      have threw :
          appendCue config message valued =
            ({ valued with nrOfWrites := valued.nrOfWrites + 1 },
              some .divisionByZero) := by
        rw [appendCue, if_pos zero]
      rw [reaches, Throwing.inOrder_of_threw threw]
      exact ⟨nofun, rfl⟩

end Calls

/-! ## Runs -/

section Runs

variable [Inhabited Stored] {messages : List (LogData Element)}
  {outcomes : List (Option WriteFailure)} {unknownType : String}

theorem writtenMessages_concat
    (lengths : messages.length = outcomes.length)
    (message : LogData Element) (outcome : Option WriteFailure) :
    writtenMessages (messages ++ [message]) (outcomes ++ [outcome]) =
      writtenMessages messages outcomes ++
        if outcome.isNone then [message] else [] := by
  rw [writtenMessages, List.zip_append lengths, List.filter_append,
    List.map_append, writtenMessages]
  congr 1
  cases outcome <;> rfl

/-- What a run with metadata does. -/
structure MetaDataTracks (conversions : Conversions Element Stored ℚ)
    (config : LogConfig) (messages : List (LogData Element))
    (outcomes : List (Option WriteFailure)) (writer : LogWriter Stored ℚ) :
    Prop where
  log : Tracks conversions config messages writer
  lengths : messages.length = outcomes.length
  calls :
    writtenMessages messages outcomes =
      messages.filter (isWritten config.valueIndexInterval)
  metaData :
    MetaData.Tracks (LogData.elementsFound conversions)
      (messages.filter (isWritten config.valueIndexInterval)) writer.metaData

omit [Inhabited Stored] in
theorem metaData_tracks_opened :
    MetaData.Tracks (LogData.elementsFound conversions) []
      (metaData (opened config : LogWriter Stored ℚ)) := by
  constructor
  · rfl
  · rfl
  · rfl
  · rfl
  · exact (zero_div _).symm
  · exact fun some_ => absurd rfl some_
  · exact fun some_ => absurd rfl some_

theorem MetaDataTracks.write {writer : LogWriter Stored ℚ}
    (tracks : MetaDataTracks conversions config messages outcomes writer)
    (enabled : config.metaData = true)
    (message : LogData Element) :
    MetaDataTracks conversions config (messages ++ [message])
      (outcomes ++ [(write conversions config message unknownType writer).2])
      (LogWriter.write conversions config message unknownType writer).1 := by
  have log := tracks.log.write message unknownType
  have calls := writtenMessages_concat tracks.lengths message
    (LogWriter.write conversions config message unknownType writer).2
  have lengths :
      (messages ++ [message]).length =
        (outcomes ++
          [(LogWriter.write conversions config message unknownType
            writer).2]).length := by
    rw [List.length_append, List.length_append, tracks.lengths]
    rfl
  cases written : isWritten config.valueIndexInterval message with
  | true =>
      have concat :
          (messages ++ [message]).filter
              (isWritten config.valueIndexInterval) =
            messages.filter (isWritten config.valueIndexInterval) ++
              [message] := by
        rw [List.filter_append, List.filter_singleton, written]
        rfl
      rcases @write_of_written _ _ conversions config message _ writer
          unknownType enabled tracks.log.rank written with ⟨returns, added⟩
      constructor
      · exact log
      · exact lengths
      · rw [calls, returns, concat, tracks.calls]
        rfl
      · rw [concat, added]
        exact tracks.metaData.add
          (describes_valuesInformation enabled)
  | false =>
      have concat :
          (messages ++ [message]).filter
              (isWritten config.valueIndexInterval) =
            messages.filter (isWritten config.valueIndexInterval) := by
        rw [List.filter_append, List.filter_singleton, written]
        exact List.append_nil _
      rcases @write_of_unwritten _ _ conversions config message _ writer
          unknownType tracks.log.rank written with ⟨throws, same⟩
      constructor
      · exact log
      · exact lengths
      · rw [calls, concat, tracks.calls, if_neg, List.append_nil]
        exact fun none => throws (Option.isNone_iff_eq_none.mp none)
      · rw [concat, same]
        exact tracks.metaData

theorem metaData_tracks_run
    (enabled : config.metaData = true)
    (messages : List (LogData Element)) :
    let run :=
      Mealy.run
        (Throwing.call fun message =>
          LogWriter.write conversions config message unknownType)
        (opened config : LogWriter Stored ℚ) messages
    MetaDataTracks conversions config messages run.2 run.1 := by
  intro run
  apply Mealy.run_induction fun messages outcomes
      (writer : LogWriter Stored ℚ) =>
    MetaDataTracks conversions config messages outcomes writer
  · exact ⟨tracks_opened, rfl, rfl, metaData_tracks_opened⟩
  · intro messages outcomes writer message before
    exact before.write enabled message

variable (conversions config unknownType) in
/--
The metadata are right after every call exactly when this is so of the messages
that are written.
-/
theorem summarised_throughout_iff
    (enabled : config.metaData = true)
    (messages : List (LogData Element)) :
    (∀ taken, taken <+: messages →
        let run :=
          Mealy.run
            (Throwing.call fun message =>
              LogWriter.write conversions config message unknownType)
            (opened config : LogWriter Stored ℚ) taken
        Summarised conversions (writtenMessages taken run.2) run.1) ↔
      ∀ written,
        written <+:
            messages.filter (isWritten config.valueIndexInterval) →
          Summarisable conversions written := by
  have tracks (taken : List (LogData Element)) :=
    @metaData_tracks_run _ Stored conversions config _ unknownType enabled
      taken
  constructor
  · intro throughout
    have keeps :
        MetaData.KeepsCount (LogData.elementsFound conversions)
          (messages.filter (isWritten config.valueIndexInterval)) := by
      intro written first some_ divides
      rcases List.prefix_filter_iff.mp first with ⟨taken, before, rfl⟩
      have summarised := throughout taken before
      dsimp only at summarised
      rw [(tracks taken).calls] at summarised
      apply summarised.divides some_
      exact (tracks taken).metaData.total.trans (Nat.mod_eq_zero_of_dvd divides)
    intro written first
    rcases List.prefix_filter_iff.mp first with ⟨taken, before, rfl⟩
    have summarised := throughout taken before
    dsimp only at summarised
    rw [(tracks taken).calls] at summarised
    apply ((tracks taken).metaData.summarised_iff _).mp summarised
    exact fun fewer early => keeps fewer (early.trans first)
  · intro summarisable taken before run
    have first := before.filter (isWritten config.valueIndexInterval)
    rw [(tracks taken).calls]
    apply ((tracks taken).metaData.summarised_iff _).mpr
    · exact summarisable _ first
    · intro fewer early
      exact (summarisable fewer (early.trans first)).counted

end Runs

end LogWriter

variable [Inhabited Stored]

/--
In both modules the metadata are right after every call of a run exactly when
each list of the first messages that are written can be summarised by what is
found for them.  If their arrays lie behind their tables, where they are looked
for, this means that there are elements, with a count that is right in 64 bits
where it matters, and, if there is an empty array, on both sides of zero.
-/
theorem meta_data_iff
    (conversions : Conversions Element Stored ℚ) (config : LogConfig)
    (enabled : config.metaData = true)
    (logs : List (F142.LogData Element)) (others : List (LogData Element)) :
    ((∀ taken, taken <+: logs →
        LogWriter.Summarised conversions
          (LogWriter.writtenMessages (taken.map (·.toLogData))
            (Mealy.run (Throwing.call (F142.write conversions config))
              (F142.opened config : F142.Writer Stored ℚ) taken).2)
          (Mealy.run (Throwing.call (F142.write conversions config))
            (F142.opened config : F142.Writer Stored ℚ)
            taken).1.toLogWriter) ↔
      ∀ written,
        written <+:
            (logs.map (·.toLogData)).filter
              (LogWriter.isWritten config.valueIndexInterval) →
          LogWriter.Summarisable conversions written) ∧
    ((∀ taken, taken <+: others →
        LogWriter.Summarised conversions
          (LogWriter.writtenMessages taken
            (Mealy.run (Throwing.call (F144.write conversions config))
              (F144.opened config : LogWriter Stored ℚ) taken).2)
          (Mealy.run (Throwing.call (F144.write conversions config))
            (F144.opened config : LogWriter Stored ℚ) taken).1) ↔
      ∀ written,
        written <+:
            others.filter (LogWriter.isWritten config.valueIndexInterval) →
          LogWriter.Summarisable conversions written) ∧
    ∀ written : List (LogData Element),
      (∀ message ∈ written, message.FollowsTable) →
        (LogWriter.Summarisable conversions written ↔
          LogWriter.SummarisableInPlace conversions written) := by
  refine ⟨?_, ?_, ?_⟩
  · have common :=
      LogWriter.summarised_throughout_iff conversions config
        "Unknown data type in f142 flatbuffer." enabled
        (logs.map (·.toLogData))
    rw [← common]
    have same (taken : List (F142.LogData Element)) :=
      @F142.run_toLogWriter _ Stored ℚ _ conversions config _ _ _ _ _ _ taken
    constructor
    · intro throughout taken before run
      rcases List.prefix_map_iff.mp before with ⟨first, early, rfl⟩
      have summarised := throughout first early
      rw [show run = _ from (same first).symm]
      exact summarised
    · intro throughout taken early
      have summarised := throughout _ (early.map (·.toLogData))
      rw [← same taken] at summarised
      exact summarised
  · exact
      LogWriter.summarised_throughout_iff conversions config _ enabled others
  · intro written follow
    exact LogWriter.summarisable_iff_of_follow follow

/-- Rational numbers that are stored as they are. -/
def exactConversions : Conversions ℚ ℚ ℚ :=
  { convert := fun _ _ value => value, double := id }

/-- An array with elements on both sides of zero, and then one with none. -/
theorem empty_array_after_both_signs :
    LogWriter.Summarised exactConversions
      (LogWriter.writtenMessages
        [⟨7, .inPlace .int32 [-1, 1]⟩, ⟨8, .inPlace .int32 []⟩]
        (Mealy.run (Throwing.call (F144.write exactConversions {}))
          (F144.opened {} : LogWriter ℚ ℚ)
          [⟨7, .inPlace .int32 [-1, 1]⟩, ⟨8, .inPlace .int32 []⟩]).2)
      (Mealy.run (Throwing.call (F144.write exactConversions {}))
        (F144.opened {} : LogWriter ℚ ℚ)
        [⟨7, .inPlace .int32 [-1, 1]⟩, ⟨8, .inPlace .int32 []⟩]).1 := by
  have follow :
      ∀ message ∈
        [(⟨7, .inPlace .int32 [-1, 1]⟩ : LogData ℚ),
          ⟨8, .inPlace .int32 []⟩],
        message.FollowsTable :=
    List.forall_mem_cons.mpr ⟨rfl, List.forall_mem_singleton.mpr rfl⟩
  rcases meta_data_iff exactConversions {} rfl [] _ with
    ⟨_, others_iff, inPlace_iff⟩
  apply others_iff.mpr ?_ _ (List.prefix_refl _)
  intro written first
  apply (inPlace_iff written fun message member =>
    follow message (List.mem_of_mem_filter (first.subset member))).mpr
  have one_of :
      written ∈
        [[], [(⟨7, .inPlace .int32 [-1, 1]⟩ : LogData ℚ)],
          [⟨7, .inPlace .int32 [-1, 1]⟩, ⟨8, .inPlace .int32 []⟩]] :=
    (List.mem_inits _ _).mpr first
  rcases List.mem_cons.mp one_of with rfl | one_of
  · constructor <;> decide
  rcases List.mem_pair.mp one_of with rfl | rfl
  · constructor <;> decide
  · constructor <;> decide

/-- After a positive element an empty array makes the minimum zero. -/
theorem empty_array_lowers_minimum :
    ¬LogWriter.Summarised exactConversions
        (LogWriter.writtenMessages
          [⟨7, .scalar .int32 5⟩, ⟨8, .inPlace .int32 []⟩]
          (Mealy.run (Throwing.call (F142.write exactConversions {}))
            (F142.opened {} : F142.Writer ℚ ℚ)
            [{ timestamp := 7, value := .scalar .int32 5 },
              { timestamp := 8, value := .inPlace .int32 [] }]).2)
        (Mealy.run (Throwing.call (F142.write exactConversions {}))
          (F142.opened {} : F142.Writer ℚ ℚ)
          [{ timestamp := 7, value := .scalar .int32 5 },
            { timestamp := 8, value := .inPlace .int32 [] }]
          ).1.toLogWriter ∧
      ¬LogWriter.Summarised exactConversions
        (LogWriter.writtenMessages
          [⟨7, .scalar .int32 5⟩, ⟨8, .inPlace .int32 []⟩]
          (Mealy.run (Throwing.call (F144.write exactConversions {}))
            (F144.opened {} : LogWriter ℚ ℚ)
            [⟨7, .scalar .int32 5⟩, ⟨8, .inPlace .int32 []⟩]).2)
        (Mealy.run (Throwing.call (F144.write exactConversions {}))
          (F144.opened {} : LogWriter ℚ ℚ)
          [⟨7, .scalar .int32 5⟩, ⟨8, .inPlace .int32 []⟩]).1 := by
  constructor
  · intro summarised
    have least := (summarised.minimum (by decide)).1
    exact absurd (List.mem_singleton.mp least) (by decide)
  · intro summarised
    have least := (summarised.minimum (by decide)).1
    exact absurd (List.mem_singleton.mp least) (by decide)

end KafkaToNexus.WriterModule
