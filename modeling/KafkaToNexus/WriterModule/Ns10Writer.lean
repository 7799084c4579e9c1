import KafkaToNexus.Foundations.Mealy
import KafkaToNexus.Foundations.Rounding
import KafkaToNexus.Foundations.SignedWord
import KafkaToNexus.Foundations.Throwing
import KafkaToNexus.NeXusDataset.ExtensibleDataset

/-!
# The writer of cache entries

A message of ns10 has a value as text and a time in seconds, both of which are
doubles in the end; here a time is an exact rational.  The time is stored in
nanoseconds.  A cue has the same time, but not converted, so that it is the
number of whole seconds.
-/

namespace KafkaToNexus.WriterModule.Ns10

open KafkaToNexus.Foundations KafkaToNexus.NeXusDataset

structure CacheEntry where
  key : Option String
  time : ℚ
  value : Option String
deriving DecidableEq

/-- What `std::stod` throws. -/
inductive ConversionFailure where
  | invalidArgument
  | outOfRange
deriving DecidableEq, Repr

inductive WriteFailure where
  | runtimeError (what : String)
  | conversion (failure : ConversionFailure)
deriving DecidableEq, Repr

/-- What the writer takes from elsewhere. -/
structure Library (Double : Type*) where
  stod : String → Except ConversionFailure Double
  /-- What `std::lround` returns for a number that does not fit. -/
  lroundOutOfRange : ℚ → Int64

/-- The writer with its datasets, which are empty when they are created. -/
structure Writer (Double : Type*) where
  values : ExtensibleDataset Double := {}
  timestamp : ExtensibleDataset UInt64 := {}
  cueTimestampIndex : ExtensibleDataset UInt32 := {}
  cueTimestamp : ExtensibleDataset UInt64 := {}
  cueCounter : Int32 := 0

variable {Double : Type*} (library : Library Double)

def Library.lround (value : ℚ) : Int64 :=
  if SignedWord.InRange 64 (roundAway value) then .ofInt (roundAway value)
  else library.lroundOutOfRange value

/-- The time in nanoseconds, as HDF5 stores it. -/
def storedTime (time : ℚ) : UInt64 :=
  clipToUInt64 (library.lround (10 ^ 9 * time))

/-- The checks of the message and the conversion of its value. -/
def CacheEntry.converted (entry : CacheEntry) : Except WriteFailure Double :=
  match entry.key, entry.value with
  | some _, some value =>
      match library.stod value with
      | .ok convertedValue => .ok convertedValue
      | .error failure => .error (.conversion failure)
  | _, _ => .error (.runtimeError "Invalid Flatbuffer content.")

variable [Inhabited Double] (cueInterval : Int32) (entry : CacheEntry)

def appendValue : Throwing (Writer Double) WriteFailure :=
  fun writer =>
    match entry.converted library with
    | .ok convertedValue =>
        ({ writer with values := writer.values.appendElement convertedValue },
          none)
    | .error failure => (writer, some failure)

def appendTimestamp : Throwing (Writer Double) WriteFailure :=
  fun writer =>
    ({ writer with
       timestamp :=
         writer.timestamp.appendElement (storedTime library entry.time) },
      none)

/-- The time in the cue is not converted to nanoseconds. -/
def appendCue : Throwing (Writer Double) WriteFailure :=
  fun writer =>
    if writer.cueCounter + 1 = cueInterval then
      ({ writer with
         cueTimestampIndex :=
           writer.cueTimestampIndex.appendElement
             (clipToUInt32 (.ofNat (writer.timestamp.elements.length - 1)))
         cueTimestamp :=
           writer.cueTimestamp.appendElement (clipRatToUInt64 entry.time)
         cueCounter := 0 }, none)
    else
      ({ writer with cueCounter := writer.cueCounter + 1 }, none)

def write : Throwing (Writer Double) WriteFailure :=
  Throwing.inOrder
    [appendValue library entry, appendTimestamp library entry,
      appendCue cueInterval entry]

/-! ## What a call does -/

variable {library cueInterval entry} {writer : Writer Double}

/-- A message that cannot be converted leaves everything as it is. -/
theorem write_of_error
    {failure : WriteFailure} (error : entry.converted library = .error failure) :
    write library cueInterval entry writer = (writer, some failure) := by
  apply Throwing.inOrder_of_threw
  rw [appendValue, error]

omit [Inhabited Double] in
theorem appendCue_returns : (appendCue cueInterval entry writer).2 = none := by
  simp only [appendCue]
  split_ifs <;> rfl

/-- Another one is appended, with a cue if one is due. -/
theorem write_of_ok
    {convertedValue : Double}
    (converted : entry.converted library = .ok convertedValue) :
    write library cueInterval entry writer =
      ((appendCue cueInterval entry
        { writer with
          values := writer.values.appendElement convertedValue
          timestamp :=
            writer.timestamp.appendElement
              (storedTime library entry.time) }).1, none) := by
  have valued :
      appendValue library entry writer =
        ({ writer with
           values := writer.values.appendElement convertedValue },
          none) := by
    rw [appendValue, converted]
  rw [write, Throwing.inOrder_of_returned valued,
    Throwing.inOrder_of_none rfl,
    Throwing.inOrder_of_none appendCue_returns]
  rfl

/-! ## Seconds and nanoseconds -/

/--
The seconds and the nanoseconds of a time are stored as the same number: the
time is below half a nanosecond, if it fits.
-/
def SameStored (library : Library Double) (time : ℚ) : Prop :=
  if SignedWord.InRange 64 (roundAway (10 ^ 9 * time)) then
    10 ^ 9 * time < 1 / 2
  else
    clipToUInt64 (library.lroundOutOfRange (10 ^ 9 * time)) =
      clipRatToUInt64 time

omit [Inhabited Double] in
theorem storedTime_eq_iff (library : Library Double) (time : ℚ) :
    storedTime library time = clipRatToUInt64 time ↔
      SameStored library time := by
  rw [storedTime, Library.lround, SameStored]
  split_ifs with fits
  · rw [← UInt64.toNat_inj, ← Int.natCast_inj, toNat_clipToUInt64,
      toNat_clipRatToUInt64,
      Int64.toInt_ofInt_of_le (by have := fits.1; omega)
        (by have := fits.2; omega)]
    by_cases small : 10 ^ 9 * time < 1 / 2
    · have nothing := roundAway_nonpos small
      have seconds : ⌊time⌋ ≤ 0 := by
        have below : ⌊time⌋ < 1 := by
          rw [Int.floor_lt]
          push_cast
          linarith
        omega
      apply iff_of_true _ small
      omega
    · have more :=
        floor_lt_roundAway (not_lt.mp small) (by norm_num)
      have nonneg : 0 ≤ ⌊time⌋ := by
        rw [Int.floor_nonneg]
        linarith [not_lt.mp small]
      apply iff_of_false _ small
      omega
  · exact Iff.rfl

end KafkaToNexus.WriterModule.Ns10
