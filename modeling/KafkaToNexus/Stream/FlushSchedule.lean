import KafkaToNexus.CLIOptions
import KafkaToNexus.Foundations.Periods

/-!
# The flush schedule of the writer thread

Between the jobs the writer thread looks at the clock, and flushes the file if
a flush is due.  The next one is due at the first multiple of the interval that
is later than the clock.  The number of intervals is computed as an `int`, and
the interval, which is given on the command line, may be zero.
-/

namespace KafkaToNexus.Stream.FlushSchedule

open KafkaToNexus
open KafkaToNexus.CLIOptions
open KafkaToNexus.Foundations.Periods
open KafkaToNexus.Foundations.SignedWord

/--
The time of the next flush, and whether there was one now.  Nothing is returned
where the code divides by zero.
-/
def flushOperation
    (flushInterval : Duration) (nextFlushTime now : TimePoint) :
    Option (TimePoint × Bool) :=
  if nextFlushTime ≤ now then
    if flushInterval = 0 then
      none
    else
      let flushPeriods :=
        wrap 32
          (wrap 32
              ((TimePoint.since now nextFlushTime).tdiv flushInterval) + 1)
      some
        (TimePoint.add nextFlushTime (wrap 64 (flushPeriods * flushInterval)),
          true)
  else
    some (nextFlushTime, false)

/-- One look at the clock. -/
structure FlushRecord where
  now : TimePoint
  /-- The time of the next flush before and after it. -/
  before : TimePoint
  after : TimePoint
  flushed : Bool
deriving DecidableEq, Repr

/-- The looks at the clock at the given readings. -/
def flushRecords (flushInterval : Duration) :
    TimePoint → List TimePoint → Option (List FlushRecord)
  | _, [] => some []
  | nextFlushTime, now :: readings => do
      let (after, flushed) ← flushOperation flushInterval nextFlushTime now
      let others ← flushRecords flushInterval after readings
      some ({ now, before := nextFlushTime, after, flushed } :: others)

/-- The first flush, counted from when the thread starts. -/
def firstFlushTime (flushInterval : Duration) (started : TimePoint) :
    TimePoint :=
  TimePoint.add started flushInterval

/-! ## The schedule -/

/-- Every expression that a flush evaluates has a value in its range. -/
structure InBounds (flushInterval : Int) (before now : Int) : Prop where
  notZero : flushInterval ≠ 0
  since : InRange 64 (now - before)
  quotient : InRange 32 ((now - before).tdiv flushInterval)
  periods : InRange 32 ((now - before).tdiv flushInterval + 1)
  product :
    InRange 64 (((now - before).tdiv flushInterval + 1) * flushInterval)
  sum :
    InRange 64
      (before + ((now - before).tdiv flushInterval + 1) * flushInterval)

/-- The reading lies between two values of the grid that follow each other. -/
def InPeriod (flushInterval first index : Int) (now : TimePoint) : Prop :=
  first + index * flushInterval ≤ now ∧
    now < first + (index + 1) * flushInterval

instance (flushInterval first index : Int) (now : TimePoint) :
    Decidable (InPeriod flushInterval first index now) :=
  inferInstanceAs (Decidable (_ ∧ _))

/-- What the looks at the clock are to be. -/
structure OnSchedule
    (flushInterval first : Int) (records : List FlushRecord) : Prop where
  inBounds :
    ∀ record ∈ records, record.flushed = true →
      InBounds flushInterval record.before record.now
  flushed_iff :
    ∀ record ∈ records,
      record.flushed = true ↔ record.before ≤ record.now
  next :
    ∀ record ∈ records, record.flushed = true →
      record.now < record.after ∧ record.after ≤ record.now + flushInterval
  grid :
    ∀ record ∈ records,
      ∃ index, record.after = first + index * flushInterval
  once :
    ∀ index,
      (records.filter fun record =>
        record.flushed ∧
          InPeriod flushInterval first index record.now).length ≤ 1

/-- The first flush time is in range, and nothing is divided by zero. -/
def Scheduled
    (flushInterval : Duration) (started : TimePoint)
    (readings : List TimePoint) : Prop :=
  InRange 64 (started + flushInterval) ∧
    ∃ records,
      flushRecords flushInterval (firstFlushTime flushInterval started)
          readings = some records ∧
        OnSchedule flushInterval (started + flushInterval) records

/-! ## When there is room for the next flush time -/

/--
No flush is due, or the interval is positive, the number of intervals is one of
an `int`, and the new flush time and its distance from the old one are in range.
-/
def Room (flushInterval before now : Int) : Prop :=
  now < before ∨
    0 < flushInterval ∧
      periods flushInterval before now < 2 ^ 31 ∧
      nextDue flushInterval before now - before ≤ TimePoint.max ∧
      nextDue flushInterval before now ≤ TimePoint.max

/-- There is room at every reading. -/
def RoomThroughout (flushInterval : Int) : Int → List TimePoint → Prop
  | _, [] => True
  | before, now :: readings =>
      Room flushInterval before now ∧
        RoomThroughout flushInterval (nextDue flushInterval before now)
          readings

section Step

variable {flushInterval before now : Int}

theorem quotient_eq (reached : before ≤ now) :
    (now - before).tdiv flushInterval + 1 =
      periods flushInterval before now := by
  rw [periods, Int.tdiv_eq_ediv_of_nonneg (sub_nonneg.mpr reached)]

/-- In its bounds, a flush computes the next value of the grid. -/
theorem InBounds.flushOperation
    (bounds : InBounds flushInterval before now) (reached : before ≤ now) :
    flushOperation flushInterval before now =
      some (nextDue flushInterval before now, true) := by
  have due : (before : TimePoint) ≤ now := reached
  have notZero : ¬ (flushInterval : Duration) = 0 := bounds.notZero
  rw [FlushSchedule.flushOperation, if_pos due, if_neg notZero,
    TimePoint.since, wrap_of_inRange bounds.since,
    wrap_of_inRange bounds.quotient, wrap_of_inRange bounds.periods]
  dsimp only
  rw [wrap_of_inRange bounds.product, TimePoint.add,
    wrap_of_inRange bounds.sum, quotient_eq reached, nextDue_of_le reached]

theorem flushOperation_of_lt (early : now < before) :
    flushOperation flushInterval before now =
      some (nextDue flushInterval before now, false) := by
  have notDue : ¬ (before : TimePoint) ≤ now := not_le.mpr early
  rw [FlushSchedule.flushOperation, if_neg notDue, nextDue_of_lt early]

/-- Where there is room, a flush stays in its bounds. -/
theorem inBounds_of_room
    (fits : InRange 64 before) (reached : before ≤ now)
    (room : Room flushInterval before now) :
    InBounds flushInterval before now := by
  rcases room with early | ⟨positive, few, distance, inTime⟩
  · exact absurd reached (not_le.mpr early)
  · have later := @lt_nextDue flushInterval before now positive
    have some_ := periods_pos reached positive
    have quotient := @quotient_eq flushInterval before now reached
    have product := @nextDue_of_le flushInterval before now reached
    rw [← quotient] at few some_ product
    rw [TimePoint.max] at distance inTime
    have lower := fits.1
    constructor
    · exact ne_of_gt positive
    · constructor
      · omega
      · omega
    · constructor
      · omega
      · omega
    · constructor
      · omega
      · omega
    · constructor
      · omega
      · omega
    · rw [← product]
      constructor
      · omega
      · omega

/-- A flush that stays in its bounds and moves on has had room. -/
theorem InBounds.room
    (bounds : InBounds flushInterval before now) (reached : before ≤ now)
    (positive : 0 < flushInterval) : Room flushInterval before now := by
  right
  have quotient := @quotient_eq flushInterval before now reached
  have product := @nextDue_of_le flushInterval before now reached
  rw [← quotient] at product ⊢
  have periodsUpper := bounds.periods.2
  have productUpper := bounds.product.2
  have sumUpper := bounds.sum.2
  rw [product, TimePoint.max]
  constructor
  · exact positive
  · constructor
    · omega
    · constructor
      · omega
      · omega

end Step

/-! ## Runs -/

section Runs

variable {flushInterval before first : Int} {now : TimePoint}
  {readings : List TimePoint} {records : List FlushRecord}

/-- The looks at the clock where there is room at the first of them. -/
theorem flushRecords_of_room
    (fits : InRange 64 before) (room : Room flushInterval before now) :
    flushRecords flushInterval before (now :: readings) =
      (flushRecords flushInterval (nextDue flushInterval before now)
        readings).map fun others =>
          { now, before, after := nextDue flushInterval before now
            flushed := decide (before ≤ now) } :: others := by
  have operation :
      flushOperation flushInterval before now =
        some (nextDue flushInterval before now, decide (before ≤ now)) := by
    by_cases reached : before ≤ now
    · rw [(inBounds_of_room fits reached room).flushOperation reached,
        decide_eq_true reached]
    · rw [flushOperation_of_lt (not_le.mp reached),
        decide_eq_false reached]
  rw [flushRecords, operation, Option.bind_eq_bind, Option.bind_some]
  dsimp only
  cases flushRecords flushInterval (nextDue flushInterval before now)
    readings with
  | none => rfl
  | some others => rfl

/-- The next flush time stays in range where there is room. -/
theorem inRange_nextDue
    (fits : InRange 64 before) (room : Room flushInterval before now) :
    InRange 64 (nextDue flushInterval before now) := by
  rcases room with early | ⟨positive, _, _, inTime⟩
  · rw [nextDue_of_lt early]
    exact fits
  · have later := @le_nextDue flushInterval before now positive
    have lower := fits.1
    rw [TimePoint.max] at inTime
    constructor
    · omega
    · omega

/-- What the first look at the clock and the others have returned. -/
theorem exists_of_flushRecords_cons
    (run :
      flushRecords flushInterval before (now :: readings) = some records) :
    ∃ after flushed others,
      flushOperation flushInterval before now = some (after, flushed) ∧
        flushRecords flushInterval after readings = some others ∧
        records = { now, before, after, flushed } :: others := by
  rw [flushRecords, Option.bind_eq_bind, Option.bind_eq_some_iff] at run
  rcases run with ⟨⟨after, flushed⟩, operation, run⟩
  rw [Option.bind_eq_bind, Option.bind_eq_some_iff] at run
  rcases run with ⟨others, rest, equal⟩
  exact ⟨after, flushed, others, operation, rest, (Option.some.inj equal).symm⟩

end Runs

section Schedule

variable {flushInterval first : Int} {record : FlushRecord}
  {others : List FlushRecord}

/-- After a flush no other one comes in its period. -/
theorem filter_eq_nil_of_later
    (positive : 0 < flushInterval) {index : Int}
    (inPeriod : InPeriod flushInterval first index record.now)
    (moved : record.now < record.after)
    (grid : ∃ current, record.after = first + current * flushInterval)
    (schedule : OnSchedule flushInterval first others)
    (late : ∀ later ∈ others, record.after ≤ later.before) :
    (others.filter fun later =>
      later.flushed ∧ InPeriod flushInterval first index later.now) = [] := by
  rw [List.filter_eq_nil_iff]
  intro later member found
  rcases of_decide_eq_true found with ⟨flushed, _, beforeEnd⟩
  rcases grid with ⟨current, grid⟩
  have reached := (schedule.flushed_iff later member).mp flushed
  rw [grid] at moved
  have ending := period_le positive inPeriod.1 moved
  rw [← grid] at ending
  exact absurd (ending.trans ((late later member).trans reached))
    (not_le.mpr beforeEnd)

theorem OnSchedule.nil : OnSchedule flushInterval first [] := by
  constructor
  · exact List.forall_mem_nil _
  · exact List.forall_mem_nil _
  · exact List.forall_mem_nil _
  · exact List.forall_mem_nil _
  · intro index
    exact Nat.zero_le 1

/-- A look at the clock before others that are on schedule. -/
theorem OnSchedule.cons
    (schedule : OnSchedule flushInterval first others)
    (inBounds :
      record.flushed = true →
        InBounds flushInterval record.before record.now)
    (flushed_iff : record.flushed = true ↔ record.before ≤ record.now)
    (next :
      record.flushed = true →
        record.now < record.after ∧
          record.after ≤ record.now + flushInterval)
    (grid : ∃ index, record.after = first + index * flushInterval)
    (late : ∀ later ∈ others, record.after ≤ later.before) :
    OnSchedule flushInterval first (record :: others) := by
  constructor
  · exact List.forall_mem_cons.mpr ⟨inBounds, schedule.inBounds⟩
  · exact List.forall_mem_cons.mpr ⟨flushed_iff, schedule.flushed_iff⟩
  · exact List.forall_mem_cons.mpr ⟨next, schedule.next⟩
  · exact List.forall_mem_cons.mpr ⟨grid, schedule.grid⟩
  · intro index
    by_cases chosen :
        record.flushed ∧ InPeriod flushInterval first index record.now
    · rcases next chosen.1 with ⟨moved, upper⟩
      have positive : 0 < flushInterval := by
        have room := moved.trans_le upper
        exact pos_of_lt_add_right room
      rw [List.filter_cons, if_pos (decide_eq_true chosen),
        filter_eq_nil_of_later positive chosen.2 moved grid schedule late]
      exact le_refl 1
    · rw [List.filter_cons, if_neg (by rwa [decide_eq_true_iff])]
      exact schedule.once index

/-- The looks at the clock after the first one are on schedule. -/
theorem OnSchedule.tail
    (schedule : OnSchedule flushInterval first (record :: others)) :
    OnSchedule flushInterval first others := by
  constructor
  · exact (List.forall_mem_cons.mp schedule.inBounds).2
  · exact (List.forall_mem_cons.mp schedule.flushed_iff).2
  · exact (List.forall_mem_cons.mp schedule.next).2
  · exact (List.forall_mem_cons.mp schedule.grid).2
  · intro index
    exact
      ((List.sublist_cons_self record others).filter _).length_le.trans
        (schedule.once index)

end Schedule

section Equivalence

variable {flushInterval first : Int}

/-- With room throughout, the looks at the clock are on schedule. -/
theorem exists_onSchedule (readings : List TimePoint) :
    ∀ {before : Int}, InRange 64 before →
      (∃ index, before = first + index * flushInterval) →
      RoomThroughout flushInterval before readings →
      ∃ records,
        flushRecords flushInterval before readings = some records ∧
          OnSchedule flushInterval first records ∧
          ∀ record ∈ records, before ≤ record.before := by
  induction readings with
  | nil =>
      intro before _ _ _
      exact ⟨[], rfl, OnSchedule.nil, List.forall_mem_nil _⟩
  | cons now readings inductionHypothesis =>
      intro before fits grid throughout
      rcases throughout with ⟨room, rest⟩
      rcases grid with ⟨index, grid⟩
      rcases inductionHypothesis (inRange_nextDue fits room)
          (nextDue_grid grid) rest with
        ⟨others, run, schedule, late⟩
      have moved : before ≤ nextDue flushInterval before now := by
        rcases room with early | ⟨positive, _⟩
        · exact le_of_eq (nextDue_of_lt early).symm
        · exact le_nextDue positive
      have whole :=
        @flushRecords_of_room flushInterval before now readings fits room
      rw [run, Option.map_some] at whole
      refine ⟨_, whole, ?_, ?_⟩
      · apply schedule.cons
        · intro flushed
          exact inBounds_of_room fits (of_decide_eq_true flushed) room
        · exact decide_eq_true_iff
        · intro flushed
          have reached : before ≤ now := of_decide_eq_true flushed
          rcases room with early | ⟨positive, _⟩
          · exact absurd reached (not_le.mpr early)
          · exact ⟨lt_nextDue positive, nextDue_le reached positive⟩
        · exact nextDue_grid grid
        · exact late
      · intro record member
        rcases List.mem_cons.mp member with equal | member
        · rw [equal]
        · exact moved.trans (late record member)

/-- Looks at the clock that are on schedule have had room throughout. -/
theorem roomThroughout_of_onSchedule (readings : List TimePoint) :
    ∀ {before : Int} {records : List FlushRecord},
      flushRecords flushInterval before readings = some records →
      OnSchedule flushInterval first records →
      RoomThroughout flushInterval before readings := by
  induction readings with
  | nil =>
      intro before records _ _
      trivial
  | cons now readings inductionHypothesis =>
      intro before records run schedule
      rcases exists_of_flushRecords_cons run with
        ⟨after, flushed, others, operation, rest, equal⟩
      subst equal
      have flushed_iff := (List.forall_mem_cons.mp schedule.flushed_iff).1
      have next := (List.forall_mem_cons.mp schedule.next).1
      have inBounds := (List.forall_mem_cons.mp schedule.inBounds).1
      by_cases reached : before ≤ now
      · have performed := flushed_iff.mpr reached
        have bounds := inBounds performed
        have positive : 0 < flushInterval :=
          pos_of_lt_add_right
            ((next performed).1.trans_le (next performed).2)
        rw [bounds.flushOperation reached] at operation
        have pair := Option.some.inj operation
        rw [← (Prod.mk.inj pair).1] at rest
        exact ⟨bounds.room reached positive,
          inductionHypothesis rest schedule.tail⟩
      · have early : now < before := not_le.mp reached
        rw [flushOperation_of_lt early] at operation
        have pair := Option.some.inj operation
        rw [← (Prod.mk.inj pair).1] at rest
        exact ⟨Or.inl early, inductionHypothesis rest schedule.tail⟩

/-- The first flush time, if it is in range. -/
theorem firstFlushTime_of_inRange {started : Int}
    (fits : InRange 64 (started + flushInterval)) :
    firstFlushTime flushInterval started = started + flushInterval :=
  wrap_of_inRange fits

end Equivalence

/-! ## The schedule for the intervals of the command line -/

section Admitted

variable {flushInterval : Int}

/-- The longest time between two looks at the clock that is always counted. -/
def longestGap : Int :=
  (2 ^ 31 - 1) * 1000000

/-- There is room after a short time, if the clock is far from its end. -/
theorem room_of_gap {before now : Int}
    (milliseconds : ∃ count : Int32, flushInterval = count.toInt * 1000000)
    (positive : 0 < flushInterval) (gap : now - before < longestGap)
    (inTime : now + flushInterval ≤ TimePoint.max) :
    Room flushInterval before now := by
  by_cases reached : before ≤ now
  · have upper := nextDue_le reached positive
    rcases milliseconds with ⟨count, milliseconds⟩
    have countUpper := count.toInt_lt
    have few : (now - before) / flushInterval < 2 ^ 31 - 1 := by
      apply Int.ediv_lt_of_lt_mul positive
      rw [longestGap] at gap
      omega
    right
    rw [longestGap] at gap
    rw [TimePoint.max] at inTime ⊢
    constructor
    · exact positive
    · constructor
      · rw [periods]
        omega
      · constructor
        · omega
        · omega
  · left
    exact not_le.mp reached

/-- There is room throughout when no two looks are far from each other. -/
theorem roomThroughout_of_gaps
    (milliseconds : ∃ count : Int32, flushInterval = count.toInt * 1000000)
    (positive : 0 < flushInterval) (readings : List TimePoint) :
    ∀ {last before : Int}, last ≤ before →
      (last :: readings).IsChain
        (fun earlier later => later - earlier < longestGap) →
      (∀ now ∈ readings, now + flushInterval ≤ TimePoint.max) →
      RoomThroughout flushInterval before readings := by
  induction readings with
  | nil =>
      intro last before _ _ _
      trivial
  | cons now readings inductionHypothesis =>
      intro last before ahead gaps inTime
      rcases List.isChain_cons_cons.mp gaps with ⟨gap, gaps⟩
      rcases List.forall_mem_cons.mp inTime with ⟨nowInTime, restInTime⟩
      have short : now - before < longestGap :=
        (sub_le_sub_left ahead now).trans_lt gap
      exact ⟨room_of_gap milliseconds positive short nowInTime,
        inductionHypothesis (le_of_lt (lt_nextDue positive)) gaps restInTime⟩

/-- The grid begins with the first flush time. -/
theorem first_onGrid (first : Int) :
    ∃ index, first = first + index * flushInterval := by
  refine ⟨0, ?_⟩
  rw [zero_mul, add_zero]

/-- With room throughout from the start, the flushes are on schedule. -/
theorem scheduled_of_roomThroughout {started : Int} {readings : List TimePoint}
    (fits : InRange 64 (started + flushInterval))
    (throughout :
      RoomThroughout flushInterval (started + flushInterval) readings) :
    Scheduled flushInterval started readings := by
  rcases exists_onSchedule readings fits (first_onGrid _) throughout with
    ⟨records, run, schedule, _⟩
  refine ⟨fits, records, ?_, schedule⟩
  rw [firstFlushTime_of_inRange fits]
  exact run

end Admitted

/--
A positive interval of the command line is kept when the thread never goes
without a look at the clock for as many milliseconds as an `int` counts.
-/
theorem scheduled_of_gaps
    {total : String → Nat → Option Int32} {text : String}
    {flushInterval : Duration} {started : Int} {readings : List TimePoint}
    (admitted : addDurationOption total text = some flushInterval)
    (positive : 0 < flushInterval)
    (fits : InRange 64 (started + flushInterval))
    (gaps :
      (started :: readings).IsChain
        fun earlier later => later - earlier < longestGap)
    (inTime : ∀ now ∈ readings, now + flushInterval ≤ TimePoint.max) :
    Scheduled flushInterval started readings := by
  have ahead : started ≤ started + flushInterval :=
    le_add_of_nonneg_right (le_of_lt positive)
  exact scheduled_of_roomThroughout fits
    (roomThroughout_of_gaps (exists_milliseconds admitted) positive readings
      ahead gaps inTime)

/--
The flushes are on schedule exactly when the first flush time is in range and
there is room for each of the next ones.
-/
theorem scheduled_iff
    (flushInterval : Duration) (started : TimePoint)
    (readings : List TimePoint) :
    Scheduled flushInterval started readings ↔
      InRange 64 (started + flushInterval) ∧
        RoomThroughout flushInterval (started + flushInterval) readings := by
  constructor
  · rintro ⟨fits, records, run, schedule⟩
    rw [firstFlushTime_of_inRange fits] at run
    exact ⟨fits, roomThroughout_of_onSchedule readings run schedule⟩
  · rintro ⟨fits, throughout⟩
    exact scheduled_of_roomThroughout fits throughout

/-- Milliseconds from a number without a fraction. -/
def wholeTotal (number : String) (factor : Nat) : Option Int32 :=
  some <|
    Int32.ofNat <|
      factor *
        number.toList.foldl
          (fun value digit => 10 * value + (digit.toNat - '0'.toNat)) 0

/-- The option admits an interval of zero, by which the first flush divides. -/
theorem not_scheduled_zero :
    addDurationOption wholeTotal "0" = some 0 ∧
      [(0 : TimePoint)].Pairwise (· ≤ ·) ∧ ¬ Scheduled 0 0 [0] := by
  refine ⟨by decide +kernel, List.pairwise_singleton _ _, ?_⟩
  rintro ⟨_, records, run, _⟩
  have divided : flushRecords 0 (firstFlushTime 0 0) [0] = none := by
    decide +kernel
  rw [divided] at run
  cases run

end KafkaToNexus.Stream.FlushSchedule
