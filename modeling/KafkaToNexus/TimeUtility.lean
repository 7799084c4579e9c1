import KafkaToNexus.Foundations.SignedWord

/-!
# Time points and durations

`time_point` and `duration` of the source are signed 64-bit counts of
nanoseconds, those of `std::chrono::system_clock`.  They are modelled as
integers; every sum or difference that the source computes goes through the
reduction to 64 bits.  Clock readings are inputs of the functions that take
them.
-/

namespace KafkaToNexus

open KafkaToNexus.Foundations.SignedWord

/-- Nanoseconds since the epoch. -/
abbrev TimePoint := Int

/-- A number of nanoseconds. -/
abbrev Duration := Int

namespace TimePoint

/-- The value of `time_point::max()`. -/
def max : TimePoint := 2 ^ 63 - 1

/-- The sum of a time point and a duration. -/
def add (time : TimePoint) (span : Duration) : TimePoint :=
  wrap 64 (time + span)

/-- The difference of a time point and a duration. -/
def sub (time : TimePoint) (span : Duration) : TimePoint :=
  wrap 64 (time - span)

/-- The duration between two time points. -/
def since (later earlier : TimePoint) : Duration :=
  wrap 64 (later - earlier)

/-- The time point that lies a number of milliseconds after the epoch. -/
def ofMilliseconds (count : Int) : TimePoint :=
  wrap 64 (count * 1000000)

/-- The milliseconds since the epoch, as the cast truncates them. -/
def toMilliSeconds (time : TimePoint) : Int :=
  time.tdiv 1000000

/-- The time point of a nanosecond count that was cast to microseconds. -/
def ofMicrosecondCast (nanoseconds : Int) : TimePoint :=
  truncateTo 1000 nanoseconds

theorem ofMicrosecondCast_le_ofMicrosecondCast
    {lower upper : Int} (ordered : lower ≤ upper) :
    ofMicrosecondCast lower ≤ ofMicrosecondCast upper :=
  truncateTo_le_truncateTo (by decide) ordered

/-- A count below the truncated one stands for an earlier time. -/
theorem milliseconds_lt_of_lt_toMilliSeconds
    {count : Int} {time : TimePoint} (lower : count < toMilliSeconds time) :
    count * 1000000 < time := by
  have split := Int.mul_tdiv_add_tmod time 1000000
  have above := Int.lt_tmod_of_pos time (by decide : (0 : Int) < 1000000)
  rw [toMilliSeconds] at lower
  omega

theorem add_of_inRange
    {time : TimePoint} {span : Duration}
    (fits : InRange 64 (time + span)) :
    add time span = time + span :=
  wrap_of_inRange fits

end TimePoint

/-! ## Time-outs -/

/-- The time-out of the next attempt, twice as long up to a limit. -/
def Duration.doubledUpTo (timeOut limit : Duration) : Duration :=
  let doubled := wrap 64 (timeOut * 2)
  if limit < doubled then limit else doubled

/-- Doubling keeps a time-out in its range when twice its value fits the word. -/
theorem Duration.doubledUpTo_range
    {timeOut lower limit : Int}
    (positive : 0 ≤ timeOut) (low : lower ≤ timeOut) (high : timeOut ≤ limit)
    (fits : InRange 64 (timeOut * 2)) :
    lower ≤ doubledUpTo timeOut limit ∧ doubledUpTo timeOut limit ≤ limit := by
  unfold doubledUpTo Duration
  rw [wrap_of_inRange fits]
  dsimp only
  split <;> omega

/-- A time-out of 146 years becomes negative, whatever the limit is. -/
example : Duration.doubledUpTo (2 ^ 62) (2 ^ 62) = -2 ^ 63 := by decide

/--
Stop times too close to the largest time point are moved back by the leeway,
so that adding the leeway later does not overflow.
-/
def backOffStopTime (stop : TimePoint) (leeway : Duration) : TimePoint :=
  if TimePoint.since TimePoint.max stop ≤ leeway then
    TimePoint.sub stop leeway
  else
    stop

end KafkaToNexus
