import KafkaToNexus.Foundations.Mealy
import KafkaToNexus.Foundations.Streak
import KafkaToNexus.Stream.StopTimeRange

/-!
# Stop decisions over whole runs

A partition is polled again and again, and before each decision a stop may be
forced or the stop time be moved.  The fields of `PartitionFilter` summarise
the polls seen so far: its state is that of the last poll, and for polls that
failed or timed out its occurrence time is the clock reading of the first poll
of the uninterrupted run that the last poll belongs to.  This is the invariant
`Tracks`; the decisions and the time-out warning are read off from it.
-/

namespace KafkaToNexus.Stream.StopDecisions

open KafkaToNexus
open KafkaToNexus.Foundations
open KafkaToNexus.Foundations.SignedWord
open KafkaToNexus.Foundations.Streak

variable {Dest : Type*}

/-- What happens to the stop logic of a partition. -/
inductive StopInput where
  | forceStop
  | setStopTime (stop : TimePoint)
  | poll (status : PollStatus) (clock : PollClock)
deriving DecidableEq, Repr

/-- One processed poll with the decision about it. -/
structure PollRecord where
  status : PollStatus
  clock : PollClock
  /-- A stop had been requested when the poll was processed. -/
  forced : Bool
  /-- The time-out warning was logged. -/
  warned : Bool
  /-- The partition was told to stop. -/
  stopped : Bool
deriving DecidableEq, Repr

/-- The record of processing one poll. -/
def recordPoll
    (partition : Partition Dest) (status : PollStatus) (clock : PollClock) :
    PollRecord :=
  let decision := partition.shouldStopBasedOnPollStatus status clock
  { status, clock
    forced := partition.hasStopBeenRequested
    warned := decision.warned
    stopped := decision.stopped }

def step
    (partition : Partition Dest) :
    StopInput → Partition Dest × List PollRecord
  | .forceStop => (partition.forceStop, [])
  | .setStopTime stop => (partition.applyStopTime stop, [])
  | .poll status clock =>
      ((partition.shouldStopBasedOnPollStatus status clock).partition,
        [recordPoll partition status clock])

/-- The stop time in force after a list of inputs. -/
def stopTimeAfter (initial : TimePoint) (inputs : List StopInput) : TimePoint :=
  inputs.foldl
    (fun current input =>
      match input with
      | .setStopTime stop => stop
      | .forceStop => current
      | .poll _ _ => current)
    initial

/-- All readings of the clock, in the order in which they are taken. -/
def readings (inputs : List StopInput) : List TimePoint :=
  inputs.flatMap fun
    | .poll _ clock => [clock.checked, clock.occurred, clock.now]
    | .forceStop => []
    | .setStopTime _ => []

/-- The state that the last poll leaves. -/
def stateOf : PollStatus → PartitionState
  | .message => .default
  | .endOfPartition => .endOfPartition
  | .timedOut => .timeout
  | .error => .error

/-- The polls of one status, as a property of their records. -/
def HasStatus (status : PollStatus) (record : PollRecord) : Prop :=
  record.status = status

/-! ## One decision -/

theorem recordPoll_warned
    (partition : Partition Dest) (status : PollStatus) (clock : PollClock) :
    (recordPoll partition status clock).warned =
      (partition.stopTester.hasTopicTimedOut clock.checked &&
        !partition.partitionTimeOutLogged) := by
  simp [recordPoll, Partition.shouldStopBasedOnPollStatus_eq]

theorem recordPoll_stopped
    (partition : Partition Dest) (status : PollStatus) (clock : PollClock) :
    (recordPoll partition status clock).stopped =
      (partition.stopTester.shouldStopPartition status clock.occurred
        clock.now).2 := by
  simp [recordPoll, Partition.shouldStopBasedOnPollStatus_eq]

theorem decision_stopTester
    (partition : Partition Dest) (status : PollStatus) (clock : PollClock) :
    (partition.shouldStopBasedOnPollStatus status clock).partition.stopTester =
      (partition.stopTester.shouldStopPartition status clock.occurred
        clock.now).1 := by
  simp [Partition.shouldStopBasedOnPollStatus_eq]

theorem decision_logged
    (partition : Partition Dest) (status : PollStatus) (clock : PollClock) :
    (partition.shouldStopBasedOnPollStatus status
        clock).partition.partitionTimeOutLogged =
      partition.stopTester.hasTopicTimedOut clock.checked := by
  simp [Partition.shouldStopBasedOnPollStatus_eq]

/-- Unless a stop is forced, a poll leaves the state of its status. -/
theorem shouldStopPartition_state
    {filter : PartitionFilter} (status : PollStatus)
    (occurred now : TimePoint)
    (free : filter.forceStopRequested = false) :
    (filter.shouldStopPartition status occurred now).1.state =
      stateOf status := by
  cases status <;>
    simp [PartitionFilter.shouldStopPartition,
      PartitionFilter.hasForceStopBeenRequested, free, stateOf,
      PartitionFilter.updateStatusOccurrenceTime]
  · split <;> simp_all
  · split <;> simp_all

/-- A poll that repeats a failing status keeps the time of its occurrence. -/
theorem shouldStopPartition_occurrence
    {filter : PartitionFilter} {status : PollStatus}
    (occurred now : TimePoint)
    (free : filter.forceStopRequested = false)
    (failing : status = .error ∨ status = .timedOut) :
    (filter.shouldStopPartition status occurred now).1.statusOccurrenceTime =
      if filter.state = stateOf status then filter.statusOccurrenceTime
      else occurred := by
  by_cases same : filter.state = stateOf status <;>
    rcases failing with rfl | rfl <;>
      simp_all [PartitionFilter.shouldStopPartition,
        PartitionFilter.hasForceStopBeenRequested, stateOf,
        PartitionFilter.updateStatusOccurrenceTime]

/-! ## What the fields say about the polls so far -/

/--
The polls of `status` at the end of the history form a streak whose first poll
set the occurrence time.
-/
def Since
    (status : PollStatus) (records : List PollRecord)
    (filter : PartitionFilter) (first : PollRecord) (rest : List PollRecord) :
    Prop :=
  EndsWithStreak (HasStatus status) records first rest ∧
    filter.statusOccurrenceTime = first.clock.occurred

/--
The fields of the stop logic after a list of inputs, of which the polls have
been recorded.
-/
structure Tracks
    (initialStop : TimePoint) (leeway limit : Duration)
    (inputs : List StopInput) (records : List PollRecord)
    (partition : Partition Dest) : Prop where
  forced_iff :
    partition.stopTester.forceStopRequested = true ↔ .forceStop ∈ inputs
  stopTime_eq :
    partition.stopTester.stopTime = stopTimeAfter initialStop inputs
  leeway_eq : partition.stopTester.stopLeeway = leeway
  limit_eq : partition.stopTester.timeLimit = limit
  clocks :
    ∀ record ∈ records,
      record.clock.checked ∈ readings inputs ∧
        record.clock.occurred ∈ readings inputs
  forced_records :
    ∀ record ∈ records, record.forced = true → .forceStop ∈ inputs
  /-- Nothing more is known once a poll was processed after a forced stop. -/
  state_eq :
    (∀ record ∈ records, record.forced = false) →
      partition.stopTester.state =
        (records.getLast?.map fun last => stateOf last.status).getD .default
  streak :
    (∀ record ∈ records, record.forced = false) →
      ∀ status, status = .error ∨ status = .timedOut →
        partition.stopTester.state = stateOf status →
          ∃ first rest, Since status records partition.stopTester first rest
  warnings :
    (∀ record ∈ records, record.forced = false) →
      partition.stopTester.state = .timeout →
        ∀ first rest, Since .timedOut records partition.stopTester first rest →
          first.warned = false ∧
            (∀ record ∈ rest, record.warned = true →
              first.clock.occurred + limit < record.clock.checked) ∧
            (partition.partitionTimeOutLogged = true ↔
              ∃ record ∈ rest, record.warned = true)

@[simp]
theorem readings_append (first second : List StopInput) :
    readings (first ++ second) = readings first ++ readings second := by
  simp [readings]

@[simp]
theorem stopTimeAfter_concat
    (initial : TimePoint) (inputs : List StopInput) (input : StopInput) :
    stopTimeAfter initial (inputs ++ [input]) =
      stopTimeAfter (stopTimeAfter initial inputs) [input] := by
  simp [stopTimeAfter]

theorem tracks_create
    (map : SrcToDst Dest) (start stop : TimePoint)
    (leeway limit : Duration) :
    Tracks (backOffStopTime stop leeway) leeway limit [] []
      (Partition.create map start stop leeway limit) := by
  constructor <;>
    simp [Partition.create, PartitionFilter.create, stopTimeAfter, stateOf]

/-- Forcing a stop or moving the stop time leaves the history as it is. -/
theorem Tracks.settings
    {initialStop : TimePoint} {leeway limit : Duration}
    {inputs : List StopInput} {records : List PollRecord}
    {partition next : Partition Dest} {input : StopInput}
    (tracks : Tracks initialStop leeway limit inputs records partition)
    (same :
      next.stopTester.stopLeeway = partition.stopTester.stopLeeway ∧
        next.stopTester.timeLimit = partition.stopTester.timeLimit ∧
        next.stopTester.state = partition.stopTester.state ∧
        next.stopTester.statusOccurrenceTime =
          partition.stopTester.statusOccurrenceTime ∧
        next.partitionTimeOutLogged = partition.partitionTimeOutLogged)
    (forced :
      next.stopTester.forceStopRequested = true ↔
        .forceStop ∈ inputs ++ [input])
    (stopTime :
      next.stopTester.stopTime =
        stopTimeAfter initialStop (inputs ++ [input])) :
    Tracks initialStop leeway limit (inputs ++ [input]) records next := by
  rcases same with ⟨leewaySame, limitSame, stateSame, timeSame, loggedSame⟩
  exact
    { forced_iff := forced
      stopTime_eq := stopTime
      leeway_eq := by rw [leewaySame, tracks.leeway_eq]
      limit_eq := by rw [limitSame, tracks.limit_eq]
      clocks := by
        intro record member
        have known := tracks.clocks record member
        simp only [readings_append, List.mem_append]
        exact ⟨Or.inl known.1, Or.inl known.2⟩
      forced_records := by
        intro record member wasForced
        exact List.mem_append_left _
          (tracks.forced_records record member wasForced)
      state_eq := by
        intro unforced
        rw [stateSame]
        exact tracks.state_eq unforced
      streak := by
        intro unforced status failing state
        rw [stateSame] at state
        unfold Since
        rw [timeSame]
        exact tracks.streak unforced status failing state
      warnings := by
        intro unforced state first rest since
        rw [stateSame] at state
        unfold Since at since
        rw [timeSame] at since
        rw [loggedSame]
        exact tracks.warnings unforced state first rest since }

/-! ## A poll extends the streak or begins a new one -/

theorem stateOf_injective : Function.Injective stateOf := by
  intro first second equal
  cases first <;> cases second <;> simp_all [stateOf]

/-- A failing poll either extends the streak so far or begins its own. -/
theorem Tracks.since_poll
    {initialStop : TimePoint} {leeway limit : Duration}
    {inputs : List StopInput} {records : List PollRecord}
    {partition : Partition Dest}
    (tracks : Tracks initialStop leeway limit inputs records partition)
    (unforced : ∀ record ∈ records, record.forced = false)
    (free : partition.stopTester.forceStopRequested = false)
    {status : PollStatus} (clock : PollClock)
    (failing : status = .error ∨ status = .timedOut) :
    let next :=
      (partition.shouldStopBasedOnPollStatus status clock).partition
    let entry := recordPoll partition status clock
    (partition.stopTester.state = stateOf status ∧
      ∃ first rest,
        Since status records partition.stopTester first rest ∧
          Since status (records ++ [entry]) next.stopTester first
            (rest ++ [entry])) ∨
    (partition.stopTester.state ≠ stateOf status ∧
      Since status (records ++ [entry]) next.stopTester entry []) := by
  intro next entry
  have occurrence :
      next.stopTester.statusOccurrenceTime =
        if partition.stopTester.state = stateOf status then
          partition.stopTester.statusOccurrenceTime
        else clock.occurred := by
    rw [decision_stopTester,
      shouldStopPartition_occurrence clock.occurred clock.now free failing]
  have entryHas : HasStatus status entry := rfl
  by_cases same : partition.stopTester.state = stateOf status
  · left
    rcases tracks.streak unforced status failing same with
      ⟨first, rest, since⟩
    refine ⟨same, first, rest, since, since.1.extend entryHas, ?_⟩
    rw [occurrence, if_pos same]
    exact since.2
  · right
    refine ⟨same, endsWithStreak_begin ?_ entryHas, ?_⟩
    · intro last isLast hasStatus
      apply same
      rw [tracks.state_eq unforced, isLast, Option.map_some, Option.getD_some]
      exact congrArg stateOf hasStatus
    · rw [occurrence, if_neg same]
      rfl

/-- Within a streak of time-outs the topic has timed out once it lasts long. -/
theorem hasTopicTimedOut_iff
    {filter : PartitionFilter} {records rest : List PollRecord}
    {first : PollRecord} {limit : Duration} (now : TimePoint)
    (state : filter.state = .timeout)
    (limited : filter.timeLimit = limit)
    (since : Since .timedOut records filter first rest)
    (fits : InRange 64 (first.clock.occurred + limit)) :
    filter.hasTopicTimedOut now = true ↔
      first.clock.occurred + limit < now := by
  simp [PartitionFilter.hasTopicTimedOut, PartitionFilter.hasExceededTimeLimit,
    state, limited, since.2, TimePoint.add_of_inRange fits]

theorem Since.first_mem
    {status : PollStatus} {records rest : List PollRecord}
    {filter : PartitionFilter} {first : PollRecord}
    (since : Since status records filter first rest) :
    first ∈ records ∧ ∀ record ∈ rest, record ∈ records := by
  rcases since.1.splits with ⟨before, equal, _⟩
  subst equal
  constructor
  · simp
  · intro record member
    simp [member]

/-- A readings list that ends with a poll bounds all earlier readings. -/
theorem earlier_le_checked
    {inputs : List StopInput} {status : PollStatus} {clock : PollClock}
    (ordered :
      (readings (inputs ++ [.poll status clock])).Pairwise (· ≤ ·))
    {reading : TimePoint} (member : reading ∈ readings inputs) :
    reading ≤ clock.checked := by
  rw [readings_append, List.pairwise_append] at ordered
  exact ordered.2.2 reading member clock.checked (by simp [readings])

/--
The warnings of a streak of time-outs, after one more time-out: they all came
when the streak had lasted longer than the limit, and the flag says whether
there was one.
-/
theorem Tracks.warnings_poll
    {initialStop : TimePoint} {leeway limit : Duration}
    {inputs : List StopInput} {records : List PollRecord}
    {partition : Partition Dest}
    (tracks : Tracks initialStop leeway limit inputs records partition)
    (unforced : ∀ record ∈ records, record.forced = false)
    (free : partition.stopTester.forceStopRequested = false)
    {clock : PollClock}
    (ordered :
      (readings (inputs ++ [.poll .timedOut clock])).Pairwise (· ≤ ·))
    (fits : ∀ reading ∈ readings inputs, InRange 64 (reading + limit))
    (first : PollRecord) (rest : List PollRecord)
    (since :
      Since .timedOut (records ++ [recordPoll partition .timedOut clock])
        (partition.shouldStopBasedOnPollStatus .timedOut
          clock).partition.stopTester first rest) :
    first.warned = false ∧
      (∀ record ∈ rest, record.warned = true →
        first.clock.occurred + limit < record.clock.checked) ∧
      ((partition.shouldStopBasedOnPollStatus .timedOut
            clock).partition.partitionTimeOutLogged = true ↔
        ∃ record ∈ rest, record.warned = true) := by
  rw [decision_logged]
  rcases tracks.since_poll unforced free clock (Or.inr rfl) with
    ⟨state, oldFirst, oldRest, old, extended⟩ | ⟨state, began⟩
  · rcases since.1.unique extended.1 with ⟨rfl, rfl⟩
    rcases tracks.warnings unforced state first oldRest old with
      ⟨firstSilent, late, logged⟩
    have timedOut :=
      hasTopicTimedOut_iff clock.checked state tracks.limit_eq old
        (fits _ (tracks.clocks first old.first_mem.1).2)
    have newWarned :
        (recordPoll partition .timedOut clock).warned = true ↔
          first.clock.occurred + limit < clock.checked ∧
            ¬ ∃ record ∈ oldRest, record.warned = true := by
      rw [recordPoll_warned, Bool.and_eq_true, timedOut, ← logged]
      simp
    refine ⟨firstSilent, ?_, ?_⟩
    · intro record member warned
      rcases List.mem_append.mp member with before | new
      · exact late record before warned
      · rw [List.mem_singleton] at new
        subst new
        exact (newWarned.mp warned).1
    · constructor
      · intro long
        by_cases earlier : ∃ record ∈ oldRest, record.warned = true
        · rcases earlier with ⟨record, member, warned⟩
          exact ⟨record, List.mem_append_left _ member, warned⟩
        · exact ⟨_, List.mem_append_right _ (List.mem_singleton_self _),
            newWarned.mpr ⟨timedOut.mp long, earlier⟩⟩
      · rintro ⟨record, member, warned⟩
        apply timedOut.mpr
        rcases List.mem_append.mp member with before | new
        · have known := tracks.clocks record (old.first_mem.2 record before)
          exact lt_of_lt_of_le (late record before warned)
            (earlier_le_checked ordered known.1)
        · rw [List.mem_singleton] at new
          subst new
          exact (newWarned.mp warned).1
  · rcases since.1.unique began.1 with ⟨rfl, rfl⟩
    have quiet :
        partition.stopTester.hasTopicTimedOut clock.checked = false := by
      have other : partition.stopTester.state ≠ .timeout := state
      simp [PartitionFilter.hasTopicTimedOut, other]
    simp [recordPoll_warned, quiet]

/-- A poll keeps the invariant. -/
theorem Tracks.poll
    {initialStop : TimePoint} {leeway limit : Duration}
    {inputs : List StopInput} {records : List PollRecord}
    {partition : Partition Dest}
    (tracks : Tracks initialStop leeway limit inputs records partition)
    (status : PollStatus) (clock : PollClock)
    (ordered :
      (readings (inputs ++ [.poll status clock])).Pairwise (· ≤ ·))
    (fits : ∀ reading ∈ readings inputs, InRange 64 (reading + limit)) :
    Tracks initialStop leeway limit (inputs ++ [.poll status clock])
      (records ++ [recordPoll partition status clock])
      (partition.shouldStopBasedOnPollStatus status clock).partition := by
  have settings :=
    partition.stopTester.shouldStopPartition_settings status clock.occurred
      clock.now
  rw [← decision_stopTester partition status clock] at settings
  rcases settings with ⟨forced, stopTime, leewaySame, limitSame⟩
  have split :
      (∀ record ∈ records ++ [recordPoll partition status clock],
        record.forced = false) →
      (∀ record ∈ records, record.forced = false) ∧
        partition.stopTester.forceStopRequested = false := by
    intro unforced
    constructor
    · intro record member
      exact unforced record (List.mem_append_left _ member)
    · exact unforced _ (List.mem_append_right _ (List.mem_singleton_self _))
  have state :
      partition.stopTester.forceStopRequested = false →
        (partition.shouldStopBasedOnPollStatus status
          clock).partition.stopTester.state = stateOf status := by
    intro free
    rw [decision_stopTester,
      shouldStopPartition_state status clock.occurred clock.now free]
  exact
    { forced_iff := by
        rw [forced, tracks.forced_iff]
        simp
      stopTime_eq := by
        rw [stopTime, tracks.stopTime_eq, stopTimeAfter_concat]
        rfl
      leeway_eq := by rw [leewaySame, tracks.leeway_eq]
      limit_eq := by rw [limitSame, tracks.limit_eq]
      clocks := by
        intro record member
        rw [readings_append]
        rcases List.mem_append.mp member with before | new
        · have known := tracks.clocks record before
          exact ⟨List.mem_append_left _ known.1,
            List.mem_append_left _ known.2⟩
        · rw [List.mem_singleton] at new
          subst new
          simp [readings, recordPoll]
      forced_records := by
        intro record member wasForced
        apply List.mem_append_left
        rcases List.mem_append.mp member with before | new
        · exact tracks.forced_records record before wasForced
        · rw [List.mem_singleton] at new
          subst new
          exact tracks.forced_iff.mp wasForced
      state_eq := by
        intro unforced
        rw [state (split unforced).2]
        simp [recordPoll]
      streak := by
        intro unforced other failing otherState
        rcases split unforced with ⟨before, free⟩
        rw [state free] at otherState
        have equal := stateOf_injective otherState
        subst equal
        rcases tracks.since_poll before free clock failing with
          ⟨_, first, rest, _, extended⟩ | ⟨_, began⟩
        · exact ⟨first, _, extended⟩
        · exact ⟨_, [], began⟩
      warnings := by
        intro unforced timeout first rest since
        rcases split unforced with ⟨before, free⟩
        rw [state free] at timeout
        have equal : status = .timedOut :=
          stateOf_injective (timeout.trans rfl)
        subst equal
        exact tracks.warnings_poll before free ordered fits first rest since }

/-- Unless a stop is forced, an error stops once its streak lasts too long. -/
theorem Tracks.error_stopped_iff
    {initialStop : TimePoint} {leeway limit : Duration}
    {inputs : List StopInput} {records : List PollRecord}
    {partition : Partition Dest}
    (tracks : Tracks initialStop leeway limit inputs records partition)
    (notForced : .forceStop ∉ inputs)
    {clock : PollClock}
    (fits :
      ∀ reading ∈ readings (inputs ++ [.poll .error clock]),
        InRange 64 (reading + limit)) :
    let entry := recordPoll partition .error clock
    entry.stopped = true ↔
      ∃ first rest,
        EndsWithStreak (HasStatus .error) (records ++ [entry]) first rest ∧
          first.clock.occurred + limit < clock.now := by
  intro entry
  have free : partition.stopTester.forceStopRequested = false := by
    simpa using mt tracks.forced_iff.mp notForced
  have unforced : ∀ record ∈ records, record.forced = false := by
    intro record member
    simpa using
      mt (tracks.forced_records record member) notForced
  have decided :
      entry.stopped =
        (partition.shouldStopBasedOnPollStatus .error
          clock).partition.stopTester.hasExceededTimeLimit clock.now := by
    change (recordPoll partition .error clock).stopped = _
    rw [recordPoll_stopped, decision_stopTester]
    simp [PartitionFilter.shouldStopPartition,
      PartitionFilter.hasForceStopBeenRequested, free]
  have exceeded :
      ∀ first rest,
        Since .error (records ++ [entry])
          (partition.shouldStopBasedOnPollStatus .error
            clock).partition.stopTester first rest →
          (entry.stopped = true ↔
            first.clock.occurred + limit < clock.now) := by
    intro first rest since
    have limited :
        (partition.shouldStopBasedOnPollStatus .error
          clock).partition.stopTester.timeLimit = limit := by
      rw [decision_stopTester,
        (PartitionFilter.shouldStopPartition_settings _ _ _ _).2.2.2,
        tracks.limit_eq]
    have reading :
        first.clock.occurred ∈
          readings (inputs ++ [.poll .error clock]) := by
      rw [readings_append]
      rcases List.mem_append.mp since.first_mem.1 with before | new
      · exact List.mem_append_left _ (tracks.clocks first before).2
      · rw [List.mem_singleton] at new
        subst new
        simp [readings, entry, recordPoll]
    rw [decided]
    simp [PartitionFilter.hasExceededTimeLimit, limited, since.2,
      TimePoint.add_of_inRange (fits _ reading)]
  have known :
      ∃ first rest,
        Since .error (records ++ [entry])
          (partition.shouldStopBasedOnPollStatus .error
            clock).partition.stopTester first rest := by
    rcases tracks.since_poll unforced free clock (Or.inl rfl) with
      ⟨_, first, rest, _, extended⟩ | ⟨_, began⟩
    · exact ⟨first, _, extended⟩
    · exact ⟨_, [], began⟩
  rcases known with ⟨first, rest, since⟩
  rw [exceeded first rest since]
  constructor
  · intro long
    exact ⟨first, rest, since.1, long⟩
  · rintro ⟨other, otherRest, streak, long⟩
    rcases since.1.unique streak with ⟨rfl, _⟩
    exact long

/-- A warning about time-outs comes from a silent run of them. -/
theorem Tracks.streak_of_warned
    {stop : TimePoint} {leeway limit : Duration} {inputs : List StopInput}
    {records : List PollRecord} {partition : Partition Dest}
    {status : PollStatus} {clock : PollClock}
    (tracks : Tracks stop leeway limit inputs records partition)
    (fits : ∀ reading ∈ readings inputs, InRange 64 (reading + limit))
    (unforced : ∀ record ∈ records, record.forced = false)
    (warned : (recordPoll partition status clock).warned = true) :
    ∃ first rest,
      EndsWithStreak (HasStatus .timedOut) records first rest ∧
        first.clock.occurred + limit < clock.checked ∧
        ∀ record ∈ first :: rest, record.warned = false := by
  rw [recordPoll_warned, Bool.and_eq_true, Bool.not_eq_true'] at warned
  rcases warned with ⟨timedOut, notLogged⟩
  have state : partition.stopTester.state = .timeout := by
    simp only [PartitionFilter.hasTopicTimedOut, Bool.and_eq_true,
      decide_eq_true_eq] at timedOut
    exact timedOut.2
  rcases tracks.streak unforced .timedOut (Or.inr rfl) state with
    ⟨first, rest, since⟩
  rcases tracks.warnings unforced state first rest since with
    ⟨firstSilent, _, logged⟩
  have long :=
    (hasTopicTimedOut_iff clock.checked state tracks.limit_eq since
      (fits _ (tracks.clocks first since.first_mem.1).2)).mp timedOut
  refine ⟨first, rest, since.1, long, ?_⟩
  intro record member
  rcases List.mem_cons.mp member with rfl | later
  · exact firstSilent
  · by_contra notSilent
    have someWarned : ∃ record ∈ rest, record.warned = true :=
      ⟨record, later, by simpa using notSilent⟩
    rw [← logged, notLogged] at someWarned
    exact absurd someWarned (by decide)

/-! ## Runs -/

/-- The clock does not go back, and no sum with the time limit overflows. -/
structure ClockOrdered (limit : Duration) (inputs : List StopInput) : Prop where
  ordered : (readings inputs).Pairwise (· ≤ ·)
  fits : ∀ reading ∈ readings inputs, InRange 64 (reading + limit)

theorem ClockOrdered.of_append
    {limit : Duration} {inputs later : List StopInput}
    (clock : ClockOrdered limit (inputs ++ later)) :
    ClockOrdered limit inputs := by
  constructor
  · have ordered := clock.ordered
    rw [readings_append, List.pairwise_append] at ordered
    exact ordered.1
  · intro reading member
    apply clock.fits
    rw [readings_append]
    exact List.mem_append_left _ member

/-- The invariant holds after every list of inputs. -/
theorem tracks_run
    (map : SrcToDst Dest) (start stop : TimePoint) (leeway limit : Duration)
    (inputs : List StopInput)
    (clock : ClockOrdered limit inputs) :
    let created := Partition.create map start stop leeway limit
    Tracks (backOffStopTime stop leeway) leeway limit inputs
      (Mealy.run step created inputs).2 (Mealy.run step created inputs).1 := by
  refine
    Mealy.run_induction
      (fun inputs records (partition : Partition Dest) =>
        ClockOrdered limit inputs →
          Tracks (backOffStopTime stop leeway) leeway limit inputs records
            partition)
      (fun _ => tracks_create map start stop leeway limit) ?_ inputs clock
  intro inputs records partition input before clock
  have tracks := before clock.of_append
  cases input with
  | forceStop =>
      simp only [step, List.append_nil]
      refine tracks.settings ⟨rfl, rfl, rfl, rfl, rfl⟩ ?_ ?_
      · simp [Partition.forceStop, PartitionFilter.forceStop]
      · rw [stopTimeAfter_concat]
        exact tracks.stopTime_eq
  | setStopTime stop =>
      simp only [step, List.append_nil]
      refine tracks.settings ⟨rfl, rfl, rfl, rfl, rfl⟩ ?_ ?_
      · have same := tracks.forced_iff
        simpa [Partition.applyStopTime, PartitionFilter.setStopTime] using same
      · rw [stopTimeAfter_concat]
        rfl
  | poll status reading =>
      exact tracks.poll status reading clock.ordered clock.of_append.fits

/-! ## The polls of the tasks -/

/-- What the decisions of a partition depend on. -/
def stopLogic (partition : Partition Dest) : PartitionFilter × Bool :=
  (partition.stopTester, partition.partitionTimeOutLogged)

theorem stopLogic_handlePoll
    (context : MessageContext) (partition : Partition Dest)
    (status : PollStatus) (message : Msg) (clock : PollClock) :
    stopLogic
        (partition.handlePoll context status message clock).partition =
      stopLogic
        (partition.shouldStopBasedOnPollStatus status clock).partition := by
  have processed (other : Partition Dest) :
      stopLogic (other.processMessage context message).1 =
        stopLogic other := by
    unfold Partition.processMessage
    dsimp only
    split <;> rfl
  have counted :
      stopLogic
          (({ partition with
              metrics :=
                Partition.countPollStatus partition.metrics status } :
              Partition Dest).shouldStopBasedOnPollStatus status
                clock).partition =
        stopLogic
          (partition.shouldStopBasedOnPollStatus status clock).partition := by
    rw [Partition.shouldStopBasedOnPollStatus_eq,
      Partition.shouldStopBasedOnPollStatus_eq]
    rfl
  rw [← counted]
  unfold Partition.handlePoll
  dsimp only
  split
  · rfl
  · split
    · split
      · exact processed _
      · split <;> exact processed _
    · rfl

theorem stopLogic_shouldStop
    {first second : Partition Dest} (same : stopLogic first = stopLogic second)
    (status : PollStatus) (clock : PollClock) :
    stopLogic (first.shouldStopBasedOnPollStatus status clock).partition =
      stopLogic
        (second.shouldStopBasedOnPollStatus status clock).partition := by
  have tester : first.stopTester = second.stopTester :=
    congrArg Prod.fst same
  rw [Partition.shouldStopBasedOnPollStatus_eq,
    Partition.shouldStopBasedOnPollStatus_eq]
  simp only [stopLogic, tester]

/--
What a task brings to the stop logic.  `pollForMessage` returns before it
polls once a stop has been requested.
-/
def taskInput (partition : Partition Dest) :
    StopTimeRange.PartitionInput → List StopInput
  | .forceStop => [.forceStop]
  | .setStopTime stop => [.setStopTime stop]
  | .poll input =>
      if partition.hasStopBeenRequested || input.streamersPaused then []
      else [.poll input.status input.clock]

/-- A task of a partition, with what it brings to the stop logic. -/
def taskStep
    (context : MessageContext) (partition : Partition Dest)
    (task : StopTimeRange.PartitionInput) :
    Partition Dest × List StopInput :=
  (StopTimeRange.step context partition task, taskInput partition task)

/-- One task decides as the stop logic does, and only without a stop. -/
theorem stopLogic_task
    (context : MessageContext) {partition other : Partition Dest}
    (same : stopLogic partition = stopLogic other)
    (task : StopTimeRange.PartitionInput) :
    let decided := Mealy.run step other (taskInput partition task)
    stopLogic (StopTimeRange.step context partition task) =
        stopLogic decided.1 ∧
      ∀ record ∈ decided.2, record.forced = false := by
  have tester : partition.stopTester = other.stopTester :=
    congrArg Prod.fst same
  have logged :
      partition.partitionTimeOutLogged = other.partitionTimeOutLogged :=
    congrArg Prod.snd same
  cases task with
  | forceStop =>
      refine ⟨?_, fun record none_ => absurd none_ List.not_mem_nil⟩
      simp [taskInput, StopTimeRange.step, step, stopLogic,
        Partition.forceStop, Mealy.run_cons, tester, logged]
  | setStopTime stop =>
      refine ⟨?_, fun record none_ => absurd none_ List.not_mem_nil⟩
      simp [taskInput, StopTimeRange.step, step, stopLogic,
        Partition.applyStopTime, Mealy.run_cons, tester, logged]
  | poll input =>
      simp only [taskInput, StopTimeRange.step, Partition.pollForMessage]
      cases requested : partition.hasStopBeenRequested with
      | true => exact ⟨same, fun record none_ => absurd none_ List.not_mem_nil⟩
      | false =>
          cases input.streamersPaused with
          | true =>
              exact ⟨same, fun record none_ => absurd none_ List.not_mem_nil⟩
          | false =>
              constructor
              · exact (stopLogic_handlePoll context partition input.status
                  input.message input.clock).trans
                    (stopLogic_shouldStop same input.status input.clock)
              · intro record member
                rw [List.mem_singleton.mp member]
                have free : other.hasStopBeenRequested = false := by
                  rw [← requested, Partition.hasStopBeenRequested,
                    Partition.hasStopBeenRequested, tester]
                exact free

/--
Whatever tasks a partition executes, its decisions are those of the stop logic
about the polls that are processed, and none of these polls is processed after
a stop was requested.
-/
theorem processed_unforced
    (context : MessageContext) (created : Partition Dest)
    (tasks : List StopTimeRange.PartitionInput) :
    let ran := Mealy.run (taskStep context) created tasks
    let decided := Mealy.run step created ran.2
    stopLogic ran.1 = stopLogic decided.1 ∧
      ∀ record ∈ decided.2, record.forced = false := by
  refine
    Mealy.run_induction
      (fun _ inputs partition =>
        stopLogic partition = stopLogic (Mealy.run step created inputs).1 ∧
          ∀ record ∈ (Mealy.run step created inputs).2,
            record.forced = false)
      ⟨rfl, fun record none_ => absurd none_ List.not_mem_nil⟩ ?_ tasks
  rintro _ inputs partition task ⟨same, unforced⟩
  rcases stopLogic_task context same task with ⟨next, others⟩
  change
    stopLogic (StopTimeRange.step context partition task) =
        stopLogic (Mealy.run step created
          (inputs ++ taskInput partition task)).1 ∧
      ∀ record ∈ (Mealy.run step created
          (inputs ++ taskInput partition task)).2, record.forced = false
  rw [Mealy.run_append]
  refine ⟨next, fun record member => ?_⟩
  rcases List.mem_append.mp member with earlier | new
  · exact unforced record earlier
  · exact others record new

/--
The decision about the next poll, after any list of inputs to the stop logic
of a partition.  Whether a stop was forced and which stop time is in force is
read off from the inputs; the polls so far are those of the run.

A message stops the partition only after a forced stop.  The end of the
partition and a time-out stop it exactly after a forced stop or when the clock
is past the stop time and its leeway.  An error stops it exactly after a
forced stop or when the first error of the uninterrupted run of errors that it
belongs to lies more than the time limit back.  The time-out warning is logged
only when the polls so far end with an uninterrupted run of time-outs that
began more than the time limit ago and for which no warning was logged.  About
the warning, the polls so far are taken to precede any forced stop, as those
that `pollForMessage` processes do (`processed_unforced`).
-/
theorem stop_decision_after_run
    (map : SrcToDst Dest) (start stop : TimePoint) (leeway limit : Duration)
    (inputs : List StopInput) (status : PollStatus) (clock : PollClock)
    (clocks : ClockOrdered limit (inputs ++ [.poll status clock]))
    (stopFits :
      InRange 64
        (stopTimeAfter (backOffStopTime stop leeway) inputs + leeway)) :
    let created := Partition.create map start stop leeway limit
    let partition := (Mealy.run step created inputs).1
    let records := (Mealy.run step created inputs).2
    let entry := recordPoll partition status clock
    let forced := StopInput.forceStop ∈ inputs
    let passed :=
      stopTimeAfter (backOffStopTime stop leeway) inputs + leeway < clock.now
    (status = .message → entry.stopped = true → forced) ∧
      (status = .endOfPartition ∨ status = .timedOut →
        (entry.stopped = true ↔ forced ∨ passed)) ∧
      (status = .error →
        (entry.stopped = true ↔
          forced ∨
            ∃ first rest,
              EndsWithStreak (HasStatus .error) (records ++ [entry]) first
                rest ∧
                first.clock.occurred + limit < clock.now)) ∧
      ((∀ record ∈ records, record.forced = false) →
        entry.warned = true →
          ∃ first rest,
            EndsWithStreak (HasStatus .timedOut) records first rest ∧
              first.clock.occurred + limit < clock.checked ∧
              ∀ record ∈ first :: rest, record.warned = false) := by
  intro created partition records entry forced passed
  have tracks :
      Tracks (backOffStopTime stop leeway) leeway limit inputs records
        partition :=
    tracks_run map start stop leeway limit inputs clocks.of_append
  have passedIff :
      partition.stopTester.hasPassedStopTime clock.now = true ↔ passed := by
    have sum :
        TimePoint.add partition.stopTester.stopTime
            partition.stopTester.stopLeeway =
          stopTimeAfter (backOffStopTime stop leeway) inputs + leeway := by
      rw [tracks.stopTime_eq, tracks.leeway_eq,
        TimePoint.add_of_inRange stopFits]
    simp [PartitionFilter.hasPassedStopTime, sum, passed]
  have stoppedEq := recordPoll_stopped partition status clock
  change entry.stopped = _ at stoppedEq
  refine ⟨?_, ?_, ?_, ?_⟩
  · intro isMessage stopped
    subst isMessage
    by_contra notForced
    have free := mt tracks.forced_iff.mp notForced
    rw [stoppedEq] at stopped
    simp [PartitionFilter.shouldStopPartition,
      PartitionFilter.hasForceStopBeenRequested, free] at stopped
  · intro kind
    rw [stoppedEq, ← passedIff]
    change _ ↔ StopInput.forceStop ∈ inputs ∨ _
    rw [← tracks.forced_iff]
    rcases kind with rfl | rfl <;>
      cases isForced : partition.stopTester.forceStopRequested <;>
        simp [PartitionFilter.shouldStopPartition,
          PartitionFilter.hasForceStopBeenRequested, isForced]
  · intro isError
    subst isError
    by_cases isForced : StopInput.forceStop ∈ inputs
    · have flag := tracks.forced_iff.mpr isForced
      rw [stoppedEq]
      simp [PartitionFilter.shouldStopPartition,
        PartitionFilter.hasForceStopBeenRequested, flag, forced, isForced]
    · have decided := tracks.error_stopped_iff isForced clocks.fits
      simp only [forced, isForced, false_or]
      exact decided
  · intro unforced warned
    exact tracks.streak_of_warned clocks.of_append.fits unforced warned

/-- The second of two errors, more than the time limit after the first. -/
theorem stop_decision_after_one_error :
    (recordPoll
        (Mealy.run step (Partition.create ([] : SrcToDst Nat) 0 100 5 10)
          [.poll .error ⟨1, 1, 1⟩]).1
        .error ⟨20, 20, 20⟩).stopped = true := by
  have decision :=
    stop_decision_after_run ([] : SrcToDst Nat) 0 100 5 10
      [.poll .error ⟨1, 1, 1⟩] .error ⟨20, 20, 20⟩
      ⟨by decide, by decide⟩ (by decide)
  let first : PollRecord := ⟨.error, ⟨1, 1, 1⟩, false, false, false⟩
  let second : PollRecord := ⟨.error, ⟨20, 20, 20⟩, false, false, true⟩
  refine (decision.2.2.1 rfl).mpr (Or.inr ⟨first, [second], ?_, by decide⟩)
  exact ⟨⟨[], by decide, by simp⟩, by simp [first, second, HasStatus]⟩

end KafkaToNexus.Stream.StopDecisions
