import KafkaToNexus.Stream.Partition

/-!
# The range of the stop time

Stop times and the leeway are 64-bit counts.  The constructors of a partition
and of its stop logic move a stop time back that is so late that adding the
leeway would leave the range.  A stop time that is set later is taken as it is.

The results compare what a partition does with the comparisons over the
integers, along runs of polls, forced stops and new stop times.
-/

namespace KafkaToNexus.Stream.StopTimeRange

open KafkaToNexus
open KafkaToNexus.Foundations.SignedWord

variable {Dest : Type*}

/-- What happens to a partition. -/
inductive PartitionInput where
  | forceStop
  | setStopTime (stop : TimePoint)
  | poll (input : PollInput)
deriving DecidableEq, Repr

/-- The partition after one of its tasks. -/
def step
    (context : MessageContext) (partition : Partition Dest) :
    PartitionInput → Partition Dest
  | .forceStop => partition.forceStop
  | .setStopTime stop => partition.applyStopTime stop
  | .poll input => (partition.pollForMessage context input).partition

def after
    (context : MessageContext) (partition : Partition Dest)
    (inputs : List PartitionInput) : Partition Dest :=
  inputs.foldl (step context) partition

/-! ## The comparisons over the integers -/

/-- The stop time that the constructor is to keep. -/
def backedOff (stop leeway : Int) : Int :=
  if TimePoint.max - stop ≤ leeway then stop - leeway else stop

/-- The stop time in force after a list of inputs. -/
def stopInForce (initial : Int) (inputs : List PartitionInput) : Int :=
  inputs.foldl
    (fun current input =>
      match input with
      | .setStopTime stop => stop
      | .forceStop => current
      | .poll _ => current)
    initial

/-- The next poll compares as if there were no bounds. -/
structure ComparesExactly
    (context : MessageContext) (partition : Partition Dest)
    (stop leeway : Int) : Prop where
  /-- The clock decides when there is no message. -/
  clock :
    ∀ input : PollInput, partition.hasStopBeenRequested = false →
      input.streamersPaused = false →
      input.status = .endOfPartition ∨ input.status = .timedOut →
        ((partition.pollForMessage context input).requeued = false ↔
          stop + leeway < input.clock.now)
  /-- The timestamp of a message decides while there are filters. -/
  timestamp :
    ∀ input : PollInput, partition.hasStopBeenRequested = false →
      input.streamersPaused = false → input.status = .message →
      (partition.pollForMessage context input).partition.msgFilters ≠ [] →
        ((partition.pollForMessage context input).requeued = false ↔
          stop + leeway < input.message.metaData.timestamp)

/--
No expression with the stop time leaves the range in any state of a run, and
every comparison in such a state is the one over the integers.
-/
structure StopTimesFit
    (context : MessageContext) (map : SrcToDst Dest)
    (start stop : TimePoint) (leeway errorTimeout : Duration)
    (inputs : List PartitionInput) : Prop where
  guard : InRange 64 (TimePoint.max - stop)
  backOff : TimePoint.max - stop ≤ leeway → InRange 64 (stop - leeway)
  sums :
    ∀ earlier later, inputs = earlier ++ later →
      let partition :=
        after context (Partition.create map start stop leeway errorTimeout)
          earlier
      InRange 64 (partition.stopTime + partition.stopTimeLeeway) ∧
        InRange 64
          (partition.stopTester.stopTime + partition.stopTester.stopLeeway)
  compares :
    ∀ earlier later, inputs = earlier ++ later →
      ComparesExactly context
        (after context (Partition.create map start stop leeway errorTimeout)
          earlier)
        (stopInForce (backedOff stop leeway) earlier) leeway

/-! ## The stop time that a partition has -/

/-- The partition and its stop logic have a stop time and a leeway. -/
structure HasStop
    (partition : Partition Dest) (stop leeway : Int) : Prop where
  stopTime : partition.stopTime = stop
  stopTimeLeeway : partition.stopTimeLeeway = leeway
  testerStopTime : partition.stopTester.stopTime = stop
  testerLeeway : partition.stopTester.stopLeeway = leeway

theorem hasStop_create
    (map : SrcToDst Dest) (start stop : TimePoint)
    (leeway errorTimeout : Duration) :
    HasStop (Partition.create map start stop leeway errorTimeout)
      (backOffStopTime stop leeway) leeway :=
  ⟨rfl, rfl, rfl, rfl⟩

theorem processMessage_stopTester
    (context : MessageContext) (partition : Partition Dest) (message : Msg) :
    (partition.processMessage context message).1.stopTester =
      partition.stopTester := by
  unfold Partition.processMessage
  dsimp only
  split
  · rfl
  · rfl

/-- No poll changes the leeway of the stop logic. -/
theorem handlePoll_stopLeeway
    (context : MessageContext) (partition : Partition Dest)
    (status : PollStatus) (message : Msg) (clock : PollClock) :
    (partition.handlePoll context status message
        clock).partition.stopTester.stopLeeway =
      partition.stopTester.stopLeeway := by
  have decided :
      (({ partition with
          metrics := Partition.countPollStatus partition.metrics
            status }).shouldStopBasedOnPollStatus status
          clock).partition.stopTester.stopLeeway =
        partition.stopTester.stopLeeway := by
    rw [Partition.shouldStopBasedOnPollStatus_eq]
    exact
      (partition.stopTester.shouldStopPartition_settings status clock.occurred
        clock.now).2.2.1
  simp only [Partition.handlePoll]
  split
  · exact decided
  · split
    · split
      · simp only [processMessage_stopTester]
        exact decided
      · split
        · simp only [processMessage_stopTester]
          exact decided
        · simp only [processMessage_stopTester]
          exact decided
    · exact decided

theorem HasStop.pollForMessage
    {partition : Partition Dest} {stop leeway : Int}
    (has : HasStop partition stop leeway)
    (context : MessageContext) (input : PollInput) :
    HasStop (partition.pollForMessage context input).partition stop
      leeway := by
  rw [Partition.pollForMessage]
  split
  · exact ⟨has.stopTime, has.stopTimeLeeway, has.testerStopTime,
      has.testerLeeway⟩
  · split
    · exact has
    · have settings :=
        Partition.handlePoll_stopSettings context partition input.status
          input.message input.clock
      simp only [Partition.stopSettings, Prod.mk.injEq] at settings
      rcases settings with ⟨_, stopTime, stopTimeLeeway, testerStopTime⟩
      constructor
      · exact stopTime.trans has.stopTime
      · exact stopTimeLeeway.trans has.stopTimeLeeway
      · exact testerStopTime.trans has.testerStopTime
      · exact
          (handlePoll_stopLeeway context partition _ _ _).trans
            has.testerLeeway

/-- Every task keeps the stop time, or sets the one that it is for. -/
theorem HasStop.step
    {partition : Partition Dest} {stop leeway : Int}
    (has : HasStop partition stop leeway)
    (context : MessageContext) (input : PartitionInput) :
    HasStop (step context partition input) (stopInForce stop [input])
      leeway := by
  cases input with
  | forceStop =>
      exact ⟨has.stopTime, has.stopTimeLeeway, has.testerStopTime,
        has.testerLeeway⟩
  | setStopTime newStop =>
      exact ⟨rfl, has.stopTimeLeeway, rfl, has.testerLeeway⟩
  | poll input => exact has.pollForMessage context input

theorem HasStop.after
    {partition : Partition Dest} {stop leeway : Int}
    (has : HasStop partition stop leeway)
    (context : MessageContext) (inputs : List PartitionInput) :
    HasStop (after context partition inputs) (stopInForce stop inputs)
      leeway := by
  induction inputs generalizing partition stop with
  | nil => exact has
  | cons input inputs induction => exact induction (has.step context input)

/-! ## One poll -/

theorem HasStop.hasPassedStopTime_iff
    {partition : Partition Dest} {stop leeway : Int}
    (has : HasStop partition stop leeway)
    (fits : InRange 64 (stop + leeway)) (now : TimePoint) :
    partition.stopTester.hasPassedStopTime now = true ↔
      stop + leeway < now := by
  rw [PartitionFilter.hasPassedStopTime, has.testerStopTime,
    has.testerLeeway, TimePoint.add_of_inRange fits, decide_eq_true_iff]

/-- A poll without a message is the last one if the decision is to stop. -/
theorem handlePoll_requeued_of_other
    (context : MessageContext) (partition : Partition Dest)
    {status : PollStatus} (message : Msg) (clock : PollClock)
    (other : status ≠ .message) :
    (partition.handlePoll context status message clock).requeued =
      !(partition.stopTester.shouldStopPartition status clock.occurred
        clock.now).2 := by
  simp only [Partition.handlePoll, if_neg other,
    Partition.shouldStopBasedOnPollStatus_eq]
  split
  · rename_i stopped
    rw [stopped]
    rfl
  · rename_i goesOn
    rw [Bool.eq_false_iff.mpr goesOn]
    rfl

/-- Without a message, the task goes on until the clock says to stop. -/
theorem requeued_of_noMessage
    {partition : Partition Dest} (context : MessageContext)
    {input : PollInput} (free : partition.hasStopBeenRequested = false)
    (running : input.streamersPaused = false)
    (noMessage :
      input.status = .endOfPartition ∨ input.status = .timedOut) :
    (partition.pollForMessage context input).requeued = false ↔
      partition.stopTester.hasPassedStopTime input.clock.now = true := by
  have released :
      partition.stopTester.hasForceStopBeenRequested = false := free
  have other : input.status ≠ .message := by
    rcases noMessage with is_ | is_
    · rw [is_]
      exact PollStatus.noConfusion
    · rw [is_]
      exact PollStatus.noConfusion
  have decision :
      (partition.stopTester.shouldStopPartition input.status
          input.clock.occurred input.clock.now).2 =
        partition.stopTester.hasPassedStopTime input.clock.now := by
    rcases noMessage with is_ | is_
    · simp only [PartitionFilter.shouldStopPartition, released, is_]
      rfl
    · simp only [PartitionFilter.shouldStopPartition, released, is_]
      rfl
  rw [Partition.pollForMessage, free, running]
  simp only [Bool.false_eq_true, if_false,
    handlePoll_requeued_of_other context partition _ _ other, decision,
    Bool.not_eq_false']

/-- What a message is compared with after it has been processed. -/
theorem HasStop.add_of_message
    {partition : Partition Dest} {stop leeway : Int}
    (has : HasStop partition stop leeway)
    (fits : InRange 64 (stop + leeway))
    (context : MessageContext) (message : Msg) (clock : PollClock) :
    let decision := partition.shouldStopBasedOnPollStatus .message clock
    let processed :=
      (Partition.processMessage context decision.partition message).1
    TimePoint.add processed.stopTime processed.stopTimeLeeway =
      stop + leeway := by
  intro decision processed
  have settings : processed.stopSettings = partition.stopSettings :=
    (Partition.processMessage_stopSettings context decision.partition
      message).trans
      (Partition.shouldStopBasedOnPollStatus_stopSettings partition .message
        clock)
  simp only [Partition.stopSettings, Prod.mk.injEq] at settings
  rcases settings with ⟨_, stopTime, stopTimeLeeway, _⟩
  rw [stopTime, stopTimeLeeway, has.stopTime, has.stopTimeLeeway,
    TimePoint.add_of_inRange fits]

/-- With a message and filters, the task goes on until the timestamp says. -/
theorem requeued_of_message
    {partition : Partition Dest} {stop leeway : Int}
    (has : HasStop partition stop leeway)
    (fits : InRange 64 (stop + leeway))
    (context : MessageContext) {input : PollInput}
    (free : partition.hasStopBeenRequested = false)
    (running : input.streamersPaused = false)
    (isMessage : input.status = .message)
    (left_ :
      (partition.pollForMessage context input).partition.msgFilters ≠ []) :
    (partition.pollForMessage context input).requeued = false ↔
      stop + leeway < input.message.metaData.timestamp := by
  rw [Partition.pollForMessage, free, running] at left_ ⊢
  simp only [Bool.false_eq_true, if_false, isMessage] at left_ ⊢
  let counted : Partition Dest :=
    { partition with
      metrics := Partition.countPollStatus partition.metrics .message }
  have goesOn :
      (counted.shouldStopBasedOnPollStatus .message input.clock).stopped =
        false :=
    Partition.message_not_stopped input.clock free
  have counts : HasStop counted stop leeway :=
    ⟨has.stopTime, has.stopTimeLeeway, has.testerStopTime, has.testerLeeway⟩
  have sum := counts.add_of_message fits context input.message input.clock
  dsimp only at sum
  simp only [Partition.handlePoll] at left_ ⊢
  rw [if_neg (Bool.eq_false_iff.mp goesOn), if_pos trivial] at left_ ⊢
  split at left_
  · rename_i empty
    exact absurd (List.isEmpty_iff.mp empty) left_
  · rename_i some_
    rw [if_neg some_, sum]
    split
    · rename_i passed
      exact ⟨fun _ => passed, fun _ => rfl⟩
    · rename_i notPassed
      constructor
      · intro contrary
        cases contrary
      · intro passed
        exact absurd passed notPassed

theorem HasStop.comparesExactly
    {partition : Partition Dest} {stop leeway : Int}
    (has : HasStop partition stop leeway)
    (fits : InRange 64 (stop + leeway)) (context : MessageContext) :
    ComparesExactly context partition stop leeway := by
  constructor
  · intro input free running noMessage
    rw [requeued_of_noMessage context free running noMessage]
    exact has.hasPassedStopTime_iff fits _
  · intro input free running isMessage left_
    exact requeued_of_message has fits context free running isMessage left_

/-! ## Runs -/

/-- The stop time in force is the first one or one that was set. -/
theorem stopInForce_cases (initial : Int) (inputs : List PartitionInput) :
    stopInForce initial inputs = initial ∨
      .setStopTime (stopInForce initial inputs) ∈ inputs := by
  induction inputs generalizing initial with
  | nil => exact Or.inl rfl
  | cons input inputs induction =>
      cases input with
      | forceStop =>
          rcases induction initial with same | set_
          · exact Or.inl same
          · exact Or.inr (List.mem_cons_of_mem _ set_)
      | setStopTime stop =>
          rcases induction stop with same | set_
          · right
            show PartitionInput.setStopTime (stopInForce stop inputs) ∈ _
            rw [same]
            exact List.mem_cons_self
          · exact Or.inr (List.mem_cons_of_mem _ set_)
      | poll input =>
          rcases induction initial with same | set_
          · exact Or.inl same
          · exact Or.inr (List.mem_cons_of_mem _ set_)

theorem stopInForce_concat
    (initial : Int) (inputs : List PartitionInput) (stop : TimePoint) :
    stopInForce initial (inputs ++ [.setStopTime stop]) = stop := by
  rw [stopInForce, List.foldl_append]
  rfl

section Range

variable {stop leeway : Int}

theorem le_max_of_inRange {value : Int} (fits : InRange 64 value) :
    value ≤ TimePoint.max := by
  have upper := fits.2
  rw [TimePoint.max]
  omega

theorem inRange_guard_iff (fits : InRange 64 stop) :
    InRange 64 (TimePoint.max - stop) ↔ 0 ≤ stop := by
  rcases fits with ⟨lower, upper⟩
  rw [InRange, TimePoint.max]
  constructor
  · rintro ⟨_, below⟩
    omega
  · intro notNegative
    constructor
    · omega
    · omega

/-- The guard keeps every sum and difference of the constructor in range. -/
theorem backedOff_inRange
    (fits : InRange 64 stop) (leewayFits : InRange 64 leeway)
    (notNegative : 0 ≤ stop) (leewayNotNegative : 0 ≤ leeway) :
    (TimePoint.max - stop ≤ leeway → InRange 64 (stop - leeway)) ∧
      InRange 64 (backedOff stop leeway + leeway) := by
  rcases fits with ⟨lower, upper⟩
  rcases leewayFits with ⟨_, leewayUpper⟩
  rw [backedOff, TimePoint.max, InRange, InRange]
  constructor
  · intro near
    constructor
    · omega
    · omega
  · split
    · constructor
      · omega
      · omega
    · rename_i far
      have room : leeway < 2 ^ 63 - 1 - stop := lt_of_not_ge far
      constructor
      · omega
      · omega

theorem backOffStopTime_eq_backedOff
    (fits : InRange 64 stop) (leewayFits : InRange 64 leeway)
    (notNegative : 0 ≤ stop) (leewayNotNegative : 0 ≤ leeway) :
    backOffStopTime stop leeway = backedOff stop leeway := by
  have since :
      TimePoint.since TimePoint.max stop = TimePoint.max - stop :=
    wrap_of_inRange ((inRange_guard_iff fits).mpr notNegative)
  rw [backOffStopTime, backedOff, since]
  split
  · rename_i near
    exact
      wrap_of_inRange
        ((backedOff_inRange fits leewayFits notNegative
          leewayNotNegative).1 near)
  · rfl

end Range

/-- Stop times that leave room for the leeway do so when they are in force. -/
theorem stopInForce_add_inRange
    {initial leeway : Int} {inputs : List PartitionInput}
    (sum : InRange 64 (initial + leeway)) (leewayNotNegative : 0 ≤ leeway)
    (inputsFit :
      ∀ newStop : Int, .setStopTime newStop ∈ inputs → InRange 64 newStop)
    (room :
      ∀ newStop : Int, .setStopTime newStop ∈ inputs →
        newStop + leeway ≤ 2 ^ 63 - 1) :
    InRange 64 (stopInForce initial inputs + leeway) := by
  rcases stopInForce_cases initial inputs with same | set_
  · rw [same]
    exact sum
  · have upper := room _ set_
    have lower := (inputsFit _ set_).1
    constructor
    · omega
    · omega

/--
In a run, no expression with the stop time leaves the range and every
comparison is the one over the integers, if and only if the partition is
constructed with a stop time that is not before the epoch and every stop time
that is set later leaves room for the leeway.
-/
theorem stopTimesFit_iff
    (context : MessageContext) (map : SrcToDst Dest)
    (start : TimePoint) {stop : TimePoint} {leeway : Duration}
    (errorTimeout : Duration) (inputs : List PartitionInput)
    (fits : InRange 64 stop) (leewayFits : InRange 64 leeway)
    (leewayNotNegative : 0 ≤ leeway)
    (inputsFit :
      ∀ newStop, .setStopTime newStop ∈ inputs → InRange 64 newStop) :
    StopTimesFit context map start stop leeway errorTimeout inputs ↔
      0 ≤ stop ∧
        ∀ newStop, .setStopTime newStop ∈ inputs →
          newStop + leeway ≤ TimePoint.max := by
  have reached (earlier : List PartitionInput) :=
    (hasStop_create map start stop leeway errorTimeout).after context earlier
  constructor
  · intro fit
    refine ⟨(inRange_guard_iff fits).mp fit.guard, ?_⟩
    intro newStop member
    rcases List.append_of_mem member with ⟨earlier, later, split_⟩
    have sum :=
      (fit.sums (earlier ++ [.setStopTime newStop]) later (by
        rw [split_, List.append_assoc, List.singleton_append])).1
    have has := reached (earlier ++ [.setStopTime newStop])
    rw [has.stopTime, has.stopTimeLeeway, stopInForce_concat] at sum
    exact le_max_of_inRange sum
  · rintro ⟨notNegative, room⟩
    rcases
        backedOff_inRange fits leewayFits notNegative leewayNotNegative
      with ⟨backOff, sum⟩
    rw [backOffStopTime_eq_backedOff fits leewayFits notNegative
      leewayNotNegative] at reached
    have inForce (earlier later : List PartitionInput)
        (split_ : inputs = earlier ++ later) :
        InRange 64
          (stopInForce (backedOff stop leeway) earlier + leeway) := by
      apply stopInForce_add_inRange sum leewayNotNegative
      · intro newStop member
        apply inputsFit newStop
        rw [split_]
        exact List.mem_append_left _ member
      · intro newStop member
        apply room newStop
        rw [split_]
        exact List.mem_append_left _ member
    constructor
    · exact (inRange_guard_iff fits).mpr notNegative
    · exact backOff
    · intro earlier later split_ partition
      have has := reached earlier
      constructor
      · rw [has.stopTime, has.stopTimeLeeway]
        exact inForce earlier later split_
      · rw [has.testerStopTime, has.testerLeeway]
        exact inForce earlier later split_
    · intro earlier later split_
      exact
        (reached earlier).comparesExactly (inForce earlier later split_)
          context

/-! ## Two partitions -/

def sampleContext : MessageContext where
  findReader := fun _ => none
  hash := fun _ => 0

/-- The end of the partition is found at a time in the year 2024. -/
def samplePoll : PollInput where
  streamersPaused := false
  status := .endOfPartition
  message := {}
  clock := ⟨1720000000000000000, 1720000000000000000, 1720000000000000000⟩

/-- No stop time at first, and then one that leaves room for ten seconds. -/
theorem stopTimesFit_sample :
    StopTimesFit sampleContext ([] : SrcToDst Nat) 0 TimePoint.max 10000000000
      10000000000 [.poll samplePoll, .setStopTime 1720000000000000000] := by
  apply
    (stopTimesFit_iff sampleContext [] 0 10000000000
      [.poll samplePoll, .setStopTime 1720000000000000000] (by decide)
      (by decide) (by decide) ?_).mpr
  · constructor
    · decide
    · intro newStop member
      simp only [List.mem_cons, List.not_mem_nil, or_false, reduceCtorEq,
        false_or, PartitionInput.setStopTime.injEq] at member
      rw [member]
      decide
  · intro newStop member
    simp only [List.mem_cons, List.not_mem_nil, or_false, reduceCtorEq,
      false_or, PartitionInput.setStopTime.injEq] at member
    rw [member]
    decide

/-- A stop time that was set close to the largest one stops the partition. -/
theorem not_stopTimesFit_late :
    ¬ StopTimesFit sampleContext ([] : SrcToDst Nat) 0 TimePoint.max
      10000000000 10000000000 [.setStopTime 9223372036854000000] := by
  intro fit
  have compares := fit.compares [.setStopTime 9223372036854000000] [] rfl
  have passed :=
    (compares.clock samplePoll rfl rfl (Or.inl rfl)).mp (by decide)
  exact absurd passed (by decide)

end KafkaToNexus.Stream.StopTimeRange
