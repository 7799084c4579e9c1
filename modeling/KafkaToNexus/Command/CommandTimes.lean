import KafkaToNexus.Command.StopAnswers
import KafkaToNexus.Foundations.Fallible

/-!
# The times of the commands

A command carries its times as unsigned numbers of milliseconds, which become
signed numbers of nanoseconds.  The results say for which numbers the time
point is the one that was meant, and what follows for their order, for the
clock and for the decision to stop at once.
-/

namespace KafkaToNexus.Command.CommandTimes

open KafkaToNexus
open KafkaToNexus.Command.Handler
open KafkaToNexus.Command.Parser
open KafkaToNexus.Command.StopAnswers
open KafkaToNexus.Foundations
open KafkaToNexus.Foundations.SignedWord

/-- The nanoseconds that a number of milliseconds stands for. -/
def meant (count : UInt64) : Int :=
  (count.toNat : Int) * 1000000

/-- The largest number of milliseconds that a time point can represent. -/
def largest : Nat :=
  9223372036854

theorem timeOfMilliseconds_eq_meant_iff (count : UInt64) :
    timeOfMilliseconds count = meant count ↔ count.toNat ≤ largest := by
  rw [timeOfMilliseconds, TimePoint.ofMilliseconds, meant, largest]
  constructor
  · intro same
    have fits := inRange_wrap 64 (wrap 64 count.toNat * 1000000)
    rw [same] at fits
    have upper := fits.2
    omega
  · intro small
    have signed : wrap 64 (count.toNat : Int) = count.toNat := by
      apply wrap_of_inRange
      constructor
      · omega
      · omega
    rw [signed]
    apply wrap_of_inRange
    constructor
    · omega
    · omega

theorem meant_le_meant {first second : UInt64} (ordered : first ≤ second) :
    meant first ≤ meant second := by
  have same : first.toNat ≤ second.toNat := UInt64.le_iff_toNat_le.mp ordered
  rw [meant, meant]
  omega

/-! ## Start commands -/

/-- The times of a start command, as they are meant, survive. -/
structure StartTimesSurvive
    (runStart : RunStart) (defaultStartTime : TimePoint)
    (startJob : StartMessage) : Prop where
  startTime :
    startJob.startTime =
      if runStart.startTime = 0 then defaultStartTime
      else meant runStart.startTime
  stopTime :
    startJob.stopTime =
      if runStart.stopTime = 0 then TimePoint.max
      else meant runStart.stopTime
  /-- The stop times of two commands keep their order. -/
  monotone :
    ∀ other otherStartTime otherJob,
      extractStartMessage other otherStartTime = .ok otherJob →
      other.stopTime ≠ 0 → other.stopTime ≤ runStart.stopTime →
        otherJob.stopTime ≤ startJob.stopTime
  /-- A time later than the clock does not become an earlier one. -/
  notEarlier :
    ∀ now : TimePoint,
      (runStart.startTime ≠ 0 → now < meant runStart.startTime →
        now < startJob.startTime) ∧
      (runStart.stopTime ≠ 0 → now < meant runStart.stopTime →
        now < startJob.stopTime)

/-- The times of a start command that is not rejected. -/
theorem extractStartMessage_times
    {runStart : RunStart} {defaultStartTime : TimePoint}
    {startJob : StartMessage}
    (extracted :
      extractStartMessage runStart defaultStartTime = .ok startJob) :
    startJob.startTime =
        (if runStart.startTime = 0 then defaultStartTime
        else timeOfMilliseconds runStart.startTime) ∧
      startJob.stopTime =
        if runStart.stopTime = 0 then TimePoint.max
        else timeOfMilliseconds runStart.stopTime := by
  rw [extractStartMessage] at extracted
  split at extracted
  · cases extracted
  · cases extracted
    constructor
    · by_cases zero : runStart.startTime = 0
      · rw [if_pos zero, zero]
        rfl
      · have positive : 0 < runStart.startTime :=
          UInt64.pos_iff_ne_zero.mpr zero
        rw [if_neg zero, if_pos positive]
    · rw [ite_not]

theorem timeOfMilliseconds_of_le
    {first second : UInt64} (ordered : first ≤ second)
    (small : second.toNat ≤ largest) :
    timeOfMilliseconds first ≤ timeOfMilliseconds second := by
  have lower : first.toNat ≤ second.toNat :=
    UInt64.le_iff_toNat_le.mp ordered
  rw [(timeOfMilliseconds_eq_meant_iff first).mpr (lower.trans small),
    (timeOfMilliseconds_eq_meant_iff second).mpr small]
  exact meant_le_meant ordered

/-- The time of a command, with zero for no time, is the one that is meant. -/
theorem ite_eq_meant_iff {count : UInt64} {otherwise : TimePoint} :
    ((if count = 0 then otherwise else timeOfMilliseconds count) =
        if count = 0 then otherwise else meant count) ↔
      count.toNat ≤ largest := by
  by_cases zero : count = 0
  · rw [if_pos zero, if_pos zero, zero]
    exact ⟨fun _ => Nat.zero_le _, fun _ => rfl⟩
  · rw [if_neg zero, if_neg zero]
    exact timeOfMilliseconds_eq_meant_iff count

theorem startTimesSurvive_iff
    {runStart : RunStart} {defaultStartTime : TimePoint}
    {startJob : StartMessage}
    (extracted :
      extractStartMessage runStart defaultStartTime = .ok startJob) :
    StartTimesSurvive runStart defaultStartTime startJob ↔
      runStart.startTime.toNat ≤ largest ∧
        runStart.stopTime.toNat ≤ largest := by
  rcases extractStartMessage_times extracted with ⟨startTime, stopTime⟩
  constructor
  · intro survive
    have startMeant := survive.startTime
    have stopMeant := survive.stopTime
    rw [startTime] at startMeant
    rw [stopTime] at stopMeant
    exact ⟨ite_eq_meant_iff.mp startMeant, ite_eq_meant_iff.mp stopMeant⟩
  · rintro ⟨startSmall, stopSmall⟩
    have startMeant := startTime.trans (ite_eq_meant_iff.mpr startSmall)
    have stopMeant := stopTime.trans (ite_eq_meant_iff.mpr stopSmall)
    constructor
    · exact startMeant
    · exact stopMeant
    · intro other otherStartTime otherJob otherExtracted notZero ordered
      rw [(extractStartMessage_times otherExtracted).2, stopTime,
        if_neg notZero]
      split
      · rename_i zero
        rw [zero] at ordered
        exact absurd (UInt64.le_zero_iff.mp ordered) notZero
      · exact timeOfMilliseconds_of_le ordered stopSmall
    · intro now
      constructor
      · intro notZero later
        rw [startMeant, if_neg notZero]
        exact later
      · intro notZero later
        rw [stopMeant, if_neg notZero]
        exact later

/-! ## Stop commands -/

/-- The time of a stop command, as it is meant, survives. -/
structure StopTimeSurvives
    (context : CommandContext) (commandMsg : Msg) (stopCmd : StopMessage) :
    Prop where
  stopTime :
    stopCmd.stopTime = meant (context.getRunStop commandMsg.data).stopTime
  /-- The stop times of two commands keep their order. -/
  monotone :
    ∀ other otherCmd, extractStopMessage other = .ok otherCmd →
      other.stopTime ≤ (context.getRunStop commandMsg.data).stopTime →
        otherCmd.stopTime ≤ stopCmd.stopTime
  /-- A time later than the clock does not become an earlier one. -/
  notEarlier :
    ∀ now : TimePoint,
      now < meant (context.getRunStop commandMsg.data).stopTime →
        now < stopCmd.stopTime
  /-- Only a time of zero stops the writer at once. -/
  stopNow :
    ∀ (World : Type) (callbacks : Callbacks World) (handler : Handler)
      (world : World) (returned : Bool),
      .doStopNow returned ∈
          stopEvents context callbacks handler world commandMsg →
        (context.getRunStop commandMsg.data).stopTime = 0

/-- The time of a stop command that is not rejected. -/
theorem extractStopMessage_time
    {runStop : RunStop} {stopCmd : StopMessage}
    (extracted : extractStopMessage runStop = .ok stopCmd) :
    stopCmd.stopTime = timeOfMilliseconds runStop.stopTime := by
  rw [extractStopMessage] at extracted
  split at extracted
  · cases extracted
  · split at extracted
    · cases extracted
    · rw [← Except.ok.inj extracted]

section StopNow

variable {World : Type} {context : CommandContext}
  {callbacks : Callbacks World} {handler : Handler} {world : World}
  {commandMsg : Msg} {stopCmd : StopMessage} {returned : Bool}

/-- The answer to a command is not a call. -/
theorem mem_answerStop
    {scope : StopScope World} {result : ActionResult}
    {outcome : CmdResponse (StopScope World)}
    (called :
      .doStopNow returned ∈ (answerStop handler scope result outcome).events) :
    .doStopNow returned ∈ scope.events := by
  rcases List.mem_append.mp called with before | answered
  · exact before
  · split at answered
    · rcases List.mem_singleton.mp answered with ⟨⟩
    · cases answered

/-- A call that stops the writer at once is made by one of the steps. -/
theorem mem_stopLoop
    (called :
      .doStopNow returned ∈
        stopEvents context callbacks handler world commandMsg) :
    .doStopNow returned ∈
      (stopLoop context callbacks handler world
        commandMsg).scope.events := by
  cases loop : stopLoop context callbacks handler world commandMsg with
  | passed scope =>
      rw [stopEvents_of_passed loop] at called
      exact mem_answerStop called
  | rejected scope response =>
      rw [stopEvents_of_failed loop] at called
      exact mem_answerStop called
  | left scope =>
      rw [stopLoop] at loop
      simp only [stopEvents, handleStopCommand, loop] at called
      exact called

theorem callStop_doStopNow {flag : Bool}
    (same :
      (callStop context callbacks stopCmd world).2.1 flag =
        .doStopNow returned) :
    stopCmd.stopTime = 0 := by
  rw [callStop] at same
  split at same
  · rename_i zero
    exact zero
  · cases same

/-- The writer is stopped at once only if the time of the command is zero. -/
theorem stopTime_of_doStopNow
    (found : parsed context commandMsg = .ok stopCmd)
    (called :
      .doStopNow returned ∈
        stopEvents context callbacks handler world commandMsg) :
    stopCmd.stopTime = 0 := by
  let atOnce : StopScope World → Prop := fun scope =>
    scope.stopCmd = stopCmd ∧
      (.doStopNow returned ∈ scope.events → stopCmd.stopTime = 0)
  have kept :
      atOnce (stopLoop context callbacks handler world commandMsg).scope := by
    rw [stopLoop, stopSteps, runSteps_of_parsed found]
    apply runSteps_keeps atOnce
    · intro step member scope before
      simp only [List.mem_cons, List.not_mem_nil, or_false] at member
      rcases member with rfl | rfl | rfl | rfl | rfl
      · exact CommandStep.run_check_keeps atOnce before
      · exact CommandStep.run_check_keeps atOnce before
      · exact CommandStep.run_check_keeps atOnce before
      · exact CommandStep.run_check_keeps atOnce before
      · rcases before with ⟨same, earlier⟩
        have event (flag : Bool) :=
          @callStop_doStopNow _ context callbacks scope.world scope.stopCmd
            returned flag
        rw [same] at event
        have added (flag : Bool)
            (member :
              .doStopNow returned ∈
                scope.events ++
                  [(callStop context callbacks stopCmd scope.world).2.1
                    flag]) :
            stopCmd.stopTime = 0 := by
          rcases List.mem_append.mp member with before | last
          · exact earlier before
          · exact event flag (List.mem_singleton.mp last).symm
        rw [doStopStep]
        dsimp only
        rw [same]
        generalize callStop context callbacks stopCmd scope.world = outcome at *
        rcases outcome with ⟨⟨after, _ | what⟩, call, message⟩
        · exact ⟨rfl, added true⟩
        · exact ⟨rfl, added false⟩
    · refine ⟨rfl, ?_⟩
      intro contrary
      exact absurd contrary List.not_mem_nil
  exact kept.2 (mem_stopLoop called)

end StopNow

theorem stopTimeSurvives_iff
    {context : CommandContext} {commandMsg : Msg} {stopCmd : StopMessage}
    (found : parsed context commandMsg = .ok stopCmd) :
    StopTimeSurvives context commandMsg stopCmd ↔
      (context.getRunStop commandMsg.data).stopTime.toNat ≤ largest := by
  have stopTime := extractStopMessage_time found
  constructor
  · intro survives
    rw [← timeOfMilliseconds_eq_meant_iff, ← stopTime]
    exact survives.stopTime
  · intro small
    have same := stopTime.trans ((timeOfMilliseconds_eq_meant_iff _).mpr small)
    constructor
    · exact same
    · intro other otherCmd otherExtracted ordered
      rw [extractStopMessage_time otherExtracted, stopTime]
      exact timeOfMilliseconds_of_le ordered small
    · intro now later
      rw [same]
      exact later
    · intro World callbacks handler world returned called
      have zero :
          ((context.getRunStop commandMsg.data).stopTime.toNat : Int) *
            1000000 = 0 :=
        same.symm.trans (stopTime_of_doStopNow found called)
      apply UInt64.toNat_inj.mp
      show _ = 0
      omega

/-! ## Both kinds of commands -/

/--
The times of a command survive its extraction if and only if the command is
rejected or none of them is later than a time point can represent.
-/
theorem command_times_survive_iff
    (runStart : RunStart) (defaultStartTime : TimePoint)
    (context : CommandContext) (commandMsg : Msg) :
    ((∀ startJob,
        extractStartMessage runStart defaultStartTime = .ok startJob →
          StartTimesSurvive runStart defaultStartTime startJob) ↔
      (∃ what,
        extractStartMessage runStart defaultStartTime = .error what) ∨
      runStart.startTime.toNat ≤ largest ∧
        runStart.stopTime.toNat ≤ largest) ∧
    ((∀ stopCmd, parsed context commandMsg = .ok stopCmd →
        StopTimeSurvives context commandMsg stopCmd) ↔
      (∃ failure, parsed context commandMsg = .error failure) ∨
      (context.getRunStop commandMsg.data).stopTime.toNat ≤ largest) := by
  constructor
  · exact Fallible.forall_ok_iff startTimesSurvive_iff
  · exact Fallible.forall_ok_iff stopTimeSurvives_iff

/-- A time that is a multiple of 2 to the power of 64 in nanoseconds. -/
def sampleStop : RunStop :=
  ⟨288230376151711744, some "5e0e1a2c-3f0c-4c62-9d3b-1f7cf4f0a001", none,
    some "0f4f7bb2-2c4c-4d53-8e9c-0c8f5c6b0a11"⟩

/-- A stop time millions of years ahead stops the writer at once. -/
theorem stop_time_does_not_survive :
    ∃ stopCmd,
      parsed (sampleContext sampleStop) {} = .ok stopCmd ∧
        .doStopNow true ∈
          stopEvents (sampleContext sampleStop)
            { idleCallbacks with
              isWritingNow := fun _ => true
              getJobId := fun _ => stopCmd.jobID }
            sampleHandler () {} ∧
        ¬ StopTimeSurvives (sampleContext sampleStop) {} stopCmd := by
  refine ⟨_, rfl, by decide, ?_⟩
  intro survives
  exact absurd survives.stopTime (by decide)

end KafkaToNexus.Command.CommandTimes
