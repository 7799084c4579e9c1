import KafkaToNexus.Kafka.Producer

/-!
# What the statistics of a producer count

The counters of `ProducerStats` are incremented one after the other, behind
the call that they are about, and wrap.  Each of them counts what has happened
but for what a thread has still to add.  Every message that the library took
is reported once, still in its queue or lost with it.
-/

namespace KafkaToNexus.Kafka

open KafkaToNexus.Foundations
open KafkaToNexus.Foundations.Ownership

/-! ## The counters -/

/-- An amount for one of the counters. -/
def only (counter : Counter) (amount : Nat) (other : Counter) : Nat :=
  if other = counter then amount else 0

/-- The increments for a list of counters of an accepted call. -/
def increments
    (msgSize : Nat) (counters : List Counter) (counter : Counter) : Nat :=
  (counters.map fun own => only own (increment msgSize own) counter).sum

/-- What an event adds to the counters in the end. -/
def ProducerLabel.counts : ProducerLabel → Counter → Nat
  | .answer msgSize .noError => increments msgSize acceptedCounters
  | .answer _ code => only code.counter 1
  | .deliver failed => only (deliveryCounter failed) 1
  | .polled eventsHandled => only .pollServed eventsHandled
  | _ => fun _ => 0

/-- What a thread that serves callbacks has still to add. -/
def Serving.pending : Serving → Counter → Nat
  | .called _ failed => only (deliveryCounter failed) 1
  | _ => fun _ => 0

/-- What a thread has still to add to the counters. -/
def ThreadPoint.pending : ThreadPoint → Counter → Nat
  | .polling _ _ serving => serving.pending
  | .accepted msgSize counters => increments msgSize counters
  | .rejected _ code => only code.counter 1
  | .poll serving => serving.pending
  | .addServed eventsHandled _ => only .pollServed eventsHandled
  | .drainPoll _ serving => serving.pending
  | _ => fun _ => 0

/-- What all threads have still to add. -/
def Producer.pending (producer : Producer) (counter : Counter) : Nat :=
  (producer.threads.map fun point => point.pending counter).sum

theorem read_add
    (producer : Producer) (counter other : Counter) (amount : Nat) :
    (producer.add counter amount).read other =
      if other = counter then
        (producer.read other + amount) % 2 ^ other.width
      else producer.read other := by
  cases counter <;> cases other <;> rfl

theorem read_add_modEq
    (producer : Producer) (counter other : Counter) (amount : Nat) :
    (producer.add counter amount).read other ≡
      producer.read other + only counter amount other
        [MOD 2 ^ other.width] := by
  rw [read_add, only]
  split
  · exact Nat.mod_modEq _ _
  · rfl

theorem serve_pending
    {point : ThreadPoint} {old : Serving}
    (found : point.serving? = some old) (counter : Counter) :
    point.pending counter = old.pending counter ∧
      ∀ serving, (point.serve serving).pending counter =
        serving.pending counter := by
  cases point with
  | polling message msgSize current =>
      cases found
      exact ⟨rfl, fun _ => rfl⟩
  | poll current =>
      cases found
      exact ⟨rfl, fun _ => rfl⟩
  | drainPoll iterations current =>
      cases found
      exact ⟨rfl, fun _ => rfl⟩
  | _ => cases found

/-- What a counter has counted, and is still to count. -/
def Producer.total (producer : Producer) (counter : Counter) : Nat :=
  producer.read counter + producer.pending counter

/-- A thread has counted an amount and gone on, or has finished. -/
theorem total_of_thread
    {producer next : Producer} {before points after : List ThreadPoint}
    {point : ThreadPoint} {label : ProducerLabel} {counter : Counter}
    (amount : Nat)
    (found : producer.threads = before ++ point :: after)
    (threads : next.threads = before ++ (points ++ after))
    (counted :
      next.read counter ≡ producer.read counter + amount
        [MOD 2 ^ counter.width])
    (spent :
      (points.map fun point => point.pending counter).sum + amount =
        point.pending counter + label.counts counter) :
    next.total counter ≡ producer.total counter + label.counts counter
      [MOD 2 ^ counter.width] := by
  refine (counted.add_right _).trans (congrArg (· % _) ?_)
  rw [Producer.total, Producer.pending, Producer.pending, threads, found]
  simp only [List.map_append, List.sum_append, List.map_cons, List.sum_cons]
  omega

/-- Every step counts what it has to and leaves the rest to its thread. -/
theorem step_total
    {producer next : Producer} {label : ProducerLabel}
    (taken : Producer.Step producer label next) (counter : Counter) :
    next.total counter ≡ producer.total counter + label.counts counter
      [MOD 2 ^ counter.width] := by
  cases taken with
  | produce msgData alive =>
      refine congrArg (· % _) (congrArg (producer.read counter + ·) ?_)
      simp [Producer.pending, ThreadPoint.pending, Serving.pending]
  | @accept before after message msgSize found =>
      exact @total_of_thread _ _ _ [_] _ _ _ _ 0 found rfl rfl
        (Nat.add_comm _ _)
  | reject code found differ =>
      refine @total_of_thread _ _ _ [_] _ _ _ _ 0 found rfl rfl ?_
      cases code with
      | noError => exact absurd rfl differ
      | _ => exact Nat.add_comm _ _
  | @countAccepted before after msgSize own counters found =>
      refine @total_of_thread _ _ _ [_] _ _ _ _ _ found rfl
        (read_add_modEq producer own counter _) ?_
      exact Nat.add_comm _ _
  | release found =>
      exact @total_of_thread _ _ _ [] _ _ _ _ 0 found rfl rfl rfl
  | countRejected found =>
      exact @total_of_thread _ _ _ [_] _ _ _ _ _ found rfl
        (read_add_modEq producer _ counter _) (Nat.add_comm _ _)
  | log found =>
      exact @total_of_thread _ _ _ [_] _ _ _ _ 0 found rfl rfl rfl
  | cleanUp found =>
      exact @total_of_thread _ _ _ [] _ _ _ _ 0 found rfl rfl rfl
  | transmit known => exact rfl
  | @deliver before after point message failed found serving known =>
      rcases serve_pending serving counter with ⟨now, later⟩
      refine @total_of_thread _ _ _ [_] _ _ _ _ 0 found rfl rfl ?_
      rw [List.map_singleton, List.sum_singleton, now, later]
      exact Nat.add_comm _ _
  | @countDelivery before after point message failed found serving =>
      rcases serve_pending serving counter with ⟨now, later⟩
      refine @total_of_thread _ _ _ [_] _ _ _ _ _ found rfl
        (read_add_modEq producer _ counter _) ?_
      rw [List.map_singleton, List.sum_singleton, now, later]
      exact Nat.add_comm _ _
  | @delete before after point message found serving =>
      rcases serve_pending serving counter with ⟨now, later⟩
      refine @total_of_thread _ _ _ [_] _ _ _ _ 0 found rfl rfl ?_
      rw [List.map_singleton, List.sum_singleton, now, later]
      rfl
  | poll alive =>
      refine congrArg (· % _) (congrArg (producer.read counter + ·) ?_)
      simp [Producer.pending, ThreadPoint.pending, Serving.pending]
  | polled eventsHandled outputQueueLength found bound =>
      exact @total_of_thread _ _ _ [_] _ _ _ _ 0 found rfl rfl
        (Nat.add_comm _ _)
  | addServed found =>
      exact @total_of_thread _ _ _ [_] _ _ _ _ _ found rfl
        (read_add_modEq producer _ counter _) (Nat.add_comm _ _)
  | storeLength found =>
      refine @total_of_thread _ _ _ [] _ _ _ _ 0 found rfl ?_ rfl
      cases counter <;> rfl
  | destroy alive none =>
      have nothing : producer.pending counter = 0 := by
        rw [Producer.pending, none]
        rfl
      exact congrArg (· % _)
        (congrArg (producer.read counter + ·) nothing.symm)
  | foundEmpty found empty =>
      exact @total_of_thread _ _ [] [] _ _ _ _ 0 found rfl rfl rfl
  | drainPoll outputQueueLength found bound differ =>
      exact @total_of_thread _ _ [] [_] _ _ _ _ 0 found rfl rfl rfl
  | drained found =>
      exact @total_of_thread _ _ [] [_] _ _ _ _ 0 found rfl rfl rfl
  | giveUp found =>
      exact @total_of_thread _ _ [] [] _ _ _ _ 0 found rfl rfl rfl

/-- A counter is always less than its range. -/
theorem read_lt_step
    {producer next : Producer} {label : ProducerLabel}
    (taken : Producer.Step producer label next)
    (small : ∀ counter, producer.read counter < 2 ^ counter.width)
    (counter : Counter) :
    next.read counter < 2 ^ counter.width := by
  have added (own : Counter) (amount : Nat) :
      (producer.add own amount).read counter < 2 ^ counter.width := by
    rw [read_add]
    split
    · exact Nat.mod_lt _ (Nat.two_pow_pos _)
    · exact small counter
  cases taken with
  | countAccepted _ => exact added _ _
  | countRejected _ => exact added _ _
  | countDelivery _ _ => exact added _ _
  | addServed _ => exact added _ _
  | storeLength _ =>
      have same := small counter
      cases counter <;> exact same
  | _ => exact small counter

/-! ## Calls and messages -/

/-- The stages of a call of `ProducerTopic::produce`. -/
inductive CallStage where
  | asks
  | accepted
  | rejected
deriving DecidableEq, Repr

def ThreadPoint.stage? : ThreadPoint → Option CallStage
  | .polling _ _ _ => some .asks
  | .accepted _ _ => some .accepted
  | .rejected _ _ => some .rejected
  | .logs _ _ => some .rejected
  | .cleansUp _ => some .rejected
  | _ => none

/-- The stage that a call enters with an answer. -/
def ErrorCode.stage : ErrorCode → CallStage
  | .noError => .accepted
  | _ => .rejected

/-- The stage that a call enters. -/
def ProducerLabel.enters? : ProducerLabel → Option CallStage
  | .produce _ => some .asks
  | .answer _ code => some code.stage
  | _ => none

/-- The stage that a call leaves. -/
def ProducerLabel.leaves? : ProducerLabel → Option CallStage
  | .answer _ _ => some .asks
  | .returned 0 => some .accepted
  | .returned _ => some .rejected
  | _ => none

/-- The number of calls in a stage. -/
def Producer.callsIn (producer : Producer) (stage : CallStage) : Nat :=
  (producer.threads.map ThreadPoint.stage?).count (some stage)

/-- One for an event of the given kind. -/
def isStage (found : Option CallStage) (stage : CallStage) : Nat :=
  if found = some stage then 1 else 0

theorem serve_stage?
    {point : ThreadPoint} {old : Serving}
    (found : point.serving? = some old) (serving : Serving) :
    (point.serve serving).stage? = point.stage? := by
  cases point with
  | polling _ _ _ => rfl
  | poll _ => rfl
  | drainPoll _ _ => rfl
  | _ => cases found

/-- A call has gone on from one stage to another, or has returned. -/
theorem callsIn_of_thread
    {producer next : Producer} {before points after : List ThreadPoint}
    {point : ThreadPoint} {label : ProducerLabel} {stage : CallStage}
    (found : producer.threads = before ++ point :: after)
    (threads : next.threads = before ++ (points ++ after))
    (moved :
      (points.map ThreadPoint.stage?).count (some stage) +
          isStage label.leaves? stage =
        isStage point.stage? stage + isStage label.enters? stage) :
    next.callsIn stage + isStage label.leaves? stage =
      producer.callsIn stage + isStage label.enters? stage := by
  have one :
      (point.stage? :: after.map ThreadPoint.stage?).count (some stage) =
        (after.map ThreadPoint.stage?).count (some stage) +
          isStage point.stage? stage := by
    rw [List.count_cons, isStage]
    simp only [beq_iff_eq]
  rw [Producer.callsIn, Producer.callsIn, threads, found]
  simp only [List.map_append, List.map_cons, List.count_append, one]
  omega

/-- The calls in a stage are those that entered it and have not left it. -/
theorem step_callsIn
    {producer next : Producer} {label : ProducerLabel}
    (taken : Producer.Step producer label next) (stage : CallStage) :
    next.callsIn stage + isStage label.leaves? stage =
      producer.callsIn stage + isStage label.enters? stage := by
  have stays {before after : List ThreadPoint} {point after' : ThreadPoint}
      (found : producer.threads = before ++ point :: after)
      (threads : next.threads = before ++ ([after'] ++ after))
      (same : after'.stage? = point.stage?)
      (silent : label.enters? = none ∧ label.leaves? = none) :
      next.callsIn stage + isStage label.leaves? stage =
        producer.callsIn stage + isStage label.enters? stage := by
    refine callsIn_of_thread found threads ?_
    rw [silent.1, silent.2, List.map_singleton, same]
    simp [isStage, List.count_singleton]
  cases taken with
  | produce msgData alive =>
      rw [Producer.callsIn, Producer.callsIn]
      simp [ProducerLabel.leaves?, ProducerLabel.enters?, isStage,
        ThreadPoint.stage?, List.count_singleton]
  | accept found =>
      refine @callsIn_of_thread _ _ _ [_] _ _ _ _ found rfl ?_
      cases stage <;> rfl
  | reject code found differ =>
      refine @callsIn_of_thread _ _ _ [_] _ _ _ _ found rfl ?_
      cases code with
      | noError => exact absurd rfl differ
      | _ => cases stage <;> rfl
  | countAccepted found => exact stays found rfl rfl ⟨rfl, rfl⟩
  | release found =>
      refine @callsIn_of_thread _ _ _ [] _ _ _ _ found rfl ?_
      cases stage <;> rfl
  | countRejected found => exact stays found rfl rfl ⟨rfl, rfl⟩
  | log found => exact stays found rfl rfl ⟨rfl, rfl⟩
  | cleanUp found =>
      refine @callsIn_of_thread _ _ _ [] _ _ _ _ found rfl ?_
      cases stage <;> rfl
  | transmit _ => rfl
  | deliver failed found serving _ =>
      exact stays found rfl (serve_stage? serving _) ⟨rfl, rfl⟩
  | countDelivery found serving =>
      exact stays found rfl (serve_stage? serving _) ⟨rfl, rfl⟩
  | delete found serving =>
      exact stays found rfl (serve_stage? serving _) ⟨rfl, rfl⟩
  | poll alive =>
      rw [Producer.callsIn, Producer.callsIn]
      simp [ProducerLabel.leaves?, ProducerLabel.enters?, isStage,
        ThreadPoint.stage?]
  | polled eventsHandled outputQueueLength found _ =>
      exact stays found rfl rfl ⟨rfl, rfl⟩
  | addServed found => exact stays found rfl rfl ⟨rfl, rfl⟩
  | storeLength found =>
      refine @callsIn_of_thread _ _ _ [] _ _ _ _ found rfl ?_
      cases stage <;> rfl
  | destroy alive none =>
      have nothing : producer.callsIn stage = 0 := by
        rw [Producer.callsIn, none]
        rfl
      rw [nothing, Producer.callsIn]
      cases stage <;> rfl
  | foundEmpty found _ =>
      refine @callsIn_of_thread _ _ [] [] _ _ _ _ found rfl ?_
      cases stage <;> rfl
  | drainPoll _ found _ _ => exact @stays [] _ _ _ found rfl rfl ⟨rfl, rfl⟩
  | drained found => exact @stays [] _ _ _ found rfl rfl ⟨rfl, rfl⟩
  | giveUp found =>
      refine @callsIn_of_thread _ _ [] [] _ _ _ _ found rfl ?_
      cases stage <;> rfl

/-- The library takes a message. -/
def ProducerLabel.accepts : ProducerLabel → Nat
  | .answer _ .noError => 1
  | _ => 0

/-- The library reports a message. -/
def ProducerLabel.reports : ProducerLabel → Nat
  | .deliver _ => 1
  | _ => 0

/-- The messages that the library has or had when it was destroyed. -/
def Producer.unreported (producer : Producer) : Nat :=
  producer.outQueue.length + producer.leaked.length

/-- A message that was taken is reported or still there. -/
theorem step_unreported
    {producer next : Producer} {label : ProducerLabel}
    (taken : Producer.Step producer label next) :
    next.unreported + label.reports = producer.unreported + label.accepts := by
  cases taken with
  | accept _ =>
      change (producer.outQueue ++ [_]).length + producer.leaked.length + 0 =
        producer.outQueue.length + producer.leaked.length + 1
      rw [List.length_append, List.length_singleton]
      omega
  | reject code _ differ =>
      cases code with
      | noError => exact absurd rfl differ
      | _ => rfl
  | @deliver _ _ _ message failed _ _ known =>
      have some : 0 < producer.outQueue.length := List.length_pos_of_mem known
      change (producer.outQueue.erase message).length +
          producer.leaked.length + 1 =
        producer.outQueue.length + producer.leaked.length + 0
      rw [List.length_erase_of_mem known]
      omega
  | foundEmpty _ _ =>
      change 0 + (producer.leaked ++ producer.outQueue).length + 0 =
        producer.outQueue.length + producer.leaked.length + 0
      rw [List.length_append]
      omega
  | giveUp _ =>
      change 0 + (producer.leaked ++ producer.outQueue).length + 0 =
        producer.outQueue.length + producer.leaked.length + 0
      rw [List.length_append]
      omega
  | _ => rfl

/--
In every run of the threads that use a producer, each counter has counted, up
to its range, what happened, but for what the threads have still to add.  The
messages that the library took are those it has reported and those it has or
lost.  When no thread uses the producer, the counters say exactly what
happened, all calls were answered, and as many of them returned 0 as there are
messages that the library took, and as many 1 as it rejected.
-/
theorem statistics_count_messages
    {trace : List ProducerLabel} {producer : Producer}
    (run : Execution Producer.Step {} trace producer) :
    (∀ counter,
      producer.read counter + producer.pending counter ≡
        (trace.map (·.counts counter)).sum [MOD 2 ^ counter.width]) ∧
      (trace.map ProducerLabel.accepts).sum =
        producer.unreported + (trace.map ProducerLabel.reports).sum ∧
      (producer.threads = [] →
        (∀ counter,
          producer.read counter =
            (trace.map (·.counts counter)).sum % 2 ^ counter.width) ∧
        ∀ stage,
          (trace.map fun label => isStage label.enters? stage).sum =
            (trace.map fun label => isStage label.leaves? stage).sum) := by
  have counted (counter : Counter) :
      producer.total counter ≡ (trace.map (·.counts counter)).sum
        [MOD 2 ^ counter.width] := by
    have sum := run.modEq_sum (·.total counter) (·.counts counter)
      fun _ _ _ taken => step_total taken counter
    have nothing : ({} : Producer).total counter = 0 := by
      cases counter <;> rfl
    rwa [nothing, Nat.zero_add] at sum
  have small : ∀ counter, producer.read counter < 2 ^ counter.width := by
    refine run.invariant
      (fun state => ∀ counter, state.read counter < 2 ^ counter.width) ?_
      fun _ _ _ kept taken => read_lt_step taken kept
    intro counter
    cases counter <;> exact Nat.two_pow_pos _
  refine ⟨counted, ?_, fun none => ⟨fun counter => ?_, fun stage => ?_⟩⟩
  · have balance := run.balance Producer.unreported ProducerLabel.accepts
      ProducerLabel.reports fun _ _ _ taken => step_unreported taken
    rw [balance]
    exact (Nat.zero_add _).symm
  · have nothing : producer.pending counter = 0 := by
      rw [Producer.pending, none]
      rfl
    have same := counted counter
    rw [Producer.total, nothing, Nat.add_zero] at same
    rw [← same, Nat.mod_eq_of_lt (small counter)]
  · have balance := run.balance (·.callsIn stage)
      (fun label => isStage label.enters? stage)
      (fun label => isStage label.leaves? stage)
      fun _ _ _ taken => step_callsIn taken stage
    have nothing : producer.callsIn stage = 0 := by
      rw [Producer.callsIn, none]
      rfl
    rw [nothing, Nat.zero_add] at balance
    rw [balance]
    exact (Nat.zero_add _).symm

/-- Two calls, of which the library took one. -/
theorem statistics_count_messages_sample :
    Execution Producer.Step {} sampleTrace sampleProducer ∧
      sampleProducer.stats.produced =
        (sampleTrace.map (·.counts .produced)).sum % 2 ^ 64 ∧
      sampleProducer.stats.producedBytes = 2 ∧
      (sampleTrace.map ProducerLabel.accepts).sum =
        (sampleTrace.map ProducerLabel.reports).sum := by
  rcases statistics_count_messages sampleProducer_run with
    ⟨_, taken, counted⟩
  refine ⟨sampleProducer_run, (counted rfl).1 .produced, rfl, ?_⟩
  rw [taken]
  exact Nat.zero_add _

end KafkaToNexus.Kafka
