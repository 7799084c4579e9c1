import KafkaToNexus.Kafka.Producer

/-!
# Who deletes a message

A message belongs to the call that allocated it, then to the library and then
to the delivery callback.  Whatever the threads and the library do, and in
whatever order, no message is used or deleted after its deletion, none is lost
while the producer lives, and the library sends what it was given.  The
destructor loses the messages that the library still has after its polls, and
none if it finds the queue empty.
-/

namespace KafkaToNexus.Kafka

open KafkaToNexus.Foundations
open KafkaToNexus.Foundations.Ownership

/-! ## What a step does to the owners -/

/-- Serving callbacks leaves the message of the thread's own call alone. -/
theorem serve_owned
    {point : ThreadPoint} {old : Serving}
    (found : point.serving? = some old) :
    ∃ own, point.owned = own ++ old.owned ∧
      ∀ serving, (point.serve serving).owned = own ++ serving.owned := by
  cases point with
  | polling message msgSize current =>
      cases found
      exact ⟨[message], rfl, fun _ => rfl⟩
  | poll current =>
      cases found
      exact ⟨[], rfl, fun _ => rfl⟩
  | drainPoll iterations current =>
      cases found
      exact ⟨[], rfl, fun _ => rfl⟩
  | _ => cases found

/-- What one thread owns is told from the rest. -/
theorem owners_perm_of_thread
    {producer : Producer} {before after : List ThreadPoint}
    {point : ThreadPoint}
    (found : producer.threads = before ++ point :: after) :
    producer.owners.Perm
      (point.owned ++ (producer.finish before after).owners) := by
  rw [Producer.owners, Producer.owners, found, Producer.finish,
    List.flatMap_append, List.flatMap_cons, List.flatMap_append]
  simp only [List.append_assoc]
  exact List.perm_append_comm_assoc _ _ _

/-- The thread has gone on, and owns something else. -/
theorem owners_goTo_perm
    (producer : Producer) (before after : List ThreadPoint)
    (point : ThreadPoint) :
    (producer.goTo before point after).owners.Perm
      (point.owned ++ (producer.finish before after).owners) :=
  @owners_perm_of_thread (producer.goTo before point after) _ _ _ rfl

/-- A step between points that own the same leaves the owners alone. -/
theorem owners_perm_goTo
    {producer : Producer} {before after : List ThreadPoint}
    {point next : ThreadPoint}
    (found : producer.threads = before ++ point :: after)
    (same : point.owned.Perm next.owned) :
    producer.owners.Perm (producer.goTo before next after).owners :=
  ((owners_perm_of_thread found).trans (same.append_right _)).trans
    (owners_goTo_perm producer before after next).symm

/-- The library has taken a message. -/
theorem owners_append_perm (producer : Producer) (message : Address) :
    ({ producer with
        outQueue := producer.outQueue ++ [message] }).owners.Perm
      (message :: producer.owners) := by
  rw [Producer.owners, Producer.owners]
  simp only [List.append_assoc]
  exact (List.Perm.append_left _ List.perm_middle).trans List.perm_middle

/-- The library has handed a message to a delivery callback. -/
theorem owners_erase_perm
    {producer : Producer} {message : Address}
    (known : message ∈ producer.outQueue) :
    producer.owners.Perm
      (message ::
        ({ producer with
            outQueue := producer.outQueue.erase message }).owners) := by
  rw [Producer.owners, Producer.owners]
  refine (((List.perm_cons_erase known).append_left _).append_right _).trans ?_
  simp only [List.append_assoc]
  exact List.perm_middle

/-- The library is gone, and its messages are left. -/
theorem owners_destroy_perm (producer : Producer) (emptied : Bool) :
    producer.owners.Perm (producer.destroy emptied).owners := by
  rw [Producer.owners, Producer.owners, Producer.destroy]
  simp only [List.append_nil, List.append_assoc]
  exact List.perm_append_comm.append_left _

/-- The message that a step allocates. -/
def ProducerLabel.allocated : ProducerLabel → Option ProducerMessage
  | .produce msgData => some (.ofBuffer msgData)
  | _ => none

/-- Every step uses and frees what the thread that takes it owns. -/
theorem step_transfer
    {producer next : Producer} {label : ProducerLabel}
    (taken : Producer.Step producer label next) :
    Transfer producer.heap producer.owners label.allocated next.heap
      next.owners := by
  cases taken with
  | produce msgData alive =>
      refine .allocates _ ?_
      rw [Producer.owners, Producer.owners]
      simp only [List.flatMap_append, List.flatMap_singleton, List.append_assoc]
      exact List.perm_middle
  | @accept before after message msgSize found =>
      refine .keeps ((owners_perm_of_thread found).trans ?_)
      have taken := owners_append_perm (producer.finish before after) message
      exact taken.symm.trans
        (owners_goTo_perm
          { producer with outQueue := producer.outQueue ++ [message] } before
          after (.accepted msgSize acceptedCounters)).symm
  | reject code found _ => exact .keeps (owners_perm_goTo found (.refl _))
  | countAccepted found => exact .keeps (owners_perm_goTo found (.refl _))
  | release found => exact .keeps (owners_perm_of_thread found)
  | countRejected found => exact .keeps (owners_perm_goTo found (.refl _))
  | @log before after message code found =>
      have same :=
        @owners_perm_goTo _ _ _ _ (.cleansUp message) found (.refl _)
      have known : message ∈ producer.owners :=
        (owners_perm_of_thread found).mem_iff.mpr List.mem_cons_self
      change Transfer _ _ _ (if code = .msgSizeTooLarge then _ else _) _
      split
      · exact .uses known same
      · exact .keeps same
  | cleanUp found => exact .frees (owners_perm_of_thread found)
  | transmit known =>
      exact .uses
        (List.mem_append_left _ (List.mem_append_right _ known)) (.refl _)
  | @deliver before after point message failed found serving known =>
      rcases serve_owned serving with ⟨own, ownedNow, ownedThen⟩
      refine .keeps ((owners_perm_of_thread found).trans ?_)
      refine .trans ?_ (owners_goTo_perm
        { producer with outQueue := producer.outQueue.erase message } before
        after (point.serve (.called message failed))).symm
      rw [ownedNow, ownedThen, Serving.owned, List.append_nil,
        Serving.owned, List.append_assoc]
      have reported :=
        @owners_erase_perm (producer.finish before after) _ known
      exact reported.append_left own
  | @countDelivery before after point message failed found serving =>
      rcases serve_owned serving with ⟨own, ownedNow, ownedThen⟩
      refine .keeps (owners_perm_goTo found (.of_eq ?_))
      rw [ownedNow, ownedThen]
      rfl
  | @delete before after point message found serving =>
      rcases serve_owned serving with ⟨own, ownedNow, ownedThen⟩
      refine .frees ((owners_perm_of_thread found).trans ?_)
      refine .trans ?_
        ((owners_goTo_perm producer before after (point.serve .waiting)).cons
          message).symm
      rw [ownedNow, ownedThen, Serving.owned, Serving.owned, List.append_nil,
        List.append_assoc]
      exact List.perm_middle
  | poll alive =>
      refine .keeps (.of_eq ?_)
      rw [Producer.owners, Producer.owners]
      simp [ThreadPoint.owned, Serving.owned]
  | polled eventsHandled outputQueueLength found bound =>
      exact .keeps (owners_perm_goTo found (.refl _))
  | addServed found => exact .keeps (owners_perm_goTo found (.refl _))
  | storeLength found => exact .keeps (owners_perm_of_thread found)
  | destroy alive none =>
      refine .keeps (.of_eq ?_)
      rw [Producer.owners, Producer.owners, none]
      rfl
  | foundEmpty found empty =>
      exact .keeps ((@owners_perm_of_thread _ [] _ _ found).trans
        (owners_destroy_perm _ true))
  | drainPoll outputQueueLength found bound differ =>
      exact .keeps (@owners_perm_goTo _ [] _ _ _ found (.refl _))
  | drained found =>
      exact .keeps (@owners_perm_goTo _ [] _ _ _ found (.refl _))
  | giveUp found =>
      exact .keeps ((@owners_perm_of_thread _ [] _ _ found).trans
        (owners_destroy_perm _ false))

/-! ## Runs -/

/-- The payload of a call that was made. -/
def IsPayload (trace : List ProducerLabel) (payload : List UInt8) : Prop :=
  ∃ msgData, ProducerLabel.produce msgData ∈ trace ∧
    payload = msgData.take (msgData.length % 2 ^ 32)

theorem IsPayload.mono
    {trace : List ProducerLabel} {payload : List UInt8}
    (known : IsPayload trace payload) (label : ProducerLabel) :
    IsPayload (trace ++ [label]) payload :=
  known.imp fun _ => And.imp_left (List.mem_append_left _)

/-- Nothing is left to do when the producer is gone. -/
structure WoundUp (producer : Producer) : Prop where
  finished :
    ∀ emptied, producer.life = .destroyed emptied →
      producer.threads = [] ∧ producer.outQueue = []
  leaked : producer.leaked = [] ∨ producer.life = .destroyed false

/-- A thread is at work, so that nothing was leaked. -/
theorem WoundUp.of_thread
    {producer : Producer} {before after : List ThreadPoint}
    {point : ThreadPoint} (wound : WoundUp producer)
    (found : producer.threads = before ++ point :: after) :
    producer.leaked = [] ∧ ∀ emptied, producer.life ≠ .destroyed emptied := by
  have works : ∀ emptied, producer.life ≠ .destroyed emptied := by
    intro emptied gone
    have none := (wound.finished emptied gone).1
    rw [found] at none
    exact absurd none
      (List.append_ne_nil_of_right_ne_nil _ (List.cons_ne_nil _ _))
  exact ⟨wound.leaked.resolve_right (works false), works⟩

theorem WoundUp.step
    {producer next : Producer} {label : ProducerLabel}
    (wound : WoundUp producer)
    (taken : Producer.Step producer label next) :
    WoundUp next := by
  have goesOn {before after : List ThreadPoint} {point : ThreadPoint}
      (found : producer.threads = before ++ point :: after)
      (life : next.life = producer.life)
      (leaked : next.leaked = producer.leaked) : WoundUp next := by
    rcases wound.of_thread found with ⟨none, works⟩
    exact ⟨fun emptied gone =>
      absurd (life.symm.trans gone) (works emptied), .inl (leaked.trans none)⟩
  have lives (alive : producer.life = .alive)
      (leaked : next.leaked = producer.leaked)
      (life : ∀ emptied, next.life ≠ .destroyed emptied) : WoundUp next := by
    refine ⟨fun emptied gone => absurd gone (life emptied), .inl ?_⟩
    refine leaked.trans (wound.leaked.resolve_right fun gone => ?_)
    rw [alive] at gone
    cases gone
  cases taken with
  | produce _ alive =>
      exact lives alive rfl fun _ gone => by cases alive.symm.trans gone
  | poll alive =>
      exact lives alive rfl fun _ gone => by cases alive.symm.trans gone
  | destroy alive _ => exact lives alive rfl fun _ gone => by cases gone
  | transmit _ => exact ⟨wound.finished, wound.leaked⟩
  | accept found => exact goesOn found rfl rfl
  | reject _ found _ => exact goesOn found rfl rfl
  | countAccepted found => exact goesOn found rfl rfl
  | release found => exact goesOn found rfl rfl
  | countRejected found => exact goesOn found rfl rfl
  | log found => exact goesOn found rfl rfl
  | cleanUp found => exact goesOn found rfl rfl
  | deliver _ found _ _ => exact goesOn found rfl rfl
  | countDelivery found _ => exact goesOn found rfl rfl
  | delete found _ => exact goesOn found rfl rfl
  | polled _ _ found _ => exact goesOn found rfl rfl
  | addServed found => exact goesOn found rfl rfl
  | storeLength found => exact goesOn found rfl rfl
  | drainPoll _ found _ _ => exact @goesOn [] _ _ found rfl rfl
  | drained found => exact @goesOn [] _ _ found rfl rfl
  | foundEmpty found empty =>
      refine ⟨fun _ _ => ⟨rfl, rfl⟩, .inl ?_⟩
      have none := (@WoundUp.of_thread _ [] _ _ wound found).1
      have left := List.eq_nil_of_length_eq_zero (Nat.le_zero.mp empty)
      change producer.leaked ++ producer.outQueue = []
      rw [none, left]
      rfl
  | giveUp found => exact ⟨fun _ _ => ⟨rfl, rfl⟩, .inr rfl⟩

/-- What holds of a producer along its runs. -/
structure Keeps (trace : List ProducerLabel) (producer : Producer) : Prop where
  owned : Owned producer.heap producer.owners
  wound : WoundUp producer
  built :
    ∀ address message, producer.heap.read? address = some message →
      IsPayload trace message.payload
  sent :
    ∀ payload, .transmit payload ∈ trace →
      ∃ bytes, payload = some bytes ∧ IsPayload trace bytes

theorem Keeps.step
    {trace : List ProducerLabel} {producer next : Producer}
    {label : ProducerLabel} (keeps : Keeps trace producer)
    (taken : Producer.Step producer label next) :
    Keeps (trace ++ [label]) next := by
  have transfer := step_transfer taken
  refine ⟨keeps.owned.transfer transfer, keeps.wound.step taken, ?_, ?_⟩
  · intro address message found
    rcases transfer.read? keeps.owned found with old | new
    · exact (keeps.built address message old).mono label
    · cases label with
      | produce msgData =>
          cases new
          exact ⟨msgData, List.mem_append_right _ List.mem_cons_self, rfl⟩
      | _ => cases new
  · intro payload member
    rcases List.mem_append.mp member with old | new
    · rcases keeps.sent payload old with ⟨bytes, same, known⟩
      exact ⟨bytes, same, known.mono label⟩
    · obtain rfl := List.mem_singleton.mp new
      cases taken with
      | @transmit message queued =>
          have owned : message ∈ producer.owners :=
            List.mem_append_left _ (List.mem_append_right _ queued)
          rcases Option.isSome_iff_exists.mp
            ((keeps.owned.live message).mp owned) with ⟨kept, found⟩
          rw [found]
          exact ⟨_, rfl, (keeps.built message kept found).mono _⟩

/--
In every run of the threads that use a producer, the library and the
destructor: no message is used or deleted after it was deleted; a message
exists if and only if a call, the library or a callback owns it; the library
sends the first bytes of buffers that were handed in, as many as the 32 bit
size says.  When the destructor has returned, the only messages left are those
that the library had, and there are none if its queue was found empty.
-/
theorem messages_deleted_once
    {trace : List ProducerLabel} {producer : Producer}
    (run : Execution Producer.Step {} trace producer) :
    producer.heap.faulted = false ∧
      producer.owners.Nodup ∧
      (∀ address, address ∈ producer.owners ↔
        (producer.heap.read? address).isSome) ∧
      (∀ payload, .transmit payload ∈ trace →
        ∃ bytes, payload = some bytes ∧ IsPayload trace bytes) ∧
      (∀ emptied, producer.life = .destroyed emptied →
        producer.owners = producer.leaked ∧
          (emptied = true →
            ∀ address, producer.heap.read? address = none)) := by
  have keeps : Keeps trace producer := by
    refine run.traceInvariant Keeps ⟨owned_empty, ⟨?_, .inl rfl⟩, ?_, ?_⟩ ?_
    · intro emptied gone
      cases gone
    · intro address message found
      cases found
    · intro payload member
      cases member
    · intro labels state label next kept taken
      exact kept.step taken
  refine ⟨keeps.owned.sound, keeps.owned.distinct, keeps.owned.live,
    keeps.sent, fun emptied gone => ?_⟩
  rcases keeps.wound.finished emptied gone with ⟨threads, queue⟩
  have owners : producer.owners = producer.leaked := by
    rw [Producer.owners, threads, queue]
    rfl
  refine ⟨owners, fun empty address => ?_⟩
  have none : producer.leaked = [] := by
    refine keeps.wound.leaked.resolve_right fun left => ?_
    rw [gone, empty] at left
    cases left
  have live := keeps.owned.live address
  rw [owners, none] at live
  exact Option.not_isSome_iff_eq_none.mp fun some =>
    List.not_mem_nil (live.mpr some)

/-- A message is deleted by another call, and nothing is left in the end. -/
theorem messages_deleted_once_sample :
    Execution Producer.Step {} sampleTrace sampleProducer ∧
      sampleProducer.heap.faulted = false ∧
      IsPayload sampleTrace [1, 2] ∧
      ∀ address, sampleProducer.heap.read? address = none := by
  rcases messages_deleted_once sampleProducer_run with
    ⟨sound, _, _, sent, lost⟩
  rcases sent (some [1, 2]) (by decide) with ⟨bytes, same, known⟩
  cases same
  exact ⟨sampleProducer_run, sound, known, (lost true rfl).2 rfl⟩

end KafkaToNexus.Kafka
