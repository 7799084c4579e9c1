import KafkaToNexus.Stream.PartitionDelivery
import KafkaToNexus.Stream.PollChain
import KafkaToNexus.StreamController
import Mathlib.Algebra.Order.BigOperators.Group.List
import Mathlib.Algebra.Order.Group.Nat

/-!
# The messages that a partition can still hand over

A filter keeps at most one message, and a poll brings at most one more for
each of its destinations.  What a partition can hand over without polling its
consumer again is therefore bounded: the messages in its buffers, those of the
poll that is going on and those that it is about to hand over.  Every step
other than the beginning of a poll spends from this supply.
-/

namespace KafkaToNexus.JobDelivery

open KafkaToNexus
open KafkaToNexus.Foundations
open KafkaToNexus.Stream
open KafkaToNexus.Stream.PartitionDelivery
open KafkaToNexus.Stream.PollChain

variable {Thread Dest : Type*}

/-! ## What the filters hold -/

/-- The number of messages that a list of calls hands over. -/
def messageCount (events : List (SendEvent Dest)) : Nat :=
  (events.filterMap SendEvent.message?).length

/-- The number of destinations that the filters know. -/
def registrations (msgFilters : List (SrcHash × SourceFilter Dest)) : Nat :=
  (msgFilters.map fun item => item.2.destIDs.length).sum

/-- The number of messages that are handed over when a filter is destroyed. -/
def heldBy (filter : SourceFilter Dest) : Nat :=
  (bufferOf filter).length * filter.destIDs.length

def heldMessages (msgFilters : List (SrcHash × SourceFilter Dest)) : Nat :=
  (msgFilters.map fun item => heldBy item.2).sum

@[simp]
theorem messageCount_nil : messageCount ([] : List (SendEvent Dest)) = 0 :=
  rfl

theorem messageCount_append (first second : List (SendEvent Dest)) :
    messageCount (first ++ second) =
      messageCount first + messageCount second := by
  rw [messageCount, List.filterMap_append, List.length_append]
  rfl

theorem messageCount_cons
    (event : SendEvent Dest) (events : List (SendEvent Dest)) :
    messageCount (event :: events) =
      messageCount [event] + messageCount events :=
  messageCount_append [event] events

theorem messageCount_flatMap
    {Item : Type*} (calls : Item → List (SendEvent Dest))
    (items : List Item) :
    messageCount (items.flatMap calls) =
      (items.map fun item => messageCount (calls item)).sum := by
  induction items with
  | nil => rfl
  | cons item rest induction =>
      rw [List.flatMap_cons, messageCount_append, induction, List.map_cons,
        List.sum_cons]

theorem messageCount_handOver
    (destinations : List Dest) (msg : FlatbufferMessage) :
    messageCount (handOver destinations msg) = destinations.length := by
  induction destinations with
  | nil => rfl
  | cons dest rest induction => exact congrArg (· + 1) induction

/-- The calls for a list of messages, each for every destination. -/
theorem messageCount_flatMap_handOver
    (destinations : List Dest) (msgs : List FlatbufferMessage) :
    messageCount (msgs.flatMap (handOver destinations)) =
      msgs.length * destinations.length := by
  rw [messageCount_flatMap]
  simp [messageCount_handOver]

theorem messageCount_filter_destroy (filter : SourceFilter Dest) :
    messageCount filter.destroy = heldBy filter := by
  rw [destroy_events, messageCount_flatMap_handOver]
  rfl

theorem messageCount_destroy (partition : Partition Dest) :
    messageCount partition.destroy = heldMessages partition.msgFilters := by
  rw [Partition.destroy, messageCount_flatMap]
  simp only [messageCount_filter_destroy]
  rfl

/-- The buffers hold at most one message for every destination. -/
theorem heldMessages_le_registrations
    (msgFilters : List (SrcHash × SourceFilter Dest)) :
    heldMessages msgFilters ≤ registrations msgFilters := by
  refine List.sum_le_sum fun item _ => ?_
  calc
    heldBy item.2 ≤ 1 * item.2.destIDs.length :=
      Nat.mul_le_mul_right _ (bufferOf_length_le item.2)
    _ = item.2.destIDs.length := Nat.one_mul _

/-! ## What a poll adds -/

/-- Of the message and the buffer, each is sent or kept at most once. -/
theorem filterMessage_supply
    (filter : SourceFilter Dest) (inMsg : FlatbufferMessage) :
    (transmittedOf (filter.filterMessage inMsg).events).length +
        (bufferOf (filter.filterMessage inMsg).filter).length ≤
      1 + (bufferOf filter).length := by
  rcases filter.filterMessage_classification inMsg with
    invalid | ⟨valid, repeats⟩ | ⟨valid, fresh, early⟩ |
      ⟨valid, fresh, onTime⟩
  · rw [filter.filterMessage_of_invalid invalid]
    exact Nat.add_le_add_right (Nat.zero_le 1) _
  · rw [filter.filterMessage_of_repeats valid repeats]
    exact Nat.add_le_add_right (Nat.zero_le 1) _
  · rcases filter.filterMessage_of_early valid fresh early with
      ⟨_, _, result⟩
    rw [result]
    have kept := bufferOf_length_le (filter.bufferMessage inMsg)
    rw [transmittedOf_nil, List.length_nil, Nat.zero_add]
    exact kept.trans (Nat.le_add_right 1 _)
  · rcases filter.filterMessage_of_onTime valid fresh onTime with
      ⟨_, _, result⟩
    rw [result]
    dsimp only
    rw [transmittedOf_append, transmittedOf_destroy, sendMessage_events,
      transmittedOf_handOver, List.length_append]
    unfold bufferOf
    cases valid : filter.bufferedMessage.valid <;> simp [valid]

theorem filterMessage_spends
    (filter : SourceFilter Dest) (inMsg : FlatbufferMessage) :
    messageCount (filter.filterMessage inMsg).events +
        heldBy (filter.filterMessage inMsg).filter ≤
      filter.destIDs.length + heldBy filter := by
  rw [filter.filterMessage_events, messageCount_flatMap_handOver, heldBy,
    filter.filterMessage_destIDs, heldBy, ← Nat.add_mul]
  calc
    _ ≤ (1 + (bufferOf filter).length) * filter.destIDs.length :=
      Nat.mul_le_mul_right _ (filterMessage_supply filter inMsg)
    _ = _ := by rw [Nat.add_mul, Nat.one_mul]

theorem offerMessage_spends
    (fbMsg : FlatbufferMessage) (item : SrcHash × SourceFilter Dest) :
    messageCount (Partition.offerMessage fbMsg item).2 +
        heldBy (Partition.offerMessage fbMsg item).1.2 ≤
      item.2.destIDs.length + heldBy item.2 := by
  unfold Partition.offerMessage
  split
  · exact filterMessage_spends item.2 fbMsg
  · rw [messageCount_nil, Nat.zero_add]
    exact Nat.le_add_left _ _

/-- A list of filters is divided into those that are kept and the others. -/
theorem heldMessages_filter_add
    (keep : SrcHash × SourceFilter Dest → Bool)
    (msgFilters : List (SrcHash × SourceFilter Dest)) :
    heldMessages (msgFilters.filter fun item => !keep item) +
        heldMessages (msgFilters.filter keep) =
      heldMessages msgFilters := by
  induction msgFilters with
  | nil => rfl
  | cons item rest induction =>
      cases kept : keep item <;>
        simp only [heldMessages, List.filter_cons, kept, Bool.not_true,
          Bool.not_false, if_true, Bool.false_eq_true, if_false, List.map_cons,
          List.sum_cons] at induction ⊢ <;>
        omega

theorem registrations_filter_le
    (keep : SrcHash × SourceFilter Dest → Bool)
    (msgFilters : List (SrcHash × SourceFilter Dest)) :
    registrations (msgFilters.filter keep) ≤ registrations msgFilters :=
  ((List.filter_sublist).map _).sum_le_sum fun _ _ => Nat.zero_le _

/-- The filters that a message is offered to, and what is left of them. -/
theorem filterAndErase_spends
    (msgFilters : List (SrcHash × SourceFilter Dest))
    (fbMsg : FlatbufferMessage) :
    let result := Partition.filterAndErase msgFilters fbMsg
    messageCount result.2 + heldMessages result.1 ≤
        registrations msgFilters + heldMessages msgFilters ∧
      registrations result.1 ≤ registrations msgFilters := by
  intro result
  let offered := msgFilters.map (Partition.offerMessage fbMsg)
  have spent :
      messageCount (offered.flatMap (·.2)) +
          heldMessages (offered.map (·.1)) ≤
        registrations msgFilters + heldMessages msgFilters := by
    rw [messageCount_flatMap, heldMessages, registrations, heldMessages,
      List.map_map, List.map_map, List.map_map, ← List.sum_map_add,
      ← List.sum_map_add]
    exact List.sum_le_sum fun item _ => offerMessage_spends fbMsg item
  constructor
  · have divided :=
      heldMessages_filter_add (fun item => item.2.hasFinished)
        (offered.map (·.1))
    have flushed :
        messageCount
            (((offered.map (·.1)).filter fun item =>
              item.2.hasFinished).flatMap fun item => item.2.destroy) =
          heldMessages
            ((offered.map (·.1)).filter fun item => item.2.hasFinished) := by
      rw [messageCount_flatMap]
      simp only [messageCount_filter_destroy]
      rfl
    have total :
        messageCount result.2 =
          messageCount (offered.flatMap (·.2)) +
            heldMessages
              ((offered.map (·.1)).filter fun item =>
                item.2.hasFinished) := by
      rw [← flushed, ← messageCount_append]
      rfl
    rw [total]
    change _ + heldMessages
      ((offered.map (·.1)).filter fun item => !item.2.hasFinished) ≤ _
    omega
  · refine (registrations_filter_le _ _).trans (Nat.le_of_eq ?_)
    rw [registrations, registrations, List.map_map, List.map_map]
    refine congrArg List.sum (List.map_congr_left fun item _ => ?_)
    exact congrArg List.length (offerMessage_destIDs fbMsg item)

/-- What a poll task hands over once the poll has returned. -/
theorem handlePoll_spends
    (context : MessageContext) {partition : Partition Dest}
    (free : partition.hasStopBeenRequested = false)
    (status : PollStatus) (message : Msg) (clock : PollClock) :
    let outcome := partition.handlePoll context status message clock
    messageCount outcome.events + heldMessages outcome.partition.msgFilters ≤
        registrations partition.msgFilters +
          heldMessages partition.msgFilters ∧
      registrations outcome.partition.msgFilters ≤
        registrations partition.msgFilters := by
  intro outcome
  by_cases isMessage : status = .message
  · subst isMessage
    rcases Partition.handlePoll_message context message clock free with
      ⟨filters, events⟩
    rw [filters, events]
    unfold Partition.offerPolled
    split
    · dsimp only
      exact ⟨by rw [messageCount_nil]; omega, Nat.le_refl _⟩
    · exact filterAndErase_spends _ _
  · rcases partition.handlePoll_other context message clock isMessage with
      ⟨filters, events⟩
    rw [filters, events, messageCount_nil]
    exact ⟨by omega, Nat.le_refl _⟩

/-! ## A partition on its executor -/

/-- What a task has still to hand over, apart from the buffers. -/
def taskMessages
    (msgFilters : List (SrcHash × SourceFilter Dest)) :
    Worker (PartitionTask Dest) → Nat
  | .running .polling => registrations msgFilters
  | .running (.forwarding events _) => messageCount events
  | _ => 0

/-- What the destructor has still to hand over. -/
def flushMessages : PartitionLife Dest → Nat
  | .flushing events => messageCount events
  | _ => 0

/-- The messages that a partition can hand over without another poll. -/
def pendingMessages (node : RunningPartition Thread Dest) : Nat :=
  taskMessages node.partition.msgFilters node.executor.worker +
    heldMessages node.partition.msgFilters + flushMessages node.life

theorem taskMessages_of_not_past
    (msgFilters : List (SrcHash × SourceFilter Dest))
    {executor : ThreadedExecutor Thread (PartitionTask Dest)}
    (none : executor.runningTasks isPastCheck = 0) :
    taskMessages msgFilters executor.worker = 0 := by
  unfold taskMessages
  unfold ThreadedExecutor.runningTasks at none
  split
  · rename_i running
    rw [running] at none
    cases none
  · rename_i running
    rw [running] at none
    cases none
  · rfl

/--
A partition that can hand over at most two messages for each destination of a
map.
-/
structure Supplied
    (limit : Nat) (node : RunningPartition Thread Dest) : Prop where
  obedient : Obedient node
  registered : registrations node.partition.msgFilters ≤ limit
  supply : pendingMessages node ≤ 2 * limit
  /-- The worker is joined before the filters are destroyed. -/
  joined :
    node.life = .alive ∨ node.life = .joining ∨
      node.executor.worker = .exited

/-- A partition whose worker is running was not joined. -/
theorem Supplied.working
    {limit : Nat} {node : RunningPartition Thread Dest}
    (supplied : Supplied limit node) {task : PartitionTask Dest}
    (running : node.executor.worker = .running task) :
    node.life = .alive ∨ node.life = .joining := by
  rcases supplied.joined with alive | joining | exited
  · exact .inl alive
  · exact .inr joining
  · rw [running] at exited
    cases exited

theorem Supplied.flushMessages_of_running
    {limit : Nat} {node : RunningPartition Thread Dest}
    (supplied : Supplied limit node) {task : PartitionTask Dest}
    (running : node.executor.worker = .running task) :
    flushMessages node.life = 0 := by
  rcases supplied.working running with alive | joining
  · rw [alive]
    rfl
  · rw [joining]
    rfl

theorem Supplied.exited
    {limit : Nat} {node : RunningPartition Thread Dest}
    (supplied : Supplied limit node) {events : List (SendEvent Dest)}
    (flushing : node.life = .flushing events) :
    node.executor.worker = .exited := by
  rcases supplied.joined with alive | joining | exited
  · rw [flushing] at alive
    cases alive
  · rw [flushing] at joining
    cases joining
  · exact exited

/-- The step is the beginning of a poll. -/
def beginsPolling : PartitionLabel Thread Dest → Bool
  | .pollConsumer => true
  | _ => false

/-- The worker has left a task of which nothing was pending. -/
theorem pendingMessages_goTo
    (node : RunningPartition Thread Dest)
    {worker : Worker (PartitionTask Dest)}
    (task : taskMessages node.partition.msgFilters worker = 0) :
    pendingMessages (node.goTo worker) ≤ pendingMessages node := by
  change
    taskMessages node.partition.msgFilters worker +
        heldMessages node.partition.msgFilters + flushMessages node.life ≤ _
  rw [task, pendingMessages]
  omega

/-- New stop times leave the destinations and the buffers alone. -/
theorem applyStopTime_supply
    (partition : Partition Dest) (stop : TimePoint) :
    heldMessages (partition.applyStopTime stop).msgFilters =
        heldMessages partition.msgFilters ∧
      registrations (partition.applyStopTime stop).msgFilters =
        registrations partition.msgFilters := by
  constructor <;>
    exact congrArg List.sum (List.map_map.trans rfl)

variable [DecidableEq Thread]

/-- Every step but the beginning of a poll spends from what is pending. -/
theorem pendingMessages_spends
    {context : MessageContext} {limit : Nat}
    {node next : RunningPartition Thread Dest}
    {label : PartitionLabel Thread Dest}
    (supplied : Supplied limit node)
    (taken : RunningPartition.Step context node label next)
    (other : beginsPolling label = false) :
    pendingMessages next + messageCount label.sent ≤
      pendingMessages node := by
  cases taken with
  | start _ _ => exact Nat.le_refl _
  | stopLow _ _ => exact Nat.le_refl _
  | stopHigh _ => exact Nat.le_refl _
  | setStopTime _ _ _ => exact Nat.le_refl _
  | @look found executor look =>
      have found :=
        taskMessages_of_not_past node.partition.msgFilters
          ((look.runningTasks isPastCheck).2.trans ?_)
      · exact pendingMessages_goTo node found
      · have queued := look.queuedTasks isPastCheck
        rw [supplied.obedient.queued] at queued
        exact (Nat.add_eq_zero_iff.mp queued.symm).2
  | forceStop _ => exact pendingMessages_goTo _ rfl
  | @applyStopTime stop running =>
      have same := (applyStopTime_supply node.partition stop).1
      rw [pendingMessages, pendingMessages]
      change 0 + heldMessages (node.partition.applyStopTime stop).msgFilters +
        flushMessages node.life + 0 ≤ _
      rw [same]
      omega
  | seeStop _ _ => exact pendingMessages_goTo _ rfl
  | pause _ _ => exact pendingMessages_goTo _ rfl
  | wake _ => exact pendingMessages_goTo _ rfl
  | pollConsumer _ _ => cases other
  | pollReturned status message clock running =>
      have free := supplied.obedient.free_of_running running rfl
      have spent :=
        (handlePoll_spends context free status message clock).1
      rw [pendingMessages, pendingMessages, running]
      exact Nat.add_le_add_right spent _
  | @forward event events finished running =>
      rw [pendingMessages, pendingMessages, running]
      change
        messageCount events + heldMessages node.partition.msgFilters +
            flushMessages node.life + messageCount [event] ≤
          messageCount (event :: events) + _ + _
      rw [messageCount_cons event events]
      omega
  | finish _ => exact pendingMessages_goTo _ rfl
  | requeue _ => exact pendingMessages_goTo _ rfl
  | exitThread _ => exact pendingMessages_goTo _ rfl
  | destroy _ alive =>
      rw [pendingMessages, pendingMessages, alive]
      exact Nat.le_refl _
  | join joining exited =>
      rw [pendingMessages, pendingMessages, joining, exited]
      change 0 + 0 + messageCount node.partition.destroy + 0 ≤ 0 + _ + 0
      rw [messageCount_destroy]
  | @flush event events flushing =>
      rw [pendingMessages, pendingMessages, flushing]
      change
        taskMessages node.partition.msgFilters node.executor.worker +
              heldMessages node.partition.msgFilters + messageCount events +
            messageCount [event] ≤
          _ + _ + messageCount (event :: events)
      rw [messageCount_cons event events]
      omega
  | destroyed flushing =>
      rw [pendingMessages, pendingMessages, flushing]
      exact Nat.le_refl _

/-- What the filters of a partition know never grows. -/
theorem registrations_step
    {context : MessageContext} {node next : RunningPartition Thread Dest}
    {label : PartitionLabel Thread Dest} (obedient : Obedient node)
    (taken : RunningPartition.Step context node label next) :
    registrations next.partition.msgFilters ≤
      registrations node.partition.msgFilters := by
  cases taken with
  | @applyStopTime stop running =>
      exact Nat.le_of_eq (applyStopTime_supply node.partition stop).2
  | pollReturned status message clock running =>
      have free := obedient.free_of_running running rfl
      exact (handlePoll_spends context free status message clock).2
  | join _ _ => exact Nat.zero_le _
  | _ => exact Nat.le_refl _

theorem Supplied.step
    {context : MessageContext} {limit : Nat}
    {node next : RunningPartition Thread Dest}
    {label : PartitionLabel Thread Dest}
    (supplied : Supplied limit node)
    (taken : RunningPartition.Step context node label next) :
    Supplied limit next := by
  refine ⟨supplied.obedient.step taken,
    (registrations_step supplied.obedient taken).trans supplied.registered,
    ?_, ?_⟩
  · cases begins : beginsPolling label with
    | false =>
        have spent := pendingMessages_spends supplied taken begins
        have supply := supplied.supply
        omega
    | true =>
        cases taken with
        | pollConsumer running _ =>
            have flushed := supplied.flushMessages_of_running running
            have held :=
              heldMessages_le_registrations node.partition.msgFilters
            have registered := supplied.registered
            change registrations node.partition.msgFilters +
              heldMessages node.partition.msgFilters +
                flushMessages node.life ≤ _
            omega
        | _ => cases begins
  · have stays {task : PartitionTask Dest}
        (running : node.executor.worker = .running task)
        (life : next.life = node.life) :
        next.life = .alive ∨ next.life = .joining ∨
          next.executor.worker = .exited := by
      rw [life]
      exact (supplied.working running).imp_right .inl
    cases taken with
    | start _ _ => exact supplied.joined
    | stopLow _ _ => exact supplied.joined
    | stopHigh _ => exact supplied.joined
    | setStopTime _ _ _ => exact supplied.joined
    | look look =>
        refine supplied.joined.imp id (Or.imp id fun exited => ?_)
        cases look with
        | takeHigh ready _ => rw [exited] at ready; cases ready
        | highEmpty ready _ => rw [exited] at ready; cases ready
        | takeLow turn _ => rw [exited] at turn; cases turn
        | lowEmpty turn _ => rw [exited] at turn; cases turn
    | forceStop running => exact stays running rfl
    | applyStopTime running => exact stays running rfl
    | seeStop running _ => exact stays running rfl
    | pause running _ => exact stays running rfl
    | wake running => exact stays running rfl
    | pollConsumer running _ => exact stays running rfl
    | pollReturned _ _ _ running => exact stays running rfl
    | forward running => exact stays running rfl
    | finish running => exact stays running rfl
    | requeue running => exact stays running rfl
    | exitThread running => exact stays running rfl
    | destroy _ _ => exact .inr (.inl rfl)
    | join _ exited => exact .inr (.inr exited)
    | flush flushing => exact .inr (.inr (supplied.exited flushing))
    | destroyed flushing => exact .inr (.inr (supplied.exited flushing))

/-! ## A new partition -/

/-- No entry is counted under two keys of a list without duplicates. -/
theorem sum_length_filter_le
    {Key Entry : Type*} [DecidableEq Key] (key : Entry → Key)
    {keys : List Key} (distinct : keys.Nodup) (entries : List Entry) :
    (keys.map fun value =>
        (entries.filter fun entry => key entry == value).length).sum ≤
      entries.length := by
  induction entries with
  | nil => simp
  | cons entry rest induction =>
      have one :
          (keys.map fun value => if key entry = value then 1 else 0).sum ≤
            1 := by
        have counted (some : List Key) :
            (some.map fun value => if key entry = value then 1 else 0).sum =
              some.count (key entry) := by
          induction some with
          | nil => rfl
          | cons value others counted =>
              rw [List.map_cons, List.sum_cons, counted, List.count_cons,
                Nat.add_comm]
              by_cases same : key entry = value
              · simp [same]
              · simp [same, Ne.symm same]
        rw [counted]
        exact List.nodup_iff_count_le_one.mp distinct _
      have split (value : Key) :
          ((entry :: rest).filter fun entry => key entry == value).length =
            (rest.filter fun entry => key entry == value).length +
              if key entry = value then 1 else 0 := by
        by_cases same : key entry = value <;> simp [same]
      simp only [split, List.sum_map_add, List.length_cons]
      omega

/-- A new partition knows a destination for each entry at most. -/
theorem registrations_create
    (map : SrcToDst Dest) (start stop : TimePoint)
    (leeway kafkaErrorTimeout : Duration) :
    let created := Partition.create map start stop leeway kafkaErrorTimeout
    registrations created.msgFilters ≤ map.length ∧
      heldMessages created.msgFilters = 0 := by
  intro created
  let filters := (Partition.buildFilterMaps start stop map).tempFilterMap
  have known :
      ∀ item ∈ filters.toList,
        item.2.destIDs.length = (groupOf map item.1).length ∧
          heldBy item.2 = 0 := by
    intro item listed
    have found := Std.TreeMap.mem_toList_iff_getElem?_eq_some.mp listed
    rw [(buildFilterMaps_spec start stop map item.1).1] at found
    rcases Option.map_eq_some_iff.mp found with ⟨first, _, same⟩
    rw [← same, SourceFilter.addDestinationPtrs_eq]
    exact ⟨by simp [SourceFilter.create], Nat.zero_mul _⟩
  constructor
  · have distinct : (filters.toList.map Prod.fst).Nodup := by
      refine List.pairwise_map.mpr
        (Std.TreeMap.distinct_keys_toList.imp fun differ same => ?_)
      rw [same] at differ
      exact differ Std.ReflCmp.compare_self
    calc
      registrations created.msgFilters =
          (filters.toList.map fun item => item.2.destIDs.length).sum := by
        rw [registrations]
        exact congrArg List.sum List.map_map
      _ = ((filters.toList.map Prod.fst).map fun writeHash =>
            (map.filter fun entry => entry.writeHash == writeHash).length).sum := by
        rw [List.map_map]
        exact congrArg List.sum
          (List.map_congr_left fun item listed => (known item listed).1)
      _ ≤ map.length :=
        sum_length_filter_le (fun entry => entry.writeHash) distinct map
  · rw [heldMessages]
    apply List.sum_eq_zero
    intro held member
    rcases List.mem_map.mp member with ⟨item, listed, rfl⟩
    rcases List.mem_map.mp listed with ⟨pair, inFilters, rfl⟩
    exact (known pair inFilters).2

omit [DecidableEq Thread] in
/-- A partition that was handed to its thread and has done nothing. -/
theorem supplied_create
    (self caller : Thread) (map : SrcToDst Dest) (start stop : TimePoint)
    (leeway kafkaErrorTimeout : Duration) :
    let node :=
      (RunningPartition.ofPartition self
        (Partition.create map start stop leeway
          kafkaErrorTimeout)).addPollTask caller
    Supplied map.length node ∧ pendingMessages node = 0 := by
  intro node
  rcases registrations_create map start stop leeway kafkaErrorTimeout with
    ⟨registered, none⟩
  have nothing : pendingMessages node = 0 := by
    change 0 + heldMessages (Partition.create map start stop leeway
      kafkaErrorTimeout).msgFilters + 0 = 0
    rw [none]
  refine ⟨⟨?_, registered, ?_, .inl rfl⟩, nothing⟩
  · exact ⟨rfl, fun requested => Bool.noConfusion requested⟩
  · rw [nothing]
    exact Nat.zero_le _

end KafkaToNexus.JobDelivery
