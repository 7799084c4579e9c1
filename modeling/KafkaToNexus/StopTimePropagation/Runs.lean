import KafkaToNexus.StopTimePropagation.ControllerStops

/-!
# The way of a stop time to the partitions

A stop time goes from the options of the controller through its executor to
the executors of the topics and on to those of the partitions.  On each hop it
is sent by one thread, so that the values arrive in the order of the calls.
The module proves for every run that the last value has arrived in every topic
and partition once all tasks of the calls have run.
-/

namespace KafkaToNexus.StopTimePropagation

open KafkaToNexus
open KafkaToNexus.Foundations
open KafkaToNexus.Foundations.ProducerQueue
open KafkaToNexus.Stream
open KafkaToNexus.ThreadedExecutor

variable {Dest : Type*}

/-! ## The invariant -/

/-- A new call is on its way to a topic. -/
theorem TopicFollows.newCall
    {calls : Nat} {latest : TimePoint} {rest : List TimePoint}
    {topic : Topic Dest} (follows : TopicFollows calls latest rest topic)
    (stop : TimePoint) :
    TopicFollows (calls + 1) stop (rest ++ [stop]) topic := by
  refine ⟨follows.inOrder, ?_, ?_⟩
  · rw [← List.append_assoc, List.getLastD_concat]
  · intro index owned found
    rw [← List.append_assoc]
    exact (follows.partitions index owned found).newCall stop

/-- A topic that was just created follows what it was created from. -/
theorem topicFollows_newTopic
    {controller : StreamController Dest} {calls : Nat} {latest : TimePoint}
    {rest : List TimePoint} {stop : TimePoint}
    (own : rest.getLastD stop = latest)
    (item : String × SrcToDst Dest) (now : TimePoint) :
    TopicFollows calls latest rest (controller.newTopic stop item now) := by
  refine ⟨?_, own, ?_⟩
  · intro index
    exact InOrder.empty.sendWork nofun rfl
  · intro index owned found
    cases found

/-- The latest stop time is on its way to every topic, or has arrived. -/
structure SystemFollows (controller : StreamController Dest) : Prop where
  inOrder : ControllerInOrder controller
  options :
    (inFlight none controller).getLastD
        controller.streamerOptions.stopTimestamp =
      controller.streamerOptions.stopTimestamp
  reading :
    ∀ stop, IsReading controller stop →
      (inFlight none controller).getLastD stop =
        controller.streamerOptions.stopTimestamp
  topics :
    ∀ index topic, controller.streamers[index]? = some (some topic) →
      TopicFollows controller.calls controller.streamerOptions.stopTimestamp
        (inFlight (some index) controller) topic

theorem getLastD_of_cons
    {head value : TimePoint} {rest : List TimePoint}
    (last : (head :: rest).getLastD value = value) :
    rest.getLastD value = value := by
  cases rest with
  | nil => rfl
  | cons next rest => exact last

/-- Where nothing moves on its way, only the topics may have changed. -/
theorem SystemFollows.sameFlight
    {controller next : StreamController Dest}
    (follows : SystemFollows controller) (same : SameFlight controller next)
    (topics :
      ∀ index topic, next.streamers[index]? = some (some topic) →
        TopicFollows controller.calls controller.streamerOptions.stopTimestamp
          (inFlight (some index) controller) topic) :
    SystemFollows next := by
  refine ⟨same.inOrder follows.inOrder, ?_, ?_, ?_⟩
  · rw [same.flight, same.options]
    exact follows.options
  · intro stop read
    rw [same.flight, same.options]
    exact follows.reading stop (same.reading stop read)
  · rw [same.options, same.calls]
    intro index topic found
    rw [same.flight]
    exact topics index topic found

/-- The executor goes on with a stop time, and reads none. -/
theorem SystemFollows.advances
    {controller next : StreamController Dest}
    (follows : SystemFollows controller) (advances : Advances controller next)
    (notReading : ∀ stop, ¬ IsReading next stop)
    (options :
      (inFlight none next).getLastD controller.streamerOptions.stopTimestamp =
        controller.streamerOptions.stopTimestamp)
    (topics :
      ∀ index topic, next.streamers[index]? = some (some topic) →
        TopicFollows controller.calls controller.streamerOptions.stopTimestamp
          (inFlight (some index) next) topic) :
    SystemFollows next := by
  refine ⟨advances.inOrder follows.inOrder, ?_, ?_, ?_⟩
  · rw [advances.options]
    exact options
  · intro stop read
    exact absurd read (notReading stop)
  · rw [advances.options, advances.calls]
    exact topics

theorem SystemFollows.effect
    {context : MessageContext} {controller next : StreamController Dest}
    {called : List TimePoint}
    (follows : SystemFollows controller)
    (effect : ControllerEffect context controller next called) :
    SystemFollows next := by
  have topics := follows.topics
  cases effect with
  | same same streamers =>
      apply follows.sameFlight same
      rw [streamers]
      exact topics
  | called ordered stored calls streamers flight =>
      refine ⟨ordered follows.inOrder, ?_, ?_, ?_⟩
      · rw [flight, stored, List.getLastD_concat]
      · intro stop _
        rw [flight, stored, List.getLastD_concat]
      · rw [streamers, stored, calls]
        intro index topic found
        rw [flight]
        exact (topics index topic found).newCall _
  | read advances streamers flight stored =>
      refine ⟨advances.inOrder follows.inOrder, ?_, ?_, ?_⟩
      · rw [flight, advances.options]
        exact follows.options
      · intro stop read
        rw [flight, advances.options, stored stop read]
        exact follows.options
      · rw [streamers, advances.options, advances.calls]
        intro index topic found
        rw [flight]
        exact topics index topic found
  | added same read equal streamers =>
      apply follows.sameFlight same
      rw [streamers]
      intro index topic found
      rcases found_of_concat found with old | new
      · exact topics index topic old
      · cases new
        apply topicFollows_newTopic
        rw [equal]
        exact follows.reading _ read
  | began advances streamers first flight notReading =>
      have options := follows.options
      rw [first] at options
      apply follows.advances advances notReading (getLastD_of_cons options)
      rw [streamers]
      intro index topic found
      rw [flight]
      exact topics index topic found
  | passed advances found taken streamers first flight others notReading =>
      apply follows.advances advances notReading
      · rw [first]
        exact follows.options
      · rw [streamers]
        intro other topic otherFound
        rcases found_of_set otherFound with ⟨rfl, ⟨⟩⟩ | ⟨different, old⟩
        · have before := topics _ _ found
          rw [flight] at before
          exact before.effect (topic_step taken before.inOrder)
        · rw [others other different]
          exact topics other topic old
  | ended advances streamers first flight _ notReading =>
      apply follows.advances advances notReading
      · rw [first]
        exact follows.options
      · rw [streamers]
        intro index topic found
        have inside : index < controller.streamers.length :=
          (List.getElem?_eq_some_iff.mp found).1
        rw [flight index inside]
        exact topics index topic found
  | stepped same found taken silent streamers =>
      apply follows.sameFlight same
      rw [streamers]
      intro other topic otherFound
      rcases found_of_set otherFound with ⟨rfl, ⟨⟩⟩ | ⟨_, old⟩
      · have before :
            TopicFollows controller.calls
              controller.streamerOptions.stopTimestamp
              ([] ++ inFlight (some other) controller) _ :=
          topics other _ found
        have effect := topic_step taken before.inOrder
        rw [silent] at effect
        exact before.effect effect
      · exact topics other topic old
  | removed same equal members =>
      apply follows.sameFlight same
      intro index topic found
      have member := members topic (List.mem_of_getElem? found)
      rcases List.getElem?_of_mem member with ⟨old, oldFound⟩
      have before := topics old topic oldFound
      rw [equal]
      rw [equal] at before
      exact before

/-- Every task that was submitted for a call of `setStopTime` has run. -/
structure StopTasksDone (controller : StreamController Dest) : Prop where
  flight : ∀ index, inFlight index controller = []
  topics : ∀ topic, some topic ∈ controller.streamers → TopicDone topic

/-- Without a call no stop time gets on its way. -/
theorem StopTasksDone.effect
    {context : MessageContext} {controller next : StreamController Dest}
    (done : StopTasksDone controller) (follows : SystemFollows controller)
    (effect : ControllerEffect context controller next []) :
    StopTasksDone next := by
  cases effect with
  | same same streamers =>
      constructor
      · intro index
        exact (same.flight index).trans (done.flight index)
      · rw [streamers]
        exact done.topics
  | read _ streamers flight _ =>
      constructor
      · intro index
        exact (flight index).trans (done.flight index)
      · rw [streamers]
        exact done.topics
  | added same _ _ streamers =>
      constructor
      · intro index
        exact (same.flight index).trans (done.flight index)
      · rw [streamers]
        intro topic member
        rcases List.mem_append.mp member with old | new
        · exact done.topics topic old
        · cases List.mem_singleton.mp new
          refine ⟨fun _ => rfl, ?_⟩
          intro owned contrary
          cases contrary
  | began _ _ first _ _ =>
      rw [done.flight] at first
      cases first
  | passed _ _ _ _ _ flight _ _ =>
      rw [done.flight] at flight
      cases flight
  | ended _ streamers first _ equal _ =>
      constructor
      · intro index
        rw [equal, first, done.flight]
      · rw [streamers]
        exact done.topics
  | stepped same found taken silent streamers =>
      constructor
      · intro index
        exact (same.flight index).trans (done.flight index)
      · rw [streamers]
        intro topic member
        rcases List.mem_or_eq_of_mem_set member with old | new
        · exact done.topics topic old
        · cases new
          have before := follows.topics _ _ found
          have effect := topic_step taken before.inOrder
          rw [silent] at effect
          exact (done.topics _ (List.mem_of_getElem? found)).effect before
            effect
  | removed same _ members =>
      constructor
      · intro index
        exact (same.flight index).trans (done.flight index)
      · intro topic member
        exact done.topics topic (members topic member)

/-! ## Whole runs -/

/-- The arguments of the calls of `setStopTime` in a run. -/
def callsOf (trace : List (StreamLabel Dest)) : List TimePoint :=
  trace.flatMap calledWith

/-- The argument of the last call, or else the stop time of the settings. -/
def lastStopTime
    (settings : StreamerOptions) (trace : List (StreamLabel Dest)) :
    TimePoint :=
  (callsOf trace).getLastD settings.stopTimestamp

/-- The options hold the argument of the last call. -/
theorem ControllerEffect.stored
    {context : MessageContext} {controller next : StreamController Dest}
    {called : List TimePoint}
    (effect : ControllerEffect context controller next called) :
    next.streamerOptions.stopTimestamp =
        called.getLastD controller.streamerOptions.stopTimestamp ∧
      next.calls = controller.calls + called.length := by
  cases effect with
  | same same _ =>
      exact ⟨congrArg StreamerOptions.stopTimestamp same.options, same.calls⟩
  | called _ stored calls _ _ => exact ⟨stored, calls⟩
  | read advances _ _ _ =>
      exact ⟨congrArg StreamerOptions.stopTimestamp advances.options,
        advances.calls⟩
  | added same _ _ _ =>
      exact ⟨congrArg StreamerOptions.stopTimestamp same.options, same.calls⟩
  | began advances _ _ _ _ =>
      exact ⟨congrArg StreamerOptions.stopTimestamp advances.options,
        advances.calls⟩
  | passed advances _ _ _ _ _ _ _ =>
      exact ⟨congrArg StreamerOptions.stopTimestamp advances.options,
        advances.calls⟩
  | ended advances _ _ _ _ _ =>
      exact ⟨congrArg StreamerOptions.stopTimestamp advances.options,
        advances.calls⟩
  | stepped same _ _ _ _ =>
      exact ⟨congrArg StreamerOptions.stopTimestamp same.options, same.calls⟩
  | removed same _ _ =>
      exact ⟨congrArg StreamerOptions.stopTimestamp same.options, same.calls⟩

/-- The invariant of runs, with the calls of the run. -/
structure RunFollows
    (settings : StreamerOptions) (trace : List (StreamLabel Dest))
    (controller : StreamController Dest) : Prop where
  follows : SystemFollows controller
  stored :
    controller.streamerOptions.stopTimestamp = lastStopTime settings trace
  calls : controller.calls = (callsOf trace).length

theorem RunFollows.create
    (sources : List (Source Dest)) (settings : StreamerOptions) :
    RunFollows settings [] (StreamController.create sources settings) := by
  refine ⟨⟨⟨?_, ?_⟩, rfl, ?_, ?_⟩, rfl, rfl⟩
  · intro index
    exact InOrder.empty.sendLowPriorityWork _ rfl
  · exact InOrder.empty.sendLowPriorityWork _ rfl
  · rintro stop ⟨_, _, ⟨⟩⟩
  · intro index topic found
    cases found

theorem RunFollows.step
    {context : MessageContext} {settings : StreamerOptions}
    {trace : List (StreamLabel Dest)}
    {controller next : StreamController Dest} {label : StreamLabel Dest}
    (before : RunFollows settings trace controller)
    (taken : StreamController.Step context controller label next) :
    RunFollows settings (trace ++ [label]) next := by
  have effect := controller_step taken before.follows.inOrder
  rcases effect.stored with ⟨stored, calls⟩
  have calledAll : callsOf (trace ++ [label]) =
      callsOf trace ++ calledWith label := by
    simp [callsOf]
  refine ⟨before.follows.effect effect, ?_, ?_⟩
  · rw [stored, before.stored, lastStopTime, lastStopTime, calledAll]
    simp only [List.getLastD_eq_getLast?, List.getLast?_append,
      Option.getD_or]
  · rw [calls, before.calls, calledAll, List.length_append]

/-- The state after a run, once every task of its calls has run. -/
theorem RunFollows.later
    {context : MessageContext} {settings : StreamerOptions}
    {trace later : List (StreamLabel Dest)}
    {controller after : StreamController Dest}
    (before : RunFollows settings trace controller)
    (done : StopTasksDone controller)
    (continued :
      Execution (StreamController.Step context) controller later after)
    (noCall : callsOf later = []) :
    RunFollows settings (trace ++ later) after ∧ StopTasksDone after := by
  induction continued with
  | refl =>
      rw [List.append_nil]
      exact ⟨before, done⟩
  | snoc _ taken induction =>
      simp only [callsOf, List.flatMap_append, List.append_eq_nil_iff,
        List.flatMap_singleton] at noCall
      rcases induction noCall.1 with ⟨follows, settled⟩
      have effect := controller_step taken follows.follows.inOrder
      rw [noCall.2] at effect
      rw [← List.append_assoc]
      exact ⟨follows.step taken, settled.effect follows.follows effect⟩

/--
Once every task of the calls of `setStopTime` has run, the argument of the last
call has arrived everywhere: in every topic and in every partition of a topic,
also in those that are created later while no other call is made.  A partition
may instead have what its constructor made of that value, if it was created
after the last call.
-/
theorem stop_time_reaches_partitions
    (context : MessageContext)
    (sources : List (Source Dest)) (settings : StreamerOptions)
    (trace later : List (StreamLabel Dest))
    (controller after : StreamController Dest)
    (run :
      Execution (StreamController.Step context)
        (.create sources settings) trace controller)
    (done : StopTasksDone controller)
    (continued :
      Execution (StreamController.Step context) controller later after)
    (noCall : callsOf later = []) :
    let latest := lastStopTime settings trace
    (∀ topic, some topic ∈ after.streamers →
      topic.stopConsumeTime = latest ∧
        ∀ owned ∈ topic.consumerThreads,
          HasStopTime owned.running.partition latest ∨
            (StartedFrom owned.running.partition latest ∧
              owned.callsBefore = (callsOf trace).length)) ∧
      after.streamerOptions.stopTimestamp = latest ∧
      ∀ stop, IsReading after stop → stop = latest := by
  have invariant : RunFollows settings trace controller :=
    run.traceInvariant (RunFollows settings) (.create sources settings)
      fun _ _ _ _ before taken => before.step taken
  rcases invariant.later done continued noCall with ⟨follows, settled⟩
  have allCalls : callsOf (trace ++ later) = callsOf trace := by
    simp only [callsOf] at noCall ⊢
    rw [List.flatMap_append, noCall, List.append_nil]
  have latest :
      lastStopTime settings (trace ++ later) = lastStopTime settings trace := by
    rw [lastStopTime, allCalls]
    rfl
  have stored := follows.stored.trans latest
  refine ⟨?_, stored, ?_⟩
  · intro topic member
    rcases List.getElem?_of_mem member with ⟨index, found⟩
    have topicFollows := follows.follows.topics index topic found
    rw [settled.flight, stored, follows.calls, allCalls] at topicFollows
    exact topicFollows.settled (settled.topics topic member)
  · intro stop reading
    have read := follows.follows.reading stop reading
    rw [settled.flight, stored] at read
    exact read

/-- A call whose argument has arrived in the only partition of a job. -/
theorem stop_time_reaches_only_partition :
    ∃ trace controller,
      Execution (StreamController.Step ⟨fun _ => none, fun _ => 0⟩)
          (.create [StreamController.sampleSource ⟨0, 0, 0, false⟩]
            (StreamController.sampleOptions 1)) trace controller ∧
        lastStopTime (StreamController.sampleOptions 1) trace = 5 ∧
        ∃ topic, some topic ∈ controller.streamers ∧
          topic.stopConsumeTime = 5 ∧
          ∃ owned ∈ topic.consumerThreads,
            HasStopTime owned.running.partition 5 ∨
              (StartedFrom owned.running.partition 5 ∧
                owned.callsBefore = 1) := by
  let context : MessageContext := ⟨fun _ => none, fun _ => 0⟩
  have job := StreamController.sampleJob_run context ⟨0, 0, 0, false⟩ 1
  have called := job.snoc (.setStopTime 5 rfl)
  have sent := called.snoc (.sendStopTime rfl)
  have found := sent.snoc (.look (.takeHigh rfl (dequeue_head _ [])))
  have began := found.snoc (.beginStopTime rfl)
  have passed := began.snoc (.passStopTime rfl rfl (.setStopTime 5))
  have ended := passed.snoc (.endStopTime rfl (Nat.le_refl 1))
  have topicFound := ended.snoc
    (StreamController.step_onlyTopic rfl rfl
      (.look (.takeHigh rfl (dequeue_head _ []))))
  have topicBegan := topicFound.snoc
    (StreamController.step_onlyTopic rfl rfl (.beginStopTime rfl))
  have topicPassed := topicBegan.snoc
    (StreamController.step_onlyTopic rfl rfl
      (.passStopTime rfl rfl (.setStopTime _ 5 rfl)))
  have topicEnded := topicPassed.snoc
    (StreamController.step_onlyTopic rfl rfl (.endStopTime rfl (Nat.le_refl 1)))
  have partitionFound := topicEnded.snoc
    (StreamController.step_onlyPartition rfl rfl rfl
      (.look (.takeHigh rfl (dequeue_head _ []))))
  have applied := partitionFound.snoc
    (StreamController.step_onlyPartition rfl rfl rfl (.applyStopTime rfl))
  have reached :=
    stop_time_reaches_partitions context _ _ _ [] _ _ applied
      ⟨fun _ => rfl, by
        intro topic member
        cases List.mem_singleton.mp member
        refine ⟨fun _ => rfl, ?_⟩
        intro owned ownedMember
        cases List.mem_singleton.mp ownedMember
        rfl⟩ .refl rfl
  refine ⟨_, _, applied, rfl, _, List.mem_singleton_self _, ?_⟩
  rcases reached.1 _ (List.mem_singleton_self _) with ⟨stop, partitions⟩
  exact ⟨stop, _, List.mem_singleton_self _,
    partitions _ (List.mem_singleton_self _)⟩

end KafkaToNexus.StopTimePropagation
