import KafkaToNexus.RunLoop.GracefulShutdown

/-!
# The calls of the run loop

As long as the main thread has told no job to stop, the calls of `Master::run`
in the run loop are those of the main loop of a new service, whatever signals
arrive and whenever their handlers take their turns.  The main loop is in turn
a run of the single steps of the service.  So the program does what was shown
of these runs.
-/

namespace KafkaToNexus

open KafkaToNexus.Command
open KafkaToNexus.Foundations

variable {Json : Type}

/-! ## The main loop and the steps of the service -/

namespace Service

variable {context : ServiceContext Json} {service : Service}

/-- A call of `run`, as a step. -/
def runStep
    (context : ServiceContext Json) (service : Service) (input : RunInput) :
    Service × List HandlerEvent :=
  ((service.run context input).service, (service.run context input).events)

/-- No exception leaves the call. -/
def Returns
    (context : ServiceContext Json) (service : Service) (input : RunInput) :
    Prop :=
  (service.run context input).threw = false

theorem mainLoop_singleton (input : RunInput) :
    service.mainLoop context [input] = service.runStep context input := by
  rw [mainLoop]
  dsimp only
  split
  · rfl
  · rw [mainLoop, List.append_nil]
    rfl

/-- The main loop makes a call after calls that have all returned. -/
theorem mainLoop_concat
    {inputs : List RunInput}
    (returned :
      Mealy.Admissible (runStep context) (Returns context) service inputs)
    (input : RunInput) :
    service.mainLoop context (inputs ++ [input]) =
      Mealy.run (runStep context) service (inputs ++ [input]) := by
  induction inputs generalizing service with
  | nil =>
      rw [List.nil_append, mainLoop_singleton, Mealy.run_cons, Mealy.run_nil,
        List.append_nil]
  | cons first rest induction =>
      rcases returned with ⟨returns, others⟩
      rw [List.cons_append, mainLoop_of_returns returns, Mealy.run_cons]
      exact
        congrArg
          (fun later : Service × List HandlerEvent =>
            (later.1, (service.run context first).events ++ later.2))
          (induction others)

/-- A call is a run of single steps: the commands, and the look at the job. -/
theorem runStep_steps (service : Service) (input : RunInput) :
    ∃ steps,
      Mealy.run (step context) service steps =
        service.runStep context input := by
  cases throws : input.loopThrows with
  | true =>
      refine ⟨input.commands.map CommandInput.toStep, ?_⟩
      simp only [runStep, run, throws, if_pos]
      rfl
  | false =>
      refine
        ⟨input.commands.map CommandInput.toStep ++
          [.finishIfDone input.report input.clients], ?_⟩
      rw [Mealy.run_concat]
      simp only [runStep, run, throws]
      rfl

/-- The main loop is a run of single steps. -/
theorem mainLoop_steps (service : Service) (inputs : List RunInput) :
    ∃ steps,
      Mealy.run (step context) service steps =
        service.mainLoop context inputs := by
  induction inputs generalizing service with
  | nil => exact ⟨[], rfl⟩
  | cons input rest induction =>
      rcases @runStep_steps _ context service input with ⟨steps, ran⟩
      cases threw : (service.run context input).threw with
      | true =>
          refine ⟨steps, ?_⟩
          rw [ran, mainLoop]
          simp only [threw, if_pos]
          rfl
      | false =>
          rcases induction (service.run context input).service with
            ⟨others, later⟩
          refine ⟨steps ++ others, ?_⟩
          rw [Mealy.run_append, ran, mainLoop_of_returns threw, ← later]
          rfl

end Service

namespace RunLoop

open Service (runStep Returns)

/-! ## The calls of a run -/

/-- The input of a call of `Master::run`. -/
def callOf : MainEvent → Option RunInput
  | .ran input _ => some input
  | _ => none

/-- What the handler has published in a call. -/
def handlerEvents : MainEvent → List HandlerEvent
  | .ran _ events => events
  | _ => []

/-- The service that the main thread makes when it has found the topics. -/
def newService (settings : RunSettings) : Service :=
  .create settings.serviceId settings.commandBrokerURI

/-- The calls of the main thread are those of the main loop. -/
structure Serves
    (context : ServiceContext Json) (settings : RunSettings)
    (events : List MainEvent) (loop : RunLoop) : Prop where
  findTopicMode : loop.findTopicMode = loop.masterPtr.isNone
  idle :
    loop.masterPtr = none →
      events.filterMap callOf = [] ∧ events.flatMap handlerEvents = []
  calls :
    ∀ service, loop.masterPtr = some service →
      Mealy.run (runStep context) (newService settings)
          (events.filterMap callOf) =
        (service, events.flatMap handlerEvents)
  mainLoop :
    ∀ service, loop.masterPtr = some service →
      (newService settings).mainLoop context (events.filterMap callOf) =
        (service, events.flatMap handlerEvents)
  returned :
    ¬ HasLeft loop.point →
      Mealy.Admissible (runStep context) (Returns context)
        (newService settings) (events.filterMap callOf)

/-! ## What a step keeps -/

/-- `stopNow` leaves a master alone that it cannot stop. -/
theorem stopNow_returns_or_same (master : Master) (now : TimePoint) :
    (master.stopNow now).2 = .returned ∨
      (master.stopNow now).1 = master := by
  rw [Master.stopNow]
  split
  · exact Or.inr rfl
  · exact Or.inl rfl

/-- A step that makes no call and does not touch the service. -/
structure LeavesService
    (events : List MainEvent) (before after : RunLoop) : Prop where
  findTopicMode : after.findTopicMode = before.findTopicMode
  masterPtr : after.masterPtr = before.masterPtr
  calls : events.filterMap callOf = []
  published : events.flatMap handlerEvents = []

theorem leavesService_stopJob
    {loop : RunLoop} (input : MainInput)
    (notStopped : (loop.stopJob input).2.filterMap stoppedJob = []) :
    LeavesService (loop.stopJob input).2 loop (loop.stopJob input).1 := by
  revert notStopped
  rw [stopJob]
  split
  · exact fun _ => ⟨rfl, rfl, rfl, rfl⟩
  · split
    · exact fun _ => ⟨rfl, rfl, rfl, rfl⟩
    · rename_i service found
      split
      · exact fun _ => ⟨rfl, rfl, rfl, rfl⟩
      · have same (notReturned :
            (service.master.stopNow input.now).2 ≠ .returned) :
            (service.master.stopNow input.now).1 = service.master :=
          (stopNow_returns_or_same _ _).resolve_left notReturned
        dsimp only
        split
        · exact fun contrary => absurd contrary (List.cons_ne_nil _ _)
        · rename_i threw
          rw [same (by rw [threw]; exact CallResult.noConfusion)]
          exact fun _ => ⟨rfl, found.symm, rfl, rfl⟩
        · rename_i null
          rw [same (by rw [null]; exact CallResult.noConfusion)]
          exact fun _ => ⟨rfl, found.symm, rfl, rfl⟩

theorem leavesService_wait (loop : RunLoop) (input : MainInput) :
    LeavesService (loop.wait input).2 loop (loop.wait input).1 := by
  rw [wait]
  split
  · exact ⟨rfl, rfl, rfl, rfl⟩
  · split
    · exact ⟨rfl, rfl, rfl, rfl⟩
    · split <;> exact ⟨rfl, rfl, rfl, rfl⟩

/-- Only the body of the loop makes calls. -/
theorem leavesService_mainStep
    (context : ServiceContext Json) (settings : RunSettings)
    {loop : RunLoop} (input : MainInput) (outside : loop.point ≠ .body)
    (notStopped :
      (loop.mainStep context settings input).2.filterMap stoppedJob = []) :
    LeavesService (loop.mainStep context settings input).2 loop
      (loop.mainStep context settings input).1 := by
  revert notStopped
  rw [mainStep]
  split
  case h_3 => exact leavesService_stopJob input
  case h_6 => exact fun _ => leavesService_wait loop input
  case h_8 =>
    rename_i body
    exact absurd body outside
  all_goals exact fun _ => ⟨rfl, rfl, rfl, rfl⟩

theorem HasLeft.moves
    {before after : RunStates} {point next : LoopPoint}
    {events : List MainEvent} (left_ : HasLeft point)
    (moved : Moves before point events after next) :
    HasLeft next := by
  cases moved with
  | leave reason _ => exact Or.inr ⟨reason, rfl⟩
  | «end» last => exact Or.inl last
  | _ => rcases left_ with contrary | ⟨_, contrary⟩ <;> cases contrary

section Steps

variable {context : ServiceContext Json} {settings : RunSettings}
  {earlier events : List MainEvent} {loop next : RunLoop}

theorem Serves.leave
    (serves : Serves context settings earlier loop)
    (leaves : LeavesService events loop next)
    (left_ : HasLeft loop.point → HasLeft next.point) :
    Serves context settings (earlier ++ events) next := by
  have calls :
      (earlier ++ events).filterMap callOf = earlier.filterMap callOf := by
    rw [List.filterMap_append, leaves.calls, List.append_nil]
  have published :
      (earlier ++ events).flatMap handlerEvents =
        earlier.flatMap handlerEvents := by
    rw [List.flatMap_append, leaves.published, List.append_nil]
  constructor
  · rw [leaves.findTopicMode, leaves.masterPtr]
    exact serves.findTopicMode
  · rw [leaves.masterPtr, calls, published]
    exact serves.idle
  · rw [leaves.masterPtr, calls, published]
    exact serves.calls
  · rw [leaves.masterPtr, calls, published]
    exact serves.mainLoop
  · intro inside
    rw [calls]
    exact serves.returned (mt left_ inside)

/-- When the topics were found, there is a new service without calls. -/
theorem Serves.findTopics
    (serves : Serves context settings earlier loop)
    (input : MainInput) (searching : loop.masterPtr = none)
    (inside : ¬ HasLeft loop.point) :
    Serves context settings
      (earlier ++ [.searched loop.cMetaDataTimeout])
      (loop.findTopics settings input) := by
  have staysInside (point : LoopPoint) :
      HasLeft loop.point → HasLeft point := fun left_ => absurd left_ inside
  rw [RunLoop.findTopics]
  split
  · exact serves.leave ⟨rfl, rfl, rfl, rfl⟩ (staysInside _)
  · split
    · exact serves.leave ⟨rfl, rfl, rfl, rfl⟩ (staysInside _)
    · rcases serves.idle searching with ⟨calls, published⟩
      have none_ :
          (earlier ++
              [MainEvent.searched loop.cMetaDataTimeout]).filterMap callOf =
            [] := by
        rw [List.filterMap_append, calls]
        rfl
      have nothing :
          (earlier ++
              [MainEvent.searched loop.cMetaDataTimeout]).flatMap
              handlerEvents =
            [] := by
        rw [List.flatMap_append, published]
        rfl
      constructor
      · rfl
      · intro contrary
        cases contrary
      · intro service found
        cases found
        rw [none_, nothing]
        rfl
      · intro service found
        cases found
        rw [none_, nothing]
        rfl
      · intro _
        rw [none_]
        exact trivial
  · exact serves.leave ⟨rfl, rfl, rfl, rfl⟩ (staysInside _)

/-- One more call is made, and the loop is left if it throws. -/
theorem Serves.run
    (serves : Serves context settings earlier loop)
    (input : MainInput) {service : Service}
    (found : loop.masterPtr = some service)
    (inside : ¬ HasLeft loop.point) :
    Serves context settings
      (earlier ++ [.ran input.run (service.run context input.run).events])
      { loop with
        masterPtr := some (service.run context input.run).service
        point :=
          if (service.run context input.run).threw then
            .left (.exception none)
          else .condition } := by
  have before := serves.calls service found
  have returned := serves.returned inside
  have calls :
      (earlier ++
          [MainEvent.ran input.run
            (service.run context input.run).events]).filterMap callOf =
        earlier.filterMap callOf ++ [input.run] :=
    List.filterMap_append
  have published :
      (earlier ++
          [MainEvent.ran input.run
            (service.run context input.run).events]).flatMap handlerEvents =
        earlier.flatMap handlerEvents ++
          (service.run context input.run).events := by
    rw [List.flatMap_append, List.flatMap_singleton]
    rfl
  have now_ :
      Mealy.run (runStep context) (newService settings)
          (earlier.filterMap callOf ++ [input.run]) =
        ((service.run context input.run).service,
          earlier.flatMap handlerEvents ++
            (service.run context input.run).events) := by
    rw [Mealy.run_concat, before]
    rfl
  constructor
  · have mode := serves.findTopicMode
    rw [found] at mode
    exact mode
  · intro contrary
    cases contrary
  · intro other same
    cases same
    rw [calls, published]
    exact now_
  · intro other same
    cases same
    rw [calls, published, Service.mainLoop_concat returned]
    exact now_
  · intro goesOn
    rw [calls, Mealy.admissible_concat, before]
    refine ⟨returned, ?_⟩
    cases threw : (service.run context input.run).threw with
    | false => exact threw
    | true =>
        refine absurd ?_ goesOn
        simp only [threw, if_pos]
        exact Or.inr ⟨_, rfl⟩

theorem Serves.body
    (serves : Serves context settings earlier loop) (input : MainInput)
    (inside : ¬ HasLeft loop.point) :
    Serves context settings
      (earlier ++ (loop.body context settings input).2)
      (loop.body context settings input).1 := by
  have mode := serves.findTopicMode
  rw [RunLoop.body]
  cases found : loop.masterPtr with
  | none =>
      rw [found] at mode
      have searches : loop.findTopicMode = true := mode
      rw [if_pos searches]
      exact serves.findTopics input found inside
  | some service =>
      rw [found] at mode
      have searched : loop.findTopicMode = false := mode
      rw [if_neg (ne_true_of_eq_false searched)]
      exact serves.run input found inside

theorem Serves.mainStep
    (serves : Serves context settings earlier loop) (input : MainInput)
    (notStopped :
      (loop.mainStep context settings input).2.filterMap stoppedJob = []) :
    Serves context settings
      (earlier ++ (loop.mainStep context settings input).2)
      (loop.mainStep context settings input).1 := by
  by_cases body : loop.point = .body
  · have inside : ¬ HasLeft loop.point := by
      rw [body]
      rintro (contrary | ⟨_, contrary⟩) <;> cases contrary
    have unfolded :
        loop.mainStep context settings input =
          loop.body context settings input := by
      rw [RunLoop.mainStep, body]
    rw [unfolded]
    exact serves.body input inside
  · have leaves :=
      leavesService_mainStep context settings input body notStopped
    exact serves.leave leaves fun left_ =>
      left_.moves (moves_mainStep context settings loop input)

theorem Serves.step
    (serves : Serves context settings earlier loop) (input : ScheduleInput)
    (notStopped :
      (loop.step context settings input).2.filterMap stoppedJob = []) :
    Serves context settings
      (earlier ++ (loop.step context settings input).2)
      (loop.step context settings input).1 := by
  cases input with
  | signal signal => exact serves.leave ⟨rfl, rfl, rfl, rfl⟩ id
  | store handler =>
      rcases step_store context settings loop handler with
        same | ⟨runState, handlers, stored, _⟩
      · rw [same]
        exact serves.leave ⟨rfl, rfl, rfl, rfl⟩ id
      · rw [stored]
        exact serves.leave ⟨rfl, rfl, rfl, rfl⟩ id
  | main input => exact serves.mainStep input notStopped

theorem serves_create : Serves context settings [] (create settings) where
  findTopicMode := rfl
  idle := fun _ => ⟨rfl, rfl⟩
  calls := fun _ found => absurd found (Option.some_ne_none _).symm
  mainLoop := fun _ found => absurd found (Option.some_ne_none _).symm
  returned := fun _ => trivial

variable (context settings) in
theorem serves
    {schedule : List ScheduleInput}
    (notStopped :
      (Mealy.run (step context settings) (create settings)
        schedule).2.filterMap stoppedJob = []) :
    Serves context settings
      (Mealy.run (step context settings) (create settings) schedule).2
      (Mealy.run (step context settings) (create settings) schedule).1 := by
  revert notStopped
  apply Mealy.run_induction fun _ events loop =>
    events.filterMap stoppedJob = [] → Serves context settings events loop
  · exact fun _ => serves_create
  · intro _ events loop input before notStopped
    rw [List.filterMap_append, List.append_eq_nil_iff] at notStopped
    exact (before notStopped.1).step input notStopped.2

end Steps

/--
As long as the main thread has told no job to stop, whatever the signals, there
are no calls before there is a service, and then the service and all that its
handler has published are those of the main loop with the same calls, and of a
run of single steps, from a new service.  As long as the loop was not left, all
calls have returned.
-/
theorem run_loop_refines_main_loop
    (context : ServiceContext Json) (settings : RunSettings)
    (schedule : List ScheduleInput)
    (notStopped :
      (Mealy.run (step context settings) (create settings)
        schedule).2.filterMap stoppedJob = []) :
    let reached :=
      Mealy.run (step context settings) (create settings) schedule
    (reached.1.masterPtr = none →
      reached.2.filterMap callOf = []) ∧
    (∀ service, reached.1.masterPtr = some service →
      (newService settings).mainLoop context
          (reached.2.filterMap callOf) =
        (service, reached.2.flatMap handlerEvents) ∧
      ∃ steps,
        Mealy.run (Service.step context) (newService settings) steps =
          (service, reached.2.flatMap handlerEvents)) ∧
    (¬ HasLeft reached.1.point →
      Mealy.Admissible (runStep context) (Returns context)
        (newService settings) (reached.2.filterMap callOf)) := by
  intro reached
  have served := serves context settings notStopped
  refine ⟨fun searching => (served.idle searching).1, ?_, served.returned⟩
  intro service found
  have same := served.mainLoop service found
  refine ⟨same, ?_⟩
  rw [← same]
  exact Service.mainLoop_steps _ _

/-- The call in which the service starts a job. -/
theorem run_loop_refines_main_loop_sample :
    let reached :=
      Mealy.run (step CommandTopic.poolContext sampleSettings)
        (create sampleSettings) sampleJob
    ∃ service, reached.1.masterPtr = some service ∧
      (newService sampleSettings).mainLoop CommandTopic.poolContext
          (reached.2.filterMap callOf) =
        (service, reached.2.flatMap handlerEvents) := by
  intro reached
  rcases Option.isSome_iff_exists.mp
      (show reached.1.masterPtr.isSome = true by decide) with
    ⟨service, found⟩
  have refines :=
    run_loop_refines_main_loop CommandTopic.poolContext sampleSettings
      sampleJob (by decide)
  exact ⟨service, found, (refines.2.1 service found).1⟩

end RunLoop

end KafkaToNexus
