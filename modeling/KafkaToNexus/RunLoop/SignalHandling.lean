import KafkaToNexus.CommandTopic
import KafkaToNexus.RunLoop
import Mathlib.Data.List.Perm.Basic

/-!
# How signals end the run loop

Once a signal handler has stored its value, the run state is never `Running`
again, and the main thread heads for the end of the program.  The steps that
it has left are bounded by a potential of the run state and of the place of
the main thread.  Handlers that are still to store `SIGINT_Received` add to
it, and so does every iteration in which the main thread waits for its job.

A request to stop at once may be overwritten: by the main thread, which stores
`SIGINT_Waiting` after it has acted on a `SIGINT`, and by a handler of a
`SIGINT` that has read the run state before.  Everywhere else it is heeded
after one more body of the loop.
-/

namespace KafkaToNexus.RunLoop

open KafkaToNexus.Command
open KafkaToNexus.Foundations

variable {Json : Type}

/-! ## The control flow of the main thread -/

def isEnd : LoopPoint → Bool
  | .exited _ _ => true
  | .uncaught _ => true
  | .nullDereference => true
  | _ => false

/-- The main thread takes no more steps. -/
def ended (loop : RunLoop) : Bool :=
  isEnd loop.point

/-- The events of the body of the loop. -/
def isBody : MainEvent → Bool
  | .searched _ => true
  | .ran _ _ => true
  | _ => false

def isWait : MainEvent → Bool
  | .waited _ _ => true
  | _ => false

/-- The moves of the main thread, from a run state and a point to others. -/
inductive Moves :
    RunStates → LoopPoint → List MainEvent → RunStates → LoopPoint →
      Prop where
  | stop : Moves .stopping .condition [] .stopping (.left .stopRequested)
  | enter {runState : RunStates} :
      runState ≠ .stopping →
      Moves runState .condition [] runState .firstLook
  | sigint :
      Moves .sigintReceived .firstLook [] .sigintReceived .received
  | noSigint {runState : RunStates} :
      runState ≠ .sigintReceived →
      Moves runState .firstLook [] runState .secondLook
  | stopNow {runState : RunStates} (jobId : String) :
      Moves runState .received [.stoppedNow jobId] runState .storeWaiting
  | storeWaiting {runState : RunStates} (now : TimePoint) :
      Moves runState .storeWaiting [.waitsFrom now] .sigintWaiting .body
  | wait : Moves .sigintWaiting .secondLook [] .sigintWaiting .waiting
  | noWait {runState : RunStates} :
      runState ≠ .sigintWaiting →
      Moves runState .secondLook [] runState .body
  | goOn {runState : RunStates} (sigintStart now : TimePoint) :
      Moves runState .waiting [.waited sigintStart now] runState .body
  | finish {runState : RunStates} :
      Moves runState .waiting [] runState .storeKafkaWait
  | storeKafkaWait {runState : RunStates} :
      Moves runState .storeKafkaWait [] .sigintKafkaWait (.left .finished)
  | iterate {runState : RunStates} {event : MainEvent} :
      isBody event = true →
      Moves runState .body [event] runState .condition
  | throw {runState : RunStates} {event : MainEvent} (what : Option String) :
      isBody event = true →
      Moves runState .body [event] runState (.left (.exception what))
  | leave {runState : RunStates} {point : LoopPoint} (reason : LeaveReason) :
      point = .received ∨ point = .waiting →
      Moves runState point [] runState (.left reason)
  | end {runState : RunStates} {point last : LoopPoint} :
      isEnd last = true →
      Moves runState point [] runState last

theorem moves_stopJob
    {loop : RunLoop} (input : MainInput) (received : loop.point = .received) :
    Moves loop.runState loop.point (loop.stopJob input).2
      (loop.stopJob input).1.runState (loop.stopJob input).1.point := by
  rw [received, stopJob]
  split
  · exact .leave _ (Or.inl rfl)
  · split
    · exact .end rfl
    · split
      · exact .leave _ (Or.inl rfl)
      · rename_i service _ _
        dsimp only
        rcases service.master.stopNow input.now with ⟨master, result⟩
        cases result with
        | returned => exact .stopNow _
        | threw what => exact .end rfl
        | nullDereference => exact .end rfl

theorem moves_wait
    {loop : RunLoop} (input : MainInput) (waiting : loop.point = .waiting) :
    Moves loop.runState loop.point (loop.wait input).2
      (loop.wait input).1.runState (loop.wait input).1.point := by
  rw [waiting, wait]
  split
  · exact .leave _ (Or.inr rfl)
  · split
    · exact .end rfl
    · split
      · exact .finish
      · exact .goOn _ _

theorem moves_findTopics
    (settings : RunSettings) {loop : RunLoop} (input : MainInput)
    {event : MainEvent} (body : isBody event = true) :
    Moves loop.runState .body [event]
      (loop.findTopics settings input).runState
      (loop.findTopics settings input).point := by
  rw [findTopics]
  split
  · exact .throw _ body
  · split
    · exact .throw _ body
    · exact .iterate body
  · exact .iterate body

theorem moves_body
    (context : ServiceContext Json) (settings : RunSettings)
    {loop : RunLoop} (input : MainInput) (inBody : loop.point = .body) :
    Moves loop.runState loop.point (loop.body context settings input).2
      (loop.body context settings input).1.runState
      (loop.body context settings input).1.point := by
  rw [inBody, body]
  split
  · exact moves_findTopics settings input rfl
  · split
    · exact .end rfl
    · dsimp only
      split
      · exact .throw _ rfl
      · exact .iterate rfl

/-- Every step of the main thread is one of the moves. -/
theorem moves_mainStep
    (context : ServiceContext Json) (settings : RunSettings)
    (loop : RunLoop) (input : MainInput) :
    let next := loop.mainStep context settings input
    Moves loop.runState loop.point next.2 next.1.runState next.1.point := by
  intro next
  have unfolded : next = loop.mainStep context settings input := rfl
  rw [mainStep] at unfolded
  cases place : loop.point with
  | condition =>
      simp only [place] at unfolded
      rw [unfolded]
      by_cases stopping : loop.runState = .stopping
      · simp only [goTo, stopping]
        exact .stop
      · simp only [goTo, if_neg stopping]
        exact .enter stopping
  | firstLook =>
      simp only [place] at unfolded
      rw [unfolded]
      by_cases sigint : loop.runState = .sigintReceived
      · simp only [goTo, sigint]
        exact .sigint
      · simp only [goTo, if_neg sigint]
        exact .noSigint sigint
  | received =>
      simp only [place] at unfolded
      rw [unfolded, ← place]
      exact moves_stopJob input place
  | storeWaiting =>
      simp only [place] at unfolded
      rw [unfolded]
      exact .storeWaiting _
  | secondLook =>
      simp only [place] at unfolded
      rw [unfolded]
      by_cases waits : loop.runState = .sigintWaiting
      · simp only [goTo, waits]
        exact .wait
      · simp only [goTo, if_neg waits]
        exact .noWait waits
  | waiting =>
      simp only [place] at unfolded
      rw [unfolded, ← place]
      exact moves_wait input place
  | storeKafkaWait =>
      simp only [place] at unfolded
      rw [unfolded]
      exact .storeKafkaWait
  | body =>
      simp only [place] at unfolded
      rw [unfolded, ← place]
      exact moves_body context settings input place
  | left reason =>
      simp only [place] at unfolded
      rw [unfolded]
      exact .end rfl
  | exited reason grace =>
      simp only [place] at unfolded
      rw [unfolded, place]
      exact .end rfl
  | uncaught what =>
      simp only [place] at unfolded
      rw [unfolded, place]
      exact .end rfl
  | nullDereference =>
      simp only [place] at unfolded
      rw [unfolded, place]
      exact .end rfl

/-! ## What every schedule keeps -/

/-- The loop was left. -/
def HasLeft (point : LoopPoint) : Prop :=
  isEnd point = true ∨ ∃ reason, point = .left reason

theorem Moves.kafkaWait
    {before after : RunStates} {point next : LoopPoint}
    {events : List MainEvent}
    (moved : Moves before point events after next)
    (left_ : before = .sigintKafkaWait → HasLeft point)
    (kafkaWait : after = .sigintKafkaWait) :
    HasLeft next := by
  cases moved with
  | stop => exact Or.inr ⟨_, rfl⟩
  | throw what _ => exact Or.inr ⟨_, rfl⟩
  | leave reason _ => exact Or.inr ⟨_, rfl⟩
  | storeKafkaWait => exact Or.inr ⟨_, rfl⟩
  | «end» last => exact Or.inl last
  | sigint => cases kafkaWait
  | storeWaiting now => cases kafkaWait
  | wait => cases kafkaWait
  | _ =>
      rcases left_ kafkaWait with contrary | ⟨_, contrary⟩ <;> cases contrary

/-- What the handlers and the main thread may leave in the run state. -/
structure WellSignalled (loop : RunLoop) : Prop where
  handlers :
    ∀ value ∈ loop.handlers, value = .stopping ∨ value = .sigintReceived
  /-- The main thread stores this state when it leaves the loop. -/
  kafkaWait : loop.runState = .sigintKafkaWait → HasLeft loop.point

theorem signalHandler_value (runState : RunStates) (signal : Signal) :
    signalHandler runState signal = .stopping ∨
      (runState = .running ∧
        signalHandler runState signal = .sigintReceived) := by
  cases signal with
  | sigint =>
      by_cases running : runState = .running
      · exact Or.inr ⟨running, if_pos running⟩
      · exact Or.inl (if_neg running)
  | sigterm => exact Or.inl rfl
  | unknown => exact Or.inl rfl

/-- What a handler stores that returns, and the handlers that are left. -/
theorem step_store
    (context : ServiceContext Json) (settings : RunSettings)
    (loop : RunLoop) (handler : Nat) :
    loop.step context settings (.store handler) = (loop, []) ∨
    ∃ runState handlers,
      loop.step context settings (.store handler) =
          ({ loop with runState, handlers }, []) ∧
        (runState :: handlers).Perm loop.handlers := by
  cases found : loop.handlers[handler]? with
  | none => exact Or.inl (by simp only [step, found])
  | some runState =>
      right
      rcases List.getElem?_eq_some_iff.mp found with ⟨bound, value⟩
      refine ⟨runState, loop.handlers.eraseIdx handler, ?_, ?_⟩
      · simp only [step, found]
      · have both := List.getElem_cons_eraseIdx_perm bound
        rwa [value] at both

/-- The handlers and the start of the wait are the same. -/
structure SameSignals (before after : RunLoop) : Prop where
  handlers : after.handlers = before.handlers
  sigintStart : after.sigintStart = before.sigintStart

theorem sameSignals_stopJob (loop : RunLoop) (input : MainInput) :
    SameSignals loop (loop.stopJob input).1 := by
  rw [stopJob]
  split
  · exact ⟨rfl, rfl⟩
  · split
    · exact ⟨rfl, rfl⟩
    · split
      · exact ⟨rfl, rfl⟩
      · dsimp only
        split <;> exact ⟨rfl, rfl⟩

theorem sameSignals_wait (loop : RunLoop) (input : MainInput) :
    SameSignals loop (loop.wait input).1 := by
  rw [wait]
  split
  · exact ⟨rfl, rfl⟩
  · split
    · exact ⟨rfl, rfl⟩
    · split <;> exact ⟨rfl, rfl⟩

theorem sameSignals_body
    (context : ServiceContext Json) (settings : RunSettings)
    (loop : RunLoop) (input : MainInput) :
    SameSignals loop (loop.body context settings input).1 := by
  rw [body]
  split
  · rw [findTopics]
    split
    · exact ⟨rfl, rfl⟩
    · split <;> exact ⟨rfl, rfl⟩
    · exact ⟨rfl, rfl⟩
  · split <;> exact ⟨rfl, rfl⟩

/-- The main thread sets the start of its wait in one place. -/
theorem sameSignals_mainStep
    (context : ServiceContext Json) (settings : RunSettings)
    {loop : RunLoop} (input : MainInput)
    (elsewhere : loop.point ≠ .storeWaiting) :
    SameSignals loop (loop.mainStep context settings input).1 := by
  rw [mainStep]
  split
  case h_3 => exact sameSignals_stopJob loop input
  case h_4 place => exact absurd place elsewhere
  case h_6 => exact sameSignals_wait loop input
  case h_8 => exact sameSignals_body context settings loop input
  all_goals exact ⟨rfl, rfl⟩

/-- The main thread does not touch what the handlers are going to store. -/
theorem mainStep_handlers
    (context : ServiceContext Json) (settings : RunSettings)
    (loop : RunLoop) (input : MainInput) :
    (loop.mainStep context settings input).1.handlers = loop.handlers := by
  by_cases place : loop.point = .storeWaiting
  · rw [mainStep, place]
  · exact (sameSignals_mainStep context settings input place).handlers

theorem WellSignalled.step
    {loop : RunLoop} (well : WellSignalled loop)
    (context : ServiceContext Json) (settings : RunSettings)
    (input : ScheduleInput) :
    WellSignalled (loop.step context settings input).1 := by
  cases input with
  | signal signal =>
      refine ⟨?_, well.kafkaWait⟩
      intro value member
      rcases List.mem_append.mp member with before | new
      · exact well.handlers value before
      · rw [List.mem_singleton.mp new]
        rcases signalHandler_value loop.runState signal with stop | ⟨_, sigint⟩
        · exact Or.inl stop
        · exact Or.inr sigint
  | store handler =>
      rcases step_store context settings loop handler with
        same | ⟨runState, handlers, stored, both⟩
      · rw [same]
        exact well
      · rw [stored]
        constructor
        · intro value member
          exact well.handlers value
            (both.subset (List.mem_cons_of_mem _ member))
        · intro kafkaWait
          change runState = _ at kafkaWait
          have other :=
            well.handlers runState (both.subset List.mem_cons_self)
          rw [kafkaWait] at other
          rcases other with contrary | contrary <;> cases contrary
  | main input =>
      refine ⟨?_, ?_⟩
      · rw [RunLoop.step, mainStep_handlers]
        exact well.handlers
      · exact (moves_mainStep context settings loop input).kafkaWait
          well.kafkaWait

theorem wellSignalled
    (context : ServiceContext Json) (settings : RunSettings)
    (schedule : List ScheduleInput) :
    WellSignalled
      (Mealy.run (step context settings) (create settings) schedule).1 := by
  refine Mealy.run_induction (fun _ _ => WellSignalled) ⟨?_, ?_⟩ ?_ schedule
  · intro value member
    cases member
  · intro contrary
    cases contrary
  · intro _ _ loop input before
    exact before.step context settings input

/-! ## The steps that are left -/

/--
How many steps the main thread has left, in a run state that no handler
changes, up to the end of the program or to the next wait for its job.
-/
def stepsLeft : LoopPoint → RunStates → Nat
  | .condition, .stopping => 2
  | .condition, .sigintReceived => 11
  | .condition, _ => 6
  | .firstLook, .sigintReceived => 10
  | .firstLook, _ => 5
  | .received, _ => 9
  | .storeWaiting, _ => 8
  | .secondLook, .sigintReceived => 13
  | .secondLook, _ => 4
  | .waiting, _ => 3
  | .storeKafkaWait, _ => 2
  | .body, .stopping => 3
  | .body, .sigintReceived => 12
  | .body, _ => 7
  | .left _, _ => 1
  | .exited _ _, _ => 0
  | .uncaught _, _ => 0
  | .nullDereference, _ => 0

def waits (events : List MainEvent) : Nat :=
  events.countP isWait

/-- The handlers that are going to store `SIGINT_Received`. -/
def staleHandlers (loop : RunLoop) : Nat :=
  loop.handlers.count .sigintReceived

def isMain : ScheduleInput → Bool
  | .main _ => true
  | _ => false

theorem stepsLeft_le (point : LoopPoint) (runState : RunStates) :
    stepsLeft point runState ≤ 13 := by
  cases point <;> cases runState <;> simp [stepsLeft]

/-- A request to stop leaves the fewest steps. -/
theorem stepsLeft_stopping (point : LoopPoint) (runState : RunStates) :
    stepsLeft point .stopping ≤ stepsLeft point runState := by
  cases point <;> cases runState <;> simp [stepsLeft]

theorem stepsLeft_sigintReceived (point : LoopPoint) (runState : RunStates) :
    stepsLeft point .sigintReceived ≤ stepsLeft point runState + 9 := by
  cases point <;> cases runState <;> simp [stepsLeft]

/-- A move spends one step, and a wait for the job gains ten. -/
theorem Moves.spends
    {before after : RunStates} {point next : LoopPoint}
    {events : List MainEvent}
    (moved : Moves before point events after next)
    (notRunning : before ≠ .running)
    (left_ : before = .sigintKafkaWait → HasLeft point)
    (runs : isEnd next = false) :
    isEnd point = false ∧
      stepsLeft next after + 1 ≤
        stepsLeft point before + 10 * waits events := by
  cases moved with
  | stop => exact ⟨rfl, Nat.le_refl 2⟩
  | enter notStopping =>
      refine ⟨rfl, ?_⟩
      cases before with
      | running => exact absurd rfl notRunning
      | stopping => exact absurd rfl notStopping
      | _ => simp [stepsLeft]
  | sigint => exact ⟨rfl, Nat.le_refl 10⟩
  | noSigint notSigint =>
      refine ⟨rfl, ?_⟩
      cases before with
      | sigintReceived => exact absurd rfl notSigint
      | _ => simp [stepsLeft]
  | stopNow jobId => exact ⟨rfl, Nat.le_refl 9⟩
  | storeWaiting now => exact ⟨rfl, Nat.le_refl 8⟩
  | wait => exact ⟨rfl, Nat.le_refl 4⟩
  | noWait notWaiting =>
      refine ⟨rfl, ?_⟩
      cases before with
      | running => exact absurd rfl notRunning
      | sigintWaiting => exact absurd rfl notWaiting
      | sigintKafkaWait =>
          rcases left_ rfl with contrary | ⟨_, contrary⟩ <;> cases contrary
      | _ => simp [stepsLeft]
  | goOn sigintStart now =>
      refine ⟨rfl, ?_⟩
      cases before <;> simp [stepsLeft, waits, isWait]
  | finish => exact ⟨rfl, Nat.le_refl 3⟩
  | storeKafkaWait => exact ⟨rfl, Nat.le_refl 2⟩
  | iterate body =>
      refine ⟨rfl, Nat.le_add_right_of_le ?_⟩
      cases before <;> simp [stepsLeft]
  | throw what body =>
      refine ⟨rfl, Nat.le_add_right_of_le ?_⟩
      cases before <;> simp [stepsLeft]
  | leave reason place =>
      rcases place with rfl | rfl <;>
        exact ⟨rfl, Nat.le_add_right_of_le (by simp [stepsLeft])⟩
  | «end» last =>
      rw [runs] at last
      cases last

/-! ## Runs after a signal -/

/-- A signal handler has stored its value. -/
structure Signalled (loop : RunLoop) : Prop where
  well : WellSignalled loop
  notRunning : loop.runState ≠ .running

theorem Moves.notRunning
    {before after : RunStates} {point next : LoopPoint}
    {events : List MainEvent}
    (moved : Moves before point events after next)
    (notRunning : before ≠ .running) : after ≠ .running := by
  cases moved with
  | storeWaiting now => intro contrary; cases contrary
  | storeKafkaWait => intro contrary; cases contrary
  | _ => exact notRunning

theorem Signalled.step
    {loop : RunLoop} (signalled : Signalled loop)
    (context : ServiceContext Json) (settings : RunSettings)
    (input : ScheduleInput) :
    Signalled (loop.step context settings input).1 := by
  refine ⟨signalled.well.step context settings input, ?_⟩
  cases input with
  | signal signal => exact signalled.notRunning
  | store handler =>
      rcases step_store context settings loop handler with
        same | ⟨runState, handlers, stored, both⟩
      · rw [same]
        exact signalled.notRunning
      · rw [stored]
        rcases signalled.well.handlers runState
            (both.subset List.mem_cons_self) with rfl | rfl <;>
          (intro contrary; cases contrary)
  | main input =>
      exact (moves_mainStep context settings loop input).notRunning
        signalled.notRunning

/-- After a signal, another one only asks to stop. -/
theorem Signalled.stale_signal
    {loop : RunLoop} (signalled : Signalled loop) (signal : Signal) :
    (loop.handlers ++ [signalHandler loop.runState signal]).count
        .sigintReceived =
      loop.handlers.count .sigintReceived := by
  rcases signalHandler_value loop.runState signal with
    stop | ⟨contrary, _⟩
  · rw [stop, List.count_append]
    rfl
  · exact absurd contrary signalled.notRunning

/-- The steps that are left, with those that stale handlers bring. -/
def potential (loop : RunLoop) : Nat :=
  stepsLeft loop.point loop.runState + 9 * staleHandlers loop

/-- Only the steps of the main thread spend, and only waits gain. -/
theorem Signalled.spends
    {loop : RunLoop} (signalled : Signalled loop)
    (context : ServiceContext Json) (settings : RunSettings)
    (input : ScheduleInput) :
    let next := loop.step context settings input
    next.1.ended = false →
      loop.ended = false ∧
        potential next.1 + (if isMain input = true then 1 else 0) ≤
          potential loop + 10 * waits next.2 := by
  intro next runs
  cases input with
  | signal signal =>
      refine ⟨runs, Nat.le_of_eq ?_⟩
      simp [next, RunLoop.step, potential, staleHandlers,
        signalled.stale_signal signal, isMain, waits]
  | store handler =>
      have spent := step_store context settings loop handler
      change next = _ ∨ ∃ runState handlers, next = _ ∧ _ at spent
      rcases spent with same | ⟨runState, handlers, stored, both⟩
      · rw [same] at runs ⊢
        exact ⟨runs, Nat.le_add_right _ _⟩
      · rw [stored] at runs ⊢
        refine ⟨runs, ?_⟩
        have counted := both.count_eq .sigintReceived
        rcases signalled.well.handlers runState
            (both.subset List.mem_cons_self) with rfl | rfl
        · rw [List.count_cons_of_ne (by decide)] at counted
          have fewer := stepsLeft_stopping loop.point loop.runState
          simp only [potential, staleHandlers, counted, isMain,
            Bool.false_eq_true, if_false]
          omega
        · rw [List.count_cons_self] at counted
          have more := stepsLeft_sigintReceived loop.point loop.runState
          simp only [potential, staleHandlers, ← counted, isMain,
            Bool.false_eq_true, if_false]
          omega
  | main input =>
      have moved := moves_mainStep context settings loop input
      rcases moved.spends signalled.notRunning signalled.well.kafkaWait runs
        with ⟨ran, spent⟩
      refine ⟨ran, ?_⟩
      simp only [next, RunLoop.step, potential, staleHandlers,
        mainStep_handlers, isMain, if_true] at spent ⊢
      omega

/-! ## Waits for the job -/

def isWaitStart : MainEvent → Bool
  | .waitsFrom _ => true
  | _ => false

/-- A `SIGINT` that the main thread has not acted on yet. -/
def pendingSigint (point : LoopPoint) (runState : RunStates) : Nat :=
  if point = .received ∨ point = .storeWaiting ∨
      runState = .sigintReceived then 1
  else 0

theorem pendingSigint_le (point : LoopPoint) (runState : RunStates) :
    pendingSigint point runState ≤ 1 := by
  rw [pendingSigint]
  split <;> decide

/-- Outside of the wait only the run state counts. -/
theorem pendingSigint_eq
    {point : LoopPoint} (runState : RunStates)
    (received : point ≠ .received) (storeWaiting : point ≠ .storeWaiting) :
    pendingSigint point runState =
      if runState = .sigintReceived then 1 else 0 := by
  simp [pendingSigint, received, storeWaiting]

/-- A run state that is read is at least as much of a `SIGINT`. -/
theorem le_pendingSigint (point : LoopPoint) (runState : RunStates) :
    (if runState = .sigintReceived then 1 else 0) ≤
      pendingSigint point runState := by
  rw [pendingSigint]
  split <;> split <;> simp_all

theorem pendingSigint_stopping (point : LoopPoint) (runState : RunStates) :
    pendingSigint point .stopping ≤ pendingSigint point runState := by
  rw [pendingSigint, pendingSigint]
  split <;> split <;> simp_all

/-- A wait begins when the main thread has acted on a `SIGINT`. -/
theorem Moves.waitStarts
    {before after : RunStates} {point next : LoopPoint}
    {events : List MainEvent}
    (moved : Moves before point events after next) :
    events.countP isWaitStart + pendingSigint next after ≤
      pendingSigint point before := by
  have noStart {event : MainEvent} (body : isBody event = true) :
      [event].countP isWaitStart = 0 := by
    cases event <;> first | rfl | cases body
  have quiet {last : LoopPoint} (received : last ≠ .received)
      (storeWaiting : last ≠ .storeWaiting) :
      0 + pendingSigint last before ≤ pendingSigint point before := by
    rw [pendingSigint_eq before received storeWaiting, Nat.zero_add]
    exact le_pendingSigint point before
  cases moved with
  | sigint => exact Nat.le_refl 1
  | stopNow jobId => exact Nat.le_refl 1
  | storeWaiting now => exact Nat.le_refl 1
  | storeKafkaWait => exact Nat.zero_le _
  | iterate body =>
      rw [noStart body]
      exact quiet LoopPoint.noConfusion LoopPoint.noConfusion
  | throw what body =>
      rw [noStart body]
      exact quiet LoopPoint.noConfusion LoopPoint.noConfusion
  | «end» last =>
      apply quiet
      · rintro rfl
        cases last
      · rintro rfl
        cases last
  | _ => exact quiet LoopPoint.noConfusion LoopPoint.noConfusion

theorem Signalled.waitStarts
    {loop : RunLoop} (signalled : Signalled loop)
    (context : ServiceContext Json) (settings : RunSettings)
    (input : ScheduleInput) :
    let next := loop.step context settings input
    next.2.countP isWaitStart +
        (pendingSigint next.1.point next.1.runState +
          staleHandlers next.1) ≤
      pendingSigint loop.point loop.runState + staleHandlers loop := by
  intro next
  cases input with
  | signal signal =>
      refine Nat.le_of_eq ?_
      simp [next, RunLoop.step, staleHandlers,
        signalled.stale_signal signal]
  | store handler =>
      have stored := step_store context settings loop handler
      change next = _ ∨ ∃ runState handlers, next = _ ∧ _ at stored
      rcases stored with same | ⟨runState, handlers, stored, both⟩
      · simp [same]
      · have counted := both.count_eq .sigintReceived
        rw [stored]
        rcases signalled.well.handlers runState
            (both.subset List.mem_cons_self) with rfl | rfl
        · rw [List.count_cons_of_ne (by decide)] at counted
          have fewer := pendingSigint_stopping loop.point loop.runState
          simp only [staleHandlers, counted, List.countP_nil]
          omega
        · rw [List.count_cons_self] at counted
          have one := pendingSigint_le loop.point .sigintReceived
          simp only [staleHandlers, ← counted, List.countP_nil]
          omega
  | main input =>
      have moved := (moves_mainStep context settings loop input).waitStarts
      simp only [next, RunLoop.step, staleHandlers, mainStep_handlers]
        at moved ⊢
      omega

theorem Moves.waited
    {before after : RunStates} {point next : LoopPoint}
    {events : List MainEvent} {sigintStart now : TimePoint}
    (moved : Moves before point events after next)
    (waited : .waited sigintStart now ∈ events) : point = .waiting := by
  cases moved with
  | goOn => rfl
  | iterate body =>
      rw [← List.mem_singleton.mp waited] at body
      cases body
  | throw what body =>
      rw [← List.mem_singleton.mp waited] at body
      cases body
  | stopNow jobId => cases List.mem_singleton.mp waited
  | storeWaiting now => cases List.mem_singleton.mp waited
  | _ => cases waited

/-- The main thread waits within the time that it allows for the job. -/
theorem waited_mainStep
    (context : ServiceContext Json) (settings : RunSettings)
    {loop : RunLoop} {input : MainInput} {sigintStart now : TimePoint}
    (waited :
      .waited sigintStart now ∈ (loop.mainStep context settings input).2) :
    loop.point = .waiting ∧ sigintStart = loop.sigintStart ∧
      now ≤ loop.sigintStart.add waitForStop := by
  have place := (moves_mainStep context settings loop input).waited waited
  refine ⟨place, ?_⟩
  simp only [mainStep, place, wait] at waited
  split at waited
  · cases waited
  · rename_i inTime
    split at waited
    · cases waited
    · split at waited
      · cases waited
      · cases List.mem_singleton.mp waited
        exact ⟨rfl, not_lt.mp inTime⟩

/-- The waits so far were in time, and one that goes on has begun. -/
structure WaitsInTime (events : List MainEvent) (loop : RunLoop) : Prop where
  inTime :
    ∀ sigintStart now, .waited sigintStart now ∈ events →
      .waitsFrom sigintStart ∈ events ∧
        now ≤ sigintStart.add waitForStop
  begun :
    loop.runState = .sigintWaiting ∨ loop.point = .waiting →
      .waitsFrom loop.sigintStart ∈ events

theorem Moves.waiting
    {before after : RunStates} {point next : LoopPoint}
    {events : List MainEvent}
    (moved : Moves before point events after next)
    (elsewhere : point ≠ .storeWaiting)
    (waiting : after = .sigintWaiting ∨ next = .waiting) :
    before = .sigintWaiting ∨ point = .waiting := by
  cases moved with
  | storeWaiting now => exact absurd rfl elsewhere
  | wait => exact Or.inl rfl
  | goOn => exact Or.inr rfl
  | finish => exact Or.inr rfl
  | «end» last =>
      rcases waiting with same | rfl
      · exact Or.inl same
      · cases last
  | _ =>
      rcases waiting with same | contrary
      · first | exact Or.inl same | cases same
      · cases contrary

theorem WaitsInTime.step
    {events : List MainEvent} {loop : RunLoop}
    (before : WaitsInTime events loop) (well : WellSignalled loop)
    (context : ServiceContext Json) (settings : RunSettings)
    (input : ScheduleInput) :
    let next := loop.step context settings input
    WaitsInTime (events ++ next.2) next.1 := by
  intro next
  cases input with
  | signal signal =>
      simp only [next, RunLoop.step, List.append_nil]
      exact ⟨before.inTime, before.begun⟩
  | store handler =>
      have stored := step_store context settings loop handler
      change next = _ ∨ ∃ runState handlers, next = _ ∧ _ at stored
      rcases stored with same | ⟨runState, handlers, stored, both⟩
      · rw [same, List.append_nil]
        exact before
      · rw [stored, List.append_nil]
        refine ⟨before.inTime, ?_⟩
        rintro (contrary | waiting)
        · rcases well.handlers runState
            (both.subset List.mem_cons_self) with rfl | rfl <;>
          cases contrary
        · exact before.begun (Or.inr waiting)
  | main input =>
      have moved := moves_mainStep context settings loop input
      constructor
      · intro sigintStart now waited
        rcases List.mem_append.mp waited with earlier | new
        · rcases before.inTime sigintStart now earlier with ⟨from_, inTime⟩
          exact ⟨List.mem_append_left _ from_, inTime⟩
        · rcases waited_mainStep context settings new with
            ⟨place, rfl, inTime⟩
          exact ⟨List.mem_append_left _ (before.begun (Or.inr place)), inTime⟩
      · intro waiting
        by_cases place : loop.point = .storeWaiting
        · apply List.mem_append_right
          simp [next, RunLoop.step, mainStep, place]
        · have same := sameSignals_mainStep context settings input place
          rw [show next.1.sigintStart = loop.sigintStart from same.sigintStart]
          exact List.mem_append_left _
            (before.begun (moved.waiting place waiting))

theorem waitsInTime
    (context : ServiceContext Json) (settings : RunSettings)
    (schedule : List ScheduleInput) :
    let result :=
      Mealy.run (step context settings) (create settings) schedule
    WaitsInTime result.2 result.1 := by
  have both :
      WellSignalled
          (Mealy.run (step context settings) (create settings) schedule).1 ∧
        WaitsInTime
          (Mealy.run (step context settings) (create settings) schedule).2
          (Mealy.run (step context settings) (create settings) schedule).1 := by
    refine Mealy.run_induction
      (fun _ events loop => WellSignalled loop ∧ WaitsInTime events loop)
      ⟨wellSignalled context settings [], ?_, ?_⟩ ?_ schedule
    · intro _ _ contrary
      cases contrary
    · rintro (contrary | contrary) <;> cases contrary
    · rintro _ events loop input ⟨well, inTime⟩
      exact ⟨well.step context settings input,
        inTime.step well context settings input⟩
  exact both.2

/--
Once a signal handler has stored its value, the run state is never `Running`
again, however the main thread, further signals and their handlers take turns.
The main thread waits for its job only up to five seconds after it has told
the job to stop, and it begins to wait at most once, and once more for every
handler that had read `Running` and has not stored its value.  Apart from the
iterations in which it waits, it takes a bounded number of steps before the
program ends.
-/
theorem signals_end_the_loop
    (context : ServiceContext Json) (settings : RunSettings)
    (schedule continuation : List ScheduleInput)
    (signalled :
      (Mealy.run (step context settings) (create settings)
        schedule).1.runState ≠ .running) :
    let before :=
      Mealy.run (step context settings) (create settings) schedule
    let after := Mealy.run (step context settings) before.1 continuation
    after.1.runState ≠ .running ∧
      (∀ sigintStart now, .waited sigintStart now ∈ after.2 →
        .waitsFrom sigintStart ∈ before.2 ++ after.2 ∧
          now ≤ sigintStart.add waitForStop) ∧
      after.2.countP isWaitStart ≤ 1 + staleHandlers before.1 ∧
      (after.1.ended = false →
        continuation.countP isMain ≤
          13 + 9 * staleHandlers before.1 + 10 * waits after.2) := by
  intro before after
  have start : Signalled before.1 :=
    ⟨wellSignalled context settings schedule, signalled⟩
  have kept : Signalled after.1 ∧
      after.2.countP isWaitStart +
          (pendingSigint after.1.point after.1.runState +
            staleHandlers after.1) ≤
        pendingSigint before.1.point before.1.runState +
          staleHandlers before.1 := by
    refine Mealy.run_induction
      (fun _ events loop =>
        Signalled loop ∧
          events.countP isWaitStart +
              (pendingSigint loop.point loop.runState +
                staleHandlers loop) ≤
            pendingSigint before.1.point before.1.runState +
              staleHandlers before.1)
      ⟨start, Nat.le_of_eq (Nat.zero_add _)⟩ ?_ continuation
    rintro _ events loop input ⟨reached, bound⟩
    refine ⟨reached.step context settings input, ?_⟩
    have started := reached.waitStarts context settings input
    rw [List.countP_append]
    omega
  refine ⟨kept.1.notRunning, ?_, ?_, ?_⟩
  · have whole :=
      (waitsInTime context settings (schedule ++ continuation)).inTime
    rw [Mealy.run_append] at whole
    intro sigintStart now waited
    exact whole sigintStart now (List.mem_append_right _ waited)
  · have one := pendingSigint_le before.1.point before.1.runState
    omega
  · intro runs
    have bound :
        continuation.countP isMain ≤ potential before.1 + 10 * waits after.2 :=
      Mealy.run_spends Signalled (fun loop => loop.ended = true) potential
        isMain isWait 10
        (fun loop input reached => reached.step context settings input)
        (fun loop input reached => by
          simpa only [Bool.not_eq_true, waits] using
            reached.spends context settings input)
        start continuation (by simpa only [Bool.not_eq_true] using runs)
    have most := stepsLeft_le before.1.point before.1.runState
    rw [potential] at bound
    omega

/-! ## A job during which a signal comes -/

def sampleSettings : RunSettings where
  serviceId := "writer"
  poolTopic := "pool"
  commandBrokerURI := CommandTopic.configuredTopic
  minMetadataTimeout := 200
  maxMetadataTimeout := 500

/-- The main thread takes some steps with the same input from outside. -/
def mainSteps (count : Nat) (input : MainInput) : List ScheduleInput :=
  List.replicate count (.main input)

/-- The first iteration finds the topics, and the second one starts a job. -/
def sampleJob : List ScheduleInput :=
  mainSteps 4 { topicList := .topics ["pool", "commands"] } ++
    mainSteps 4
      { run :=
          { commands := [.start ⟨{}, true, 0, {}⟩ {}]
            report := ⟨false, false, ""⟩ } }

/-- A `SIGINT` whose handler has returned. -/
def sampleSigint : List ScheduleInput :=
  sampleJob ++ [.signal .sigint, .store 0]

/-- The main thread has told the job to stop and waits for it once. -/
theorem signals_end_the_loop_sample :
    let before :=
      Mealy.run (step CommandTopic.poolContext sampleSettings)
        (create sampleSettings) sampleSigint
    let after :=
      Mealy.run (step CommandTopic.poolContext sampleSettings) before.1
        (mainSteps 10 {})
    after.1.runState ≠ .running ∧
      (∀ sigintStart now, .waited sigintStart now ∈ after.2 →
        .waitsFrom sigintStart ∈ before.2 ++ after.2 ∧
          now ≤ sigintStart.add waitForStop) ∧
      after.2.countP isWaitStart ≤ 1 + staleHandlers before.1 ∧
      (after.1.ended = false →
        (mainSteps 10 {}).countP isMain ≤
          13 + 9 * staleHandlers before.1 + 10 * waits after.2) :=
  signals_end_the_loop CommandTopic.poolContext sampleSettings sampleSigint
    (mainSteps 10 {}) (by decide)

/-- The main thread has seen the signal and is still in the loop. -/
example :
    let after :=
      (Mealy.run (step CommandTopic.poolContext sampleSettings)
        (create sampleSettings) (sampleSigint ++ mainSteps 10 {})).1
    (after.runState, after.point, after.ended) =
      (.sigintWaiting, .condition, false) := by
  decide

/-! ## A request to stop at once -/

/-- The request stands, or the loop was left. -/
structure Heeded (loop : RunLoop) : Prop where
  well : WellSignalled loop
  notRunning : loop.runState ≠ .running
  handlers : .sigintReceived ∉ loop.handlers
  stops : loop.runState = .stopping ∨ HasLeft loop.point
  received : loop.point ≠ .received
  storeWaiting : loop.point ≠ .storeWaiting

/-- The steps up to the end, each body of the loop being the last. -/
def stepsToStop : LoopPoint → Nat
  | .condition => 2
  | .firstLook => 5
  | .secondLook => 4
  | .waiting => 4
  | .body => 3
  | .storeKafkaWait => 2
  | .left _ => 1
  | _ => 0

/-- Before the last body of the loop. -/
def bodiesToStop : LoopPoint → Nat
  | .firstLook => 1
  | .secondLook => 1
  | .waiting => 1
  | .body => 1
  | _ => 0

/-- What a move does while a request to stop stands. -/
structure Moves.Stops
    (point : LoopPoint) (events : List MainEvent)
    (after : RunStates) (next : LoopPoint) : Prop where
  stops : after = .stopping ∨ HasLeft next
  received : next ≠ .received
  storeWaiting : next ≠ .storeWaiting
  noStopNow : ∀ jobId, .stoppedNow jobId ∉ events
  bodies : events.countP isBody + bodiesToStop next ≤ bodiesToStop point
  steps :
    isEnd next = false →
      isEnd point = false ∧ stepsToStop next + 1 ≤ stepsToStop point

theorem Moves.heeds
    {before after : RunStates} {point next : LoopPoint}
    {events : List MainEvent}
    (moved : Moves before point events after next)
    (stops : before = .stopping ∨ HasLeft point)
    (received : point ≠ .received) (storeWaiting : point ≠ .storeWaiting) :
    Moves.Stops point events after next := by
  have stopping (inside : ¬ HasLeft point) : before = .stopping :=
    stops.resolve_right inside
  have noStop {event : MainEvent} (body : isBody event = true)
      (jobId : String) : MainEvent.stoppedNow jobId ∉ [event] := by
    intro contrary
    rw [← List.mem_singleton.mp contrary] at body
    cases body
  have quiet (jobId : String) : MainEvent.stoppedNow jobId ∉ [] :=
    List.not_mem_nil
  cases moved with
  | stop =>
      refine ⟨Or.inl rfl, ?_, ?_, quiet, Nat.le_refl 0, ?_⟩
      · exact LoopPoint.noConfusion
      · exact LoopPoint.noConfusion
      · exact fun _ => ⟨rfl, Nat.le_refl 2⟩
  | enter contrary =>
      exact absurd (stopping (by simp [HasLeft, isEnd])) contrary
  | sigint => cases stopping (by simp [HasLeft, isEnd])
  | noSigint _ =>
      refine ⟨Or.inl (stopping (by simp [HasLeft, isEnd])), ?_, ?_, quiet,
        Nat.le_refl 1, ?_⟩
      · exact LoopPoint.noConfusion
      · exact LoopPoint.noConfusion
      · exact fun _ => ⟨rfl, Nat.le_refl 5⟩
  | stopNow jobId => exact absurd rfl received
  | storeWaiting now => exact absurd rfl storeWaiting
  | wait => cases stopping (by simp [HasLeft, isEnd])
  | noWait _ =>
      refine ⟨Or.inl (stopping (by simp [HasLeft, isEnd])), ?_, ?_, quiet,
        Nat.le_refl 1, ?_⟩
      · exact LoopPoint.noConfusion
      · exact LoopPoint.noConfusion
      · exact fun _ => ⟨rfl, Nat.le_refl 4⟩
  | goOn sigintStart now =>
      refine ⟨Or.inl (stopping (by simp [HasLeft, isEnd])), ?_, ?_, ?_,
        Nat.le_refl 1, ?_⟩
      · exact LoopPoint.noConfusion
      · exact LoopPoint.noConfusion
      · intro jobId contrary
        cases List.mem_singleton.mp contrary
      · exact fun _ => ⟨rfl, Nat.le_refl 4⟩
  | finish =>
      refine ⟨Or.inl (stopping (by simp [HasLeft, isEnd])), ?_, ?_, quiet,
        Nat.zero_le 1, ?_⟩
      · exact LoopPoint.noConfusion
      · exact LoopPoint.noConfusion
      · exact fun _ => ⟨rfl, Nat.le_succ 3⟩
  | storeKafkaWait =>
      refine ⟨Or.inr (Or.inr ⟨_, rfl⟩), ?_, ?_, quiet, Nat.le_refl 0, ?_⟩
      · exact LoopPoint.noConfusion
      · exact LoopPoint.noConfusion
      · exact fun _ => ⟨rfl, Nat.le_refl 2⟩
  | iterate body =>
      refine ⟨Or.inl (stopping (by simp [HasLeft, isEnd])), ?_, ?_,
        noStop body, ?_, ?_⟩
      · exact LoopPoint.noConfusion
      · exact LoopPoint.noConfusion
      · exact List.countP_le_length
      · exact fun _ => ⟨rfl, Nat.le_refl 3⟩
  | throw what body =>
      refine ⟨Or.inr (Or.inr ⟨_, rfl⟩), ?_, ?_, noStop body, ?_, ?_⟩
      · exact LoopPoint.noConfusion
      · exact LoopPoint.noConfusion
      · exact List.countP_le_length
      · exact fun _ => ⟨rfl, Nat.le_succ 2⟩
  | leave reason place =>
      rcases place with rfl | rfl
      · exact absurd rfl received
      refine ⟨Or.inr (Or.inr ⟨_, rfl⟩), ?_, ?_, quiet, Nat.zero_le 1, ?_⟩
      · exact LoopPoint.noConfusion
      · exact LoopPoint.noConfusion
      · exact fun _ => ⟨rfl, of_decide_eq_true rfl⟩
  | «end» last =>
      have noBody : bodiesToStop next = 0 := by
        cases next <;> first | rfl | cases last
      refine ⟨Or.inr (Or.inl last), ?_, ?_, quiet, ?_, ?_⟩
      · rintro rfl
        cases last
      · rintro rfl
        cases last
      · rw [noBody]
        exact Nat.zero_le _
      · intro runs
        rw [runs] at last
        cases last

/-- What a step does while a request to stop stands. -/
theorem Heeded.step
    {loop : RunLoop} (heeded : Heeded loop)
    (context : ServiceContext Json) (settings : RunSettings)
    (input : ScheduleInput) :
    let next := loop.step context settings input
    Heeded next.1 ∧ (∀ jobId, .stoppedNow jobId ∉ next.2) ∧
      next.2.countP isBody + bodiesToStop next.1.point ≤
        bodiesToStop loop.point ∧
      (next.1.ended = false →
        loop.ended = false ∧
          stepsToStop next.1.point +
              (if isMain input = true then 1 else 0) ≤
            stepsToStop loop.point) := by
  intro next
  have well := heeded.well.step context settings input
  have notRunning :=
    (Signalled.step ⟨heeded.well, heeded.notRunning⟩ context settings
      input).notRunning
  cases input with
  | signal signal =>
      have count :=
        Signalled.stale_signal ⟨heeded.well, heeded.notRunning⟩ signal
      refine ⟨⟨well, notRunning, ?_, heeded.stops, heeded.received,
        heeded.storeWaiting⟩, ?_, ?_, ?_⟩
      · rw [← List.count_eq_zero]
        exact count.trans (List.count_eq_zero.mpr heeded.handlers)
      · exact fun _ => List.not_mem_nil
      · exact Nat.le_of_eq (Nat.zero_add _)
      · exact fun runs => ⟨runs, Nat.le_refl _⟩
  | store handler =>
      have stored := step_store context settings loop handler
      change next = _ ∨ ∃ runState handlers, next = _ ∧ _ at stored
      rcases stored with same | ⟨runState, handlers, stored, both⟩
      · rw [same]
        exact ⟨heeded, fun _ => List.not_mem_nil,
          Nat.le_of_eq (Nat.zero_add _), fun runs => ⟨runs, Nat.le_refl _⟩⟩
      · change WellSignalled next.1 at well
        change next.1.runState ≠ .running at notRunning
        have value : runState = .stopping := by
          rcases heeded.well.handlers runState
              (both.subset List.mem_cons_self) with stopping | rfl
          · exact stopping
          · exact absurd (both.subset List.mem_cons_self) heeded.handlers
        subst value
        rw [stored] at well notRunning ⊢
        refine ⟨⟨well, notRunning, ?_, Or.inl rfl, heeded.received,
          heeded.storeWaiting⟩, ?_, ?_, ?_⟩
        · intro member
          exact heeded.handlers (both.subset (List.mem_cons_of_mem _ member))
        · exact fun _ => List.not_mem_nil
        · exact Nat.le_of_eq (Nat.zero_add _)
        · exact fun runs => ⟨runs, Nat.le_refl _⟩
  | main input =>
      have moved :=
        (moves_mainStep context settings loop input).heeds heeded.stops
          heeded.received heeded.storeWaiting
      refine ⟨⟨well, notRunning, ?_, moved.stops, moved.received,
        moved.storeWaiting⟩, moved.noStopNow, moved.bodies, moved.steps⟩
      change .sigintReceived ∉ (loop.mainStep context settings input).1.handlers
      rw [mainStep_handlers]
      exact heeded.handlers

/-- A `SIGTERM` comes after `stopNow` was called, and is overwritten. -/
example :
    let lost :=
      (Mealy.run (step CommandTopic.poolContext sampleSettings)
        (create sampleSettings)
        (sampleSigint ++ mainSteps 3 {} ++
          [.signal .sigterm, .store 0, .main {}])).1
    (lost.runState, lost.handlers, lost.point) =
      (.sigintWaiting, [], .body) := by
  decide

end KafkaToNexus.RunLoop
