import Mathlib.Data.List.Induction

/-!
# Machines that answer every input with a list of outputs

A machine is a function that takes a state and one input to the next state and
to the outputs produced on the way.  `run` feeds it a list of inputs.  The one
induction that reasoning about such runs needs is stated as `run_induction`:
a relation between the inputs consumed, the outputs produced and the state
reached holds after every run when it holds at the start and every single
step keeps it.
-/

namespace KafkaToNexus.Foundations.Mealy

variable {State Input Output : Type*}

/-- Feed a list of inputs to a machine, collecting its outputs in order. -/
def run
    (step : State → Input → State × List Output)
    (state : State) :
    List Input → State × List Output
  | [] => (state, [])
  | input :: rest =>
      let (next, outputs) := step state input
      let (final, later) := run step next rest
      (final, outputs ++ later)

@[simp]
theorem run_nil
    (step : State → Input → State × List Output)
    (state : State) :
    run step state [] = (state, []) :=
  rfl

theorem run_cons
    (step : State → Input → State × List Output)
    (state : State) (input : Input) (rest : List Input) :
    run step state (input :: rest) =
      ((run step (step state input).1 rest).1,
        (step state input).2 ++
          (run step (step state input).1 rest).2) :=
  rfl

/-- A run over two lists of inputs is two runs, one after the other. -/
theorem run_append
    (step : State → Input → State × List Output)
    (state : State) (first second : List Input) :
    run step state (first ++ second) =
      ((run step (run step state first).1 second).1,
        (run step state first).2 ++
          (run step (run step state first).1 second).2) := by
  induction first generalizing state with
  | nil => simp
  | cons input rest induction =>
      simp only [List.cons_append, run_cons, induction,
        List.append_assoc]

/-- A run that ends with one more input ends with one more step. -/
theorem run_concat
    (step : State → Input → State × List Output)
    (state : State) (inputs : List Input) (input : Input) :
    run step state (inputs ++ [input]) =
      ((step (run step state inputs).1 input).1,
        (run step state inputs).2 ++
          (step (run step state inputs).1 input).2) := by
  simp [run_append, run_cons]

/--
The induction rule of runs.  The relation may speak about the inputs consumed
so far, the outputs produced so far and the current state.
-/
theorem run_induction
    {step : State → Input → State × List Output}
    {start : State}
    (relation : List Input → List Output → State → Prop)
    (base : relation [] [] start)
    (keep :
      ∀ inputs outputs state input,
        relation inputs outputs state →
          relation (inputs ++ [input])
            (outputs ++ (step state input).2) (step state input).1)
    (inputs : List Input) :
    relation inputs (run step start inputs).2
      (run step start inputs).1 := by
  induction inputs using List.reverseRecOn with
  | nil => exact base
  | append_singleton inputs input induction =>
      rw [run_concat]
      exact keep inputs _ _ input induction

/--
A machine whose steps are those of another one, on part of the state, has the
same outputs and reaches that part of the same state.
-/
theorem run_project
    {OtherState OtherInput : Type*}
    {step : State → Input → State × List Output}
    {other : OtherState → OtherInput → OtherState × List Output}
    (project : State → OtherState) (read : Input → OtherInput)
    (same :
      ∀ state input,
        (project (step state input).1, (step state input).2) =
          other (project state) (read input))
    (state : State) (inputs : List Input) :
    (project (run step state inputs).1, (run step state inputs).2) =
      run other (project state) (inputs.map read) := by
  induction inputs generalizing state with
  | nil => rfl
  | cons input rest induction =>
      simp only [run_cons, List.map_cons, ← same, ← induction]

/--
A machine that pays for some of its steps from a potential, which some of its
outputs raise.  As long as it has not ended, it has taken no more of these
steps than it had and gained.
-/
theorem run_spends
    {step : State → Input → State × List Output}
    {start : State}
    (invariant ended : State → Prop) (potential : State → Nat)
    (counts : Input → Bool) (gains : Output → Bool) (gain : Nat)
    (keeps :
      ∀ state input, invariant state → invariant (step state input).1)
    (spends :
      ∀ state input, invariant state → ¬ ended (step state input).1 →
        ¬ ended state ∧
          potential (step state input).1 +
              (if counts input = true then 1 else 0) ≤
            potential state + gain * (step state input).2.countP gains)
    (holds : invariant start) (inputs : List Input)
    (notEnded : ¬ ended (run step start inputs).1) :
    inputs.countP counts ≤
      potential start + gain * (run step start inputs).2.countP gains := by
  have paid :
      invariant (run step start inputs).1 ∧
        (¬ ended (run step start inputs).1 →
          potential (run step start inputs).1 + inputs.countP counts ≤
            potential start +
              gain * (run step start inputs).2.countP gains) := by
    refine run_induction
      (fun taken outputs state =>
        invariant state ∧
          (¬ ended state →
            potential state + taken.countP counts ≤
              potential start + gain * outputs.countP gains))
      ⟨holds, fun _ => by simp⟩ ?_ inputs
    rintro taken outputs state input ⟨before, bound⟩
    refine ⟨keeps state input before, fun runs => ?_⟩
    rcases spends state input before runs with ⟨ran, spent⟩
    have earlier := bound ran
    rw [List.countP_append, List.countP_append, List.countP_singleton,
      Nat.mul_add]
    omega
  have bound := paid.2 notEnded
  omega

/-! ## Runs whose steps meet a condition -/

/-- Every step of a run meets a condition on its input and state. -/
def Admissible
    (step : State → Input → State × List Output)
    (condition : State → Input → Prop) (state : State) :
    List Input → Prop
  | [] => True
  | input :: rest =>
      condition state input ∧
        Admissible step condition (step state input).1 rest

theorem admissible_concat
    {step : State → Input → State × List Output}
    {condition : State → Input → Prop}
    (state : State) (inputs : List Input) (input : Input) :
    Admissible step condition state (inputs ++ [input]) ↔
      Admissible step condition state inputs ∧
        condition (run step state inputs).1 input := by
  induction inputs generalizing state with
  | nil => simp [Admissible]
  | cons first rest induction =>
      simp only [List.cons_append, Admissible, induction, run_cons, and_assoc]

/-- The induction rule of runs whose steps meet a condition. -/
theorem run_induction_of_admissible
    {step : State → Input → State × List Output}
    {condition : State → Input → Prop}
    {start : State}
    (relation : List Input → List Output → State → Prop)
    (base : relation [] [] start)
    (keep :
      ∀ inputs outputs state input,
        relation inputs outputs state → condition state input →
          relation (inputs ++ [input])
            (outputs ++ (step state input).2) (step state input).1)
    {inputs : List Input}
    (admissible : Admissible step condition start inputs) :
    relation inputs (run step start inputs).2 (run step start inputs).1 := by
  induction inputs using List.reverseRecOn with
  | nil => exact base
  | append_singleton inputs input induction =>
      rcases (admissible_concat start inputs input).mp admissible with
        ⟨before, meets⟩
      rw [run_concat]
      exact keep _ _ _ input (induction before) meets

/--
A property that a step keeps exactly under a condition holds after every part
of a run exactly when the steps meet the condition.
-/
theorem holds_throughout_iff
    {step : State → Input → State × List Output}
    {condition : State → Input → Prop}
    {start : State}
    (invariant property : State → Prop)
    (keeps :
      ∀ state input, invariant state → invariant (step state input).1)
    (exactly :
      ∀ state input, invariant state → property state →
        (property (step state input).1 ↔ condition state input))
    (invariantStart : invariant start) (propertyStart : property start)
    (inputs : List Input) :
    (∀ taken, taken <+: inputs → property (run step start taken).1) ↔
      Admissible step condition start inputs := by
  induction inputs generalizing start with
  | nil =>
      constructor
      · exact fun _ => trivial
      · intro _ taken first
        rw [List.prefix_nil.mp first]
        exact propertyStart
  | cons input rest induction =>
      have next := keeps start input invariantStart
      constructor
      · intro throughout
        have holds : property (step start input).1 := by
          have after := throughout [input] ⟨rest, rfl⟩
          rw [run_cons] at after
          exact after
        refine ⟨(exactly start input invariantStart propertyStart).mp holds, ?_⟩
        apply (induction next holds).mp
        intro taken first
        have after :=
          throughout (input :: taken) (List.prefix_cons_inj input |>.mpr first)
        rw [run_cons] at after
        exact after
      · rintro ⟨meets, later⟩ taken first
        have holds :=
          (exactly start input invariantStart propertyStart).mpr meets
        cases taken with
        | nil => exact propertyStart
        | cons other taken =>
            rcases List.cons_prefix_cons.mp first with ⟨rfl, others⟩
            rw [run_cons]
            exact (induction next holds).mpr later taken others

/--
Where a condition keeps a relation between the inputs and the state, and is
what makes a step a good one there, all steps of a run are good exactly when
they all meet the condition.
-/
theorem all_steps_iff
    {step : State → Input → State × List Output}
    {condition : State → Input → Prop}
    {start : State}
    (good : List Input → State → Input → Prop)
    (relation : List Input → State → Prop)
    (base : relation [] start)
    (keep :
      ∀ inputs state input, relation inputs state → condition state input →
        relation (inputs ++ [input]) (step state input).1)
    (exactly :
      ∀ inputs state input, relation inputs state →
        (good inputs state input ↔ condition state input))
    (inputs : List Input) :
    (∀ taken input, taken ++ [input] <+: inputs →
        good taken (run step start taken).1 input) ↔
      Admissible step condition start inputs := by
  suffices both :
      ((∀ taken input, taken ++ [input] <+: inputs →
          good taken (run step start taken).1 input) ↔
        Admissible step condition start inputs) ∧
      (Admissible step condition start inputs →
        relation inputs (run step start inputs).1) from both.1
  induction inputs using List.reverseRecOn with
  | nil =>
      refine ⟨?_, fun _ => base⟩
      constructor
      · exact fun _ => trivial
      · intro _ taken input first
        have long := first.length_le
        simp at long
  | append_singleton inputs last induction =>
      rcases induction with ⟨same, related⟩
      rw [admissible_concat, run_concat, ← same]
      constructor
      · constructor
        · intro all
          have before : ∀ taken input, taken ++ [input] <+: inputs →
              good taken (run step start taken).1 input :=
            fun taken input first =>
              all taken input (first.trans (List.prefix_append _ _))
          exact ⟨before, (exactly _ _ _ (related (same.mp before))).mp
            (all inputs last (List.prefix_rfl))⟩
        · rintro ⟨before, meets⟩ taken input first
          rcases List.prefix_concat_iff.mp first with whole | earlier
          · rcases List.append_inj' whole rfl with ⟨rfl, one⟩
            rw [List.singleton_inj.mp one]
            exact (exactly _ _ _ (related (same.mp before))).mpr meets
          · exact before taken input earlier
      · rintro ⟨before, meets⟩
        exact keep _ _ _ (related (same.mp before)) meets

end KafkaToNexus.Foundations.Mealy
