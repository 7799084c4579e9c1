import Mathlib.Tactic.TypeStar

/-!
# Code whose behaviour may be undefined

A piece of code returns a value, throws an exception or does something for
which the language gives no meaning at all: it follows a null pointer or reads
beyond the end of a vector.  A handler sees the exceptions; nothing sees that
the behaviour is undefined.  The exceptions are therefore the inner layer of
the outcome and the undefined behaviour is the outer one.

A piece of code is `Defined` where it returns or throws.  There is one rule
for every way of building code from smaller pieces.
-/

namespace KafkaToNexus.Foundations

universe u

/-- Code that returns or throws, unless its behaviour is undefined. -/
abbrev Checked (Undefined Exception : Type u) : Type u → Type u :=
  ExceptT Exception (Except Undefined)

namespace Checked

variable {Undefined Exception Caught Value Result : Type u}

/-- Code without a meaning. -/
def undefined (reason : Undefined) : Checked Undefined Exception Value :=
  ExceptT.mk (.error reason)

/-- Use a value that may be absent without looking whether it is there. -/
def deref (reason : Undefined) :
    Option Value → Checked Undefined Exception Value
  | some value => pure value
  | none => undefined reason

/-- The code returns or throws. -/
def Defined (code : Checked Undefined Exception Value) : Prop :=
  ∃ outcome, code.run = .ok outcome

/-- The code returns this value. -/
def Returns
    (code : Checked Undefined Exception Value) (value : Value) : Prop :=
  code.run = .ok (.ok value)

/-- The code never throws. -/
def NoThrow (code : Checked Undefined Exception Value) : Prop :=
  ∀ failure, code.run ≠ .ok (.error failure)

/-- What the code returns or throws, or a placeholder if it is undefined. -/
def outcome
    (placeholder : Exception) (code : Checked Undefined Exception Value) :
    Except Exception Value :=
  match code.run with
  | .ok outcome => outcome
  | .error _ => .error placeholder

section Rules

variable {code first : Checked Undefined Exception Value}
  {next : Value → Checked Undefined Exception Result}
  {value : Value} {result : Result} {reason : Undefined}
  {failure placeholder : Exception}

/-- The three ways in which code can behave. -/
theorem cases_run (code : Checked Undefined Exception Value) :
    (∃ reason, code.run = .error reason) ∨
      (∃ failure, code.run = .ok (.error failure)) ∨
        ∃ value, Returns code value := by
  rcases ran : code.run with reason | (failure | value)
  · exact .inl ⟨reason, rfl⟩
  · exact .inr (.inl ⟨failure, rfl⟩)
  · exact .inr (.inr ⟨value, ran⟩)

theorem Returns.defined (returns : Returns code value) : Defined code :=
  ⟨.ok value, returns⟩

theorem Returns.unique {other : Value}
    (returns : Returns code value) (again : Returns code other) :
    value = other := by
  have same : Except.ok (Except.ok value) = .ok (.ok other) :=
    returns.symm.trans again
  injection same with same
  injection same

@[simp]
theorem returns_pure_iff {other : Value} :
    Returns (pure value : Checked Undefined Exception Value) other ↔
      value = other := by
  have pure_ :
      Returns (pure value : Checked Undefined Exception Value) value := rfl
  constructor
  · intro returns
    exact pure_.unique returns
  · rintro rfl
    exact pure_

@[simp]
theorem defined_pure :
    Defined (pure value : Checked Undefined Exception Value) :=
  ⟨.ok value, rfl⟩

@[simp]
theorem defined_throw :
    Defined (throw failure : Checked Undefined Exception Value) :=
  ⟨.error failure, rfl⟩

@[simp]
theorem not_returns_throw :
    ¬ Returns (throw failure : Checked Undefined Exception Value) value := by
  intro returns
  injection returns with returns
  cases returns

@[simp]
theorem not_defined_undefined :
    ¬ Defined (undefined reason : Checked Undefined Exception Value) := by
  rintro ⟨outcome, ran⟩
  cases ran

@[simp]
theorem not_returns_undefined :
    ¬ Returns (undefined reason : Checked Undefined Exception Value)
      value := by
  intro returns
  exact not_defined_undefined returns.defined

@[simp]
theorem noThrow_pure :
    NoThrow (pure value : Checked Undefined Exception Value) := by
  intro failure ran
  injection ran with ran
  cases ran

@[simp]
theorem noThrow_undefined :
    NoThrow (undefined reason : Checked Undefined Exception Value) := by
  intro failure ran
  cases ran

@[simp]
theorem defined_deref_iff {stored : Option Value} :
    Defined (deref reason stored : Checked Undefined Exception Value) ↔
      stored.isSome = true := by
  cases stored with
  | none => exact iff_of_false not_defined_undefined Bool.false_ne_true
  | some value => exact iff_of_true defined_pure rfl

@[simp]
theorem returns_deref_iff {stored : Option Value} :
    Returns (deref reason stored : Checked Undefined Exception Value) value ↔
      stored = some value := by
  cases stored with
  | none => exact iff_of_false not_returns_undefined nofun
  | some other =>
      rw [deref, returns_pure_iff, Option.some.injEq]

@[simp]
theorem noThrow_deref {stored : Option Value} :
    NoThrow (deref reason stored : Checked Undefined Exception Value) := by
  cases stored with
  | none => exact noThrow_undefined
  | some value => exact noThrow_pure

/-! ## One piece after the other -/

theorem run_bind_of_returns (returns : Returns first value) :
    (first >>= next).run = (next value).run := by
  have ran : first = ExceptT.mk (.ok (.ok value)) := returns
  rw [ran]
  rfl

theorem run_bind_of_threw (threw : first.run = .ok (.error failure)) :
    (first >>= next).run = .ok (.error failure) := by
  have ran : first = ExceptT.mk (.ok (.error failure)) := threw
  rw [ran]
  rfl

theorem run_bind_of_undefined (ran : first.run = .error reason) :
    (first >>= next).run = .error reason := by
  have same : first = ExceptT.mk (.error reason) := ran
  rw [same]
  rfl

/-- What follows has to be defined only where the first piece returns. -/
theorem defined_bind_iff :
    Defined (first >>= next) ↔
      Defined first ∧ ∀ value, Returns first value → Defined (next value) := by
  constructor
  · rintro ⟨outcome, ran⟩
    rcases cases_run first with
      ⟨reason, lost⟩ | ⟨failure, threw⟩ | ⟨value, returns⟩
    · rw [run_bind_of_undefined lost] at ran
      cases ran
    · refine ⟨⟨.error failure, threw⟩, ?_⟩
      intro value returns
      have same := threw.symm.trans returns
      injection same with same
      cases same
    · refine ⟨returns.defined, ?_⟩
      intro other again
      rw [← returns.unique again]
      rw [run_bind_of_returns returns] at ran
      exact ⟨outcome, ran⟩
  · rintro ⟨⟨_ | value, ran⟩, later⟩
    · exact ⟨_, run_bind_of_threw ran⟩
    · rcases later value ran with ⟨outcome, rest⟩
      exact ⟨outcome, (run_bind_of_returns ran).trans rest⟩

theorem returns_bind_iff :
    Returns (first >>= next) result ↔
      ∃ value, Returns first value ∧ Returns (next value) result := by
  constructor
  · intro returns
    rcases cases_run first with
      ⟨reason, lost⟩ | ⟨failure, threw⟩ | ⟨value, ran⟩
    · rw [Returns, run_bind_of_undefined lost] at returns
      cases returns
    · rw [Returns, run_bind_of_threw threw] at returns
      injection returns with returns
      cases returns
    · rw [Returns, run_bind_of_returns ran] at returns
      exact ⟨value, ran, returns⟩
  · rintro ⟨value, ran, rest⟩
    exact (run_bind_of_returns ran).trans rest

theorem NoThrow.bind
    (quiet : NoThrow first) (rest : ∀ value, NoThrow (next value)) :
    NoThrow (first >>= next) := by
  intro failure ran
  rcases cases_run first with
    ⟨reason, lost⟩ | ⟨other, threw⟩ | ⟨value, returns⟩
  · rw [run_bind_of_undefined lost] at ran
    cases ran
  · exact quiet other threw
  · rw [run_bind_of_returns returns] at ran
    exact rest value failure ran

/-- Code that never throws is defined where it returns. -/
theorem NoThrow.defined_iff (quiet : NoThrow code) :
    Defined code ↔ ∃ value, Returns code value := by
  constructor
  · rintro ⟨failure | value, ran⟩
    · exact (quiet failure ran).elim
    · exact ⟨value, ran⟩
  · rintro ⟨value, returns⟩
    exact returns.defined

/-! ## Handlers that throw another exception -/

/-- Catch every exception and throw another one in its place. -/
def rethrow
    (handler : Exception → Caught)
    (code : Checked Undefined Exception Value) :
    Checked Undefined Caught Value :=
  ExceptT.adapt handler code

theorem run_rethrow (handler : Exception → Caught) :
    (rethrow handler code).run = code.run.map (Except.mapError handler) :=
  rfl

@[simp]
theorem defined_rethrow_iff (handler : Exception → Caught) :
    Defined (rethrow handler code) ↔ Defined code := by
  rw [Defined, Defined, run_rethrow]
  cases code.run with
  | error reason => exact iff_of_false nofun nofun
  | ok outcome => exact iff_of_true ⟨_, rfl⟩ ⟨_, rfl⟩

@[simp]
theorem returns_rethrow_iff (handler : Exception → Caught) :
    Returns (rethrow handler code) value ↔ Returns code value := by
  rw [Returns, Returns, run_rethrow]
  rcases code.run with reason | (failure | other)
  · exact iff_of_false nofun nofun
  · exact iff_of_false nofun nofun
  · constructor
    · intro same
      rw [Except.ok.inj (Except.ok.inj same)]
    · intro same
      rw [Except.ok.inj (Except.ok.inj same)]
      rfl

/-! ## Outcomes -/

theorem Defined.run_eq (defined : Defined code) :
    code.run = .ok (code.outcome placeholder) := by
  rcases defined with ⟨outcome, ran⟩
  rw [Checked.outcome, ran]

@[simp]
theorem outcome_pure :
    outcome placeholder (pure value : Checked Undefined Exception Value) =
      .ok value :=
  rfl

@[simp]
theorem outcome_throw :
    outcome placeholder (throw failure : Checked Undefined Exception Value) =
      .error failure :=
  rfl

@[simp]
theorem outcome_bind :
    outcome placeholder (first >>= next) =
      outcome placeholder first >>= fun value =>
        outcome placeholder (next value) := by
  rcases cases_run first with
    ⟨reason, lost⟩ | ⟨failure, threw⟩ | ⟨value, returns⟩
  · rw [outcome, outcome, run_bind_of_undefined lost, lost]
    rfl
  · rw [outcome, outcome, run_bind_of_threw threw, threw]
    rfl
  · have ran : first.run = .ok (.ok value) := returns
    rw [outcome, outcome, run_bind_of_returns returns, ran]
    rfl

@[simp]
theorem outcome_rethrow (handler : Exception → Caught) :
    outcome (handler placeholder) (rethrow handler code) =
      (outcome placeholder code).mapError handler := by
  rw [outcome, outcome, run_rethrow]
  cases code.run with
  | error reason => rfl
  | ok outcome => rfl

end Rules

end Checked

end KafkaToNexus.Foundations
