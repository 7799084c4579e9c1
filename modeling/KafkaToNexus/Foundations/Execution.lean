import Mathlib.Algebra.BigOperators.Group.List.Basic
import Mathlib.Data.Nat.ModEq
import Mathlib.Tactic.TypeStar

/-!
# Executions of labelled step relations

A system of concurrent parties is a relation between a state, the label of one
step and the next state.  An execution is a list of labels along which the
relation takes one state to another.  Since the relation may hold for many
labels in one state, a statement about every execution is a statement about
every interleaving.
-/

namespace KafkaToNexus.Foundations

variable {State Label : Type*}

/-- The labels of the steps that lead from one state to another. -/
inductive Execution
    (step : State → Label → State → Prop) (start : State) :
    List Label → State → Prop where
  | refl : Execution step start [] start
  | snoc {trace : List Label} {state next : State} {label : Label} :
      Execution step start trace state →
      step state label next →
      Execution step start (trace ++ [label]) next

namespace Execution

variable {step : State → Label → State → Prop}

theorem single
    {state next : State} {label : Label}
    (taken : step state label next) :
    Execution step state [label] next :=
  .snoc .refl taken

theorem trans
    {start middle final : State} {first second : List Label}
    (before : Execution step start first middle)
    (after : Execution step middle second final) :
    Execution step start (first ++ second) final := by
  induction after with
  | refl =>
      rw [List.append_nil]
      exact before
  | snoc _ taken induction =>
      rw [← List.append_assoc]
      exact .snoc induction taken

/-- An execution that begins with a given step. -/
theorem head
    {start middle final : State} {label : Label} {rest : List Label}
    (taken : step start label middle)
    (after : Execution step middle rest final) :
    Execution step start (label :: rest) final :=
  (single taken).trans after

/-- A system with more steps has more executions. -/
theorem mono
    {more : State → Label → State → Prop}
    {start final : State} {trace : List Label}
    (run : Execution step start trace final)
    (steps : ∀ state label next, step state label next →
      more state label next) :
    Execution more start trace final := by
  induction run with
  | refl => exact .refl
  | snoc _ taken induction => exact .snoc induction (steps _ _ _ taken)

/-- The execution of a part of the state. -/
theorem map
    {Part : Type*} {other : Part → Label → Part → Prop}
    {start final : State} {trace : List Label}
    (run : Execution step start trace final) (part : State → Part)
    (steps : ∀ state label next, step state label next →
      other (part state) label (part next)) :
    Execution other (part start) trace (part final) := by
  induction run with
  | refl => exact .refl
  | snoc _ taken induction => exact .snoc induction (steps _ _ _ taken)

/-- A property that every step keeps holds at the end of an execution. -/
theorem invariant
    {start final : State} {trace : List Label}
    (run : Execution step start trace final)
    (property : State → Prop)
    (base : property start)
    (keep :
      ∀ state label next, property state → step state label next →
        property next) :
    property final := by
  induction run with
  | refl => exact base
  | snoc _ taken induction => exact keep _ _ _ induction taken

/--
The induction rule of executions for relations between the labels so far and
the state that they lead to.
-/
theorem traceInvariant
    {start final : State} {trace : List Label}
    (run : Execution step start trace final)
    (relation : List Label → State → Prop)
    (base : relation [] start)
    (keep :
      ∀ labels state label next, relation labels state →
        step state label next → relation (labels ++ [label]) next) :
    relation trace final := by
  induction run with
  | refl => exact base
  | snoc _ taken induction => exact keep _ _ _ _ induction taken

/-- What the steps bring in has gone out again or is still there. -/
theorem balance
    {start final : State} {trace : List Label}
    (run : Execution step start trace final)
    (value : State → Nat) (into out : Label → Nat)
    (keep :
      ∀ state label next, step state label next →
        value next + out label = value state + into label) :
    value final + (trace.map out).sum =
      value start + (trace.map into).sum := by
  induction run with
  | refl => rfl
  | @snoc labels state next label _ taken induction =>
      have moved := keep _ _ _ taken
      simp only [List.map_append, List.sum_append, List.map_cons,
        List.map_nil, List.sum_singleton]
      omega

/-- A counter that wraps has counted everything, up to its range. -/
theorem modEq_sum
    {start final : State} {trace : List Label} {range : Nat}
    (run : Execution step start trace final)
    (value : State → Nat) (added : Label → Nat)
    (keep :
      ∀ state label next, step state label next →
        value next ≡ value state + added label [MOD range]) :
    value final ≡ value start + (trace.map added).sum [MOD range] := by
  induction run with
  | refl => rfl
  | @snoc labels state next label _ taken induction =>
      rw [List.map_append, List.sum_append, ← Nat.add_assoc, List.map_cons,
        List.map_nil, List.sum_singleton]
      exact (keep _ _ _ taken).trans (induction.add_right _)

end Execution

end KafkaToNexus.Foundations
