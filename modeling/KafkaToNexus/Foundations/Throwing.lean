import Mathlib.Tactic.TypeStar

/-!
# Code that changes a state and may throw

An exception does not undo what was done before it.  A piece of code takes a
state to a state and, if it throws, to the exception.  Pieces that are run in
order stop at the first one that throws.
-/

namespace KafkaToNexus.Foundations

/-- A piece of code, with the state it leaves and the exception it throws. -/
abbrev Throwing (State Failure : Type*) :=
  State → State × Option Failure

namespace Throwing

variable {State Failure : Type*}

/-- Run the pieces until one of them throws. -/
def inOrder : List (Throwing State Failure) → Throwing State Failure
  | [], state => (state, none)
  | piece :: rest, state =>
      match piece state with
      | (next, none) => inOrder rest next
      | (next, some failure) => (next, some failure)

/-- A call for each input, which reports whether it threw. -/
def call {Input : Type*} (piece : Input → Throwing State Failure)
    (state : State) (input : Input) : State × List (Option Failure) :=
  ((piece input state).1, [(piece input state).2])

variable {piece : Throwing State Failure}
  {pieces rest : List (Throwing State Failure)} {state next final : State}
  {failure : Failure}

theorem inOrder_of_returned (returned : piece state = (next, none)) :
    inOrder (piece :: rest) state = inOrder rest next := by
  rw [inOrder, returned]

theorem inOrder_of_none (returned : (piece state).2 = none) :
    inOrder (piece :: rest) state = inOrder rest (piece state).1 :=
  inOrder_of_returned (Prod.ext rfl returned)

theorem inOrder_of_threw (threw : piece state = (next, some failure)) :
    inOrder (piece :: rest) state = (next, some failure) := by
  rw [inOrder, threw]

/-- Pieces return when the first one does, and then the others. -/
theorem inOrder_cons_returns :
    (inOrder (piece :: rest) state).2 = none ↔
      (piece state).2 = none ∧ (inOrder rest (piece state).1).2 = none := by
  rcases ran : piece state with ⟨next, _ | failure⟩
  · rw [inOrder_of_returned ran]
    exact ⟨fun returned => ⟨rfl, returned⟩, fun returned => returned.2⟩
  · rw [inOrder_of_threw ran]
    constructor
    · nofun
    · exact fun returned => nomatch returned.1

/-- Pieces that return leave the state that they make in order. -/
theorem inOrder_append_of_quiet
    (quiet : ∀ piece ∈ pieces, ∀ state, (piece state).2 = none) :
    inOrder (pieces ++ rest) state =
      inOrder rest (pieces.foldl (fun state piece => (piece state).1) state)
        := by
  induction pieces generalizing state with
  | nil => rfl
  | cons piece others induction =>
      rw [List.forall_mem_cons] at quiet
      rw [List.cons_append, inOrder_of_none (quiet.1 state),
        induction quiet.2, List.foldl_cons]

/-- What every piece keeps is kept, whether or not one of them throws. -/
theorem inOrder_keeps
    (invariant : State → Prop)
    (keeps :
      ∀ piece ∈ pieces, ∀ state, invariant state →
        invariant (piece state).1)
    (holds : invariant state) :
    invariant (inOrder pieces state).1 := by
  induction pieces generalizing state with
  | nil => exact holds
  | cons piece rest induction =>
      have kept := keeps piece List.mem_cons_self state holds
      have later :
          ∀ piece ∈ rest, ∀ state, invariant state →
            invariant (piece state).1 :=
        fun piece member => keeps piece (List.mem_cons_of_mem _ member)
      rcases ran : piece state with ⟨next, _ | failure⟩
      · rw [ran] at kept
        rw [inOrder_of_returned ran]
        exact induction later kept
      · rw [ran] at kept
        rw [inOrder_of_threw ran]
        exact kept

/-- What holds after a piece and is kept by the others holds in the end. -/
theorem inOrder_cons_keeps
    (invariant : State → Prop)
    (keeps :
      ∀ piece ∈ rest, ∀ state, invariant state →
        invariant (piece state).1)
    (holds : invariant (piece state).1) :
    invariant (inOrder (piece :: rest) state).1 := by
  rcases ran : piece state with ⟨next, _ | failure⟩
  · rw [ran] at holds
    rw [inOrder_of_returned ran]
    exact inOrder_keeps invariant keeps holds
  · rw [ran] at holds
    rw [inOrder_of_threw ran]
    exact holds

/-- An exception comes from one of the pieces, run in a kept state. -/
theorem inOrder_threw
    (invariant : State → Prop)
    (keeps :
      ∀ piece ∈ pieces, ∀ state, invariant state →
        invariant (piece state).1)
    (holds : invariant state)
    (threw : (inOrder pieces state).2 = some failure) :
    ∃ piece ∈ pieces, ∃ state, invariant state ∧
      (piece state).2 = some failure := by
  induction pieces generalizing state with
  | nil => cases threw
  | cons piece rest induction =>
      have kept := keeps piece List.mem_cons_self state holds
      rcases ran : piece state with ⟨next, _ | other⟩
      · rw [ran] at kept
        rw [inOrder_of_returned ran] at threw
        have later :
            ∀ piece ∈ rest, ∀ state, invariant state →
              invariant (piece state).1 :=
          fun piece member => keeps piece (List.mem_cons_of_mem _ member)
        rcases induction later kept threw with ⟨last, member, there, result⟩
        exact ⟨last, List.mem_cons_of_mem _ member, there, result⟩
      · rw [inOrder_of_threw ran] at threw
        refine ⟨piece, List.mem_cons_self, state, holds, ?_⟩
        rw [ran]
        exact threw

end Throwing

end KafkaToNexus.Foundations
