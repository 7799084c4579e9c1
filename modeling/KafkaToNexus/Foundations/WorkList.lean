import Mathlib.Algebra.BigOperators.Group.List.Basic
import Mathlib.Algebra.GroupWithZero.Nat
import Mathlib.Algebra.Order.Group.Nat
import Mathlib.Algebra.Order.BigOperators.Group.List
import Mathlib.Data.Fintype.Card
import Mathlib.Data.Set.Finite.Basic
import Mathlib.Logic.Relation

/-!
# Loops over a list that grows

A loop goes through a list by an index and appends to the list while it does.
It ends if the items have a weight that is more than that of all the items that
are appended for them.  There is such a weight if every item has finitely many
descendants, which is so where no item is its own descendant and the items that
can be appended are of finitely many kinds.

The list at the end starts with the items of the beginning.  They are followed
by what was appended for each item of the list, in the order of the list.
-/

namespace KafkaToNexus.Foundations.WorkList

variable {State Item Failure : Type*}

/-- What is done with an item: it is replaced, and others are appended. -/
abbrev Step (State Item Failure : Type*) :=
  State → Item → Except Failure (State × Item × List Item)

/-- The loop, unless it takes more than a number of iterations. -/
def run (step : Step State Item Failure) :
    Nat → Nat → State → List Item → Option (Except Failure (State × List Item))
  | 0, _, _, _ => none
  | fuel + 1, index, state, items =>
      match items[index]? with
      | none => some (.ok (state, items))
      | some item =>
          match step state item with
          | .error failure => some (.error failure)
          | .ok (state, item, more) =>
              run step fuel (index + 1) state (items.set index item ++ more)

variable {step : Step State Item Failure} {state next final : State}
  {items more result : List Item} {item processed : Item}
  {index fuel : Nat} {failure : Failure}

theorem run_of_none (ended : items[index]? = none) :
    run step (fuel + 1) index state items = some (.ok (state, items)) := by
  rw [run, ended]

theorem run_of_error
    (here : items[index]? = some item)
    (threw : step state item = .error failure) :
    run step (fuel + 1) index state items = some (.error failure) := by
  rw [run, here]
  simp only [threw]

theorem run_of_ok
    (here : items[index]? = some item)
    (returned : step state item = .ok (next, processed, more)) :
    run step (fuel + 1) index state items =
      run step fuel (index + 1) next (items.set index processed ++ more) := by
  rw [run, here]
  simp only [returned]

/-! ## Termination -/

/-- The weight of an item is more than that of what is appended for it. -/
def Weighs (step : Step State Item Failure) (weight : Item → Nat) : Prop :=
  ∀ state item next processed more,
    step state item = .ok (next, processed, more) →
      (more.map weight).sum < weight item

theorem exists_run_of_weight
    {weight : Item → Nat} (weighs : Weighs step weight)
    (enough : ((items.drop index).map weight).sum < fuel) :
    ∃ outcome, run step fuel index state items = some outcome := by
  induction fuel generalizing index state items with
  | zero => exact absurd enough (Nat.not_lt_zero _)
  | succ fuel induction =>
      cases here : items[index]? with
      | none => exact ⟨_, run_of_none here⟩
      | some item =>
          rcases List.getElem?_eq_some_iff.mp here with ⟨inside, same⟩
          cases ran : step state item with
          | error failure => exact ⟨_, run_of_error here ran⟩
          | ok outcome =>
              rcases outcome with ⟨next, processed, more⟩
              rw [run_of_ok here ran]
              apply induction
              have lighter := weighs _ _ _ _ _ ran
              have rest :
                  (items.set index processed ++ more).drop (index + 1) =
                    items.drop (index + 1) ++ more := by
                rw [List.drop_append_of_le_length
                    (by rw [List.length_set]; exact inside),
                  List.drop_set_of_lt (Nat.lt_succ_self index)]
              rw [List.drop_eq_getElem_cons inside, List.map_cons,
                List.sum_cons, same] at enough
              rw [rest, List.map_append, List.sum_append]
              omega

/-- Finitely many descendants give every item a weight. -/
theorem exists_weight {Kind : Type*} (children : Kind → List Kind)
    (wellFounded : WellFounded fun child kind => child ∈ children kind) :
    ∃ weight : Kind → Nat,
      ∀ kind, ((children kind).map weight).sum < weight kind := by
  let weight : Kind → Nat :=
    wellFounded.fix fun kind below =>
      ((children kind).attach.map fun child =>
        below child.1 child.2).sum + 1
  refine ⟨weight, ?_⟩
  intro kind
  have unfolded :
      weight kind =
        ((children kind).attach.map fun child => weight child.1).sum + 1 :=
    wellFounded.fix_eq _ _
  rw [unfolded, List.attach_map_val]
  exact Nat.lt_succ_self _

/-- Without cycles among finitely many kinds there is no infinite descent. -/
theorem wellFounded_of_acyclic {Kind : Type*} {children : Kind → List Kind}
    (kinds : List Kind)
    (finite : ∀ kind, ∀ child ∈ children kind, child ∈ kinds)
    (acyclic :
      ∀ kind, ¬ Relation.TransGen
        (fun child kind => child ∈ children kind) kind kind) :
    WellFounded fun child kind => child ∈ children kind := by
  let descends : {kind // kind ∈ kinds} → {kind // kind ∈ kinds} → Prop :=
    fun child kind =>
      Relation.TransGen (fun child kind => child ∈ children kind)
        child.1 kind.1
  have transitive : IsTrans _ descends := ⟨fun _ _ _ => .trans⟩
  have irreflexive : Std.Irrefl descends := ⟨fun kind => acyclic kind.1⟩
  have finite_ : Finite {kind // kind ∈ kinds} :=
    (List.finite_toSet kinds).to_subtype
  have below : WellFounded descends :=
    Finite.wellFounded_of_trans_of_irrefl descends
  have accessible (kind : {kind // kind ∈ kinds}) :
      Acc (fun child kind => child ∈ children kind) kind.1 := by
    induction kind using below.induction with
    | _ kind induction =>
        constructor
        intro child member
        exact induction ⟨child, finite kind.1 child member⟩ (.single member)
  constructor
  intro kind
  constructor
  intro child member
  exact accessible ⟨child, finite kind child member⟩

/-! ## The list at the end -/

/-- What is in front of the index stays as it is. -/
theorem run_take
    (ran : run step fuel index state items = some (.ok (final, result))) :
    result.take index = items.take index := by
  induction fuel generalizing index state items with
  | zero => cases ran
  | succ fuel induction =>
      cases here : items[index]? with
      | none =>
          rw [run_of_none here] at ran
          cases ran
          rfl
      | some item =>
          rcases List.getElem?_eq_some_iff.mp here with ⟨inside, _⟩
          cases stepped : step state item with
          | error failure =>
              rw [run_of_error here stepped] at ran
              cases ran
          | ok outcome =>
              rcases outcome with ⟨next, processed, more⟩
              rw [run_of_ok here stepped] at ran
              have longer := congrArg (List.take index) (induction ran)
              rw [List.take_take, List.take_take,
                Nat.min_eq_left (Nat.le_succ index)] at longer
              rw [longer,
                List.take_append_of_le_length
                  (by rw [List.length_set]; exact inside.le),
                List.take_set_of_le (Nat.le_refl index)]

/-- The item at the index is in the list as it was processed. -/
theorem run_drop
    (here : items[index]? = some item)
    (ran :
      run step fuel (index + 1) next (items.set index processed ++ more) =
        some (.ok (final, result))) :
    result.drop index = processed :: result.drop (index + 1) := by
  have inside := (List.getElem?_eq_some_iff.mp here).1
  have first : (items.set index processed ++ more)[index]? =
      some processed := by
    rw [List.getElem?_append_left (by rw [List.length_set]; exact inside),
      List.getElem?_set_self inside]
  have same := congrArg (fun list => list[index]?) (run_take ran)
  simp only [List.getElem?_take_of_lt (Nat.lt_succ_self index),
    first] at same
  rcases List.getElem?_eq_some_iff.mp same with ⟨there, found⟩
  rw [List.drop_eq_getElem_cons there, found]

/-- What every step makes of an item holds of the items at the end. -/
theorem run_forall
    {Processed : Item → Prop}
    (makes :
      ∀ state item next processed more,
        step state item = .ok (next, processed, more) → Processed processed)
    (ran : run step fuel index state items = some (.ok (final, result))) :
    ∀ item ∈ result.drop index, Processed item := by
  induction fuel generalizing index state items with
  | zero => cases ran
  | succ fuel induction =>
      cases here : items[index]? with
      | none =>
          rw [run_of_none here] at ran
          cases ran
          rw [List.drop_eq_nil_of_le (List.getElem?_eq_none_iff.mp here)]
          exact List.forall_mem_nil _
      | some item =>
          cases stepped : step state item with
          | error failure =>
              rw [run_of_error here stepped] at ran
              cases ran
          | ok outcome =>
              rcases outcome with ⟨next, processed, more⟩
              rw [run_of_ok here stepped] at ran
              rw [run_drop here ran]
              exact
                List.forall_mem_cons.mpr
                  ⟨makes _ _ _ _ _ stepped, induction ran⟩

/--
After the items of the beginning come those that were appended for each item,
in the order of the list.
-/
theorem run_eq_append_flatMap
    {Seed : Type*} {seed : Item → Seed} {spawn : Item → List Item}
    (spawns :
      ∀ state item next processed more,
        step state item = .ok (next, processed, more) →
          seed processed = seed item ∧ more = spawn processed)
    (ran : run step fuel index state items = some (.ok (final, result))) :
    result.map seed =
      items.map seed ++ ((result.drop index).flatMap spawn).map seed := by
  induction fuel generalizing index state items with
  | zero => cases ran
  | succ fuel induction =>
      cases here : items[index]? with
      | none =>
          rw [run_of_none here] at ran
          cases ran
          rw [List.drop_eq_nil_of_le (List.getElem?_eq_none_iff.mp here),
            List.flatMap_nil, List.map_nil, List.append_nil]
      | some item =>
          rcases List.getElem?_eq_some_iff.mp here with ⟨inside, same⟩
          cases stepped : step state item with
          | error failure =>
              rw [run_of_error here stepped] at ran
              cases ran
          | ok outcome =>
              rcases outcome with ⟨next, processed, more⟩
              rcases spawns _ _ _ _ _ stepped with ⟨kept, appended⟩
              rw [run_of_ok here stepped] at ran
              have unchanged :
                  (items.set index processed).map seed = items.map seed := by
                rw [List.map_set, kept, ← same, ← List.getElem_map seed,
                  List.set_getElem_self]
                rw [List.length_map]
                exact inside
              rw [run_drop here ran, List.flatMap_cons, List.map_append,
                induction ran, List.map_append, unchanged, ← appended,
                List.append_assoc]

end KafkaToNexus.Foundations.WorkList
