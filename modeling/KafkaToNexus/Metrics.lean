import Mathlib.Logic.Function.Basic

/-!
# Metrics and their registration

A `Registrar` has a prefix and one reporter for each kind of sink.  A metric
is registered with the reporters of the sinks it names, under its own name
behind the prefix, and a reporter takes each full name once.  The reporters
are shared by the components of the process, so what a registration does
depends on what the others have registered.
-/

namespace KafkaToNexus.Metrics

/-- The kinds of sinks. -/
inductive LogTo where
  | carbon
  | logMsg
deriving DecidableEq, Repr

/-- The full names of the metrics each reporter reports on. -/
abbrev Reporters := LogTo → List String

/-- `addMetric` of a reporter with the given names. -/
def addMetric (names : List String) (newName : String) :
    Option (List String) :=
  if newName ∈ names then none else some (newName :: names)

/-- `tryRemoveMetric` of a reporter with the given names. -/
def removeMetric (names : List String) (name : String) : List String :=
  names.filter (· ≠ name)

theorem addMetric_eq_some
    {names next : List String} {newName : String}
    (added : addMetric names newName = some next) :
    next = newName :: names := by
  unfold addMetric at added
  split at added
  · cases added
  · exact (Option.some.inj added).symm

theorem addMetric_of_not_mem
    {names : List String} {newName : String}
    (absent : newName ∉ names) :
    addMetric names newName = some (newName :: names) :=
  if_neg absent

/-- The exceptions of `registerMetric`. -/
inductive RegisterException where
  | emptyName
  | alreadyRegistered
deriving DecidableEq, Repr

/-- The list of reporters is a map from their sinks. -/
structure Registrar where
  metricsPrefix : String
  reporterList : List LogTo
  nodup : reporterList.Nodup

namespace Registrar

def prependPrefix (registrar : Registrar) (name : String) : String :=
  if registrar.metricsPrefix = "" then
    name
  else
    registrar.metricsPrefix ++ "." ++ name

def getNewRegistrar
    (registrar : Registrar) (metricsPrefix : String) : Registrar :=
  { registrar with metricsPrefix := registrar.prependPrefix metricsPrefix }

/-- The loop over the reporters. -/
def addToReporters
    (newName : String) (sinkTypes : List LogTo) :
    List LogTo → Reporters → Except RegisterException Reporters
  | [], reporters => .ok reporters
  | sink :: rest, reporters =>
      if sink ∈ sinkTypes then
        match addMetric (reporters sink) newName with
        | none => .error .alreadyRegistered
        | some names =>
            addToReporters newName sinkTypes rest
              (Function.update reporters sink names)
      else
        addToReporters newName sinkTypes rest reporters

def registerMetric
    (registrar : Registrar) (name : String) (sinkTypes : List LogTo)
    (reporters : Reporters) : Except RegisterException Reporters :=
  if name = "" then
    .error .emptyName
  else
    addToReporters (registrar.prependPrefix name) sinkTypes
      registrar.reporterList reporters

/-! ## What a registration does -/

/-- The loop succeeds where the new name is new to every sink it is for. -/
theorem addToReporters_ok
    {newName : String} {sinkTypes : List LogTo} {list : List LogTo}
    {reporters : Reporters}
    (nodup : list.Nodup)
    (absent :
      ∀ sink ∈ list, sink ∈ sinkTypes → newName ∉ reporters sink) :
    ∃ next, addToReporters newName sinkTypes list reporters = .ok next := by
  induction list generalizing reporters with
  | nil => exact ⟨reporters, rfl⟩
  | cons head rest induction =>
      rw [List.nodup_cons] at nodup
      rw [addToReporters]
      split
      · rename_i selected
        rw [addMetric_of_not_mem (absent head List.mem_cons_self selected)]
        apply induction nodup.2
        intro sink member chosen
        have other : sink ≠ head := fun same => nodup.1 (same ▸ member)
        rw [Function.update_of_ne other]
        exact absent sink (List.mem_cons_of_mem _ member) chosen
      · apply induction nodup.2
        intro sink member
        exact absent sink (List.mem_cons_of_mem _ member)

/-- A metric whose full name is new to its sinks can be registered. -/
theorem registerMetric_ok
    {registrar : Registrar} {name : String} {sinkTypes : List LogTo}
    {reporters : Reporters}
    (named : name ≠ "")
    (absent :
      ∀ sink ∈ sinkTypes, registrar.prependPrefix name ∉ reporters sink) :
    ∃ next, registrar.registerMetric name sinkTypes reporters = .ok next := by
  rw [registerMetric, if_neg named]
  exact addToReporters_ok registrar.nodup fun sink _ => absent sink

/-- A successful loop only adds the new name, and to the chosen sinks. -/
theorem gained_of_addToReporters
    {newName : String} {sinkTypes list : List LogTo}
    {reporters next : Reporters}
    (success : addToReporters newName sinkTypes list reporters = .ok next)
    (sink : LogTo) {name : String} (member : name ∈ next sink) :
    sink ∈ sinkTypes ∧ name = newName ∨ name ∈ reporters sink := by
  induction list generalizing reporters with
  | nil =>
      cases success
      exact Or.inr member
  | cons head rest induction =>
      rw [addToReporters] at success
      split at success
      · rename_i selected
        split at success
        · cases success
        · rename_i names added
          rcases induction success with new | old
          · exact Or.inl new
          · by_cases same : sink = head
            · subst same
              rw [Function.update_self, addMetric_eq_some added] at old
              rcases List.mem_cons.mp old with new | known
              · exact Or.inl ⟨selected, new⟩
              · exact Or.inr known
            · rw [Function.update_of_ne same] at old
              exact Or.inr old
      · exact induction success

theorem gained_of_registerMetric
    {registrar : Registrar} {metric : String} {sinkTypes : List LogTo}
    {reporters next : Reporters}
    (success : registrar.registerMetric metric sinkTypes reporters = .ok next)
    (sink : LogTo) {name : String} (member : name ∈ next sink) :
    sink ∈ sinkTypes ∧ name = registrar.prependPrefix metric ∨
      name ∈ reporters sink := by
  unfold registerMetric at success
  split at success
  · cases success
  · exact gained_of_addToReporters success sink member

/-! ## The ends of full names -/

/-- The character with the given number of characters after it. -/
def fromEnd (name : String) (index : Nat) : Option Char :=
  name.toList.reverse[index]?

theorem fromEnd_append
    (front back : String) {index : Nat} (inside : index < back.length) :
    fromEnd (front ++ back) index = fromEnd back index := by
  unfold fromEnd
  rw [String.toList_append, List.reverse_append]
  apply List.getElem?_append_left
  rw [List.length_reverse, String.length_toList]
  exact inside

/-- A prefix does not change the end of a name. -/
theorem fromEnd_prependPrefix
    (registrar : Registrar) (name : String) {index : Nat}
    (inside : index < name.length) :
    fromEnd (registrar.prependPrefix name) index = fromEnd name index := by
  unfold prependPrefix
  split
  · rfl
  · exact fromEnd_append _ _ inside

theorem prependPrefix_injective
    (registrar : Registrar) {first second : String}
    (same : registrar.prependPrefix first = registrar.prependPrefix second) :
    first = second := by
  unfold prependPrefix at same
  split at same
  · exact same
  · have chars := congrArg String.toList same
    simp only [String.toList_append] at chars
    exact String.ext (List.append_cancel_left chars)

end Registrar

end KafkaToNexus.Metrics
