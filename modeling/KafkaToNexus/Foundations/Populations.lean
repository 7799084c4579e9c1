import KafkaToNexus.Foundations.Execution
import Mathlib.Algebra.BigOperators.Group.List.Basic
import Mathlib.Data.List.Perm.Basic

/-!
# Systems whose parts come and go

A system owns parts of one kind, in no particular order.  With each of its
steps a part joins, one part takes a step of its own, parts leave that have
ended, or the parts stay what they are.  Such a system is recorded by a
history variable that holds, for every part there ever was, how it began and
the labels of its steps.  Every execution of the system can be recorded, and
in a recorded one each history is an execution of the part alone.
-/

namespace KafkaToNexus.Foundations.Populations

variable {Part Label State Event Output : Type*}

/-- How the parts of a system begin, what they do and when they have ended. -/
structure Kind (Part Label : Type*) where
  begins : Part → Prop
  step : Part → Label → Part → Prop
  ended : Part → Prop

/-- What a step of the system does to its parts. -/
inductive Change (kind : Kind Part Label) :
    List Part → List Label → List Part → Prop where
  | same {before after : List Part} :
      before.Perm after → Change kind before [] after
  | moves {before after rest : List Part} {part next : Part} {label : Label} :
      before.Perm (part :: rest) →
      kind.step part label next →
      after.Perm (next :: rest) →
      Change kind before [label] after
  | joins {before after : List Part} {part : Part} :
      kind.begins part →
      after.Perm (part :: before) →
      Change kind before [] after
  | leaves {before after gone : List Part} :
      before.Perm (gone ++ after) →
      (∀ part ∈ gone, kind.ended part) →
      Change kind before [] after

/-- The only part takes a step. -/
theorem Change.one
    {kind : Kind Part Label} {part next : Part} {label : Label}
    (taken : kind.step part label next) :
    Change kind [part] [label] [next] :=
  .moves (List.Perm.refl [part]) taken (List.Perm.refl [next])

/-- A change of some of the parts is one of all of them. -/
theorem Change.append_right
    {kind : Kind Part Label} {before after : List Part} {labels : List Label}
    (change : Change kind before labels after) (others : List Part) :
    Change kind (before ++ others) labels (after ++ others) := by
  cases change with
  | same same => exact .same (same.append_right others)
  | moves found step placed =>
      exact .moves (found.append_right others) step (placed.append_right others)
  | joins begins placed => exact .joins begins (placed.append_right others)
  | @leaves _ gone found ended =>
      have all := found.append_right others
      rw [List.append_assoc] at all
      exact .leaves all ended

/-- The order of the parts does not matter. -/
theorem Change.perm
    {kind : Kind Part Label} {before after first last : List Part}
    {labels : List Label}
    (change : Change kind before labels after)
    (sameFirst : first.Perm before) (sameLast : last.Perm after) :
    Change kind first labels last := by
  cases change with
  | same same => exact .same ((sameFirst.trans same).trans sameLast.symm)
  | moves found step placed =>
      exact .moves (sameFirst.trans found) step (sameLast.trans placed)
  | joins begins placed =>
      exact .joins begins
        (sameLast.trans (placed.trans (sameFirst.symm.cons _)))
  | leaves found ended =>
      exact .leaves (sameFirst.trans (found.trans (sameLast.symm.append_left _)))
        ended

/-! ## Parts that are held by the items of a list -/

section Items

variable {Item : Type*}

/-- The values of all items are those of one item and those of the others. -/
theorem flatMap_perm_eraseIdx
    (values : Item → List Part) {items : List Item} {index : Nat} {item : Item}
    (found : items[index]? = some item) :
    (items.flatMap values).Perm
      (values item ++ (items.eraseIdx index).flatMap values) := by
  rcases List.getElem?_eq_some_iff.mp found with ⟨inside, rfl⟩
  have moved :=
    (List.getElem_cons_eraseIdx_perm inside).symm.flatMap_right values
  rw [List.flatMap_cons] at moved
  exact moved

/-- When one item is replaced, its values are. -/
theorem flatMap_set_perm
    (values : Item → List Part) {items : List Item} {index : Nat}
    {item : Item} (found : items[index]? = some item) (next : Item) :
    ((items.set index next).flatMap values).Perm
      (values next ++ (items.eraseIdx index).flatMap values) := by
  rcases List.getElem?_eq_some_iff.mp found with ⟨inside, _⟩
  have replaced : (items.set index next)[index]? = some next :=
    List.getElem?_set_self inside
  have moved := flatMap_perm_eraseIdx values replaced
  rw [List.eraseIdx_set_eq] at moved
  exact moved

/-- A change of the parts of one item is one of the parts of all items. -/
theorem Change.set
    {kind : Kind Part Label} {labels : List Label}
    (parts : Item → List Part) {items : List Item} {index : Nat}
    {item next : Item} (found : items[index]? = some item)
    (change : Change kind (parts item) labels (parts next)) :
    Change kind (items.flatMap parts) labels
      ((items.set index next).flatMap parts) :=
  (change.append_right _).perm (flatMap_perm_eraseIdx parts found)
    (flatMap_set_perm parts found next)

/-- An item leaves with all its parts, which have ended. -/
theorem Change.eraseIdx
    {kind : Kind Part Label}
    (parts : Item → List Part) {items : List Item} {index : Nat} {item : Item}
    (found : items[index]? = some item)
    (ended : ∀ part ∈ parts item, kind.ended part) :
    Change kind (items.flatMap parts) []
      ((items.eraseIdx index).flatMap parts) :=
  .leaves (flatMap_perm_eraseIdx parts found) ended

end Items

/-- A change of some of the parts, behind others. -/
theorem Change.append_left
    {kind : Kind Part Label} {before after : List Part} {labels : List Label}
    (change : Change kind before labels after) (others : List Part) :
    Change kind (others ++ before) labels (others ++ after) :=
  (change.append_right others).perm List.perm_append_comm
    List.perm_append_comm

/-! ## What all parts have, and what they spend together -/

/-- What parts begin with and keep is kept by a change of the system. -/
theorem Change.all
    {kind : Kind Part Label} {before after : List Part} {labels : List Label}
    {property : Part → Prop} (change : Change kind before labels after)
    (begins : ∀ part, kind.begins part → property part)
    (step :
      ∀ part label next, property part → kind.step part label next →
        property next)
    (all : ∀ part ∈ before, property part) :
    ∀ part ∈ after, property part := by
  intro member known
  cases change with
  | same same => exact all member (same.symm.subset known)
  | @moves _ rest part next label found taken placed =>
      rcases List.mem_cons.mp (placed.subset known) with rfl | other
      · exact step part label member (all part (found.symm.subset
          List.mem_cons_self)) taken
      · exact all member (found.symm.subset (List.mem_cons_of_mem _ other))
  | joins joined placed =>
      rcases List.mem_cons.mp (placed.subset known) with rfl | other
      · exact begins member joined
      · exact all member other
  | leaves found _ =>
      exact all member (found.symm.subset (List.mem_append_right _ known))

/-- The budgets of all parts together. -/
def total (budget : Part → Nat) (parts : List Part) : Nat :=
  (parts.map budget).sum

theorem total_perm
    (budget : Part → Nat) {first second : List Part}
    (same : first.Perm second) : total budget first = total budget second :=
  (same.map budget).sum_eq

/--
When parts begin without a budget and their steps are paid from it, the steps
of the system are paid from the budgets of all parts together.
-/
theorem Change.spends
    {kind : Kind Part Label} {before after : List Part} {labels : List Label}
    {budget : Part → Nat} {cost : Label → Nat}
    (change : Change kind before labels after)
    (empty : ∀ part, kind.begins part → budget part = 0)
    (paid :
      ∀ part ∈ before, ∀ label ∈ labels, ∀ next,
        kind.step part label next →
          budget next + cost label ≤ budget part) :
    total budget after + (labels.map cost).sum ≤ total budget before := by
  cases change with
  | same same => exact Nat.le_of_eq (total_perm budget same).symm
  | @moves _ rest part next label found taken placed =>
      have one :=
        paid part (found.symm.subset List.mem_cons_self) label
          (List.mem_singleton_self label) next taken
      rw [total_perm budget found, total_perm budget placed]
      simp only [total, List.map_cons, List.sum_cons, List.map_nil,
        List.sum_nil]
      omega
  | @joins _ part joined placed =>
      rw [total_perm budget placed]
      simp only [total, List.map_cons, List.sum_cons, List.map_nil,
        List.sum_nil, empty part joined]
      omega
  | @leaves _ gone found _ =>
      rw [total_perm budget found]
      simp only [total, List.map_append, List.sum_append, List.map_nil,
        List.sum_nil]
      omega

/-! ## Histories -/

/-- How a part began, the labels of its steps and where they led. -/
structure History (Part Label : Type*) where
  first : Part
  labels : List Label
  last : Part

/-- The part has taken one more step. -/
def History.extend
    (history : History Part Label) (label : Label) (next : Part) :
    History Part Label :=
  { history with labels := history.labels ++ [label], last := next }

/-- The history is an execution of a part that began as parts begin. -/
structure History.Valid
    (kind : Kind Part Label) (history : History Part Label) : Prop where
  begins : kind.begins history.first
  run : Execution kind.step history.first history.labels history.last

/-- How the histories are continued with a step of the system. -/
inductive Continue (kind : Kind Part Label) :
    List (History Part Label) → List Label → List (History Part Label) →
      Prop where
  | same {histories : List (History Part Label)} :
      Continue kind histories [] histories
  | moves {before after : List (History Part Label)}
      {history : History Part Label} {label : Label} {next : Part} :
      kind.step history.last label next →
      Continue kind (before ++ history :: after) [label]
        (before ++ history.extend label next :: after)
  | joins {histories : List (History Part Label)} {part : Part} :
      kind.begins part →
      Continue kind histories [] (histories ++ [⟨part, [], part⟩])

/-- The histories are those of the parts and of parts that have ended. -/
def Cover
    (kind : Kind Part Label) (histories : List (History Part Label))
    (parts : List Part) : Prop :=
  ∃ gone : List Part,
    (histories.map History.last).Perm (parts ++ gone) ∧
      ∀ part ∈ gone, kind.ended part

/-- The histories can be continued so that they cover the changed parts. -/
theorem Cover.change
    {kind : Kind Part Label} {histories : List (History Part Label)}
    {parts next : List Part} {labels : List Label}
    (cover : Cover kind histories parts)
    (change : Change kind parts labels next) :
    ∃ later, Continue kind histories labels later ∧ Cover kind later next := by
  rcases cover with ⟨gone, covered, ended⟩
  cases change with
  | same same =>
      exact ⟨histories, .same, gone, covered.trans (same.append_right gone),
        ended⟩
  | @moves _ rest part moved label found step placed =>
      have all := covered.trans (found.append_right gone)
      have member : part ∈ histories.map History.last :=
        all.symm.subset List.mem_cons_self
      rcases List.mem_map.mp member with ⟨history, known, rfl⟩
      rcases List.append_of_mem known with ⟨before, after, rfl⟩
      refine ⟨_, .moves step, gone, ?_, ended⟩
      rw [List.map_append, List.map_cons] at all ⊢
      have others :
          (before.map History.last ++ after.map History.last).Perm
            (rest ++ gone) :=
        List.Perm.cons_inv (List.perm_middle.symm.trans all)
      exact List.perm_middle.trans
        ((others.cons moved).trans (placed.append_right gone).symm)
  | @joins _ part begins placed =>
      refine ⟨_, .joins begins, gone, ?_, ended⟩
      rw [List.map_append]
      refine List.perm_append_comm.trans ?_
      exact (covered.cons part).trans (placed.append_right gone).symm
  | @leaves _ left found leftEnded =>
      refine ⟨histories, .same, gone ++ left, ?_, ?_⟩
      · refine covered.trans ((found.append_right gone).trans ?_)
        rw [List.append_assoc]
        refine List.perm_append_comm.trans ?_
        rw [List.append_assoc]
      · intro part member
        rcases List.mem_append.mp member with old | new
        · exact ended part old
        · exact leftEnded part new

/-- Continued histories are executions again. -/
theorem Continue.valid
    {kind : Kind Part Label} {histories later : List (History Part Label)}
    {labels : List Label}
    (continued : Continue kind histories labels later)
    (valid : ∀ history ∈ histories, history.Valid kind) :
    ∀ history ∈ later, history.Valid kind := by
  cases continued with
  | same => exact valid
  | @moves before after moved label next step =>
      intro history member
      rcases List.mem_append.mp member with old | rest
      · exact valid history (List.mem_append_left _ old)
      · rcases List.mem_cons.mp rest with rfl | old
        · have was := valid moved (by simp)
          exact ⟨was.begins, was.run.snoc step⟩
        · exact valid history (by simp [old])
  | joins begins =>
      intro history member
      rcases List.mem_append.mp member with old | new
      · exact valid history old
      · rw [List.mem_singleton.mp new]
        exact ⟨begins, .refl⟩

/-- The outputs of all histories together. -/
def outputs
    (output : Label → List Output) (histories : List (History Part Label)) :
    List Output :=
  histories.flatMap fun history => history.labels.flatMap output

theorem Continue.outputs
    {kind : Kind Part Label} {histories later : List (History Part Label)}
    {labels : List Label}
    (continued : Continue kind histories labels later)
    (output : Label → List Output) :
    (outputs output later).Perm
      (outputs output histories ++ labels.flatMap output) := by
  unfold Populations.outputs
  cases continued with
  | same => simp
  | @moves before after moved label next _ =>
      simp only [List.flatMap_append, List.flatMap_cons, History.extend,
        List.flatMap_nil, List.append_nil, List.append_assoc]
      refine List.Perm.append_left _ (List.Perm.append_left _ ?_)
      exact List.perm_append_comm
  | joins _ => simp

/-! ## Recorded executions -/

/-- A state of the system with the histories of its parts. -/
structure Recorded (State Part Label : Type*) where
  state : State
  histories : List (History Part Label)

/-- A step of the system that is recorded in the histories of its parts. -/
structure RecordedStep
    (kind : Kind Part Label) (step : State → Event → State → Prop)
    (parts : State → List Part) (shows : Event → List Label → Prop)
    (before : Recorded State Part Label) (event : Event)
    (after : Recorded State Part Label) : Prop where
  step : step before.state event after.state
  record :
    ∃ labels, shows event labels ∧
      Continue kind before.histories labels after.histories
  cover : Cover kind after.histories (parts after.state)

section Runs

variable {kind : Kind Part Label} {step : State → Event → State → Prop}
  {parts : State → List Part} {shows : Event → List Label → Prop}

/--
Every execution of a system can be recorded when its steps change its parts,
in the states that meet an invariant, as parts can change.
-/
theorem exists_recorded
    (invariant : State → Prop)
    (changes :
      ∀ state event next, invariant state → step state event next →
        invariant next ∧
          ∃ labels, shows event labels ∧
            Change kind (parts state) labels (parts next))
    {start final : State} {trace : List Event}
    (run : Execution step start trace final)
    (first : invariant start) (empty : parts start = []) :
    ∃ histories,
      Execution (RecordedStep kind step parts shows) ⟨start, []⟩ trace
        ⟨final, histories⟩ := by
  suffices more : ∃ histories,
      Execution (RecordedStep kind step parts shows) ⟨start, []⟩ trace
          ⟨final, histories⟩ ∧
        Cover kind histories (parts final) ∧ invariant final by
    rcases more with ⟨histories, recorded, _⟩
    exact ⟨histories, recorded⟩
  induction run with
  | refl => exact ⟨[], .refl, ⟨[], by rw [empty]; rfl, by simp⟩, first⟩
  | snoc _ taken induction =>
      rcases induction with ⟨histories, recorded, cover, holds⟩
      rcases changes _ _ _ holds taken with ⟨kept, labels, shown, change⟩
      rcases cover.change change with ⟨later, continued, covered⟩
      exact ⟨later,
        recorded.snoc ⟨taken, ⟨labels, shown, continued⟩, covered⟩, covered,
        kept⟩

variable {start : State} {trace : List Event}
  {recorded : Recorded State Part Label}

/-- Every history in a record is an execution of one part. -/
theorem valid_of_recorded
    (run :
      Execution (RecordedStep kind step parts shows) ⟨start, []⟩ trace
        recorded) :
    ∀ history ∈ recorded.histories, history.Valid kind := by
  refine run.invariant
    (fun state => ∀ history ∈ state.histories, history.Valid kind)
    (by simp) ?_
  intro state event next valid taken
  rcases taken.record with ⟨labels, _, continued⟩
  exact continued.valid valid

/-- The histories have ended when all parts that are left have. -/
theorem ended_of_recorded
    (run :
      Execution (RecordedStep kind step parts shows) ⟨start, []⟩ trace
        recorded)
    (empty : parts start = [])
    (ended : ∀ part ∈ parts recorded.state, kind.ended part) :
    ∀ history ∈ recorded.histories, kind.ended history.last := by
  have cover : Cover kind recorded.histories (parts recorded.state) := by
    refine run.invariant
      (fun state => Cover kind state.histories (parts state.state))
      ⟨[], by rw [empty]; rfl, by simp⟩ ?_
    intro state event next _ taken
    exact taken.cover
  rcases cover with ⟨gone, covered, goneEnded⟩
  intro history member
  have known := covered.subset (List.mem_map_of_mem member)
  rcases List.mem_append.mp known with left | left
  · exact ended _ left
  · exact goneEnded _ left

/-- The system puts out what its parts put out. -/
theorem outputs_of_recorded
    {systemOutput : Event → List Output} {output : Label → List Output}
    (same :
      ∀ event labels, shows event labels →
        systemOutput event = labels.flatMap output)
    (run :
      Execution (RecordedStep kind step parts shows) ⟨start, []⟩ trace
        recorded) :
    (trace.flatMap systemOutput).Perm (outputs output recorded.histories) := by
  refine run.traceInvariant
    (fun labels state =>
      (labels.flatMap systemOutput).Perm (outputs output state.histories))
    (List.Perm.refl _) ?_
  intro events state event next before taken
  rcases taken.record with ⟨labels, shown, continued⟩
  rw [List.flatMap_append, List.flatMap_singleton, same event labels shown]
  exact (before.append_right _).trans (continued.outputs output).symm

end Runs

end KafkaToNexus.Foundations.Populations
