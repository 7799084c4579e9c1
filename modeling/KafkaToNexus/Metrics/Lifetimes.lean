import KafkaToNexus.Foundations.Mealy
import KafkaToNexus.Foundations.Throwing
import KafkaToNexus.Metrics
import Mathlib.Data.List.Nodup

/-!
# The lifetimes of registered metrics

A reporter keeps a pointer to the counter of every metric it reports on, under
the full name the metric was registered with.  A metric keeps the reporters
it was added to and one full name, and its destructor takes that name out of
each of them.  Nothing else removes an entry, so the reporters hold counters
of live metrics only as long as the destructors find all entries.

A metric is identified by its place in the list of all metrics constructed so
far, which no later metric gets.  The reporters are of any type, and each of
them has the type of its sink.
-/

namespace KafkaToNexus.Metrics.Lifetimes

open KafkaToNexus.Foundations

inductive Severity where
  | debug
  | info
  | warning
  | error
deriving DecidableEq, Repr

abbrev MetricId := Nat

variable {Reporter : Type*}

/-- A metric with its details for the deregistration. -/
structure Metric (Reporter : Type*) where
  name : String
  description : String
  severity : Severity
  fullName : String := ""
  reporters : List Reporter := []
deriving DecidableEq

def Metric.setDeregistrationDetails
    (metric : Metric Reporter) (nameWithPrefix : String)
    (reporter : Reporter) : Metric Reporter :=
  { metric with
    fullName := nameWithPrefix
    reporters := metric.reporters ++ [reporter] }

/-- What a reporter keeps of a metric; the counter is the metric's own. -/
structure InternalMetric where
  name : String
  fullName : String
  counter : MetricId
  descriptionString : String
  valueSeverity : Severity
deriving DecidableEq

/-- The constructor of `InternalMetric`. -/
def Metric.internal
    (metric : Metric Reporter) (id : MetricId) (name : String) :
    InternalMetric where
  name := metric.name
  fullName := name
  counter := id
  descriptionString := metric.description
  valueSeverity := metric.severity

/-- `MetricsToReportOn` of one reporter. -/
abbrev Entries := String → Option InternalMetric

/-- `addMetric` of a reporter with the given entries. -/
def addMetric (entries : Entries) (new : InternalMetric) (newName : String) :
    Option Entries :=
  match entries newName with
  | some _ => none
  | none => some (Function.update entries newName (some new))

/-- `tryRemoveMetric` of a reporter with the given entries. -/
def tryRemoveMetric (entries : Entries) (metricName : String) :
    Entries × Bool :=
  (Function.update entries metricName none, (entries metricName).isSome)

/-- The metrics that were constructed and what the reporters hold. -/
structure Process (Reporter : Type*) where
  metrics : List (Option (Metric Reporter)) := []
  metricsToReportOn : Reporter → Entries := fun _ _ => none

/-- The list of reporters is a map from their sinks. -/
structure Registrar (getSinkType : Reporter → LogTo) where
  metricsPrefix : String
  reporterList : List Reporter
  distinct : (reporterList.map getSinkType).Nodup

variable {getSinkType : Reporter → LogTo}

namespace Registrar

def prependPrefix (registrar : Registrar getSinkType) (name : String) :
    String :=
  if registrar.metricsPrefix = "" then
    name
  else
    registrar.metricsPrefix ++ "." ++ name

def getNewRegistrar
    (registrar : Registrar getSinkType) (metricsPrefix : String) :
    Registrar getSinkType :=
  { registrar with metricsPrefix := registrar.prependPrefix metricsPrefix }

/-- The reporters that a call with the given sinks is for. -/
def selected (registrar : Registrar getSinkType) (sinkTypes : List LogTo) :
    List Reporter :=
  registrar.reporterList.filter (getSinkType · ∈ sinkTypes)

end Registrar

namespace Process

/-- The metric with the given place, if it is alive. -/
def metric (process : Process Reporter) (id : MetricId) :
    Option (Metric Reporter) :=
  (process.metrics[id]?).join

/-! ## The calls -/

def construct
    (process : Process Reporter) (name description : String)
    (severity : Severity) : Process Reporter :=
  { process with
    metrics := process.metrics ++ [some { name, description, severity }] }

theorem metric_construct_of_some
    {process : Process Reporter} {id : MetricId} {metric : Metric Reporter}
    (alive : process.metric id = some metric)
    (name description : String) (severity : Severity) :
    (process.construct name description severity).metric id = some metric := by
  have here := Option.join_eq_some_iff.mp alive
  have inside : id < process.metrics.length :=
    (List.getElem?_eq_some_iff.mp here).1
  rw [Process.metric, construct, List.getElem?_append_left inside]
  exact alive

/-- A metric is one from before the construction, or it is the new one. -/
theorem metric_construct
    {process : Process Reporter} {id : MetricId} {metric : Metric Reporter}
    {name description : String} {severity : Severity}
    (alive :
      (process.construct name description severity).metric id = some metric) :
    process.metric id = some metric ∨ metric.reporters = [] := by
  have here := Option.join_eq_some_iff.mp alive
  rw [construct, List.getElem?_append] at here
  split at here
  · exact Or.inl (Option.join_eq_some_iff.mpr here)
  · rcases List.getElem?_eq_some_iff.mp here with ⟨inside, same⟩
    rw [List.getElem_singleton] at same
    cases Option.some.inj same
    exact Or.inr rfl

variable [DecidableEq Reporter]

/-- The body of the loop of `registerMetric`. -/
def addToReporter
    (getSinkType : Reporter → LogTo) (id : MetricId) (new : InternalMetric)
    (newName : String) (sinkTypes : List LogTo) (reporter : Reporter) :
    Throwing (Process Reporter) RegisterException := fun process =>
  if getSinkType reporter ∈ sinkTypes then
    match addMetric (process.metricsToReportOn reporter) new newName with
    | none => (process, some .alreadyRegistered)
    | some entries =>
        ({ metrics :=
            process.metrics.modify id
              (Option.map (·.setDeregistrationDetails newName reporter))
           metricsToReportOn :=
            Function.update process.metricsToReportOn reporter entries },
          none)
  else
    (process, none)

/-- `registerMetric`; a metric that is not alive cannot be passed to it. -/
def registerMetric
    (registrar : Registrar getSinkType) (id : MetricId)
    (sinkTypes : List LogTo) :
    Throwing (Process Reporter) RegisterException := fun process =>
  match process.metric id with
  | none => (process, none)
  | some metric =>
      if metric.name = "" then
        (process, some .emptyName)
      else
        let newName := registrar.prependPrefix metric.name
        Throwing.inOrder
          (registrar.reporterList.map
            (addToReporter getSinkType id (metric.internal id newName) newName
              sinkTypes))
          process

/-- The destructor of a metric. -/
def destroy (process : Process Reporter) (id : MetricId) :
    Process Reporter :=
  match process.metric id with
  | none => process
  | some metric =>
      { metrics := process.metrics.set id none
        metricsToReportOn :=
          metric.reporters.foldl
            (fun entries reporter =>
              Function.update entries reporter
                (tryRemoveMetric (entries reporter) metric.fullName).1)
            process.metricsToReportOn }

end Process

/-- The calls of the components of the process. -/
inductive Call (getSinkType : Reporter → LogTo) where
  | construct (name description : String) (severity : Severity)
  | registerMetric
      (id : MetricId) (registrar : Registrar getSinkType)
      (sinkTypes : List LogTo)
  | destroy (id : MetricId)

variable [DecidableEq Reporter]

/-- One call, with the exception it throws. -/
def step (process : Process Reporter) :
    Call getSinkType → Process Reporter × List (Option RegisterException)
  | .construct name description severity =>
      (process.construct name description severity, [none])
  | .registerMetric id registrar sinkTypes =>
      ((process.registerMetric registrar id sinkTypes).1,
        [(process.registerMetric registrar id sinkTypes).2])
  | .destroy id => (process.destroy id, [none])

/-! ## What the calls read and write -/

/-- The same value written under one name in each of a list of reporters. -/
theorem write_all
    {list : List Reporter} {entries : Reporter → Entries}
    {written name : String} {value : Option InternalMetric}
    {reporter : Reporter} :
    list.foldl
        (fun entries reporter =>
          Function.update entries reporter
            (Function.update (entries reporter) written value))
        entries reporter name =
      if reporter ∈ list ∧ name = written then value
      else entries reporter name := by
  induction list generalizing entries with
  | nil => simp
  | cons head rest induction =>
      rw [List.foldl_cons, induction]
      simp only [List.mem_cons]
      by_cases later : reporter ∈ rest ∧ name = written
      · rw [if_pos later, if_pos ⟨Or.inr later.1, later.2⟩]
      · rw [if_neg later]
        by_cases here : reporter = head
        · subst here
          rw [Function.update_self]
          by_cases same : name = written
          · rw [same, Function.update_self, if_pos ⟨Or.inl rfl, rfl⟩]
          · rw [Function.update_of_ne same, if_neg fun both => same both.2]
        · rw [Function.update_of_ne here, if_neg]
          rintro ⟨one | one, same⟩
          · exact here one
          · exact later ⟨one, same⟩

namespace Process

/-- Put an entry of a metric into a reporter and the reporter into the metric. -/
def enter
    (id : MetricId) (new : InternalMetric) (newName : String)
    (process : Process Reporter) (reporter : Reporter) : Process Reporter where
  metrics :=
    process.metrics.modify id
      (Option.map (·.setDeregistrationDetails newName reporter))
  metricsToReportOn :=
    Function.update process.metricsToReportOn reporter
      (Function.update (process.metricsToReportOn reporter) newName (some new))

variable {process : Process Reporter} {id other : MetricId}
  {new : InternalMetric} {newName name : String} {sinkTypes : List LogTo}
  {reporter : Reporter} {list : List Reporter}

theorem metric_enter_self :
    (enter id new newName process reporter).metric id =
      (process.metric id).map
        (·.setDeregistrationDetails newName reporter) := by
  rw [metric, enter, List.getElem?_modify_eq, metric]
  cases process.metrics[id]? with
  | none => rfl
  | some held => rfl

theorem metric_enter_of_ne (differs : other ≠ id) :
    (enter id new newName process reporter).metric other =
      process.metric other := by
  rw [metric, metric]
  exact congrArg Option.join (List.getElem?_modify_ne _ _ (Ne.symm differs))

theorem metricsToReportOn_enter :
    (enter id new newName process reporter).metricsToReportOn =
      Function.update process.metricsToReportOn reporter
        (Function.update (process.metricsToReportOn reporter) newName
          (some new)) :=
  rfl

/-- What the reporters hold after a metric was entered into some of them. -/
theorem metricsToReportOn_enter_all :
    (list.foldl (enter id new newName) process).metricsToReportOn reporter
        name =
      if reporter ∈ list ∧ name = newName then some new
      else process.metricsToReportOn reporter name := by
  have same :
      list.foldl
          (fun entries reporter =>
            Function.update entries reporter
              (Function.update (entries reporter) newName (some new)))
          process.metricsToReportOn =
        (list.foldl (enter id new newName) process).metricsToReportOn :=
    List.foldl_hom metricsToReportOn fun _ _ => rfl
  rw [← same, write_all]

theorem metric_enter_all_self
    (new : InternalMetric) (newName : String) (list : List Reporter)
    {metric : Metric Reporter} (alive : process.metric id = some metric) :
    ∃ fullName,
      (list.foldl (enter id new newName) process).metric id =
        some
          { metric with
            fullName := fullName
            reporters := metric.reporters ++ list } := by
  induction list generalizing process metric with
  | nil =>
      refine ⟨metric.fullName, ?_⟩
      rw [List.append_nil]
      exact alive
  | cons head rest induction =>
      have next :
          (enter id new newName process head).metric id =
            some (metric.setDeregistrationDetails newName head) := by
        rw [metric_enter_self, alive, Option.map_some]
      rcases induction next with ⟨fullName, here⟩
      refine ⟨fullName, here.trans ?_⟩
      rw [Metric.setDeregistrationDetails, List.append_assoc]
      rfl

theorem metric_enter_all_of_ne (differs : other ≠ id) :
    (list.foldl (enter id new newName) process).metric other =
      process.metric other := by
  induction list generalizing process with
  | nil => rfl
  | cons head rest induction =>
      rw [List.foldl_cons, induction, metric_enter_of_ne differs]

/-! ## The loop of `registerMetric` -/

theorem addToReporter_of_not_selected
    (other : getSinkType reporter ∉ sinkTypes) :
    addToReporter getSinkType id new newName sinkTypes reporter process =
      (process, none) :=
  if_neg other

theorem addToReporter_of_free
    (selected : getSinkType reporter ∈ sinkTypes)
    (free : process.metricsToReportOn reporter newName = none) :
    addToReporter getSinkType id new newName sinkTypes reporter process =
      (enter id new newName process reporter, none) := by
  rw [addToReporter, if_pos selected, addMetric, free]
  rfl

theorem addToReporter_of_taken
    (selected : getSinkType reporter ∈ sinkTypes)
    (taken : process.metricsToReportOn reporter newName ≠ none) :
    addToReporter getSinkType id new newName sinkTypes reporter process =
      (process, some .alreadyRegistered) := by
  rcases Option.ne_none_iff_exists'.mp taken with ⟨entry, held⟩
  rw [addToReporter, if_pos selected, addMetric, held]

/--
How far a registration gets: the metric is entered into the selected reporters
up to the first one that has its full name already.
-/
inductive Entered
    (process : Process Reporter) (newName : String)
    (selected : List Reporter) :
    List Reporter → Option RegisterException → Prop where
  | all
      (free :
        ∀ reporter ∈ selected,
          process.metricsToReportOn reporter newName = none) :
      Entered process newName selected selected none
  | some
      {done rest : List Reporter} {reporter : Reporter}
      (parts : selected = done ++ reporter :: rest)
      (free :
        ∀ reporter ∈ done,
          process.metricsToReportOn reporter newName = none)
      (taken : process.metricsToReportOn reporter newName ≠ none) :
      Entered process newName selected done (some .alreadyRegistered)

theorem inOrder_addToReporter
    (id : MetricId) (new : InternalMetric) (newName : String)
    (sinkTypes : List LogTo) (nodup : list.Nodup) :
    ∃ done thrown,
      Entered process newName
          (list.filter (getSinkType · ∈ sinkTypes)) done thrown ∧
        Throwing.inOrder
            (list.map (addToReporter getSinkType id new newName sinkTypes))
            process =
          (done.foldl (enter id new newName) process, thrown) := by
  induction list generalizing process with
  | nil => exact ⟨[], none, .all (by simp), rfl⟩
  | cons head rest induction =>
      rcases List.nodup_cons.mp nodup with ⟨once, others⟩
      rw [List.map_cons]
      by_cases selected : getSinkType head ∈ sinkTypes
      · rw [List.filter_cons_of_pos (by simpa using selected)]
        by_cases free : process.metricsToReportOn head newName = none
        · rw [Throwing.inOrder_of_returned
            (addToReporter_of_free selected free)]
          have same :
              ∀ reporter ∈ rest,
                (enter id new newName process head).metricsToReportOn
                    reporter newName =
                  process.metricsToReportOn reporter newName := by
            intro reporter member
            have differs : reporter ≠ head := fun equal =>
              once (equal ▸ member)
            rw [metricsToReportOn_enter, Function.update_of_ne differs]
          have sameSelected :
              ∀ reporter ∈ rest.filter (getSinkType · ∈ sinkTypes),
                (enter id new newName process head).metricsToReportOn
                    reporter newName =
                  process.metricsToReportOn reporter newName :=
            fun reporter member =>
              same reporter (List.mem_of_mem_filter member)
          rcases @induction (enter id new newName process head) others with
            ⟨done, thrown, entered, ran⟩
          refine ⟨head :: done, thrown, ?_, ran⟩
          cases entered with
          | all free' =>
              apply Entered.all
              rw [List.forall_mem_cons]
              refine ⟨free, fun reporter member => ?_⟩
              rw [← sameSelected reporter member]
              exact free' reporter member
          | some parts free' taken =>
              rw [parts] at sameSelected ⊢
              refine .some (List.cons_append ..).symm ?_ ?_
              · rw [List.forall_mem_cons]
                refine ⟨free, fun reporter member => ?_⟩
                rw [← sameSelected reporter
                  (List.mem_append_left _ member)]
                exact free' reporter member
              · rw [← sameSelected _
                  (List.mem_append_right _ List.mem_cons_self)]
                exact taken
        · rw [Throwing.inOrder_of_threw
            (addToReporter_of_taken selected free)]
          exact ⟨[], _, .some rfl (by simp) free, rfl⟩
      · rw [List.filter_cons_of_neg (by simpa using selected),
          Throwing.inOrder_of_returned
            (addToReporter_of_not_selected selected)]
        exact induction others

theorem registerMetric_of_dead
    (registrar : Registrar getSinkType) (dead : process.metric id = none) :
    process.registerMetric registrar id sinkTypes = (process, none) := by
  rw [registerMetric, dead]

theorem registerMetric_of_unnamed
    (registrar : Registrar getSinkType) {metric : Metric Reporter}
    (alive : process.metric id = some metric) (unnamed : metric.name = "") :
    process.registerMetric registrar id sinkTypes =
      (process, some .emptyName) := by
  rw [registerMetric, alive]
  exact if_pos unnamed

theorem registerMetric_of_named
    (registrar : Registrar getSinkType) (sinkTypes : List LogTo)
    {metric : Metric Reporter}
    (alive : process.metric id = some metric) (named : metric.name ≠ "") :
    process.registerMetric registrar id sinkTypes =
      Throwing.inOrder
        (registrar.reporterList.map
          (addToReporter getSinkType id
            (metric.internal id (registrar.prependPrefix metric.name))
            (registrar.prependPrefix metric.name) sinkTypes))
        process := by
  rw [registerMetric, alive]
  exact if_neg named

theorem registerMetric_entered
    (registrar : Registrar getSinkType) (sinkTypes : List LogTo)
    {metric : Metric Reporter}
    (alive : process.metric id = some metric) (named : metric.name ≠ "") :
    ∃ done thrown,
      Entered process (registrar.prependPrefix metric.name)
          (registrar.selected sinkTypes) done thrown ∧
        process.registerMetric registrar id sinkTypes =
          (done.foldl
              (enter id
                (metric.internal id (registrar.prependPrefix metric.name))
                (registrar.prependPrefix metric.name))
              process,
            thrown) := by
  rw [registerMetric_of_named registrar sinkTypes alive named]
  exact inOrder_addToReporter id _ _ sinkTypes registrar.distinct.of_map

/-! ## The destructor -/

theorem metricsToReportOn_destroy {metric : Metric Reporter}
    (alive : process.metric id = some metric) :
    (process.destroy id).metricsToReportOn reporter name =
      if reporter ∈ metric.reporters ∧ name = metric.fullName then none
      else process.metricsToReportOn reporter name := by
  rw [destroy, alive]
  exact write_all

theorem destroy_of_dead (dead : process.metric id = none) :
    process.destroy id = process := by
  rw [destroy, dead]

theorem metric_destroy_of_ne (differs : other ≠ id) :
    (process.destroy id).metric other = process.metric other := by
  unfold destroy
  split
  · rfl
  · exact congrArg Option.join (List.getElem?_set_ne (Ne.symm differs))

theorem metric_destroy_self : (process.destroy id).metric id = none := by
  unfold destroy
  split
  · assumption
  · rw [metric, List.getElem?_set_self']
    cases process.metrics[id]? with
    | none => rfl
    | some held => rfl

end Process

/-! ## What the reporters may hold -/

/-- A reporter has an entry of the metric under the name. -/
def HoldsAt
    (process : Process Reporter) (id : MetricId) (reporter : Reporter)
    (name : String) : Prop :=
  ∃ entry,
    process.metricsToReportOn reporter name = some entry ∧ entry.counter = id

/-- One of the calls registers the metric there under the name. -/
def RegisteredAt
    (calls : List (Call getSinkType)) (id : MetricId)
    (metric : Metric Reporter) (reporter : Reporter) (name : String) : Prop :=
  ∃ registrar sinkTypes,
    .registerMetric id registrar sinkTypes ∈ calls ∧
      reporter ∈ registrar.selected sinkTypes ∧
      name = registrar.prependPrefix metric.name

/--
Every entry is one of a live metric, which was registered there under that
name.
-/
def Justified
    (calls : List (Call getSinkType)) (process : Process Reporter) : Prop :=
  ∀ reporter name entry,
    process.metricsToReportOn reporter name = some entry →
      ∃ metric,
        process.metric entry.counter = some metric ∧
          entry = metric.internal entry.counter name ∧
          RegisteredAt calls entry.counter metric reporter name

/-- The calls that throw change no reporter and the destructors find all. -/
def Sound (process : Process Reporter) : Call getSinkType → Prop
  | .construct _ _ _ => True
  | .registerMetric id registrar sinkTypes =>
      (process.registerMetric registrar id sinkTypes).2 ≠ none →
        (process.registerMetric registrar id sinkTypes).1.metricsToReportOn =
          process.metricsToReportOn
  | .destroy id =>
      (∀ reporter name, ¬HoldsAt (process.destroy id) id reporter name) ∧
        ∀ reporter name entry,
          process.metricsToReportOn reporter name = some entry →
            entry.counter ≠ id →
              (process.destroy id).metricsToReportOn reporter name = some entry

/-- In every state the reporters hold what they may, and every call is sound. -/
def HoldsLiveCounters (calls : List (Call getSinkType)) : Prop :=
  (∀ taken, taken <+: calls →
      Justified taken (Mealy.run step {} taken).1) ∧
    ∀ taken call, taken ++ [call] <+: calls →
      Sound (Mealy.run step {} taken).1 call

/--
A full name that is taken is taken in the first reporter that is asked, and a
metric has no entry under another name than its last one when it is destroyed.
-/
def Safe (process : Process Reporter) : Call getSinkType → Prop
  | .construct _ _ _ => True
  | .registerMetric id registrar sinkTypes =>
      ∀ metric, process.metric id = some metric → metric.name ≠ "" →
        (∀ reporter ∈ registrar.selected sinkTypes,
          process.metricsToReportOn reporter
            (registrar.prependPrefix metric.name) = none) ∨
        ∀ reporter ∈ (registrar.selected sinkTypes).head?,
          process.metricsToReportOn reporter
            (registrar.prependPrefix metric.name) ≠ none
  | .destroy id =>
      ∀ metric, process.metric id = some metric →
        ∀ reporter name, HoldsAt process id reporter name →
          name = metric.fullName

/-! ## Single calls -/

/-- What safe calls keep: the entries and the lists of the metrics agree. -/
structure Tracked
    (calls : List (Call getSinkType)) (process : Process Reporter) :
    Prop where
  held :
    ∀ reporter name entry,
      process.metricsToReportOn reporter name = some entry →
        ∃ metric,
          process.metric entry.counter = some metric ∧
            entry = metric.internal entry.counter name ∧
            RegisteredAt calls entry.counter metric reporter name ∧
            reporter ∈ metric.reporters
  listed :
    ∀ id metric reporter,
      process.metric id = some metric → reporter ∈ metric.reporters →
        ∃ name, HoldsAt process id reporter name

variable {calls : List (Call getSinkType)} {process : Process Reporter}
  {id : MetricId} {registrar : Registrar getSinkType}
  {sinkTypes : List LogTo}

omit [DecidableEq Reporter] in
theorem RegisteredAt.later
    {metric : Metric Reporter} {reporter : Reporter} {name : String}
    (registered : RegisteredAt calls id metric reporter name)
    (call : Call getSinkType) :
    RegisteredAt (calls ++ [call]) id metric reporter name := by
  rcases registered with ⟨registrar, sinkTypes, member, place⟩
  exact ⟨registrar, sinkTypes, List.mem_append_left _ member, place⟩

omit [DecidableEq Reporter] in
theorem Tracked.later
    (tracked : Tracked calls process) (call : Call getSinkType) :
    Tracked (calls ++ [call]) process where
  held reporter name entry found := by
    rcases tracked.held reporter name entry found with
      ⟨metric, alive, same, registered, member⟩
    exact ⟨metric, alive, same, registered.later call, member⟩
  listed := tracked.listed

omit [DecidableEq Reporter] in
theorem Tracked.justified (tracked : Tracked calls process) :
    Justified calls process := by
  intro reporter name entry found
  rcases tracked.held reporter name entry found with
    ⟨metric, alive, same, registered, _⟩
  exact ⟨metric, alive, same, registered⟩

omit [DecidableEq Reporter] in
theorem Tracked.construct
    (tracked : Tracked calls process) (name description : String)
    (severity : Severity) :
    Tracked calls (process.construct name description severity) where
  held reporter name entry found := by
    rcases tracked.held reporter name entry found with ⟨metric, alive, rest⟩
    exact ⟨metric, Process.metric_construct_of_some alive _ _ _, rest⟩
  listed id metric reporter alive member := by
    rcases Process.metric_construct alive with old | new
    · exact tracked.listed id metric reporter old member
    · rw [new] at member
      cases member

/-- No entry is lost where the new name was free. -/
theorem HoldsAt.enter_all
    {metric : MetricId} {new : InternalMetric} {newName name : String}
    {done : List Reporter} {reporter : Reporter}
    (held : HoldsAt process metric reporter name)
    (free :
      ∀ reporter ∈ done, process.metricsToReportOn reporter newName = none) :
    HoldsAt (done.foldl (Process.enter id new newName) process) metric
      reporter name := by
  rcases held with ⟨entry, found, owner⟩
  refine ⟨entry, ?_, owner⟩
  rw [Process.metricsToReportOn_enter_all, if_neg]
  · exact found
  · rintro ⟨member, rfl⟩
    rw [free reporter member] at found
    cases found

theorem Tracked.enter_all
    (tracked : Tracked calls process) {metric : Metric Reporter}
    (alive : process.metric id = some metric) {done : List Reporter}
    (chosen : done ⊆ registrar.selected sinkTypes)
    (free :
      ∀ reporter ∈ done,
        process.metricsToReportOn reporter
          (registrar.prependPrefix metric.name) = none) :
    Tracked (calls ++ [.registerMetric id registrar sinkTypes])
      (done.foldl
        (Process.enter id
          (metric.internal id (registrar.prependPrefix metric.name))
          (registrar.prependPrefix metric.name))
        process) := by
  generalize full : registrar.prependPrefix metric.name = newName at free ⊢
  rcases Process.metric_enter_all_self (metric.internal id newName) newName
      done alive with ⟨fullName, here⟩
  constructor
  · intro reporter name entry found
    rw [Process.metricsToReportOn_enter_all] at found
    split at found
    · rename_i place
      rcases place with ⟨member, rfl⟩
      cases found
      refine ⟨_, here, rfl, ?_, List.mem_append_right _ member⟩
      exact ⟨registrar, sinkTypes, List.mem_append_right _ (by simp [Metric.internal]),
        chosen member, full.symm⟩
    · rcases tracked.held reporter name entry found with
        ⟨old, alive', same, registered, member⟩
      by_cases own : entry.counter = id
      · rw [own] at alive' same registered ⊢
        cases alive.symm.trans alive'
        exact ⟨_, here, same, registered.later _, List.mem_append_left _ member⟩
      · refine ⟨old, ?_, same, registered.later _, member⟩
        rw [Process.metric_enter_all_of_ne own]
        exact alive'
  · intro other found reporter alive' member
    by_cases own : other = id
    · subst own
      cases here.symm.trans alive'
      rcases List.mem_append.mp member with old | new
      · rcases tracked.listed other metric reporter alive old with
          ⟨name, held⟩
        exact ⟨name, held.enter_all free⟩
      · refine ⟨newName, metric.internal other newName, ?_, rfl⟩
        rw [Process.metricsToReportOn_enter_all, if_pos ⟨new, rfl⟩]
    · rw [Process.metric_enter_all_of_ne own] at alive'
      rcases tracked.listed other found reporter alive' member with
        ⟨name, held⟩
      exact ⟨name, held.enter_all free⟩

theorem Tracked.registerMetric (tracked : Tracked calls process) :
    Tracked (calls ++ [.registerMetric id registrar sinkTypes])
      (process.registerMetric registrar id sinkTypes).1 := by
  cases alive : process.metric id with
  | none =>
      rw [Process.registerMetric_of_dead registrar alive]
      exact tracked.later _
  | some metric =>
      by_cases named : metric.name = ""
      · rw [Process.registerMetric_of_unnamed registrar alive named]
        exact tracked.later _
      · rcases Process.registerMetric_entered registrar sinkTypes alive
          named with ⟨done, thrown, entered, ran⟩
        rw [ran]
        cases entered with
        | all free => exact tracked.enter_all alive (List.Subset.refl _) free
        | some parts free _ =>
            refine tracked.enter_all alive ?_ free
            rw [parts]
            exact List.subset_append_left _ _

omit [DecidableEq Reporter] in
/-- What a destructor takes out are the entries of the metric, if it is safe. -/
theorem Tracked.removed_iff
    (tracked : Tracked calls process) {metric : Metric Reporter}
    (alive : process.metric id = some metric)
    (safe :
      ∀ reporter name, HoldsAt process id reporter name →
        name = metric.fullName)
    {reporter : Reporter} {name : String} {entry : InternalMetric}
    (found : process.metricsToReportOn reporter name = some entry) :
    reporter ∈ metric.reporters ∧ name = metric.fullName ↔
      entry.counter = id := by
  constructor
  · rintro ⟨member, rfl⟩
    rcases tracked.listed id metric reporter alive member with
      ⟨name, other, held, owner⟩
    rw [safe reporter name ⟨other, held, owner⟩, found] at held
    cases held
    exact owner
  · intro own
    rcases tracked.held reporter name entry found with
      ⟨found', alive', _, _, member⟩
    rw [own] at alive'
    cases alive.symm.trans alive'
    exact ⟨member, safe reporter name ⟨entry, found, own⟩⟩

theorem Tracked.destroy
    (tracked : Tracked calls process)
    (safe : Safe process (.destroy id : Call getSinkType)) :
    Tracked (calls ++ [.destroy id]) (process.destroy id) := by
  cases alive : process.metric id with
  | none =>
      rw [Process.destroy_of_dead alive]
      exact tracked.later _
  | some metric =>
      have removed {reporter name entry}
          (found : process.metricsToReportOn reporter name = some entry) :=
        tracked.removed_iff alive (safe metric alive) found
      constructor
      · intro reporter name entry found
        rw [Process.metricsToReportOn_destroy alive] at found
        split at found
        · cases found
        · rename_i kept
          rcases tracked.held reporter name entry found with
            ⟨owner, alive', same, registered, member⟩
          have differs : entry.counter ≠ id := fun own =>
            kept ((removed found).mpr own)
          refine ⟨owner, ?_, same, registered.later _, member⟩
          rw [Process.metric_destroy_of_ne differs]
          exact alive'
      · intro other found reporter alive' member
        have differs : other ≠ id := by
          rintro rfl
          rw [Process.metric_destroy_self] at alive'
          cases alive'
        rw [Process.metric_destroy_of_ne differs] at alive'
        rcases tracked.listed other found reporter alive' member with
          ⟨name, entry, held, owner⟩
        refine ⟨name, entry, ?_, owner⟩
        rw [Process.metricsToReportOn_destroy alive, if_neg]
        · exact held
        · intro gone
          exact differs (owner.symm.trans ((removed held).mp gone))

theorem Tracked.next
    (tracked : Tracked calls process) {call : Call getSinkType}
    (safe : Safe process call) :
    Tracked (calls ++ [call]) (step process call).1 := by
  cases call with
  | construct name description severity =>
      exact (tracked.construct name description severity).later _
  | registerMetric id registrar sinkTypes => exact tracked.registerMetric
  | destroy id => exact tracked.destroy safe

/-! ## When the calls are sound -/

theorem sound_registerMetric_iff :
    Sound process (.registerMetric id registrar sinkTypes) ↔
      Safe process (.registerMetric id registrar sinkTypes) := by
  rw [Sound, Safe]
  cases alive : process.metric id with
  | none =>
      rw [Process.registerMetric_of_dead registrar alive]
      constructor
      · intro _ metric impossible
        cases impossible
      · exact fun _ _ => rfl
  | some metric =>
      by_cases named : metric.name = ""
      · rw [Process.registerMetric_of_unnamed registrar alive named]
        constructor
        · intro _ _ same nonempty
          cases same
          exact absurd named nonempty
        · exact fun _ _ => rfl
      · rcases Process.registerMetric_entered registrar sinkTypes alive
          named with ⟨done, thrown, entered, ran⟩
        rw [ran]
        cases entered with
        | all free =>
            constructor
            · intro _ _ same _
              cases same
              exact Or.inl free
            · exact fun _ impossible => absurd rfl impossible
        | some parts free taken =>
            rw [parts]
            cases done with
            | nil =>
                constructor
                · intro _ _ same _
                  cases same
                  refine Or.inr fun reporter first => ?_
                  cases first
                  exact taken
                · exact fun _ _ => rfl
            | cons head rest =>
                have headFree := free head List.mem_cons_self
                constructor
                · intro unchanged
                  have here := congrFun
                    (congrFun (unchanged (Option.some_ne_none _)) head)
                    (registrar.prependPrefix metric.name)
                  rw [Process.metricsToReportOn_enter_all,
                    if_pos ⟨List.mem_cons_self, rfl⟩, headFree] at here
                  cases here
                · intro safe
                  rcases safe metric rfl named with allFree | first
                  · exact absurd
                      (allFree _ (List.mem_append_right _ List.mem_cons_self))
                      taken
                  · exact absurd headFree (first head rfl)

theorem Tracked.sound_destroy_iff (tracked : Tracked calls process) :
    Sound process (.destroy id : Call getSinkType) ↔
      Safe process (.destroy id : Call getSinkType) := by
  rw [Sound, Safe]
  cases alive : process.metric id with
  | none =>
      rw [Process.destroy_of_dead alive]
      constructor
      · intro _ metric impossible
        cases impossible
      · refine fun _ => ⟨?_, fun _ _ _ found _ => found⟩
        rintro reporter name ⟨entry, found, own⟩
        rcases tracked.held reporter name entry found with ⟨_, alive', _⟩
        rw [own, alive] at alive'
        cases alive'
  | some metric =>
      constructor
      · rintro ⟨none, _⟩ _ same reporter name ⟨entry, found, own⟩
        cases same
        by_contra differs
        apply none reporter name
        refine ⟨entry, ?_, own⟩
        rw [Process.metricsToReportOn_destroy alive,
          if_neg fun both => differs both.2]
        exact found
      · intro safe
        have removed {reporter name entry}
            (found : process.metricsToReportOn reporter name = some entry) :=
          tracked.removed_iff alive (safe metric rfl) found
        constructor
        · rintro reporter name ⟨entry, found, own⟩
          rw [Process.metricsToReportOn_destroy alive] at found
          split at found
          · cases found
          · rename_i kept
            exact kept ((removed found).mpr own)
        · intro reporter name entry found other
          rw [Process.metricsToReportOn_destroy alive, if_neg]
          · exact found
          · intro gone
            exact other ((removed found).mp gone)

theorem Tracked.sound_iff
    (tracked : Tracked calls process) {call : Call getSinkType} :
    Sound process call ↔ Safe process call := by
  cases call with
  | construct name description severity => rfl
  | registerMetric id registrar sinkTypes => exact sound_registerMetric_iff
  | destroy id => exact tracked.sound_destroy_iff

theorem Tracked.sound_and_justified_iff
    (tracked : Tracked calls process) {call : Call getSinkType} :
    Sound process call ∧ Justified (calls ++ [call]) (step process call).1 ↔
      Safe process call := by
  constructor
  · rintro ⟨sound, _⟩
    exact tracked.sound_iff.mp sound
  · intro safe
    exact ⟨tracked.sound_iff.mpr safe, (tracked.next safe).justified⟩

/-! ## Whole runs -/

omit [DecidableEq Reporter] in
theorem tracked_start :
    Tracked ([] : List (Call getSinkType)) {} where
  held reporter name entry impossible := by cases impossible
  listed id metric reporter impossible := by cases impossible

/--
The reporters hold counters of live metrics only, and no call does what it
should not, exactly when every call is safe.
-/
theorem holdsLiveCounters_iff (calls : List (Call getSinkType)) :
    HoldsLiveCounters calls ↔ Mealy.Admissible step Safe {} calls := by
  have exactly :=
    Mealy.all_steps_iff
      (fun taken process call =>
        Sound process call ∧ Justified (taken ++ [call]) (step process call).1)
      Tracked tracked_start
      (fun _ _ _ tracked safe => tracked.next safe)
      (fun _ _ _ tracked => tracked.sound_and_justified_iff)
      calls
  rw [← exactly]
  constructor
  · rintro ⟨justified, sound⟩ taken call first
    refine ⟨sound taken call first, ?_⟩
    have after := justified _ first
    rw [Mealy.run_concat] at after
    exact after
  · intro both
    refine ⟨?_, fun taken call first => (both taken call first).1⟩
    intro taken first
    rcases List.eq_nil_or_concat' taken with rfl | ⟨before, call, rfl⟩
    · intro reporter name entry impossible
      cases impossible
    · rw [Mealy.run_concat]
      exact (both before call first).2

/-! ## The names alone -/

/-- The sink of the only reporter that there is for it. -/
def ownSink (reporter : LogTo) : LogTo := reporter

/-- The names in the reporters, where each sink has one reporter. -/
def NamesOf (process : Process LogTo) (reporters : Reporters) : Prop :=
  ∀ sink name,
    name ∈ reporters sink ↔ process.metricsToReportOn sink name ≠ none

/-- The registrar without the metrics themselves. -/
def Registrar.forNames (registrar : Registrar ownSink) :
    Metrics.Registrar where
  metricsPrefix := registrar.metricsPrefix
  reporterList := registrar.reporterList
  nodup := registrar.distinct.of_map

theorem NamesOf.enter
    {process : Process LogTo} {reporters : Reporters}
    (names : NamesOf process reporters) (id : MetricId)
    (new : InternalMetric) (newName : String) (sink : LogTo) :
    NamesOf (Process.enter id new newName process sink)
      (Function.update reporters sink (newName :: reporters sink)) := by
  intro other name
  rw [Process.metricsToReportOn_enter]
  by_cases here : other = sink
  · subst here
    rw [Function.update_self, Function.update_self, List.mem_cons,
      names other name]
    by_cases same : name = newName
    · subst same
      simp
    · rw [Function.update_of_ne same]
      simp [same]
  · rw [Function.update_of_ne here, Function.update_of_ne here]
    exact names other name

/-- What a registration of names alone says of one with the metrics. -/
inductive SameOutcome (after : Process LogTo × Option RegisterException) :
    Except RegisterException Reporters → Prop where
  | ok {reporters : Reporters}
      (returned : after.2 = none) (names : NamesOf after.1 reporters) :
      SameOutcome after (.ok reporters)
  | error {exception : RegisterException}
      (threw : after.2 = some exception) :
      SameOutcome after (.error exception)

theorem sameOutcome_addToReporters
    {process : Process LogTo} {reporters : Reporters}
    (names : NamesOf process reporters) (id : MetricId)
    (new : InternalMetric) (newName : String) (sinkTypes list : List LogTo) :
    SameOutcome
      (Throwing.inOrder
        (list.map
          (Process.addToReporter ownSink id new newName sinkTypes)) process)
      (Metrics.Registrar.addToReporters newName sinkTypes list reporters) := by
  induction list generalizing process reporters with
  | nil => exact .ok rfl names
  | cons head rest induction =>
      rw [List.map_cons, Metrics.Registrar.addToReporters]
      by_cases selected : head ∈ sinkTypes
      · rw [if_pos selected]
        by_cases free : process.metricsToReportOn head newName = none
        · rw [Throwing.inOrder_of_returned
              (Process.addToReporter_of_free selected free),
            addMetric_of_not_mem fun member =>
              (names head newName).mp member free]
          exact induction (names.enter id new newName head)
        · rw [Throwing.inOrder_of_threw
              (Process.addToReporter_of_taken selected free),
            Metrics.addMetric, if_pos ((names head newName).mpr free)]
          exact .error rfl
      · rw [if_neg selected, Throwing.inOrder_of_returned
          (Process.addToReporter_of_not_selected selected)]
        exact induction names

/-- The registration of a live metric is the one of its name. -/
theorem sameOutcome_registerMetric
    {process : Process LogTo} {reporters : Reporters}
    (names : NamesOf process reporters) {id : MetricId}
    {metric : Metric LogTo} (alive : process.metric id = some metric)
    (registrar : Registrar ownSink) (sinkTypes : List LogTo) :
    SameOutcome (process.registerMetric registrar id sinkTypes)
      (registrar.forNames.registerMetric metric.name sinkTypes reporters) := by
  rw [Metrics.Registrar.registerMetric]
  by_cases unnamed : metric.name = ""
  · rw [if_pos unnamed,
      Process.registerMetric_of_unnamed registrar alive unnamed]
    exact .error rfl
  · rw [if_neg unnamed,
      Process.registerMetric_of_named registrar sinkTypes alive unnamed]
    exact sameOutcome_addToReporters names id _ _ sinkTypes _

/-! ## Entries that are left behind -/

/-- A registrar with both reporters of a process. -/
def bothReporters (metricsPrefix : String) : Registrar ownSink where
  metricsPrefix := metricsPrefix
  reporterList := [.carbon, .logMsg]
  distinct := by decide

/-- One metric, registered by two components and then destroyed. -/
def registeredTwice : List (Call ownSink) :=
  [.construct "errors" "Number of errors." .error,
    .registerMetric 0 (bothReporters "stream") [.carbon],
    .registerMetric 0 (bothReporters "writer") [.carbon],
    .destroy 0]

/-- Two metrics with one name, the second of which is for a further sink. -/
def takenInSecond : List (Call ownSink) :=
  [.construct "errors" "Number of errors." .error,
    .construct "errors" "Number of write errors." .error,
    .registerMetric 0 (bothReporters "stream") [.logMsg],
    .registerMetric 1 (bothReporters "stream") [.carbon, .logMsg]]

/--
The destructor finds the second entry only, and a call that throws at the
second reporter leaves its entry in the first one.
-/
theorem entries_left_behind :
    ¬HoldsLiveCounters registeredTwice ∧ ¬HoldsLiveCounters takenInSecond := by
  constructor
  · rintro ⟨justified, _⟩
    rcases justified registeredTwice List.prefix_rfl .carbon "stream.errors" _
      rfl with ⟨metric, alive, _⟩
    cases alive
  · rintro ⟨_, sound⟩
    have unchanged :=
      sound (takenInSecond.take 3)
        (.registerMetric 1 (bothReporters "stream") [.carbon, .logMsg])
        List.prefix_rfl
    have here :=
      congrFun (congrFun (unchanged (Option.some_ne_none _)) .carbon)
        "stream.errors"
    cases here

end KafkaToNexus.Metrics.Lifetimes
