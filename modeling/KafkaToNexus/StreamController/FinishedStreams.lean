import KafkaToNexus.Foundations.Compaction
import KafkaToNexus.Stream.TopicSetUp
import KafkaToNexus.StreamController

/-!
# Taking finished topics out of the controller

`checkIfStreamsAreDone` removes the topics that are done from `Streamers`.
`isDone` throws for a topic that has an error, in the middle of the removal,
and the handler then calls `stop` for all of `Streamers`.  By that time the
removal may have moved a topic to the front, and left a null pointer where it
was.

Here the whole call is one function, on topics of any type whose `isDone` has
any outcome.  In the steps of the controller it takes one step for each topic.
-/

namespace KafkaToNexus.FinishedStreams

open KafkaToNexus.Foundations
open KafkaToNexus.Foundations.Compaction

variable {Topic Dest : Type*}

/-- What the check reads and writes, and the topics that were stopped. -/
structure Controller (Topic : Type*) where
  streamers : Slots Topic
  streamersRemaining : Bool := true
  hasError : Bool := false
  errorMessage : String := ""
  writerStopped : Bool := false
  stopNow : Bool := false
  stopped : List Topic := []
deriving DecidableEq, Repr

/-- The topics behind the pointers, unless one of them is null. -/
def dereferenced : Slots Topic → Option (List Topic)
  | [] => some []
  | none :: _ => none
  | some topic :: rest => (dereferenced rest).map (topic :: ·)

/-- `stop`, which has no meaning where a pointer is null. -/
def Controller.stop (controller : Controller Topic) :
    Option (Controller Topic) :=
  match dereferenced controller.streamers with
  | none => none
  | some topics =>
      some
        { controller with
          stopped := controller.stopped ++ topics
          writerStopped := true
          stopNow := true }

/-- The text that the handler stores. -/
def streamError (what : String) : String :=
  "Got stream error. The error message was: " ++ what

/-- The handler of an exception of `isDone`. -/
def Controller.handleError (controller : Controller Topic) (what : String) :
    Option (Controller Topic) :=
  let failed : Controller Topic :=
    { controller with hasError := true, errorMessage := streamError what }
  failed.stop.map fun stopped => { stopped with streamersRemaining := false }

def Controller.withStreamers
    (controller : Controller Topic) (streamers : Slots Topic) :
    Controller Topic :=
  { controller with streamers }

/-- The rest of the call, once the removal has ended. -/
def Controller.afterRemoval (controller : Controller Topic) :
    Outcome Topic String → Option (Controller Topic)
  | .returned result slots =>
      let kept := slots.take result
      some
        { controller with
          streamers := kept
          streamersRemaining :=
            controller.streamersRemaining && !kept.isEmpty }
  | .threw what slots => (controller.withStreamers slots).handleError what
  | .undefined => none

/-- The call, which has no meaning where it dereferences a null pointer. -/
def Controller.checkIfStreamsAreDone
    (isDone : Topic → Except String Bool) (controller : Controller Topic) :
    Option (Controller Topic) :=
  controller.afterRemoval (removeIf isDone controller.streamers)

/-! ## Usable topics -/

/-- What the claim on the list asks for after the call. -/
structure Usable
    (isDone : Topic → Except String Bool) (topics : List Topic)
    (before after : Controller Topic) : Prop where
  notNull : none ∉ after.streamers
  kept : ((unreported isDone topics).map some).Sublist after.streamers
  stopped :
    (∃ topic ∈ topics, ∃ what, isDone topic = .error what) →
      (∃ calls,
        after.stopped = before.stopped ++ calls ∧
          (unreported isDone topics).Sublist calls) ∧
        after.streamersRemaining = false ∧ after.hasError = true

/-- Before the first topic that throws, no topic is kept behind a done one. -/
def ThrowsInPlace
    (isDone : Topic → Except String Bool) (topics : List Topic) : Prop :=
  ∀ called thrower later what,
    topics = called ++ thrower :: later → AllReturn isDone called →
      isDone thrower = .error what → KeptFirst isDone called

variable {isDone : Topic → Except String Bool}

@[simp]
theorem dereferenced_map_some (topics : List Topic) :
    dereferenced (topics.map some) = some topics := by
  induction topics with
  | nil => rfl
  | cons topic rest induction =>
      rw [List.map_cons, dereferenced, induction]
      rfl

theorem dereferenced_of_null {slots : Slots Topic} (null : none ∈ slots) :
    dereferenced slots = none := by
  induction slots with
  | nil => cases null
  | cons slot rest induction =>
      cases slot with
      | none => rfl
      | some topic =>
          rcases List.mem_cons.mp null with here | later
          · cases here
          · rw [dereferenced, induction later]
            rfl

theorem unreported_sublist (topics : List Topic) :
    (unreported isDone topics).Sublist topics := by
  induction topics with
  | nil => exact List.Sublist.refl _
  | cons topic rest induction =>
      rw [unreported]
      split
      · exact List.Sublist.refl _
      · exact induction.cons topic
      · exact induction.cons_cons topic

/-- Either no topic throws, or there is a first one that does. -/
theorem first_throw (isDone : Topic → Except String Bool)
    (topics : List Topic) :
    AllReturn isDone topics ∨
      ∃ called thrower later what,
        topics = called ++ thrower :: later ∧ AllReturn isDone called ∧
          isDone thrower = .error what := by
  induction topics with
  | nil => exact Or.inl nofun
  | cons topic rest induction =>
      cases answer : isDone topic with
      | error what =>
          exact Or.inr ⟨[], topic, rest, what, rfl, nofun, answer⟩
      | ok done =>
          rcases induction with all | ⟨called, thrower, later, what, parts⟩
          · exact Or.inl (List.forall_mem_cons.mpr ⟨⟨done, answer⟩, all⟩)
          · rcases parts with ⟨rfl, returns, throws⟩
            refine Or.inr
              ⟨topic :: called, thrower, later, what, rfl, ?_, throws⟩
            exact List.forall_mem_cons.mpr ⟨⟨done, answer⟩, returns⟩

theorem first_throw_unique
    {called other later rest : List Topic} {thrower again : Topic}
    {what text : String} (returns : AllReturn isDone called)
    (throws : isDone thrower = .error what)
    (returnsToo : AllReturn isDone other)
    (throwsToo : isDone again = .error text)
    (same : called ++ thrower :: later = other ++ again :: rest) :
    called = other := by
  induction called generalizing other with
  | nil =>
      cases other with
      | nil => rfl
      | cons first others =>
          rcases List.cons.inj same with ⟨rfl, _⟩
          rcases returnsToo thrower List.mem_cons_self with ⟨_, answer⟩
          cases throws.symm.trans answer
  | cons topic called induction =>
      cases other with
      | nil =>
          rcases List.cons.inj same with ⟨rfl, _⟩
          rcases returns topic List.mem_cons_self with ⟨_, answer⟩
          cases throwsToo.symm.trans answer
      | cons first others =>
          rcases List.cons.inj same with ⟨rfl, tail⟩
          rcases List.forall_mem_cons.mp returns with ⟨_, returns⟩
          rcases List.forall_mem_cons.mp returnsToo with ⟨_, returnsToo⟩
          rw [induction returns returnsToo tail]

variable (controller : Controller Topic) (topics : List Topic)

/-- The call on a list of topics. -/
def Controller.checkTopics
    (isDone : Topic → Except String Bool) (controller : Controller Topic)
    (topics : List Topic) : Option (Controller Topic) :=
  (controller.withStreamers (topics.map some)).checkIfStreamsAreDone isDone

theorem checkTopics_eq :
    controller.checkTopics isDone topics =
      (controller.withStreamers (topics.map some)).afterRemoval
        (compact isDone [] [] topics) := by
  rw [← removeIf_eq_compact]
  rfl

theorem usable_of_allReturn
    {topics : List Topic} (returns : AllReturn isDone topics) :
    ∃ after,
      controller.checkTopics isDone topics = some after ∧
        Usable isDone topics controller after := by
  rcases @compact_of_allReturn _ _ isDone [] [] topics returns with
    ⟨result, slots, ran, left⟩
  rw [checkTopics_eq, ran]
  refine ⟨_, rfl, ?_⟩
  rw [List.nil_append] at left
  constructor
  · show none ∉ slots.take result
    rw [left]
    simp
  · show List.Sublist _ (slots.take result)
    rw [left]
  · rintro ⟨topic, member, what, throws⟩
    rcases returns topic member with ⟨_, answer⟩
    cases throws.symm.trans answer

theorem usable_of_keptFirst
    {called later : List Topic} {thrower : Topic} {what : String}
    (returns : AllReturn isDone called) (ordered : KeptFirst isDone called)
    (throws : isDone thrower = .error what) :
    ∃ after,
      controller.checkTopics isDone (called ++ thrower :: later) =
          some after ∧
        Usable isDone (called ++ thrower :: later) controller after := by
  rw [checkTopics_eq, compact_of_keptFirst returns ordered throws,
    List.nil_append]
  simp only [Controller.afterRemoval, Controller.handleError, Controller.stop,
    Controller.withStreamers, dereferenced_map_some, Option.map_some]
  refine ⟨_, rfl, ?_⟩
  constructor
  · show none ∉ List.map some _
    simp
  · exact (unreported_sublist _).map some
  · exact fun _ => ⟨⟨_, rfl, unreported_sublist _⟩, rfl, rfl⟩

/-- The handler dereferences a pointer that the removal has moved from. -/
theorem undefined_of_not_keptFirst
    {called later : List Topic} {thrower : Topic} {what : String}
    (returns : AllReturn isDone called) (late : ¬KeptFirst isDone called)
    (throws : isDone thrower = .error what) :
    controller.checkTopics isDone (called ++ thrower :: later) = none := by
  rcases @compact_of_not_keptFirst _ _ isDone [] called later thrower what
    returns late throws with ⟨slots, ran, null⟩
  rw [checkTopics_eq, ran]
  simp only [Controller.afterRemoval, Controller.handleError, Controller.stop,
    Controller.withStreamers, dereferenced_of_null null, Option.map_none]

/--
The call keeps the list of topics usable exactly when no topic that is kept
comes after one that is done before the first topic that throws.
-/
theorem usable_iff (controller : Controller Topic) (topics : List Topic) :
    (∃ after,
        controller.checkTopics isDone topics = some after ∧
          Usable isDone topics controller after) ↔
      ThrowsInPlace isDone topics := by
  rcases first_throw isDone topics with
    returns | ⟨called, thrower, later, what, rfl, returns, throws⟩
  · apply iff_of_true (usable_of_allReturn controller returns)
    rintro called thrower later what rfl _ throws
    rcases returns thrower
      (List.mem_append_right _ List.mem_cons_self) with ⟨_, answer⟩
    cases throws.symm.trans answer
  · constructor
    · rintro ⟨after, check, _⟩ other again rest text same returnsToo throwsToo
      rw [← first_throw_unique returns throws returnsToo throwsToo same]
      by_contra late
      rw [undefined_of_not_keptFirst controller returns late throws] at check
      cases check
    · intro inPlace
      exact usable_of_keptFirst controller returns
        (inPlace called thrower later what rfl returns throws) throws

/-! ## The steps of the controller -/

/-- What the loop of the removal does with one topic. -/
inductive LoopStep (result index : Nat) (topic : Stream.Topic Dest)
    (controller next : StreamController Dest) : Prop where
  | threw {what : String}
      (answer : topic.isDone = .error what)
      (streamers : next.streamers = controller.streamers)
      (hasError : next.hasError = true)
      (worker :
        next.executor.worker = .running (.storeError (streamError what)))
  | removed
      (answer : topic.isDone = .ok true)
      (streamers : next.streamers = controller.streamers)
      (worker :
        next.executor.worker =
          .running (.checkingStreams result (index + 1)))
  | kept
      (answer : topic.isDone = .ok false)
      (streamers :
        next.streamers =
          if result = index then controller.streamers
          else moveTo controller.streamers result index topic)
      (worker :
        next.executor.worker =
          .running (.checkingStreams (result + 1) (index + 1)))

/-- Each turn of the loop is a step of the controller. -/
theorem loopStep_of_checking
    (context : MessageContext) {controller : StreamController Dest}
    {result index : Nat} {topic : Stream.Topic Dest}
    (checking :
      controller.executor.worker = .running (.checkingStreams result index))
    (behind : result ≤ index) (none_retired : controller.retired = [])
    (here : controller.streamers[index]? = some (some topic)) :
    ∃ next,
      StreamController.Step context controller .other next ∧
        LoopStep result index topic controller next := by
  cases failed : topic.hasError with
  | true =>
      have answer : topic.isDone = .error topic.errorMessage := by
        rw [Stream.Topic.isDone, failed, if_pos rfl]
      exact ⟨_, .streamThrows checking none_retired here failed,
        .threw answer rfl rfl rfl⟩
  | false =>
      have answer : topic.isDone = .ok topic.isDoneFlag := by
        rw [Stream.Topic.isDone, failed, if_neg Bool.false_ne_true]
      cases done : topic.isDoneFlag with
      | true =>
          rw [done] at answer
          exact ⟨_, .streamDone checking none_retired here failed done,
            .removed answer rfl rfl⟩
      | false =>
          rw [done] at answer
          by_cases same : result = index
          · subst same
            exact ⟨_, .keepStream checking none_retired here failed done,
              .kept answer (if_pos rfl).symm rfl⟩
          · have before : result < index := Nat.lt_of_le_of_ne behind same
            have inside : result < controller.streamers.length :=
              Nat.lt_trans before (List.getElem?_eq_some_iff.mp here).1
            exact ⟨_,
              .moveStream checking none_retired before here
                (List.getElem?_eq_getElem inside) failed done,
              .kept answer (if_neg same).symm rfl⟩

/-! ## A topic that is kept behind one that is done -/

/-- The first topic is done, the second one is not and the third one throws. -/
def sampleIsDone : Nat → Except String Bool
  | 0 => .ok true
  | 1 => .ok false
  | _ => .error "Unable to find topic."

/-- The second pointer is null when the handler calls `stop`. -/
theorem null_pointer_after_throw :
    ¬∃ after,
      ({ streamers := [] } : Controller Nat).checkTopics sampleIsDone
          [0, 1, 2] = some after ∧
        Usable sampleIsDone [0, 1, 2] { streamers := [] } after := by
  rintro ⟨after, check, _⟩
  cases check

end KafkaToNexus.FinishedStreams
