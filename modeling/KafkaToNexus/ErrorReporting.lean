import KafkaToNexus.Foundations.Execution
import KafkaToNexus.Foundations.Publication
import KafkaToNexus.Service
import KafkaToNexus.StreamController

/-!
# How the reason of a failure comes to the user

A topic that gives up sets its flag and then stores its message.  The executor
of the stream controller asks the topics whether they are done; `isDone` loads
the flag and, if it is set, throws the message.  The handler of the exception
sets the flag of the controller and then stores its message; `initStreams`
stores the message first.  The main thread asks for the flag and, if it is set,
for the message, which it sends to the user.

Every load or store of a flag is one step here, and so is every access to a
message inside the section that a mutex guards.  Topics that are done, and the
order in which the executor asks them, do not matter for what is reported.
-/

namespace KafkaToNexus

open KafkaToNexus.Foundations
open KafkaToNexus.Stream

variable {Dest : Type*}

namespace ErrorReporting

/-- Where the thread of the controller's executor is. -/
inductive ExecutorPoint where
  | idle
  /-- In `isDone` of a topic, after the flag was seen. -/
  | isDone (index : Nat)
  /-- In the handler, before the flag of the controller is set. -/
  | caught (what : String)
  /-- In the handler, after the flag was set. -/
  | storingError
  /-- In the guarded section of `initStreams`. -/
  | initStreams
deriving DecidableEq, Repr

/-- Where the main thread is in `setToIdle`. -/
inductive MasterPoint where
  | outside
  /-- After `hasErrorState` has returned true. -/
  | sawError
deriving DecidableEq, Repr

end ErrorReporting

/-- The flags and messages of a job, and the threads that use them. -/
structure ErrorReporting where
  topics : List (Publication String) := []
  controller : Publication String := { value := "" }
  executor : ErrorReporting.ExecutorPoint := .idle
  main : ErrorReporting.MasterPoint := .outside
deriving DecidableEq, Repr

namespace ErrorReporting

inductive Label where
  | topic (index : Nat)
  /-- `isDone` of a topic sees the flag. -/
  | isDone (index : Nat)
  /-- `isDone` of a topic throws an exception with a text. -/
  | isDoneThrows (index : Nat) (text : String)
  | checkIfStreamsAreDone
  | initStreams
  | hasErrorState (flag : Bool)
  | errorMessage (text : String)
deriving DecidableEq, Repr

/-- The text that the handler makes of that of an exception. -/
def streamError (what : String) : String :=
  "Got stream error. The error message was: " ++ what

/-- A topic has taken a step. -/
def setTopic
    (state : ErrorReporting) (index : Nat) (topic : Publication String) :
    ErrorReporting :=
  { state with topics := state.topics.set index topic }

def executorAt
    (state : ErrorReporting) (executor : ExecutorPoint) : ErrorReporting :=
  { state with executor }

def withController
    (state : ErrorReporting) (controller : Publication String) :
    ErrorReporting :=
  { state with controller }

/--
What the threads of a job with given sources do: `setErrorState` of a topic,
`checkIfStreamsAreDone` and `initStreams` of the controller, and `setToIdle`
of the master, which is called again when its message is not sent.  Both
callers of `setErrorState` pass a text of their own with that of the broker.
-/
inductive Step (sources : List (Source Dest)) :
    ErrorReporting → Label → ErrorReporting → Prop where
  | setErrorState {state : ErrorReporting} {index : Nat}
      {topic : Publication String} {msg : String} :
      state.topics[index]? = some topic →
      topic.point = .idle →
      msg ≠ "" →
      Step sources state (.topic index) (state.setTopic index (topic.raise msg))
  | storeErrorMessage {state : ErrorReporting} {index : Nat}
      {topic : Publication String} {msg : String} :
      state.topics[index]? = some topic →
      topic.point = .flagged msg →
      Step sources state (.topic index) (state.setTopic index (topic.store msg))
  | unlockErrorMessage {state : ErrorReporting} {index : Nat}
      {topic : Publication String} :
      state.topics[index]? = some topic →
      topic.point = .holding →
      Step sources state (.topic index) (state.setTopic index topic.release)
  | isDone {state : ErrorReporting} {index : Nat}
      {topic : Publication String} :
      state.executor = .idle →
      state.topics[index]? = some topic →
      topic.flag = true →
      Step sources state (.isDone index) (state.executorAt (.isDone index))
  | isDoneThrows {state : ErrorReporting} {index : Nat}
      {topic : Publication String} :
      state.executor = .isDone index →
      state.topics[index]? = some topic →
      topic.locked = false →
      Step sources state (.isDoneThrows index topic.value)
        (state.executorAt (.caught topic.value))
  | flagStreamError {state : ErrorReporting} {what : String} :
      state.executor = .caught what →
      state.controller.point = .idle →
      Step sources state .checkIfStreamsAreDone
        ((state.withController
          (state.controller.raise (streamError what))).executorAt
            .storingError)
  | storeStreamError {state : ErrorReporting} {text : String} :
      state.executor = .storingError →
      state.controller.point = .flagged text →
      Step sources state .checkIfStreamsAreDone
        (state.withController (state.controller.store text))
  /-- The handler calls `stop` before it unlocks the mutex. -/
  | unlockStreamError {state : ErrorReporting} :
      state.executor = .storingError →
      state.controller.point = .holding →
      Step sources state .checkIfStreamsAreDone
        ((state.withController state.controller.release).executorAt .idle)
  | createTopic {state : ErrorReporting} :
      state.executor = .idle →
      Step sources state .initStreams
        { state with topics := state.topics ++ [{ value := "" }] }
  | storeTopicsError {state : ErrorReporting} {knownTopicNames : List String} :
      state.executor = .idle →
      state.controller.point = .idle →
      StreamController.getTopicsErrorString sources knownTopicNames ≠ "" →
      Step sources state .initStreams
        ((state.withController
          (state.controller.storeFirst
            (StreamController.getTopicsErrorString sources
              knownTopicNames))).executorAt .initStreams)
  | flagTopicsError {state : ErrorReporting} :
      state.executor = .initStreams →
      state.controller.point = .stored →
      Step sources state .initStreams
        (state.withController state.controller.raiseLast)
  | unlockTopicsError {state : ErrorReporting} :
      state.executor = .initStreams →
      state.controller.point = .holding →
      Step sources state .initStreams
        ((state.withController state.controller.release).executorAt .idle)
  | hasErrorState {state : ErrorReporting} :
      state.main = .outside →
      Step sources state (.hasErrorState state.controller.flag)
        { state with
          main := if state.controller.flag then .sawError else .outside }
  | errorMessage {state : ErrorReporting} :
      state.main = .sawError →
      state.controller.locked = false →
      Step sources state (.errorMessage state.controller.value)
        { state with main := .outside }

/-- The text gives the complete reason of a failure. -/
inductive Reason
    (sources : List (Source Dest)) (state : ErrorReporting) (text : String) :
    Prop where
  | missingTopics {knownTopicNames : List String} :
      text = StreamController.getTopicsErrorString sources knownTopicNames →
      text ≠ "" →
      Reason sources state text
  | topicFailed {topic : Publication String} {msg : String} :
      topic ∈ state.topics →
      msg ∈ topic.passed →
      text = streamError msg →
      Reason sources state text

/-- What the steps of a run have read was complete. -/
structure ReadsComplete
    (sources : List (Source Dest)) (trace : List Label)
    (state : ErrorReporting) : Prop where
  isDone :
    ∀ index text, .isDoneThrows index text ∈ trace →
      ∃ topic, state.topics[index]? = some topic ∧ text ∈ topic.passed
  errorMessage :
    ∀ text, .errorMessage text ∈ trace → Reason sources state text
  /-- The message about the job carries the reason. -/
  sent :
    ∀ text, .errorMessage text ∈ trace →
      ∀ (handler : Command.Handler) (jobId fileName metadata : String),
        Reason sources state
          (handler.sendErrorEncounteredMessage jobId fileName metadata
            text).description

/-- No text is read between the first store to its flag and its first store. -/
def Timely (state : ErrorReporting) : Label → Prop
  | .isDoneThrows index _ =>
      ∀ topic, state.topics[index]? = some topic → ¬ topic.Window
  | .errorMessage _ => ¬ state.controller.Window
  | _ => True

/-- A step that does not read a text too early. -/
structure TimelyStep
    (sources : List (Source Dest)) (state : ErrorReporting) (label : Label)
    (next : ErrorReporting) : Prop where
  step : Step sources state label next
  timely : Timely state label

variable {sources : List (Source Dest)} {state next : ErrorReporting}
  {label : Label} {trace : List Label}

/-! ## What holds in every run -/

/-- The flags and texts are sound, and those who go on have seen a flag. -/
structure AllSound (state : ErrorReporting) : Prop where
  topics : ∀ topic ∈ state.topics, topic.Sound ""
  controller : state.controller.Sound ""
  isDone :
    ∀ index topic, state.executor = .isDone index →
      state.topics[index]? = some topic → topic.flag = true
  sawError : state.main = .sawError → state.controller.flag = true

theorem allSound_new : AllSound {} := by
  constructor
  · nofun
  · exact Publication.sound_new ""
  · nofun
  · nofun

theorem AllSound.topic
    {index : Nat} {topic : Publication String}
    (sound : AllSound state) (found : state.topics[index]? = some topic) :
    topic.Sound "" :=
  sound.topics topic (List.mem_of_getElem? found)

/-- A topic has taken a step that keeps its flag. -/
theorem AllSound.setTopic
    {index : Nat} {topic after : Publication String}
    (sound : AllSound state)
    (found : state.topics[index]? = some topic)
    (kept : after.Sound "")
    (flag : topic.flag = true → after.flag = true) :
    AllSound (state.setTopic index after) := by
  constructor
  · intro other member
    rcases List.mem_or_eq_of_mem_set member with old | same
    · exact sound.topics other old
    · rw [same]
      exact kept
  · exact sound.controller
  · intro place other asked present
    rw [ErrorReporting.setTopic, List.getElem?_set] at present
    split at present
    · rename_i same
      subst same
      split at present
      · cases present
        exact flag (sound.isDone index topic asked found)
      · cases present
    · exact sound.isDone place other asked present
  · exact sound.sawError

/-- The controller's text has changed, and its flag is not cleared. -/
theorem AllSound.withController
    {after : Publication String}
    (sound : AllSound state)
    (kept : after.Sound "")
    (flag : state.controller.flag = true → after.flag = true) :
    AllSound (state.withController after) := by
  constructor
  · exact sound.topics
  · exact kept
  · exact sound.isDone
  · intro saw
    exact flag (sound.sawError saw)

/-- The executor goes to a point that is not in `isDone`. -/
theorem AllSound.executorAt
    {executor : ExecutorPoint}
    (sound : AllSound state) (elsewhere : ∀ index, executor ≠ .isDone index) :
    AllSound (state.executorAt executor) := by
  constructor
  · exact sound.topics
  · exact sound.controller
  · intro index topic asked
    exact absurd asked (elsewhere index)
  · exact sound.sawError

theorem streamError_ne_empty (what : String) : streamError what ≠ "" := by
  intro empty
  have parts := String.append_eq_empty_iff.mp empty
  exact absurd parts.1 (by decide)

theorem AllSound.step
    (sound : AllSound state) (taken : Step sources state label next) :
    AllSound next := by
  cases taken with
  | setErrorState found _ proper =>
      exact sound.setTopic found ((sound.topic found).raise proper) fun _ => rfl
  | storeErrorMessage found point =>
      exact sound.setTopic found ((sound.topic found).store point) id
  | unlockErrorMessage found point =>
      exact sound.setTopic found ((sound.topic found).release point) id
  | @isDone index topic _ found flag =>
      constructor
      · exact sound.topics
      · exact sound.controller
      · rintro place other ⟨⟩ present
        cases found.symm.trans present
        exact flag
      · exact sound.sawError
  | isDoneThrows _ _ _ => exact sound.executorAt fun _ => nofun
  | @flagStreamError what _ _ =>
      have changed :=
        sound.withController
          (sound.controller.raise (streamError_ne_empty what)) fun _ => rfl
      exact changed.executorAt fun _ => nofun
  | storeStreamError _ point =>
      exact sound.withController (sound.controller.store point) id
  | unlockStreamError _ point =>
      have changed := sound.withController (sound.controller.release point) id
      exact changed.executorAt fun _ => nofun
  | createTopic idle =>
      constructor
      · intro topic member
        rcases List.mem_append.mp member with old | new
        · exact sound.topics topic old
        · rw [List.mem_singleton.mp new]
          exact Publication.sound_new ""
      · exact sound.controller
      · intro index topic asked
        rw [show state.executor = .isDone index from asked] at idle
        cases idle
      · exact sound.sawError
  | storeTopicsError _ _ proper =>
      have changed :=
        sound.withController (sound.controller.storeFirst proper) id
      exact changed.executorAt fun _ => nofun
  | flagTopicsError _ point =>
      exact sound.withController (sound.controller.raiseLast point) fun _ => rfl
  | unlockTopicsError _ point =>
      have changed := sound.withController (sound.controller.release point) id
      exact changed.executorAt fun _ => nofun
  | hasErrorState _ =>
      constructor
      · exact sound.topics
      · exact sound.controller
      · exact sound.isDone
      · intro saw
        cases flag : state.controller.flag with
        | true => rfl
        | false => simp [flag] at saw
  | errorMessage _ _ =>
      exact ⟨sound.topics, sound.controller, sound.isDone, nofun⟩

/-! ## What grows in every run -/

/-- Topics stay in their places, and the texts that were passed are kept. -/
def Grows (state next : ErrorReporting) : Prop :=
  ∀ (index : Nat) (topic : Publication String),
    state.topics[index]? = some topic →
      ∃ later, next.topics[index]? = some later ∧
        ∀ text ∈ topic.passed, text ∈ later.passed

theorem grows_of_topics (same : next.topics = state.topics) :
    Grows state next := by
  intro index topic found
  exact ⟨topic, by rw [same]; exact found, fun _ => id⟩

theorem grows_setTopic
    {index : Nat} {topic after : Publication String}
    (found : state.topics[index]? = some topic)
    (kept : ∀ text ∈ topic.passed, text ∈ after.passed) :
    Grows state (state.setTopic index after) := by
  intro place other present
  rw [setTopic, List.getElem?_set]
  split
  · rename_i same
    subst same
    cases found.symm.trans present
    have inside := (List.getElem?_eq_some_iff.mp found).1
    rw [if_pos inside]
    exact ⟨after, rfl, kept⟩
  · exact ⟨other, present, fun _ => id⟩

theorem Step.grows (taken : Step sources state label next) :
    Grows state next := by
  cases taken with
  | setErrorState found _ _ =>
      exact grows_setTopic found fun _ => List.mem_append_left _
  | storeErrorMessage found _ => exact grows_setTopic found fun _ => id
  | unlockErrorMessage found _ => exact grows_setTopic found fun _ => id
  | createTopic _ =>
      intro index topic found
      have inside := (List.getElem?_eq_some_iff.mp found).1
      refine ⟨topic, ?_, fun _ => id⟩
      show (state.topics ++ _)[index]? = some topic
      rw [List.getElem?_append_left inside]
      exact found
  | _ => exact grows_of_topics rfl

theorem Reason.mono {text : String}
    (reason : Reason sources state text) (grows : Grows state next) :
    Reason sources next text := by
  cases reason with
  | missingTopics same proper => exact .missingTopics same proper
  | topicFailed member passed same =>
      rcases List.mem_iff_getElem?.mp member with ⟨index, found⟩
      rcases grows index _ found with ⟨later, present, kept⟩
      exact .topicFailed (List.mem_of_getElem? present) (kept _ passed) same

theorem Reason.ne_empty {text : String}
    (reason : Reason sources state text) : text ≠ "" := by
  cases reason with
  | missingTopics _ proper => exact proper
  | topicFailed _ _ same =>
      rw [same]
      exact streamError_ne_empty _

/-! ## What holds when no text is read too early -/

/-- The texts on their way to the user are complete. -/
structure Backed (sources : List (Source Dest)) (state : ErrorReporting) :
    Prop where
  caught :
    ∀ what, state.executor = .caught what →
      ∃ topic ∈ state.topics, what ∈ topic.passed
  passed : ∀ text ∈ state.controller.passed, Reason sources state text

/-- The step neither catches an exception nor passes a new text. -/
theorem Backed.keep
    (backed : Backed sources state)
    (grows : Grows state next)
    (executor :
      ∀ what, next.executor = .caught what → state.executor = .caught what)
    (passed : next.controller.passed = state.controller.passed) :
    Backed sources next := by
  constructor
  · intro what caught
    rcases backed.caught what (executor what caught) with
      ⟨topic, member, present⟩
    rcases List.mem_iff_getElem?.mp member with ⟨index, found⟩
    rcases grows index topic found with ⟨later, foundLater, kept⟩
    exact ⟨later, List.mem_of_getElem? foundLater, kept what present⟩
  · intro text member
    rw [passed] at member
    exact (backed.passed text member).mono grows

/-- A text that gives a reason is passed. -/
theorem Backed.pass {text : String}
    (backed : Backed sources state)
    (grows : Grows state next)
    (reason : Reason sources state text)
    (executor : ∀ what, next.executor ≠ .caught what)
    (passed : next.controller.passed = state.controller.passed ++ [text]) :
    Backed sources next := by
  constructor
  · intro what caught
    exact absurd caught (executor what)
  · intro other member
    rw [passed] at member
    rcases List.mem_append.mp member with old | new
    · exact (backed.passed other old).mono grows
    · rw [List.mem_singleton.mp new]
      exact reason.mono grows

/-- What `isDone` throws was passed to `setErrorState`. -/
theorem AllSound.thrown
    {index : Nat} {topic : Publication String}
    (sound : AllSound state)
    (asked : state.executor = .isDone index)
    (found : state.topics[index]? = some topic)
    (timely : ¬ topic.Window) :
    topic.value ∈ topic.passed :=
  (sound.topic found).read (sound.isDone index topic asked found) timely

theorem Backed.step
    (backed : Backed sources state) (sound : AllSound state)
    (taken : TimelyStep sources state label next) :
    Backed sources next := by
  rcases taken with ⟨taken, timely⟩
  have grows := taken.grows
  cases taken with
  | @isDoneThrows index topic asked found _ =>
      constructor
      · rintro what ⟨⟩
        exact ⟨topic, List.mem_of_getElem? found,
          sound.thrown asked found (timely topic found)⟩
      · intro text member
        exact (backed.passed text member).mono grows
  | @flagStreamError what caught _ =>
      rcases backed.caught what caught with ⟨topic, member, passed⟩
      exact backed.pass grows (.topicFailed member passed rfl)
        (fun _ => nofun) rfl
  | storeTopicsError _ _ proper =>
      exact backed.pass grows (.missingTopics rfl proper) (fun _ => nofun) rfl
  | isDone _ _ _ => exact backed.keep grows (fun _ => nofun) rfl
  | unlockStreamError _ _ => exact backed.keep grows (fun _ => nofun) rfl
  | unlockTopicsError _ _ => exact backed.keep grows (fun _ => nofun) rfl
  | _ => exact backed.keep grows (fun _ => id) rfl

/-! ## Runs -/

/-- What `errorMessage` returns is the description in the message. -/
theorem readsComplete_of
    (isDone :
      ∀ index text, .isDoneThrows index text ∈ trace →
        ∃ topic, state.topics[index]? = some topic ∧ text ∈ topic.passed)
    (errorMessage :
      ∀ text, .errorMessage text ∈ trace → Reason sources state text) :
    ReadsComplete sources trace state :=
  ⟨isDone, errorMessage, fun text member _ _ _ _ => errorMessage text member⟩

theorem ReadsComplete.mono
    (reads : ReadsComplete sources trace state) (grows : Grows state next) :
    ReadsComplete sources trace next := by
  apply readsComplete_of
  · intro index text member
    rcases reads.isDone index text member with ⟨topic, found, passed⟩
    rcases grows index topic found with ⟨later, foundLater, kept⟩
    exact ⟨later, foundLater, kept text passed⟩
  · intro text member
    exact (reads.errorMessage text member).mono grows

/-- The last step of a run reads a complete text, if it reads one. -/
theorem readsComplete_step
    (sound : AllSound state) (backed : Backed sources state)
    (taken : TimelyStep sources state label next) :
    ReadsComplete sources [label] next := by
  rcases taken with ⟨taken, timely⟩
  have grows := taken.grows
  apply readsComplete_of
  · intro index text member
    cases List.mem_singleton.mp member
    cases taken with
    | @isDoneThrows _ topic asked found _ =>
        exact ⟨topic, found, sound.thrown asked found (timely topic found)⟩
  · intro text member
    cases List.mem_singleton.mp member
    cases taken with
    | errorMessage saw _ =>
        have read := sound.controller.read (sound.sawError saw) timely
        exact (backed.passed _ read).mono grows

theorem readsComplete_append
    {first second : List Label}
    (before : ReadsComplete sources first state)
    (after : ReadsComplete sources second state) :
    ReadsComplete sources (first ++ second) state := by
  apply readsComplete_of
  · intro index text member
    rcases List.mem_append.mp member with old | new
    · exact before.isDone index text old
    · exact after.isDone index text new
  · intro text member
    rcases List.mem_append.mp member with old | new
    · exact before.errorMessage text old
    · exact after.errorMessage text new

/-- What is read is complete when no text is read too early. -/
theorem readsComplete_of_timely
    (run : Execution (TimelyStep sources) {} trace state) :
    ReadsComplete sources trace state := by
  have all :
      AllSound state ∧ Backed sources state ∧
        ReadsComplete sources trace state := by
    apply run.traceInvariant fun trace state =>
      AllSound state ∧ Backed sources state ∧
        ReadsComplete sources trace state
    · exact ⟨allSound_new, ⟨nofun, nofun⟩, readsComplete_of nofun nofun⟩
    · rintro labels state label next ⟨sound, backed, reads⟩ taken
      refine ⟨sound.step taken.step, backed.step sound taken, ?_⟩
      exact readsComplete_append (reads.mono taken.step.grows)
        (readsComplete_step sound backed taken)
  exact all.2.2

/-- The text that a step reads. -/
def Label.text : Label → Option String
  | .isDoneThrows _ text => some text
  | .errorMessage text => some text
  | _ => none

/-- A step that reads a text too early reads the empty one. -/
theorem timely_of_text
    (sound : AllSound state)
    (taken : Step sources state label next)
    (proper : label.text ≠ some "") :
    Timely state label := by
  cases taken with
  | @isDoneThrows index topic _ found _ =>
      intro other present window
      cases found.symm.trans present
      exact proper (congrArg some ((sound.topic found).read_window window))
  | errorMessage _ _ =>
      intro window
      exact proper (congrArg some (sound.controller.read_window window))
  | _ => trivial

/-- A run that reads no empty text reads none too early. -/
theorem timely_of_texts
    (run : Execution (Step sources) {} trace state)
    (proper : ∀ label ∈ trace, label.text ≠ some "") :
    AllSound state ∧ Execution (TimelyStep sources) {} trace state := by
  induction run with
  | refl => exact ⟨allSound_new, .refl⟩
  | @snoc trace state next label run taken induction =>
      rcases induction fun label member =>
        proper label (List.mem_append_left _ member) with ⟨sound, timely⟩
      have last : label.text ≠ some "" :=
        proper label (List.mem_append_right _ (List.mem_singleton_self label))
      exact ⟨sound.step taken,
        timely.snoc ⟨taken, timely_of_text sound taken last⟩⟩

/--
The texts that `isDone` throws and that `errorMessage` returns after the flag
was seen are complete if and only if none of them is read between the first
store to its flag and its own first store.
-/
theorem reads_complete_iff
    (run : Execution (Step sources) {} trace state) :
    ReadsComplete sources trace state ↔
      Execution (TimelyStep sources) {} trace state := by
  constructor
  · intro reads
    have sound : AllSound state :=
      run.invariant AllSound allSound_new fun _ _ _ sound taken =>
        sound.step taken
    apply And.right
    apply timely_of_texts run
    intro label member empty
    cases label with
    | isDoneThrows index text =>
        cases empty
        rcases reads.isDone index "" member with ⟨topic, found, passed⟩
        exact (sound.topic found).proper passed
    | errorMessage text =>
        cases empty
        exact (reads.errorMessage "" member).ne_empty rfl
    | _ => cases empty
  · exact readsComplete_of_timely

/-! ## A topic that gives up -/

/-- The first text that a broker's failure leads to. -/
def sampleMessage : String := "no answer"

/-- The topic has stored its message before it is asked. -/
theorem sample_reads_complete :
    ∃ trace state,
      Execution (Step ([] : List (Source Nat))) {} trace state ∧
        .errorMessage (streamError sampleMessage) ∈ trace ∧
        ReadsComplete ([] : List (Source Nat)) trace state := by
  have created : Execution (TimelyStep ([] : List (Source Nat))) {} _ _ :=
    Execution.refl.snoc ⟨.createTopic rfl, trivial⟩
  have flagged := created.snoc
    ⟨show Step _ _ (.topic 0) _ from
      .setErrorState rfl rfl (show sampleMessage ≠ "" by decide), trivial⟩
  have stored := flagged.snoc
    ⟨show Step _ _ (.topic 0) _ from .storeErrorMessage rfl rfl, trivial⟩
  have unlocked := stored.snoc
    ⟨show Step _ _ (.topic 0) _ from .unlockErrorMessage rfl rfl, trivial⟩
  have asked := unlocked.snoc
    ⟨show Step _ _ (.isDone 0) _ from .isDone rfl rfl rfl, trivial⟩
  have thrown := asked.snoc
    ⟨.isDoneThrows rfl rfl rfl, by
      rintro topic ⟨⟩ ⟨unpublished, _⟩
      cases unpublished⟩
  have caught := thrown.snoc ⟨.flagStreamError rfl rfl, trivial⟩
  have reported := caught.snoc ⟨.storeStreamError rfl rfl, trivial⟩
  have seen := reported.snoc ⟨.hasErrorState rfl, trivial⟩
  have stopped := seen.snoc ⟨.unlockStreamError rfl rfl, trivial⟩
  have sent := stopped.snoc
    ⟨.errorMessage rfl rfl, by
      rintro ⟨unpublished, _⟩
      cases unpublished⟩
  have steps {trace : List Label} {state : ErrorReporting}
      (run : Execution (TimelyStep ([] : List (Source Nat))) {} trace state) :
      Execution (Step ([] : List (Source Nat))) {} trace state := by
    induction run with
    | refl => exact .refl
    | snoc _ taken induction => exact induction.snoc taken.step
  refine ⟨_, _, steps sent, ?_, (reads_complete_iff (steps sent)).mpr sent⟩
  exact List.mem_append_right _ (List.mem_singleton_self _)

/--
The topic is asked, and the main thread asks for the message, right after the
flags were set.  The exception and the message to the user are empty.
-/
theorem texts_read_too_early :
    ∃ trace state,
      Execution (Step ([] : List (Source Nat))) {} trace state ∧
        .isDoneThrows 0 "" ∈ trace ∧
        .hasErrorState true ∈ trace ∧
        .errorMessage "" ∈ trace ∧
        ¬ ReadsComplete ([] : List (Source Nat)) trace state := by
  have created : Execution (Step ([] : List (Source Nat))) {} _ _ :=
    Execution.refl.snoc (.createTopic rfl)
  have flagged := created.snoc
    (show Step _ _ (.topic 0) _ from
      .setErrorState rfl rfl (show sampleMessage ≠ "" by decide))
  have asked := flagged.snoc
    (show Step _ _ (.isDone 0) _ from .isDone rfl rfl rfl)
  have thrown := asked.snoc (.isDoneThrows rfl rfl rfl)
  have caught := thrown.snoc (.flagStreamError rfl rfl)
  have seen := caught.snoc (.hasErrorState rfl)
  have sent := seen.snoc (.errorMessage rfl rfl)
  refine ⟨_, _, sent, by decide, by decide, by decide, ?_⟩
  intro reads
  exact (reads.errorMessage "" (by decide)).ne_empty rfl

/-! ## The topics of the controller -/

/-- What a step of a topic does to its flag and to its message. -/
inductive Publishes (topic next : Topic Dest) : Prop where
  | same :
      next.hasError = topic.hasError →
      next.errorMessage = topic.errorMessage →
      Publishes topic next
  | raised {msg : String} :
      msg ≠ "" →
      next.hasError = true →
      next.errorMessage = topic.errorMessage →
      next.executor.worker = .running (.storeErrorMessage msg) →
      Publishes topic next
  | stored {msg : String} :
      topic.executor.worker = .running (.storeErrorMessage msg) →
      next.hasError = topic.hasError →
      next.errorMessage = msg →
      Publishes topic next

theorem publishes_retryOrGiveUp
    (topic : Topic Dest) (reset : Bool) (task : TopicTask) (now : TimePoint)
    {msg : String} (proper : msg ≠ "") :
    Publishes topic ((topic.resetTimeOut reset).retryOrGiveUp task msg now) := by
  have kept : (topic.resetTimeOut reset).hasError = topic.hasError ∧
      (topic.resetTimeOut reset).errorMessage = topic.errorMessage := by
    cases reset <;> exact ⟨rfl, rfl⟩
  unfold Topic.retryOrGiveUp
  split
  · exact .raised proper rfl kept.2 rfl
  · exact .same kept.1 kept.2

/--
The topics of the controller's model publish their messages as those here do:
the flag first, with a text that is not empty, and then the message.
-/
theorem step_publishes
    {context : MessageContext} {calls : Nat} {topic next : Topic Dest}
    {label : TopicLabel Dest}
    (taken : Topic.Step context calls topic label next) :
    Publishes topic next := by
  have proper {front : String} (given : front ≠ "") (back : String) :
      front ++ back ≠ "" := by
    intro empty
    exact given (String.append_eq_empty_iff.mp empty).1
  cases taken with
  | @getPartitionsForTopic reset outcome now _ =>
      cases outcome with
      | found _ => cases reset <;> exact .same rfl rfl
      | metadataException what =>
          apply publishes_retryOrGiveUp
          exact proper (proper (proper (proper (by decide) _) _) _) _
  | @getOffsetsForPartitions reset _ outcome now _ =>
      cases outcome with
      | found _ => cases reset <;> exact .same rfl rfl
      | metadataException what =>
          apply publishes_retryOrGiveUp
          exact proper (proper (proper (proper (by decide) _) _) _) _
  | storeErrorMessage running => exact .stored running rfl rfl
  | _ => exact .same rfl rfl

end ErrorReporting

end KafkaToNexus
