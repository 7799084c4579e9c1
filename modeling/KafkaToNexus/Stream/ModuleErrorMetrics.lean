import KafkaToNexus.Stream.WriteJobs

/-!
# The metrics of failing writer modules

The handler of a `WriterException` registers a metric for each source of
failing messages.  It looks for the counter of the source first, by the hash
of its name and schema id.  Two sources with the same metric name are the
same source, because a schema id has four characters; and the underscore
before the id tells these metrics from those of the other components.  The
registration therefore never throws.
-/

namespace KafkaToNexus.Stream

open KafkaToNexus
open KafkaToNexus.Foundations
open KafkaToNexus.Foundations.ProducerQueue
open KafkaToNexus.Metrics
open KafkaToNexus.Metrics.Registrar

variable {Thread Dest Job : Type*}

/-! ## Names -/

/-- A name without an underscore before its last four characters. -/
def PlainName (name : String) : Prop :=
  fromEnd name 4 ≠ some '_'

theorem plainName_prependPrefix
    {registrar : Registrar} {name : String}
    (long : 4 < name.length) (plain : PlainName name) :
    PlainName (registrar.prependPrefix name) := by
  unfold PlainName
  rw [fromEnd_prependPrefix registrar name long]
  exact plain

theorem plainName_otherMetric
    {fullName : String} (other : OtherMetric fullName) :
    PlainName fullName := by
  have listed :
      ∀ name ∈ otherMetricNames,
        4 < name.length ∧ fromEnd name 4 ≠ some '_' := by
    decide
  rcases other with ⟨registrar, name, member, rfl⟩
  exact plainName_prependPrefix (listed name member).1 (listed name member).2

/-- The characters of the name of a module's metric. -/
theorem toList_moduleErrorName (msg : FlatbufferMessage) :
    (moduleErrorName msg).toList =
      ("error_".toList ++ msg.sourcename.toList) ++ '_' :: msg.id.toList := by
  simp [moduleErrorName]

theorem moduleErrorName_ne_empty (msg : FlatbufferMessage) :
    moduleErrorName msg ≠ "" := by
  intro empty
  have chars := congrArg String.toList empty
  rw [toList_moduleErrorName] at chars
  exact absurd chars (by simp)

theorem fromEnd_moduleErrorName
    {msg : FlatbufferMessage} (id : msg.id.length = 4) :
    fromEnd (moduleErrorName msg) 4 = some '_' := by
  have four : msg.id.toList.reverse.length = 4 := by
    rw [List.length_reverse, String.length_toList]
    exact id
  unfold fromEnd
  rw [toList_moduleErrorName, List.reverse_append, List.reverse_cons,
    List.append_assoc, List.getElem?_append_right (Nat.le_of_eq four), four]
  rfl

theorem moduleErrorName_not_plain
    {registrar : Registrar} {msg : FlatbufferMessage}
    (id : msg.id.length = 4) :
    ¬PlainName (registrar.prependPrefix (moduleErrorName msg)) := by
  intro plain
  apply plain
  rw [fromEnd_prependPrefix]
  · exact fromEnd_moduleErrorName id
  · rw [← String.length_toList, toList_moduleErrorName, List.length_append,
      List.length_cons, String.length_toList, id]
    exact Nat.lt_of_lt_of_le (by decide) (Nat.le_add_left 5 _)

/-- Sources with one metric have one name and one schema id. -/
theorem moduleErrorName_injective
    {first second : FlatbufferMessage}
    (firstId : first.id.length = 4) (secondId : second.id.length = 4)
    (same : moduleErrorName first = moduleErrorName second) :
    first.sourcename = second.sourcename ∧ first.id = second.id := by
  have chars := congrArg String.toList same
  rw [toList_moduleErrorName, toList_moduleErrorName] at chars
  have ends :=
    List.append_inj' chars (by
      rw [List.length_cons, List.length_cons, String.length_toList,
        String.length_toList, firstId, secondId])
  constructor
  · exact String.ext (List.append_cancel_left ends.1)
  · exact String.ext (List.cons.inj ends.2).2

namespace JobWriter

variable {context : MessageContext}
variable {writer next : JobWriter Thread Dest Job}
variable {label : JobLabel Thread Dest Job}

/-! ## The messages in the hands of the writer -/

/-- The message that the writer thread is writing or has failed to write. -/
def messageInHand : JobPoint Thread Dest Job → Option (Message Dest)
  | .running ⟨_, .writeMsg message⟩ _ _ => some message
  | .handling message _ _ => some message
  | _ => none

@[simp]
theorem messageInHand_afterJob (counter : Nat) (afterLoop : Bool) :
    messageInHand
      (afterJob counter afterLoop : JobPoint Thread Dest Job) = none := by
  unfold afterJob
  split <;> rfl

/-- All messages of the writer were built by the constructor. -/
structure HandsConstructed
    (context : MessageContext) (writer : JobWriter Thread Dest Job) :
    Prop where
  queued :
    ∀ caller message, ⟨caller, .writeMsg message⟩ ∈ writer.writeJobs →
      FlatbufferMessage.Constructed context message.fbMsg
  inHand :
    ∀ message, messageInHand writer.point = some message →
      FlatbufferMessage.Constructed context message.fbMsg

/-- The thread has moved to a point without a message. -/
theorem HandsConstructed.moved
    (constructed : HandsConstructed context writer)
    (same : next.writeJobs = writer.writeJobs)
    (empty : messageInHand next.point = none) :
    HandsConstructed context next := by
  constructor
  · rw [same]
    exact constructed.queued
  · intro message found
    rw [empty] at found
    cases found

theorem HandsConstructed.addJob
    {caller : Thread} {job : WriteJob Dest Job}
    (constructed : HandsConstructed context writer)
    (added :
      ∀ message, job = .writeMsg message →
        FlatbufferMessage.Constructed context message.fbMsg) :
    HandsConstructed context (writer.addJob caller job) := by
  refine ⟨?_, constructed.inHand⟩
  intro producer message member
  rcases List.mem_append.mp member with old | new
  · exact constructed.queued producer message old
  · rw [List.mem_singleton, Entry.mk.injEq] at new
    exact added message new.2.symm

theorem HandsConstructed.wrote
    {message : Message Dest} {outcome : WriteOutcome} {counter : Nat}
    {afterLoop : Bool}
    (constructed : HandsConstructed context writer)
    (inHand : messageInHand writer.point = some message) :
    HandsConstructed context
      (writer.wrote message outcome counter afterLoop) := by
  cases outcome with
  | returned => exact constructed.moved rfl (messageInHand_afterJob _ _)
  | writerException =>
      refine ⟨constructed.queued, ?_⟩
      rintro _ ⟨⟩
      exact constructed.inHand message inHand
  | stdException => exact constructed.moved rfl (messageInHand_afterJob _ _)

theorem HandsConstructed.dequeue
    {entry : Entry Thread (WriteJob Dest Job)}
    {rest : Queue Thread (WriteJob Dest Job)}
    {counter : Nat} {afterLoop : Bool}
    (constructed : HandsConstructed context writer)
    (dequeued : Dequeue writer.writeJobs entry rest) :
    HandsConstructed context
      { writer with
        writeJobs := rest
        point := .running entry counter afterLoop } := by
  constructor
  · intro caller message member
    exact constructed.queued caller message (dequeued.mem_of_rest member)
  · intro message found
    rcases entry with ⟨caller, job⟩
    cases job with
    | run job => cases found
    | writeMsg written =>
        cases found
        exact constructed.queued caller message dequeued.mem

/-! ## The names that are registered -/

/--
Every registered name is one without the underscore, or the metric of a source
that has its counter.
-/
structure NamesCounted
    (context : MessageContext) (writer : JobWriter Thread Dest Job) :
    Prop where
  unknown :
    (writer.moduleErrorCounters (unknownModuleHash context)).isSome = true
  names :
    ∀ name ∈ writer.reporters .logMsg,
      PlainName name ∨
        ∃ msg : FlatbufferMessage,
          msg.id.length = 4 ∧
            name = writer.registrar.prependPrefix (moduleErrorName msg) ∧
              (writer.moduleErrorCounters
                (generateSrcHash context msg.sourcename msg.id)).isSome =
                  true

/-- Names and counters that were there before, and names of other components. -/
theorem NamesCounted.of_names
    {reporters : Reporters}
    (counted : NamesCounted context writer)
    (gained :
      ∀ name ∈ reporters .logMsg,
        PlainName name ∨ name ∈ writer.reporters .logMsg) :
    NamesCounted context { writer with reporters } := by
  refine ⟨counted.unknown, ?_⟩
  intro name member
  rcases gained name member with plain | old
  · exact Or.inl plain
  · exact counted.names name old

/-- Counting an error leaves the counters that exist. -/
theorem isSome_countModuleError (usedHash hash : UInt64) :
    ((writer.countModuleError usedHash).moduleErrorCounters hash).isSome =
      (writer.moduleErrorCounters hash).isSome := by
  by_cases same : hash = usedHash
  · subst same
    simp [countModuleError]
  · simp [countModuleError, Function.update_of_ne same]

theorem NamesCounted.countModuleError
    (counted : NamesCounted context writer) (usedHash : UInt64) :
    NamesCounted context (writer.countModuleError usedHash) := by
  constructor
  · rw [isSome_countModuleError]
    exact counted.unknown
  · intro name member
    rcases counted.names name member with plain | ⟨msg, id, named, counter⟩
    · exact Or.inl plain
    · refine Or.inr ⟨msg, id, named, ?_⟩
      rw [isSome_countModuleError]
      exact counter

theorem NamesCounted.addModuleErrorCounter
    {msg : FlatbufferMessage} {reporters : Reporters}
    (counted : NamesCounted context writer) (id : msg.id.length = 4)
    (registered :
      writer.registrar.registerMetric (moduleErrorName msg) [.logMsg]
        writer.reporters = .ok reporters) :
    NamesCounted context
      (writer.addModuleErrorCounter
        (generateSrcHash context msg.sourcename msg.id) reporters) := by
  have kept (hash : UInt64)
      (exists_ : (writer.moduleErrorCounters hash).isSome = true) :
      ((writer.addModuleErrorCounter
          (generateSrcHash context msg.sourcename msg.id)
          reporters).moduleErrorCounters hash).isSome = true := by
    by_cases same : hash = generateSrcHash context msg.sourcename msg.id
    · subst same
      simp [JobWriter.addModuleErrorCounter]
    · simp [JobWriter.addModuleErrorCounter, Function.update_of_ne same,
        exists_]
  constructor
  · exact kept _ counted.unknown
  · intro name member
    rcases gained_of_registerMetric registered .logMsg member with
      ⟨_, new⟩ | old
    · refine Or.inr ⟨msg, id, new, ?_⟩
      simp [JobWriter.addModuleErrorCounter]
    · rcases counted.names name old with plain | ⟨known, four, named, counter⟩
      · exact Or.inl plain
      · exact Or.inr ⟨known, four, named, kept _ counter⟩

/-- The name of a source without a counter is not taken. -/
theorem NamesCounted.not_mem
    {msg : FlatbufferMessage}
    (counted : NamesCounted context writer) (id : msg.id.length = 4)
    (missing :
      writer.moduleErrorCounters
        (generateSrcHash context msg.sourcename msg.id) = none) :
    writer.registrar.prependPrefix (moduleErrorName msg) ∉
      writer.reporters .logMsg := by
  intro member
  rcases counted.names _ member with plain | ⟨known, four, named, counter⟩
  · exact moduleErrorName_not_plain id plain
  · have same :=
      moduleErrorName_injective id four (prependPrefix_injective _ named)
    rw [← same.1, ← same.2, missing] at counter
    cases counter

/-- The handler succeeds and leaves the names counted. -/
theorem NamesCounted.handleWriterException
    {msg : FlatbufferMessage}
    (counted : NamesCounted context writer)
    (constructed : FlatbufferMessage.Constructed context msg) :
    ∃ handled,
      writer.handleWriterException context msg = .ok handled ∧
        NamesCounted context handled := by
  unfold JobWriter.handleWriterException
  split
  · rename_i valid
    have id := constructed.length_id valid
    dsimp only
    split
    · exact ⟨_, rfl, counted.countModuleError _⟩
    · rename_i missing
      have absent :
          ∀ sink ∈ [LogTo.logMsg],
            writer.registrar.prependPrefix (moduleErrorName msg) ∉
              writer.reporters sink := by
        intro sink member
        rw [List.mem_singleton.mp member]
        exact counted.not_mem id missing
      rcases registerMetric_ok (moduleErrorName_ne_empty msg) absent with
        ⟨reporters, registered⟩
      rw [registered]
      have added := counted.addModuleErrorCounter id registered
      exact ⟨_, rfl, added.countModuleError _⟩
  · exact ⟨_, rfl, counted.countModuleError _⟩

/-! ## Every step keeps the names counted -/

/-- What keeps the handler from throwing. -/
structure Registrable
    (context : MessageContext) (writer : JobWriter Thread Dest Job) :
    Prop where
  constructed : HandsConstructed context writer
  counted : NamesCounted context writer
  notThrown :
    ∀ thrown, writer.point ≠ .terminated (.registerMetric thrown)

theorem Registrable.goTo
    {point : JobPoint Thread Dest Job}
    (registrable : Registrable context writer)
    (empty : messageInHand point = none)
    (alive : ∀ thrown, point ≠ .terminated (.registerMetric thrown)) :
    Registrable context (writer.goTo point) where
  constructed := registrable.constructed.moved rfl empty
  counted := ⟨registrable.counted.unknown, registrable.counted.names⟩
  notThrown := alive

theorem afterJob_ne_terminated
    (counter : Nat) (afterLoop : Bool) (thrower : Thrower) :
    (afterJob counter afterLoop : JobPoint Thread Dest Job) ≠
      .terminated thrower := by
  unfold afterJob
  split <;> nofun

theorem Registrable.wrote
    {message : Message Dest} {outcome : WriteOutcome} {counter : Nat}
    {afterLoop : Bool}
    (registrable : Registrable context writer)
    (inHand : messageInHand writer.point = some message) :
    Registrable context
      (writer.wrote message outcome counter afterLoop) := by
  refine ⟨registrable.constructed.wrote inHand, ?_, ?_⟩
  · cases outcome <;>
      exact ⟨registrable.counted.unknown, registrable.counted.names⟩
  · intro thrown
    cases outcome with
    | returned => exact afterJob_ne_terminated _ _ _
    | writerException => nofun
    | stdException => exact afterJob_ne_terminated _ _ _

theorem Step.registrable
    (taken : Step context writer label next)
    (registrable : Registrable context writer) :
    Registrable context next := by
  have counted := registrable.counted
  cases taken with
  | addMessage caller message built =>
      refine
        ⟨registrable.constructed.addJob ?_,
          ⟨counted.unknown, counted.names⟩, registrable.notThrown⟩
      rintro _ ⟨⟩
      exact built
  | runJob caller job =>
      exact
        ⟨registrable.constructed.addJob nofun,
          ⟨counted.unknown, counted.names⟩, registrable.notThrown⟩
  | stop =>
      exact
        ⟨⟨registrable.constructed.queued, registrable.constructed.inHand⟩,
          ⟨counted.unknown, counted.names⟩, registrable.notThrown⟩
  | @registerOther name sink names other added =>
      refine
        ⟨⟨registrable.constructed.queued, registrable.constructed.inHand⟩,
          counted.of_names ?_, registrable.notThrown⟩
      intro registered member
      by_cases log : LogTo.logMsg = sink
      · subst log
        rw [Function.update_self, addMetric_eq_some added] at member
        rcases List.mem_cons.mp member with rfl | old
        · exact Or.inl (plainName_otherMetric other)
        · exact Or.inr old
      · rw [Function.update_of_ne log] at member
        exact Or.inr member
  | removeOther sink other =>
      refine
        ⟨⟨registrable.constructed.queued, registrable.constructed.inHand⟩,
          counted.of_names ?_, registrable.notThrown⟩
      intro registered member
      by_cases log : LogTo.logMsg = sink
      · subst log
        rw [Function.update_self] at member
        exact Or.inr (List.mem_filter.mp member).1
      · rw [Function.update_of_ne log] at member
        exact Or.inr member
  | dequeue _ dequeued =>
      exact
        ⟨registrable.constructed.dequeue dequeued,
          ⟨counted.unknown, counted.names⟩, nofun⟩
  | wrote outcome point =>
      apply registrable.wrote
      rw [point]
      rfl
  | @handled handled message _ _ point success =>
      have built :=
        registrable.constructed.inHand message (by rw [point]; rfl)
      rcases counted.handleWriterException built with ⟨result, same, after⟩
      obtain rfl : handled = result :=
        Except.ok.inj (success.symm.trans same)
      have same := sameJobs_handleWriterException success
      refine ⟨?_, ⟨after.unknown, after.names⟩, ?_⟩
      · exact registrable.constructed.moved same.writeJobs
          (messageInHand_afterJob _ _)
      · exact fun _ => afterJob_ne_terminated _ _ _
  | @handlerThrows message _ _ _ point failure =>
      have built :=
        registrable.constructed.inHand message (by rw [point]; rfl)
      rcases counted.handleWriterException built with ⟨_, same, _⟩
      rw [same] at failure
      cases failure
  | ran _ =>
      exact registrable.goTo (messageInHand_afterJob _ _)
        fun _ => afterJob_ne_terminated _ _ _
  | runThrows _ => exact registrable.goTo rfl nofun
  | enterLoop _ _ => exact registrable.goTo rfl nofun
  | leaveLoop _ _ => exact registrable.goTo rfl nofun
  | flushedJobs _ => exact registrable.goTo rfl nofun
  | flushJobsThrows _ => exact registrable.goTo rfl nofun
  | written _ _ => exact registrable.goTo rfl nofun
  | flushed _ => exact registrable.goTo rfl nofun
  | flushThrows _ => exact registrable.goTo rfl nofun
  | drained _ _ => exact registrable.goTo rfl nofun
  | breakLoop _ _ => exact registrable.goTo rfl nofun
  | sleep _ _ => exact registrable.goTo rfl nofun
  | wake _ => exact registrable.goTo rfl nofun

/-! ## Runs -/

/-- The metrics that the constructor registers for log messages. -/
def ownMetricNames : List String :=
  ["write_errors", "error_unknown"]

theorem mem_of_registerMetrics
    {registrar : Registrar} {reporters result : Reporters}
    (success : registerMetrics registrar reporters = .ok result)
    {name : String} (member : name ∈ result .logMsg) :
    (∃ own ∈ ownMetricNames, name = registrar.prependPrefix own) ∨
      name ∈ reporters .logMsg := by
  simp only [registerMetrics, bind, Except.bind] at success
  split at success
  · cases success
  · rename_i first done
    split at success
    · cases success
    · rename_i second errors
      split at success
      · cases success
      · rename_i third queued
        rcases gained_of_registerMetric success .logMsg member with
          ⟨_, own⟩ | member
        · exact Or.inl ⟨_, by decide, own⟩
        rcases gained_of_registerMetric queued .logMsg member with
          ⟨chosen, _⟩ | member
        · cases List.mem_singleton.mp chosen
        rcases gained_of_registerMetric errors .logMsg member with
          ⟨_, own⟩ | member
        · exact Or.inl ⟨_, by decide, own⟩
        rcases gained_of_registerMetric done .logMsg member with
          ⟨chosen, _⟩ | member
        · cases List.mem_singleton.mp chosen
        · exact Or.inr member

theorem plainName_ownMetric
    {registrar : Registrar} {own : String} (member : own ∈ ownMetricNames) :
    PlainName (registrar.prependPrefix own) := by
  have listed :
      ∀ name ∈ ownMetricNames,
        4 < name.length ∧ fromEnd name 4 ≠ some '_' := by
    decide
  exact plainName_prependPrefix (listed own member).1 (listed own member).2

/-- What a successful constructor leaves. -/
theorem create_ok
    {metricReg : Registrar} {reporters : Reporters}
    (created : create context metricReg reporters = .ok writer) :
    ∃ result,
      registerMetrics (metricReg.getNewRegistrar "writer") reporters =
          .ok result ∧
        writer =
          { registrar := metricReg.getNewRegistrar "writer"
            reporters := result
            moduleErrorCounters :=
              Function.update (fun _ => none) (unknownModuleHash context)
                (some 0) } := by
  unfold create at created
  dsimp only at created
  split at created
  · cases created
  · rename_i result registered
    exact ⟨result, registered, (Except.ok.inj created).symm⟩

theorem registrable_create
    {metricReg : Registrar} {reporters : Reporters}
    (others : ∀ name ∈ reporters .logMsg, OtherMetric name)
    (created : create context metricReg reporters = .ok writer) :
    Registrable context writer := by
  rcases create_ok created with ⟨result, registered, rfl⟩
  refine ⟨⟨?_, nofun⟩, ⟨?_, ?_⟩, nofun⟩
  · intro caller message member
    exact absurd member List.not_mem_nil
  · simp
  · intro name member
    left
    rcases mem_of_registerMetrics registered member with
      ⟨own, listed, rfl⟩ | old
    · exact plainName_ownMetric listed
    · exact plainName_otherMetric (others name old)

/-- The handler never throws. -/
theorem run_registrable
    {metricReg : Registrar} {reporters : Reporters}
    {final : JobWriter Thread Dest Job}
    {trace : List (JobLabel Thread Dest Job)}
    (others : ∀ name ∈ reporters .logMsg, OtherMetric name)
    (created : create context metricReg reporters = .ok writer)
    (run : Execution (Step context) writer trace final) :
    Registrable context final :=
  run.invariant (Registrable context) (registrable_create others created)
    fun _ _ _ registrable taken => taken.registrable registrable

end JobWriter

end KafkaToNexus.Stream
