import KafkaToNexus.Foundations.Execution
import KafkaToNexus.Foundations.Ownership

/-!
# The Kafka producer

`ProducerTopic::produce` allocates a message, hands it over to the Kafka
library and, when the library takes it, no longer owns it: the delivery
callback deletes it.  The callback is called by any thread that polls the
producer, so that it may run before the call that handed the message over has
gone on.

The threads that use one producer are modelled side by side, with the steps
of each in the order of the source.  The library answers a call as it likes,
reports every message that it took at most once, and only to a thread that
polls, and reads the payload until then.  The destructor runs when no thread
uses the producer any longer.
-/

namespace KafkaToNexus.Kafka

open KafkaToNexus.Foundations
open KafkaToNexus.Foundations.Ownership

/-! ## Messages and statistics -/

/-- The codes that `ProducerTopic::produce` tells apart. -/
inductive ErrorCode where
  | noError
  | queueFull
  | msgSizeTooLarge
  | other
deriving DecidableEq, Repr

/-- The copy of a buffer that is handed over, with its 32 bit size. -/
structure ProducerMessage where
  v : List UInt8
  size : Nat
deriving DecidableEq, Repr

/-- A new message, finalized. -/
def ProducerMessage.ofBuffer (msgData : List UInt8) : ProducerMessage where
  v := msgData
  size := msgData.length % 2 ^ 32

/-- What the library sends, from the pointer and the size it was given. -/
def ProducerMessage.payload (message : ProducerMessage) : List UInt8 :=
  message.v.take message.size

/-- The counters of `ProducerStats` and of `Producer`. -/
inductive Counter where
  | produced
  | produceFail
  | localQueueFull
  | produceCb
  | produceCbFail
  | pollServed
  | msgTooLarge
  | producedBytes
  | totalMessagesProduced
deriving DecidableEq, Repr

/-- The number of bits of a counter. -/
def Counter.width : Counter → Nat
  | .produceFail => 32
  | .localQueueFull => 32
  | _ => 64

structure ProducerStats where
  produced : Nat := 0
  produceFail : Nat := 0
  localQueueFull : Nat := 0
  produceCb : Nat := 0
  produceCbFail : Nat := 0
  pollServed : Nat := 0
  msgTooLarge : Nat := 0
  producedBytes : Nat := 0
  outQueue : Nat := 0
deriving DecidableEq, Repr

/-- The counter of a call that was answered with the given code. -/
def ErrorCode.counter : ErrorCode → Counter
  | .noError => .produced
  | .queueFull => .localQueueFull
  | .msgSizeTooLarge => .msgTooLarge
  | .other => .produceFail

/-- The counter of a delivery report. -/
def deliveryCounter (failed : Bool) : Counter :=
  if failed then .produceCbFail else .produceCb

/-! ## Threads -/

/-- What a thread does that polls the library. -/
inductive Serving where
  | waiting
  /-- `dr_cb` was called for a message. -/
  | called (message : Address) (failed : Bool)
  | counted (message : Address)
deriving DecidableEq, Repr

/-- The counters of an accepted call, in the order of their increments. -/
def acceptedCounters : List Counter :=
  [.produced, .producedBytes, .totalMessagesProduced]

/-- By how much a counter of an accepted call is incremented. -/
def increment (msgSize : Nat) : Counter → Nat
  | .producedBytes => msgSize
  | _ => 1

/-- Where a thread is that uses the producer. -/
inductive ThreadPoint where
  /-- In the poll before the message is handed over. -/
  | polling (message : Address) (msgSize : Nat) (serving : Serving)
  /-- The message was taken, and some counters are still to be incremented. -/
  | accepted (msgSize : Nat) (counters : List Counter)
  | rejected (message : Address) (code : ErrorCode)
  | logs (message : Address) (code : ErrorCode)
  /-- The message is destroyed at the end of the call. -/
  | cleansUp (message : Address)
  /-- In `Producer::poll`. -/
  | poll (serving : Serving)
  | addServed (eventsHandled outputQueueLength : Nat)
  | storeLength (outputQueueLength : Nat)
  /-- The destructor looks at the queue before one of its polls. -/
  | drain (iterations : Nat)
  | drainPoll (iterations : Nat) (serving : Serving)
deriving DecidableEq, Repr

/-- How a thread serves the callbacks when it polls. -/
def ThreadPoint.serving? : ThreadPoint → Option Serving
  | .polling _ _ serving => some serving
  | .poll serving => some serving
  | .drainPoll _ serving => some serving
  | _ => none

def ThreadPoint.serve (serving : Serving) : ThreadPoint → ThreadPoint
  | .polling message msgSize _ => .polling message msgSize serving
  | .poll _ => .poll serving
  | .drainPoll iterations _ => .drainPoll iterations serving
  | point => point

/-- The messages that a thread has to delete or to hand over. -/
def Serving.owned : Serving → List Address
  | .waiting => []
  | .called message _ => [message]
  | .counted message => [message]

def ThreadPoint.owned : ThreadPoint → List Address
  | .polling message _ serving => message :: serving.owned
  | .rejected message _ => [message]
  | .logs message _ => [message]
  | .cleansUp message => [message]
  | .poll serving => serving.owned
  | .drainPoll _ serving => serving.owned
  | _ => []

inductive ProducerLife where
  | alive
  | destroying
  /-- Destroyed; the library may have been found without messages. -/
  | destroyed (emptied : Bool)
deriving DecidableEq, Repr

/-! ## The producer -/

structure Producer where
  stats : ProducerStats := {}
  totalMessagesProduced : Nat := 0
  heap : Heap ProducerMessage := {}
  /-- The messages that the library took and has not reported. -/
  outQueue : List Address := []
  threads : List ThreadPoint := []
  life : ProducerLife := .alive
  /-- The messages that the library still had when it was destroyed. -/
  leaked : List Address := []
deriving DecidableEq, Repr

namespace Producer

/-- The value of a counter. -/
def read (producer : Producer) : Counter → Nat
  | .produced => producer.stats.produced
  | .produceFail => producer.stats.produceFail
  | .localQueueFull => producer.stats.localQueueFull
  | .produceCb => producer.stats.produceCb
  | .produceCbFail => producer.stats.produceCbFail
  | .pollServed => producer.stats.pollServed
  | .msgTooLarge => producer.stats.msgTooLarge
  | .producedBytes => producer.stats.producedBytes
  | .totalMessagesProduced => producer.totalMessagesProduced

/-- The stats with a new value of one counter. -/
def setStats (stats : ProducerStats) (value : Nat) :
    Counter → ProducerStats
  | .produced => { stats with produced := value }
  | .produceFail => { stats with produceFail := value }
  | .localQueueFull => { stats with localQueueFull := value }
  | .produceCb => { stats with produceCb := value }
  | .produceCbFail => { stats with produceCbFail := value }
  | .pollServed => { stats with pollServed := value }
  | .msgTooLarge => { stats with msgTooLarge := value }
  | .producedBytes => { stats with producedBytes := value }
  | .totalMessagesProduced => stats

/-- Increments a counter, which wraps. -/
def add (producer : Producer) (counter : Counter) (amount : Nat) : Producer :=
  let value := (producer.read counter + amount) % 2 ^ counter.width
  { producer with
    stats := setStats producer.stats value counter
    totalMessagesProduced :=
      if counter = .totalMessagesProduced then value
      else producer.totalMessagesProduced }

/-- The thread between others has gone on. -/
def goTo
    (producer : Producer) (before : List ThreadPoint) (point : ThreadPoint)
    (after : List ThreadPoint) : Producer :=
  { producer with threads := before ++ point :: after }

/-- The thread between others no longer uses the producer. -/
def finish
    (producer : Producer) (before after : List ThreadPoint) : Producer :=
  { producer with threads := before ++ after }

/-- The library is destroyed, and with it what it knows of its messages. -/
def destroy (producer : Producer) (emptied : Bool) : Producer :=
  { producer with
    outQueue := []
    leaked := producer.leaked ++ producer.outQueue
    life := .destroyed emptied }

/-- Everything that keeps a message. -/
def owners (producer : Producer) : List Address :=
  producer.threads.flatMap ThreadPoint.owned ++ producer.outQueue ++
    producer.leaked

end Producer

inductive ProducerLabel where
  /-- `ProducerTopic::produce` is called. -/
  | produce (msgData : List UInt8)
  /-- The library answers a call. -/
  | answer (msgSize : Nat) (code : ErrorCode)
  /-- The library reads the payload of a message that it took. -/
  | transmit (payload : Option (List UInt8))
  /-- `dr_cb` is called. -/
  | deliver (failed : Bool)
  /-- The poll in `Producer::poll` returns. -/
  | polled (eventsHandled : Nat)
  /-- `ProducerTopic::produce` returns. -/
  | returned (result : Nat)
  | other
deriving DecidableEq, Repr

/-- The number of iterations in the destructor. -/
def numberOfIterations : Nat := 80

/--
The steps of the threads that use a producer and of the library.  The length
of the library's queue counts other things than messages, too.
-/
inductive Producer.Step : Producer → ProducerLabel → Producer → Prop where
  | produce {producer : Producer} (msgData : List UInt8) :
      producer.life = .alive →
      Step producer (.produce msgData)
        { producer with
          heap := producer.heap.alloc (.ofBuffer msgData)
          threads :=
            producer.threads ++
              [.polling producer.heap.fresh
                (ProducerMessage.ofBuffer msgData).size .waiting] }
  | accept {producer : Producer} {before after : List ThreadPoint}
      {message : Address} {msgSize : Nat} :
      producer.threads =
        before ++ .polling message msgSize .waiting :: after →
      Step producer (.answer msgSize .noError)
        { producer.goTo before (.accepted msgSize acceptedCounters) after with
          outQueue := producer.outQueue ++ [message] }
  | reject {producer : Producer} {before after : List ThreadPoint}
      {message : Address} {msgSize : Nat} (code : ErrorCode) :
      producer.threads =
        before ++ .polling message msgSize .waiting :: after →
      code ≠ .noError →
      Step producer (.answer msgSize code)
        (producer.goTo before (.rejected message code) after)
  | countAccepted {producer : Producer} {before after : List ThreadPoint}
      {msgSize : Nat} {counter : Counter} {counters : List Counter} :
      producer.threads =
        before ++ .accepted msgSize (counter :: counters) :: after →
      Step producer .other
        ((producer.add counter (increment msgSize counter)).goTo before
          (.accepted msgSize counters) after)
  | release {producer : Producer} {before after : List ThreadPoint}
      {msgSize : Nat} :
      producer.threads = before ++ .accepted msgSize [] :: after →
      Step producer (.returned 0) (producer.finish before after)
  | countRejected {producer : Producer} {before after : List ThreadPoint}
      {message : Address} {code : ErrorCode} :
      producer.threads = before ++ .rejected message code :: after →
      Step producer .other
        ((producer.add code.counter 1).goTo before (.logs message code) after)
  /-- Only the line about a message that is too large shows its size. -/
  | log {producer : Producer} {before after : List ThreadPoint}
      {message : Address} {code : ErrorCode} :
      producer.threads = before ++ .logs message code :: after →
      Step producer .other
        { producer.goTo before (.cleansUp message) after with
          heap :=
            if code = .msgSizeTooLarge then producer.heap.use message
            else producer.heap }
  | cleanUp {producer : Producer} {before after : List ThreadPoint}
      {message : Address} :
      producer.threads = before ++ .cleansUp message :: after →
      Step producer (.returned 1)
        { producer.finish before after with
          heap := producer.heap.free message }
  | transmit {producer : Producer} {message : Address} :
      message ∈ producer.outQueue →
      Step producer
        (.transmit
          ((producer.heap.read? message).map ProducerMessage.payload))
        { producer with heap := producer.heap.use message }
  | deliver {producer : Producer} {before after : List ThreadPoint}
      {point : ThreadPoint} {message : Address} (failed : Bool) :
      producer.threads = before ++ point :: after →
      point.serving? = some .waiting →
      message ∈ producer.outQueue →
      Step producer (.deliver failed)
        { producer.goTo before (point.serve (.called message failed)) after with
          outQueue := producer.outQueue.erase message }
  | countDelivery {producer : Producer} {before after : List ThreadPoint}
      {point : ThreadPoint} {message : Address} {failed : Bool} :
      producer.threads = before ++ point :: after →
      point.serving? = some (.called message failed) →
      Step producer .other
        ((producer.add (deliveryCounter failed) 1).goTo before
          (point.serve (.counted message)) after)
  | delete {producer : Producer} {before after : List ThreadPoint}
      {point : ThreadPoint} {message : Address} :
      producer.threads = before ++ point :: after →
      point.serving? = some (.counted message) →
      Step producer .other
        { producer.goTo before (point.serve .waiting) after with
          heap := producer.heap.free message }
  | poll {producer : Producer} :
      producer.life = .alive →
      Step producer .other
        { producer with threads := producer.threads ++ [.poll .waiting] }
  | polled {producer : Producer} {before after : List ThreadPoint}
      (eventsHandled outputQueueLength : Nat) :
      producer.threads = before ++ .poll .waiting :: after →
      producer.outQueue.length ≤ outputQueueLength →
      Step producer (.polled eventsHandled)
        (producer.goTo before (.addServed eventsHandled outputQueueLength)
          after)
  | addServed {producer : Producer} {before after : List ThreadPoint}
      {eventsHandled outputQueueLength : Nat} :
      producer.threads =
        before ++ .addServed eventsHandled outputQueueLength :: after →
      Step producer .other
        ((producer.add .pollServed eventsHandled).goTo before
          (.storeLength outputQueueLength) after)
  | storeLength {producer : Producer} {before after : List ThreadPoint}
      {outputQueueLength : Nat} :
      producer.threads = before ++ .storeLength outputQueueLength :: after →
      Step producer .other
        { producer.finish before after with
          stats :=
            { producer.stats with outQueue := outputQueueLength % 2 ^ 32 } }
  | destroy {producer : Producer} :
      producer.life = .alive →
      producer.threads = [] →
      Step producer .other
        { producer with
          life := .destroying
          threads := [.drain numberOfIterations] }
  | foundEmpty {producer : Producer} {iterations : Nat} :
      producer.threads = [.drain (iterations + 1)] →
      producer.outQueue.length ≤ 0 →
      Step producer .other ((producer.finish [] []).destroy true)
  | drainPoll {producer : Producer} {iterations : Nat}
      (outputQueueLength : Nat) :
      producer.threads = [.drain (iterations + 1)] →
      producer.outQueue.length ≤ outputQueueLength →
      outputQueueLength ≠ 0 →
      Step producer .other
        (producer.goTo [] (.drainPoll iterations .waiting) [])
  | drained {producer : Producer} {iterations : Nat} :
      producer.threads = [.drainPoll iterations .waiting] →
      Step producer .other (producer.goTo [] (.drain iterations) [])
  | giveUp {producer : Producer} :
      producer.threads = [.drain 0] →
      Step producer .other ((producer.finish [] []).destroy false)

/-! ## Two calls at the same time -/

/-- What the calls, the library and the destructor did. -/
def sampleTrace : List ProducerLabel :=
  [.produce [1, 2], .answer 2 .noError, .transmit (some [1, 2]),
    .produce [3], .deliver false, .other, .other, .answer 1 .queueFull,
    .other, .other, .returned 1, .other, .other, .other, .returned 0,
    .other, .other]

/-- The producer at the end, without messages. -/
def sampleProducer : Producer where
  stats :=
    { produced := 1
      localQueueFull := 1
      produceCb := 1
      producedBytes := 2 }
  totalMessagesProduced := 1
  heap := { objects := [none, none] }
  life := .destroyed true

/-- The second call deletes the message of the first before that has counted. -/
theorem sampleProducer_run :
    Execution Producer.Step {} sampleTrace sampleProducer := by
  have created : Execution Producer.Step {} [] {} := .refl
  have first := created.snoc (.produce [1, 2] rfl)
  have taken := first.snoc (@Producer.Step.accept _ [] _ _ _ rfl)
  have read := taken.snoc (.transmit List.mem_cons_self)
  have second := read.snoc (.produce [3] rfl)
  have called := second.snoc
    (@Producer.Step.deliver _ [_] _ _ _ false rfl rfl List.mem_cons_self)
  have counted := called.snoc
    (@Producer.Step.countDelivery _ [_] _ _ _ _ rfl rfl)
  have deleted := counted.snoc (@Producer.Step.delete _ [_] _ _ _ rfl rfl)
  have rejected := deleted.snoc
    (@Producer.Step.reject _ [_] _ _ _ .queueFull rfl (by decide))
  have rejectedCounted := rejected.snoc
    (@Producer.Step.countRejected _ [_] _ _ _ rfl)
  have logged := rejectedCounted.snoc (@Producer.Step.log _ [_] _ _ _ rfl)
  have secondReturned := logged.snoc (@Producer.Step.cleanUp _ [_] _ _ rfl)
  have produced := secondReturned.snoc
    (@Producer.Step.countAccepted _ [] _ _ _ _ rfl)
  have bytes := produced.snoc (@Producer.Step.countAccepted _ [] _ _ _ _ rfl)
  have total := bytes.snoc (@Producer.Step.countAccepted _ [] _ _ _ _ rfl)
  have firstReturned := total.snoc (@Producer.Step.release _ [] _ _ rfl)
  have destroys := firstReturned.snoc (.destroy rfl rfl)
  have gone := destroys.snoc (.foundEmpty rfl (Nat.le_refl 0))
  exact gone

end KafkaToNexus.Kafka
