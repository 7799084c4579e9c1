import KafkaToNexus.Foundations.Execution
import KafkaToNexus.Metrics.CarbonConnection

/-!
# The bytes sent to the Carbon server

Two chains of callbacks share the message buffer.  One of them looks up the
address, connects, receives and, when that fails, waits before it begins
again.  The other one writes the buffer or waits for a message, and ends when
it finds the socket closed.  A successful connection starts the second chain
anew.  By then the old one is over: the handlers that were posted before the
socket was closed run before the one of the timer, and they find it closed.
-/

namespace KafkaToNexus.Metrics.Carbon

open KafkaToNexus.Foundations

variable {Endpoint : Type*}

/-! ## The two chains -/

/--
The posted handlers and the outstanding writes of the chain that sends the
buffer: at most one of them, and a write is one of the present buffer.
-/
inductive Sending (buffer : Bytes) :
    List (Handler Endpoint) → List Write → Prop where
  | idle : Sending buffer [] []
  | waiting : Sending buffer [.waitForMessage] []
  | writing (sent : Nat) : Sending buffer [] [{ data := buffer, sent }]
  | written (error : Bool) (sent : Nat) :
      Sending buffer [.sentMessageHandler error sent buffer] []

/-- Where the chain of the connection is, and the other chain with it. -/
inductive Phase (buffer : Bytes) : Service Endpoint → Prop where
  | lookUp : Phase buffer { resolves := 1 }
  | resolved (error : Bool) (endpoints : List Endpoint) :
      Phase buffer { posted := [.resolverHandler error endpoints] }
  | connecting (attempt : Connect Endpoint) :
      Phase buffer { socketIsOpen := true, connects := [attempt] }
  | connected
      {socketIsOpen : Bool} (error : Bool)
      (allEndpoints : QueryResult Endpoint)
      (opened : error = false → socketIsOpen = true) :
      Phase buffer
        { socketIsOpen, posted := [.connectHandler error allEndpoints] }
  | receiving
      {posted : List (Handler Endpoint)} {writes : List Write}
      (sending : Sending buffer posted writes) :
      Phase buffer { socketIsOpen := true, posted, receives := 1, writes }
  | received
      {socketIsOpen : Bool} {writes : List Write}
      (before after : List (Handler Endpoint)) (error : Bool)
      (bytesReceived : Nat)
      (sending : Sending buffer (before ++ after) writes)
      (opened : writes ≠ [] → socketIsOpen = true) :
      Phase buffer
        { socketIsOpen
          posted := before ++ .receiveHandler error bytesReceived :: after
          writes }
  | waiting
      {posted : List (Handler Endpoint)} (sending : Sending buffer posted []) :
      Phase buffer { posted, timers := 1 }
  | expired
      {posted : List (Handler Endpoint)} (sending : Sending buffer posted []) :
      Phase buffer { posted := posted ++ [.doAddressQuery] }

namespace Impl

/-- The bytes reported as sent, the buffer and the messages in the queue. -/
def content (impl : Impl Endpoint) : Bytes :=
  impl.reported ++ impl.messageBuffer ++ impl.messages.flatten

/-- What the handlers keep. -/
structure Kept (impl next : Impl Endpoint) : Prop where
  phase : Phase next.messageBuffer next.service
  content : next.content = impl.content

/-! ## The chain that sends -/

/--
The sending chain goes on with the given handlers and writes.  It ends where
the socket is closed.
-/
structure Continues
    (impl next : Impl Endpoint) (posted : List (Handler Endpoint))
    (writes : List Write) : Prop where
  sending : Sending next.messageBuffer posted writes
  service :
    next.service =
      { impl.service with
        posted := impl.service.posted ++ posted
        writes := impl.service.writes ++ writes }
  content : next.content = impl.content
  ended :
    impl.service.socketIsOpen = false → posted = [] ∧ writes = []

theorem continues_refl (impl : Impl Endpoint) :
    Continues impl impl [] [] where
  sending := .idle
  service := by rw [List.append_nil, List.append_nil]
  content := rfl
  ended _ := ⟨rfl, rfl⟩

theorem writeBuffer_continues
    {impl other : Impl Endpoint}
    (opened : impl.service.socketIsOpen = true)
    (same : other.service = impl.service)
    (content : other.content = impl.content) :
    Continues impl other.writeBuffer []
      [{ data := other.messageBuffer, sent := 0 }] where
  sending := .writing 0
  service := by
    rw [writeBuffer, withService, same, Service.asyncWrite, if_pos opened,
      List.append_nil]
  content := content
  ended closed := absurd (opened.symm.trans closed) (by simp)

theorem wait_continues
    {impl : Impl Endpoint} (opened : impl.service.socketIsOpen = true) :
    Continues impl (impl.withService (·.post .waitForMessage))
      [.waitForMessage] [] where
  sending := .waiting
  service := by rw [withService, Service.post, List.append_nil]
  content := rfl
  ended closed := absurd (opened.symm.trans closed) (by simp)

theorem trySendMessage_continues (impl : Impl Endpoint) :
    ∃ posted writes, Continues impl impl.trySendMessage posted writes := by
  unfold trySendMessage
  split
  · exact ⟨[], [], continues_refl impl⟩
  · rename_i notClosed
    have opened : impl.service.socketIsOpen = true := by
      simpa using notClosed
    split
    · exact ⟨_, _, writeBuffer_continues opened rfl rfl⟩
    · split
      · rename_i newMessage rest queue
        refine ⟨_, _, writeBuffer_continues opened rfl ?_⟩
        simp [content, queue]
      · split
        · exact ⟨_, _, writeBuffer_continues opened rfl rfl⟩
        · exact ⟨_, _, wait_continues opened⟩

theorem waitForMessage_continues (impl : Impl Endpoint) :
    ∃ posted writes, Continues impl impl.waitForMessage posted writes := by
  unfold waitForMessage
  split
  · exact ⟨[], [], continues_refl impl⟩
  · rename_i notClosed
    split
    · exact trySendMessage_continues impl
    · exact ⟨_, _, wait_continues (by simpa using notClosed)⟩

/-- What was sent is taken from the buffer. -/
theorem content_removeSent (impl : Impl Endpoint) (bytesSent : Nat) :
    ({ impl with
        reported := impl.reported ++ impl.messageBuffer.take bytesSent
      }.removeSent bytesSent).content = impl.content := by
  rw [removeSent]
  split
  · rename_i whole
    simp [content, whole]
  · split
    · simp only [content, List.append_assoc]
      rw [← List.append_assoc (List.take _ _), List.take_append_drop]
    · rename_i some none
      have nothing : bytesSent = 0 := by omega
      simp [content, nothing]

theorem service_removeSent (impl : Impl Endpoint) (bytesSent : Nat) :
    (impl.removeSent bytesSent).service = impl.service := by
  unfold removeSent
  split
  · rfl
  · split
    · rfl
    · rfl

end Impl

/-! ## Handlers of the chain that sends -/

/-- The other chain, while the handler of the sending one runs. -/
inductive Alone : Service Endpoint → Prop where
  | receiving : Alone { socketIsOpen := true, receives := 1 }
  | received (socketIsOpen error : Bool) (bytesReceived : Nat) :
      Alone
        { socketIsOpen, posted := [.receiveHandler error bytesReceived] }
  | waiting : Alone { timers := 1 }
  | expired : Alone { posted := [.doAddressQuery] }

namespace Impl

theorem Continues.kept
    {impl next : Impl Endpoint} {posted : List (Handler Endpoint)}
    {writes : List Write} (continues : Continues impl next posted writes)
    (alone : Alone impl.service) :
    Kept impl next where
  content := continues.content
  phase := by
    have ended := continues.ended
    rw [continues.service]
    generalize impl.service = service at alone ended ⊢
    cases alone with
    | receiving => exact .receiving continues.sending
    | received socketIsOpen error bytesReceived =>
        refine .received [] posted error bytesReceived continues.sending
          fun some => ?_
        by_contra closed
        exact some (ended (by simpa using closed)).2
    | waiting =>
        rcases ended rfl with ⟨rfl, rfl⟩
        exact .waiting .idle
    | expired =>
        rcases ended rfl with ⟨rfl, rfl⟩
        exact .expired .idle

/-- Closing the socket leaves at most the handler of an outstanding receive. -/
theorem Alone.close
    {service : Service Endpoint} (alone : Alone service) (choice : Choice)
    (buffer : Bytes) :
    Phase buffer (service.close choice) := by
  cases alone with
  | receiving =>
      have phase :
          Phase buffer
            ({ posted := [.receiveHandler true 0] } : Service Endpoint) :=
        .received [] [] true 0 .idle (by simp)
      rcases choice with ⟨canOpen, _ | _⟩
      · exact phase
      · exact phase
  | received socketIsOpen error bytesReceived =>
      have phase :
          Phase buffer
            ({ posted := [.receiveHandler error bytesReceived] } :
              Service Endpoint) :=
        .received [] [] error bytesReceived .idle (by simp)
      rcases choice with ⟨canOpen, _ | _⟩
      · exact phase
      · exact phase
  | waiting =>
      rcases choice with ⟨canOpen, _ | _⟩
      · exact .waiting .idle
      · exact .waiting .idle
  | expired =>
      rcases choice with ⟨canOpen, _ | _⟩
      · exact .expired .idle
      · exact .expired .idle

/-- The handlers of the sending chain. -/
theorem handle_sending
    {impl : Impl Endpoint} {handler : Handler Endpoint}
    (alone : Alone impl.service)
    (sending : Sending impl.messageBuffer [handler] []) (choice : Choice) :
    Kept impl (impl.handle choice handler) := by
  cases sending with
  | waiting =>
      rcases waitForMessage_continues impl with ⟨posted, writes, continues⟩
      exact continues.kept alone
  | written error sent =>
      have content := content_removeSent impl sent
      have service :=
        service_removeSent
          { impl with
            reported := impl.reported ++ impl.messageBuffer.take sent }
          sent
      cases error with
      | true =>
          constructor
          · show Phase _ (Service.close _ choice)
            rw [service]
            exact Alone.close alone choice _
          · exact content
      | false =>
          rcases trySendMessage_continues
              ({ impl with
                  reported := impl.reported ++ impl.messageBuffer.take sent
                }.removeSent sent) with ⟨posted, writes, continues⟩
          have kept := continues.kept (by rw [service]; exact alone)
          exact ⟨kept.phase, kept.content.trans content⟩

/-! ## Handlers of the chain that connects -/

theorem tryConnect_kept
    {impl : Impl Endpoint} (idle : impl.service = {}) (choice : Choice)
    (allEndpoints : QueryResult Endpoint) :
    Kept impl (impl.tryConnect choice allEndpoints) where
  content := rfl
  phase := by
    show Phase _ (Service.asyncConnect _ choice _)
    rw [idle, Service.asyncConnect]
    split
    · exact .connecting _
    · exact .connected true _ (by simp)

theorem reconnect_kept
    {impl : Impl Endpoint} {posted : List (Handler Endpoint)}
    (ended : impl.service = { posted })
    (sending : Sending impl.messageBuffer posted []) (delay : ReconnectDelay) :
    Kept impl (impl.reconnect delay) where
  content := rfl
  phase := by
    show Phase _ (Service.waitFor _ delay)
    rw [ended, Service.waitFor, List.replicate_zero, List.append_nil]
    exact .waiting sending

theorem resolverHandler_kept
    {impl : Impl Endpoint} (idle : impl.service = {}) (choice : Choice)
    (error : Bool) (endpoints : List Endpoint) :
    Kept impl (impl.resolverHandler choice error endpoints) := by
  cases error with
  | true =>
      have idle' : (impl.setState .addrRetryWait).service = {} := idle
      have kept := reconnect_kept idle' .idle .long
      exact ⟨kept.phase, kept.content⟩
  | false => exact tryConnect_kept idle choice _

theorem close_of_idle (socketIsOpen : Bool) (choice : Choice) :
    ({ socketIsOpen } : Service Endpoint).close choice = {} := by
  rcases choice with ⟨canOpen, _ | _⟩
  · rfl
  · rfl

theorem connectHandler_kept
    {impl : Impl Endpoint} {socketIsOpen : Bool} {error : Bool}
    (idle : impl.service = { socketIsOpen })
    (opened : error = false → socketIsOpen = true) (choice : Choice)
    (allEndpoints : QueryResult Endpoint) :
    Kept impl (impl.connectHandler choice error allEndpoints) := by
  cases error with
  | false =>
      rcases trySendMessage_continues
          ((impl.setState .sendLoop).withService (·.asyncReceive)) with
        ⟨posted, writes, continues⟩
      have alone :
          Alone
            ((impl.setState .sendLoop).withService (·.asyncReceive)).service := by
        show Alone (Service.asyncReceive impl.service)
        rw [idle, opened rfl]
        exact .receiving
      have kept := continues.kept alone
      exact ⟨kept.phase, kept.content⟩
  | true =>
      have closed : (impl.withService (·.close choice)).service = {} := by
        show Service.close impl.service choice = _
        rw [idle, close_of_idle]
      show Kept impl
        (if allEndpoints.isDone then
          (impl.withService (·.close choice)).reconnect .long
        else
          (impl.withService (·.close choice)).tryConnect choice allEndpoints)
      split
      · have kept := reconnect_kept closed .idle .long
        exact ⟨kept.phase, kept.content⟩
      · have kept := tryConnect_kept closed choice allEndpoints
        exact ⟨kept.phase, kept.content⟩

theorem receiveHandler_kept
    {impl : Impl Endpoint} {socketIsOpen : Bool}
    {after : List (Handler Endpoint)} {writes : List Write}
    (received : impl.service = { socketIsOpen, posted := after, writes })
    (sending : Sending impl.messageBuffer after writes)
    (opened : writes ≠ [] → socketIsOpen = true) (choice : Choice)
    (error : Bool) (bytesReceived : Nat) :
    Kept impl (impl.receiveHandler choice error bytesReceived) := by
  cases error with
  | false =>
      constructor
      · show Phase _ (Service.asyncReceive impl.service)
        rw [received, Service.asyncReceive]
        cases socketIsOpen with
        | true => exact .receiving sending
        | false =>
            have none : writes = [] := by
              by_contra some
              exact absurd (opened some) (by simp)
            subst none
            refine .received after [] true 0 ?_ (by simp)
            rw [List.append_nil]
            exact sending
      · rfl
  | true =>
      have closed :
          ∃ posted,
            (impl.withService (·.close choice)).service = { posted } ∧
              Sending impl.messageBuffer posted [] := by
        show ∃ posted, Service.close impl.service choice = _ ∧ _
        rw [received]
        generalize impl.messageBuffer = buffer at sending
        rcases choice with ⟨canOpen, first⟩
        cases sending with
        | idle =>
            refine ⟨[], ?_, .idle⟩
            cases first with
            | false => rfl
            | true => rfl
        | waiting =>
            refine ⟨[.waitForMessage], ?_, .waiting⟩
            cases first with
            | false => rfl
            | true => rfl
        | writing sent =>
            refine ⟨_, ?_, .written true sent⟩
            cases first with
            | false => rfl
            | true => rfl
        | written error sent =>
            refine ⟨_, ?_, .written error sent⟩
            cases first with
            | false => rfl
            | true => rfl
      rcases closed with ⟨posted, ended, later⟩
      have kept := reconnect_kept ended later .short
      exact ⟨kept.phase, kept.content⟩

theorem doAddressQuery_kept
    {impl : Impl Endpoint} (idle : impl.service = {}) :
    Kept impl impl.doAddressQuery where
  content := rfl
  phase := by
    show Phase _ (Service.asyncResolve impl.service)
    rw [idle]
    exact .lookUp

end Impl

/-! ## Steps -/

/-- The bytes that an event adds to the accepted ones. -/
def Event.accepted : Event Endpoint → Bytes
  | .sendMessage message => message
  | _ => []

/-- The first handler of the sending chain is its only part. -/
theorem Sending.single
    {buffer : Bytes} {first : Handler Endpoint}
    {rest : List (Handler Endpoint)} {writes : List Write}
    (sending : Sending buffer (first :: rest) writes) :
    rest = [] ∧ writes = [] := by
  cases sending with
  | waiting => exact ⟨rfl, rfl⟩
  | written error sent => exact ⟨rfl, rfl⟩

theorem Phase.handler
    {service : Service Endpoint} {impl : Impl Endpoint}
    {first : Handler Endpoint} {rest : List (Handler Endpoint)}
    (phase : Phase impl.messageBuffer service)
    (posted : service.posted = first :: rest)
    (taken : impl.service = { service with posted := rest })
    (choice : Choice) :
    Impl.Kept impl (impl.handle choice first) := by
  cases phase with
  | lookUp => cases posted
  | resolved error endpoints =>
      cases posted
      exact Impl.resolverHandler_kept taken choice error endpoints
  | connecting attempt => cases posted
  | connected error allEndpoints opened =>
      cases posted
      exact Impl.connectHandler_kept taken opened choice allEndpoints
  | receiving sending =>
      cases posted
      rcases sending.single with ⟨rfl, rfl⟩
      exact Impl.handle_sending (taken ▸ .receiving) sending choice
  | received before after error bytesReceived sending opened =>
      cases before with
      | nil =>
          cases posted
          exact Impl.receiveHandler_kept taken sending opened choice error
            bytesReceived
      | cons head others =>
          cases posted
          rcases sending.single with ⟨none, rfl⟩
          rcases List.append_eq_nil_iff.mp none with ⟨rfl, rfl⟩
          exact Impl.handle_sending
            (taken ▸ .received _ error bytesReceived) sending choice
  | waiting sending =>
      cases posted
      rcases sending.single with ⟨rfl, _⟩
      exact Impl.handle_sending (taken ▸ .waiting) sending choice
  | @expired handlers sending =>
      cases handlers with
      | nil =>
          cases posted
          exact Impl.doAddressQuery_kept taken
      | cons head others =>
          cases posted
          rcases sending.single with ⟨rfl, _⟩
          exact Impl.handle_sending (taken ▸ .expired) sending choice

/-- A write is the only part of the sending chain. -/
theorem Sending.write
    {buffer : Bytes} {posted : List (Handler Endpoint)}
    {writes before after : List Write} {write : Write}
    (sending : Sending buffer posted writes)
    (outstanding : writes = before ++ write :: after) :
    posted = [] ∧ before = [] ∧ after = [] ∧ write.data = buffer := by
  cases sending with
  | idle => simp at outstanding
  | waiting => simp at outstanding
  | writing sent =>
      rcases List.singleton_eq_append_iff.mp outstanding with
        ⟨rfl, same⟩ | ⟨_, impossible⟩
      · cases same
        exact ⟨rfl, rfl, rfl, rfl⟩
      · cases impossible
  | written error sent => simp at outstanding

/-- Where a write is outstanding, the chain of the connection receives. -/
theorem Phase.write
    {buffer : Bytes} {service : Service Endpoint}
    {before after : List Write} {write : Write}
    (phase : Phase buffer service)
    (outstanding : service.writes = before ++ write :: after) :
    before = [] ∧ after = [] ∧ write.data = buffer ∧
      (service =
          { socketIsOpen := true, receives := 1, writes := [write] } ∨
        ∃ error bytesReceived,
          service =
            { socketIsOpen := true
              posted := [.receiveHandler error bytesReceived]
              writes := [write] }) := by
  cases phase
  case receiving posted writes sending =>
    rcases sending.write outstanding with ⟨rfl, rfl, rfl, data⟩
    refine ⟨rfl, rfl, data, Or.inl ?_⟩
    rw [show writes = [write] from outstanding]
  case received socketIsOpen writes ahead behind error bytes sending opened =>
    rcases sending.write outstanding with ⟨none, rfl, rfl, data⟩
    rcases List.append_eq_nil_iff.mp none with ⟨rfl, rfl⟩
    have one : writes = [write] := outstanding
    refine ⟨rfl, rfl, data, Or.inr ⟨error, bytes, ?_⟩⟩
    rw [opened (by rw [one]; exact List.cons_ne_nil _ _), one]
    rfl
  all_goals exact absurd outstanding (by simp)

theorem Phase.step
    {impl next : Impl Endpoint} {event : Event Endpoint}
    (phase : Phase impl.messageBuffer impl.service)
    (step : Step impl event next) :
    Phase next.messageBuffer next.service ∧
      next.content = impl.content ++ event.accepted := by
  cases step with
  | sendMessage message =>
      refine ⟨phase, ?_⟩
      simp [Impl.content, Event.accepted]
  | @handler first rest choice posted =>
      let taken :=
        impl.withService fun service => { service with posted := rest }
      have here : Phase taken.messageBuffer impl.service := phase
      have kept := here.handler posted rfl choice
      exact ⟨kept.phase, kept.content.trans (List.append_nil _).symm⟩
  | resolved error endpoints outstanding =>
      refine ⟨?_, (List.append_nil _).symm⟩
      show Phase impl.messageBuffer (Service.post _ _)
      generalize impl.service = service at phase outstanding ⊢
      cases phase <;> cases outstanding
      exact .resolved error endpoints
  | connected error outstanding =>
      refine ⟨?_, (List.append_nil _).symm⟩
      show Phase impl.messageBuffer (Service.post _ _)
      generalize impl.service = service at phase outstanding ⊢
      cases phase
      case connecting attempt =>
        rcases List.singleton_eq_append_iff.mp outstanding with
          ⟨rfl, same⟩ | ⟨_, impossible⟩
        · cases same
          exact .connected error _ fun _ => rfl
        · cases impossible
      all_goals exact absurd outstanding (by simp)
  | received error bytesReceived outstanding =>
      refine ⟨?_, (List.append_nil _).symm⟩
      show Phase impl.messageBuffer (Service.post _ _)
      generalize impl.service = service at phase outstanding ⊢
      cases phase <;> cases outstanding
      rename_i posted writes sending
      refine .received posted [] error bytesReceived ?_ fun _ => rfl
      rw [List.append_nil]
      exact sending
  | transferred bytes outstanding inside =>
      refine ⟨?_, (List.append_nil _).symm⟩
      show Phase impl.messageBuffer { impl.service with writes := _ }
      rcases phase.write outstanding with
        ⟨rfl, rfl, data, here | ⟨error, bytesReceived, here⟩⟩
      · rw [here, data]
        exact .receiving (.writing _)
      · rw [here, data]
        exact .received [] [] error bytesReceived (.writing _) fun _ => rfl
  | written error outstanding =>
      refine ⟨?_, (List.append_nil _).symm⟩
      show Phase impl.messageBuffer (Service.post _ _)
      rcases phase.write outstanding with
        ⟨rfl, rfl, data, here | ⟨failed, bytesReceived, here⟩⟩
      · rw [here, data]
        exact .receiving (.written error _)
      · rw [here, data]
        exact .received [] _ failed bytesReceived (.written error _)
          fun _ => rfl
  | expired outstanding =>
      refine ⟨?_, (List.append_nil _).symm⟩
      show Phase impl.messageBuffer (Service.post _ _)
      generalize impl.service = service at phase outstanding ⊢
      cases phase <;> cases outstanding
      rename_i sending
      exact .expired sending

/-! ## Whole runs -/

/-- Whether a handler is the one of a write. -/
def Handler.isSentMessageHandler : Handler Endpoint → Bool
  | .sentMessageHandler _ _ _ => true
  | _ => false

/-- The writes whose handler has not run. -/
def Impl.outstandingWrites (impl : Impl Endpoint) : Nat :=
  impl.service.writes.length +
    impl.service.posted.countP Handler.isSentMessageHandler

/-- The event is the run of the handler of a write. -/
def Impl.ReportsWrite (impl : Impl Endpoint) (event : Event Endpoint) : Prop :=
  ∃ choice first rest,
    event = .handler choice ∧ impl.service.posted = first :: rest ∧
      first.isSentMessageHandler = true

/-- The bytes of all messages that were accepted. -/
def accepted (trace : List (Event Endpoint)) : Bytes :=
  (trace.map Event.accepted).flatten

theorem Sending.outstanding
    {buffer : Bytes} {posted : List (Handler Endpoint)} {writes : List Write}
    (sending : Sending buffer posted writes) :
    writes.length + posted.countP Handler.isSentMessageHandler ≤ 1 := by
  cases sending with
  | idle => simp
  | waiting => simp [Handler.isSentMessageHandler]
  | writing sent => simp
  | written error sent => simp [Handler.isSentMessageHandler]

theorem Phase.outstanding
    {buffer : Bytes} {service : Service Endpoint}
    (phase : Phase buffer service) :
    service.writes.length +
      service.posted.countP Handler.isSentMessageHandler ≤ 1 := by
  cases phase with
  | lookUp => simp
  | resolved error endpoints => simp [Handler.isSentMessageHandler]
  | connecting attempt => simp
  | connected error allEndpoints opened =>
      simp [Handler.isSentMessageHandler]
  | receiving sending => exact sending.outstanding
  | received before after error bytesReceived sending opened =>
      have bound := sending.outstanding
      rw [List.countP_append] at bound
      simp [List.countP_append, Handler.isSentMessageHandler]
      exact bound
  | waiting sending => exact sending.outstanding
  | expired sending =>
      have bound := sending.outstanding
      simp [List.countP_append, Handler.isSentMessageHandler] at bound ⊢
      exact bound

/-- Nothing is written while the sending chain waits. -/
theorem Phase.none_outstanding_of_waiting
    {buffer : Bytes} {service : Service Endpoint}
    {rest : List (Handler Endpoint)} (phase : Phase buffer service)
    (posted : service.posted = .waitForMessage :: rest) :
    service.writes.length +
      service.posted.countP Handler.isSentMessageHandler = 0 := by
  cases phase with
  | lookUp => cases posted
  | resolved error endpoints => cases posted
  | connecting attempt => cases posted
  | connected error allEndpoints opened => cases posted
  | receiving sending =>
      cases posted
      rcases sending.single with ⟨rfl, rfl⟩
      rfl
  | received before after error bytesReceived sending opened =>
      cases before with
      | nil => cases posted
      | cons head others =>
          cases posted
          rcases sending.single with ⟨none, rfl⟩
          rcases List.append_eq_nil_iff.mp none with ⟨rfl, rfl⟩
          rfl
  | waiting sending =>
      cases posted
      rcases sending.single with ⟨rfl, _⟩
      rfl
  | @expired handlers sending =>
      cases handlers with
      | nil => cases posted
      | cons head others =>
          cases posted
          rcases sending.single with ⟨rfl, _⟩
          rfl

/-- Nothing is written when a connection was made. -/
theorem Phase.none_outstanding_of_connected
    {buffer : Bytes} {service : Service Endpoint} {error : Bool}
    {allEndpoints : QueryResult Endpoint} {rest : List (Handler Endpoint)}
    (phase : Phase buffer service)
    (posted :
      service.posted = .connectHandler error allEndpoints :: rest) :
    service.writes.length +
      service.posted.countP Handler.isSentMessageHandler = 0 := by
  cases phase with
  | lookUp => cases posted
  | resolved error endpoints => cases posted
  | connecting attempt => cases posted
  | connected error allEndpoints opened => rfl
  | receiving sending =>
      cases posted
      cases sending
  | received before after error bytesReceived sending opened =>
      cases before with
      | nil => cases posted
      | cons head others =>
          cases posted
          cases sending
  | waiting sending =>
      cases posted
      cases sending
  | @expired handlers sending =>
      cases handlers with
      | nil => cases posted
      | cons head others =>
          cases posted
          cases sending

/-- A handler that runs while a write is outstanding leaves the buffer. -/
theorem Phase.handler_messageBuffer
    {service : Service Endpoint} {impl : Impl Endpoint}
    {first : Handler Endpoint} {rest : List (Handler Endpoint)}
    (phase : Phase impl.messageBuffer service)
    (posted : service.posted = first :: rest)
    (outstanding :
      0 < service.writes.length +
        service.posted.countP Handler.isSentMessageHandler)
    (other : first.isSentMessageHandler = false) (choice : Choice) :
    (impl.handle choice first).messageBuffer = impl.messageBuffer := by
  cases first with
  | resolverHandler error endpoints =>
      cases error with
      | false => rfl
      | true => rfl
  | connectHandler error allEndpoints =>
      rw [phase.none_outstanding_of_connected posted] at outstanding
      cases outstanding
  | receiveHandler error bytesReceived =>
      cases error with
      | false => rfl
      | true => rfl
  | sentMessageHandler error bytesSent data => cases other
  | waitForMessage =>
      rw [phase.none_outstanding_of_waiting posted] at outstanding
      cases outstanding
  | doAddressQuery => rfl

theorem Phase.messageBuffer_kept
    {impl next : Impl Endpoint} {event : Event Endpoint}
    (phase : Phase impl.messageBuffer impl.service)
    (step : Step impl event next)
    (outstanding : 0 < impl.outstandingWrites)
    (other : ¬impl.ReportsWrite event) :
    next.messageBuffer = impl.messageBuffer := by
  cases step with
  | @handler first rest choice posted =>
      let taken :=
        impl.withService fun service => { service with posted := rest }
      have here : Phase taken.messageBuffer impl.service := phase
      apply here.handler_messageBuffer posted outstanding
      by_contra reports
      exact other ⟨choice, first, rest, rfl, posted, by simpa using reports⟩
  | sendMessage message => rfl
  | resolved error endpoints outstanding => rfl
  | connected error outstanding => rfl
  | received error bytesReceived outstanding => rfl
  | transferred bytes outstanding inside => rfl
  | written error outstanding => rfl
  | expired outstanding => rfl

/-- The state in every run: where the chains are and what became of the bytes. -/
theorem run_phase
    {trace : List (Event Endpoint)} {impl : Impl Endpoint}
    (run : Execution Step Impl.start trace impl) :
    Phase impl.messageBuffer impl.service ∧
      impl.content = accepted trace := by
  refine run.traceInvariant
    (fun trace impl =>
      Phase impl.messageBuffer impl.service ∧
        impl.content = accepted trace)
    ⟨.lookUp, rfl⟩ ?_
  rintro labels state event next ⟨phase, content⟩ step
  rcases phase.step step with ⟨later, more⟩
  refine ⟨later, ?_⟩
  rw [more, content, accepted, accepted, List.map_append,
    List.flatten_append]
  simp

/--
At most one write is outstanding, the buffer stays as it is while one is, and
otherwise the bytes reported as sent, the buffer and the queue are all
accepted messages in their order.
-/
theorem carbon_bytes_in_order
    {trace : List (Event Endpoint)} {impl : Impl Endpoint}
    (run : Execution Step Impl.start trace impl) :
    impl.outstandingWrites ≤ 1 ∧
      (∀ event next, Step impl event next → 0 < impl.outstandingWrites →
        ¬impl.ReportsWrite event →
          next.messageBuffer = impl.messageBuffer) ∧
      (impl.outstandingWrites = 0 →
        impl.reported ++ impl.messageBuffer ++ impl.messages.flatten =
          accepted trace) := by
  rcases run_phase run with ⟨phase, content⟩
  refine ⟨phase.outstanding, ?_, fun _ => content⟩
  intro event next step outstanding other
  exact phase.messageBuffer_kept step outstanding other

/-! ## A write that fails after its first byte -/

def anyChoice : Choice where
  canOpen := true
  receivesFirst := true

def failedWrite : List (Event Unit) :=
  [.resolved false [()], .handler anyChoice, .connected false,
    .handler anyChoice, .sendMessage [1, 2], .handler anyChoice,
    .transferred 1, .written true, .handler anyChoice]

/-- The second byte is still in the buffer, and the receive was aborted. -/
def afterFailedWrite : Impl Unit where
  connectionState := .sendLoop
  messageBuffer := [2]
  messages := []
  service := { posted := [.receiveHandler true 0] }
  reported := [1]

theorem failedWrite_run :
    Execution Step Impl.start failedWrite afterFailedWrite := by
  have resolved : Execution Step Impl.start (failedWrite.take 2) _ :=
    .snoc (.snoc .refl (.resolved false [()] rfl)) (.handler anyChoice rfl)
  have connected : Execution Step Impl.start (failedWrite.take 4) _ :=
    .snoc (.snoc resolved (@Step.connected _ _ [] [] _ false rfl))
      (.handler anyChoice rfl)
  have sending : Execution Step Impl.start (failedWrite.take 6) _ :=
    .snoc (.snoc connected (.sendMessage _ [1, 2])) (.handler anyChoice rfl)
  have written : Execution Step Impl.start (failedWrite.take 8) _ :=
    .snoc (.snoc sending (@Step.transferred _ _ [] [] _ 1 rfl (by decide)))
      (@Step.written _ _ [] [] _ true rfl)
  have handled : Execution Step Impl.start failedWrite _ :=
    .snoc written (.handler anyChoice rfl)
  exact handled

theorem failedWrite_bytes :
    afterFailedWrite.reported ++ afterFailedWrite.messageBuffer ++
        afterFailedWrite.messages.flatten =
      accepted failedWrite :=
  (carbon_bytes_in_order failedWrite_run).2.2 rfl

end KafkaToNexus.Metrics.Carbon
