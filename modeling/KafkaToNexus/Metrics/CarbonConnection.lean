import Mathlib.Data.List.Basic

/-!
# The connection to the Carbon server

`Connection::Impl` runs its handlers one at a time on an `io_service`.  A
handler starts asynchronous operations: it resolves the address, connects,
receives, writes and waits for a timer.  An operation is outstanding until it
completes, which posts its handler, and the posted handlers run in the order
in which they were posted.  Closing the socket completes the outstanding
operations of the socket with an error and posts their handlers at once.

The operations of each kind are a list or a number, so that the model itself
does not say how many of them are outstanding.
-/

namespace KafkaToNexus.Metrics.Carbon

abbrev Bytes := List UInt8

inductive Status where
  | addrLookup
  | addrRetryWait
  | connect
  | sendLoop
deriving DecidableEq, Repr

inductive ReconnectDelay where
  | long
  | short
deriving DecidableEq, Repr

variable {Endpoint : Type*}

/-- The endpoints of an address in the order in which they are tried. -/
structure QueryResult (Endpoint : Type*) where
  endpointList : List Endpoint
  nextEndpoint : Nat := 0

namespace QueryResult

/-- The next endpoint, or none for the default one, and the endpoints then. -/
def getNextEndpoint (all : QueryResult Endpoint) :
    Option Endpoint × QueryResult Endpoint :=
  if h : all.nextEndpoint < all.endpointList.length then
    (some (all.endpointList.get ⟨all.nextEndpoint, h⟩),
      { all with nextEndpoint := all.nextEndpoint + 1 })
  else
    (none, all)

def isDone (all : QueryResult Endpoint) : Bool :=
  all.endpointList.length ≤ all.nextEndpoint

end QueryResult

/-- An outstanding `async_connect` with the endpoints of its handler. -/
structure Connect (Endpoint : Type*) where
  endpoint : Option Endpoint
  allEndpoints : QueryResult Endpoint

/-- An outstanding `async_write` of a buffer and what it has sent so far. -/
structure Write where
  data : Bytes
  sent : Nat
deriving DecidableEq, Repr

/--
The handlers that are posted, with their arguments.  The handler of a write
does not see its data, which are kept here to say what was sent.
-/
inductive Handler (Endpoint : Type*) where
  | resolverHandler (error : Bool) (endpoints : List Endpoint)
  | connectHandler (error : Bool) (allEndpoints : QueryResult Endpoint)
  | receiveHandler (error : Bool) (bytesReceived : Nat)
  | sentMessageHandler (error : Bool) (bytesSent : Nat) (data : Bytes)
  | waitForMessage
  | doAddressQuery

/-- The socket, the posted handlers and the outstanding operations. -/
structure Service (Endpoint : Type*) where
  socketIsOpen : Bool := false
  posted : List (Handler Endpoint) := []
  resolves : Nat := 0
  connects : List (Connect Endpoint) := []
  receives : Nat := 0
  writes : List Write := []
  timers : Nat := 0

/-- What the operating system decides while a handler runs. -/
structure Choice where
  /-- Whether a socket can be opened. -/
  canOpen : Bool
  /-- Whether closing posts the handlers of the receives first. -/
  receivesFirst : Bool

namespace Service

variable (service : Service Endpoint)

def post (handler : Handler Endpoint) : Service Endpoint :=
  { service with posted := service.posted ++ [handler] }

/-- The handlers of the outstanding receives when the socket is closed. -/
def abortedReceives : List (Handler Endpoint) :=
  List.replicate service.receives (.receiveHandler true 0)

/-- The handlers of the other operations of the socket. -/
def abortedOthers : List (Handler Endpoint) :=
  service.connects.map (fun attempt => .connectHandler true attempt.allEndpoints)
    ++ service.writes.map
      (fun write => .sentMessageHandler true write.sent write.data)

/-- `Socket.close`. -/
def close (choice : Choice) : Service Endpoint :=
  { service with
    socketIsOpen := false
    posted :=
      service.posted ++
        if choice.receivesFirst then
          service.abortedReceives ++ service.abortedOthers
        else
          service.abortedOthers ++ service.abortedReceives
    connects := []
    receives := 0
    writes := [] }

/-- `Socket.async_connect`, which opens the socket. -/
def asyncConnect (choice : Choice) (attempt : Connect Endpoint) :
    Service Endpoint :=
  if service.socketIsOpen || choice.canOpen then
    { service with
      socketIsOpen := true
      connects := service.connects ++ [attempt] }
  else
    service.post (.connectHandler true attempt.allEndpoints)

/-- `Socket.async_receive`. -/
def asyncReceive : Service Endpoint :=
  if service.socketIsOpen then
    { service with receives := service.receives + 1 }
  else
    service.post (.receiveHandler true 0)

/-- `asio::async_write` of a buffer to the socket. -/
def asyncWrite (data : Bytes) : Service Endpoint :=
  if service.socketIsOpen then
    { service with writes := service.writes ++ [{ data, sent := 0 }] }
  else
    service.post (.sentMessageHandler true 0 data)

/-- `Resolver.async_resolve`. -/
def asyncResolve : Service Endpoint :=
  { service with resolves := service.resolves + 1 }

/--
`ReconnectTimeout.expires_after` and `async_wait`.  The new time ends the waits
for the old one, and their handler does not look at the error.
-/
def waitFor (_ : ReconnectDelay) : Service Endpoint :=
  { service with
    posted :=
      service.posted ++ List.replicate service.timers .doAddressQuery
    timers := 1 }

end Service

/-- The connection, with the bytes that its writes have reported as sent. -/
structure Impl (Endpoint : Type*) where
  connectionState : Status
  messageBuffer : Bytes
  messages : List Bytes
  service : Service Endpoint
  reported : Bytes

namespace Impl

def messageAdditionLimit : Nat := 3000

variable (impl : Impl Endpoint)

def setState (newState : Status) : Impl Endpoint :=
  { impl with connectionState := newState }

def withService
    (change : Service Endpoint → Service Endpoint) : Impl Endpoint :=
  { impl with service := change impl.service }

def doAddressQuery : Impl Endpoint :=
  (impl.setState .addrLookup).withService (·.asyncResolve)

def reconnect (delay : ReconnectDelay) : Impl Endpoint :=
  (impl.withService (·.waitFor delay)).setState .addrRetryWait

def tryConnect (choice : Choice) (allEndpoints : QueryResult Endpoint) :
    Impl Endpoint :=
  let (endpoint, allEndpoints) := allEndpoints.getNextEndpoint
  (impl.withService (·.asyncConnect choice { endpoint, allEndpoints })).setState
    .connect

def resolverHandler
    (choice : Choice) (error : Bool) (endpoints : List Endpoint) :
    Impl Endpoint :=
  if error then
    (impl.setState .addrRetryWait).reconnect .long
  else
    impl.tryConnect choice { endpointList := endpoints }

/-- `async_write` of the message buffer. -/
def writeBuffer : Impl Endpoint :=
  impl.withService (·.asyncWrite impl.messageBuffer)

def trySendMessage : Impl Endpoint :=
  if !impl.service.socketIsOpen then
    impl
  else if messageAdditionLimit < impl.messageBuffer.length then
    impl.writeBuffer
  else
    match impl.messages with
    | newMessage :: rest =>
        { impl with
          messages := rest
          messageBuffer := impl.messageBuffer ++ newMessage }.writeBuffer
    | [] =>
        if impl.messageBuffer ≠ [] then
          impl.writeBuffer
        else
          impl.withService (·.post .waitForMessage)

def connectHandler
    (choice : Choice) (error : Bool) (allEndpoints : QueryResult Endpoint) :
    Impl Endpoint :=
  if !error then
    ((impl.setState .sendLoop).withService (·.asyncReceive)).trySendMessage
  else
    let closed := impl.withService (·.close choice)
    if allEndpoints.isDone then
      closed.reconnect .long
    else
      closed.tryConnect choice allEndpoints

def receiveHandler (choice : Choice) (error : Bool) (_ : Nat) :
    Impl Endpoint :=
  if error then
    (impl.withService (·.close choice)).reconnect .short
  else
    impl.withService (·.asyncReceive)

/-- The message buffer without what was sent of it. -/
def removeSent (bytesSent : Nat) : Impl Endpoint :=
  if bytesSent = impl.messageBuffer.length then
    { impl with messageBuffer := [] }
  else if 0 < bytesSent then
    { impl with messageBuffer := impl.messageBuffer.drop bytesSent }
  else
    impl

def sentMessageHandler (choice : Choice) (error : Bool) (bytesSent : Nat) :
    Impl Endpoint :=
  let rest := impl.removeSent bytesSent
  if error then
    rest.withService (·.close choice)
  else
    rest.trySendMessage

def waitForMessage : Impl Endpoint :=
  if !impl.service.socketIsOpen then
    impl
  else if impl.messages ≠ [] then
    impl.trySendMessage
  else
    impl.withService (·.post .waitForMessage)

/-- Run a handler; the one of a write reports what was sent. -/
def handle (choice : Choice) : Handler Endpoint → Impl Endpoint
  | .resolverHandler error endpoints =>
      impl.resolverHandler choice error endpoints
  | .connectHandler error allEndpoints =>
      impl.connectHandler choice error allEndpoints
  | .receiveHandler error bytesReceived =>
      impl.receiveHandler choice error bytesReceived
  | .sentMessageHandler error bytesSent data =>
      { impl with
        reported := impl.reported ++ data.take bytesSent
      }.sentMessageHandler choice error bytesSent
  | .waitForMessage => impl.waitForMessage
  | .doAddressQuery => impl.doAddressQuery

/-- The constructor. -/
def start : Impl Endpoint :=
  doAddressQuery
    { connectionState := .addrLookup
      messageBuffer := []
      messages := []
      service := {}
      reported := [] }

end Impl

/-! ## What can happen -/

/-- A message is accepted, an operation goes on or completes, a handler runs. -/
inductive Event (Endpoint : Type*) where
  | sendMessage (message : Bytes)
  | resolved (error : Bool) (endpoints : List Endpoint)
  | connected (error : Bool)
  | received (error : Bool) (bytesReceived : Nat)
  | transferred (bytes : Nat)
  | written (error : Bool)
  | expired
  | handler (choice : Choice)

inductive Step : Impl Endpoint → Event Endpoint → Impl Endpoint → Prop where
  | sendMessage
      (impl : Impl Endpoint) (message : Bytes) :
      Step impl (.sendMessage message)
        { impl with messages := impl.messages ++ [message] }
  | resolved
      {impl : Impl Endpoint} {others : Nat} (error : Bool)
      (endpoints : List Endpoint)
      (outstanding : impl.service.resolves = others + 1) :
      Step impl (.resolved error endpoints)
        (impl.withService fun service =>
          { service with resolves := others }.post
            (.resolverHandler error endpoints))
  | connected
      {impl : Impl Endpoint} {before after : List (Connect Endpoint)}
      {attempt : Connect Endpoint} (error : Bool)
      (outstanding : impl.service.connects = before ++ attempt :: after) :
      Step impl (.connected error)
        (impl.withService fun service =>
          { service with connects := before ++ after }.post
            (.connectHandler error attempt.allEndpoints))
  | received
      {impl : Impl Endpoint} {others : Nat} (error : Bool)
      (bytesReceived : Nat)
      (outstanding : impl.service.receives = others + 1) :
      Step impl (.received error bytesReceived)
        (impl.withService fun service =>
          { service with receives := others }.post
            (.receiveHandler error bytesReceived))
  | transferred
      {impl : Impl Endpoint} {before after : List Write} {write : Write}
      (bytes : Nat)
      (outstanding : impl.service.writes = before ++ write :: after)
      (inside : write.sent + bytes ≤ write.data.length) :
      Step impl (.transferred bytes)
        (impl.withService fun service =>
          { service with
            writes :=
              before ++ { write with sent := write.sent + bytes } :: after })
  | written
      {impl : Impl Endpoint} {before after : List Write} {write : Write}
      (error : Bool)
      (outstanding : impl.service.writes = before ++ write :: after) :
      Step impl (.written error)
        (impl.withService fun service =>
          { service with writes := before ++ after }.post
            (.sentMessageHandler error write.sent write.data))
  | expired
      {impl : Impl Endpoint} {others : Nat}
      (outstanding : impl.service.timers = others + 1) :
      Step impl .expired
        (impl.withService fun service =>
          { service with timers := others }.post .doAddressQuery)
  | handler
      {impl : Impl Endpoint} {first : Handler Endpoint}
      {rest : List (Handler Endpoint)} (choice : Choice)
      (posted : impl.service.posted = first :: rest) :
      Step impl (.handler choice)
        ((impl.withService fun service =>
          { service with posted := rest }).handle choice first)

end KafkaToNexus.Metrics.Carbon
