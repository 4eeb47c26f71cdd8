import ModuleGateway.Library.Execution
import ModuleGateway.ExternalClient.ExternalConnection

/-! # The external client

The loop of the ExternalClient thread with the connect sequence it starts, the receive
loops, the acknowledgement timers and the reconnect timer. Each action is a section of
one of these threads, up to where another one can be noticed. Closing a connection waits
for its receive loop, so a message that the loop is handling then counts as handled before.
-/
namespace ModuleGateway.ExternalClient
open Structures ExternalConnection

variable {β : Type}

/-- A connection with its receive loop and timers. `expired` counts the acknowledgement timers
whose handler is still to run, which cancelling does not take back; `session` counts the
sessions that were established. -/
structure Endpoint (β : Type) where
  connection : ExternalConnection β
  listening : Bool
  responseHandled_ : Bool
  expired : ℕ
  session : ℕ

/-- `session` is the session of the connection when the item was pushed. -/
structure ReconnectQueueItem where
  connection_ : ℕ
  reconnect : Bool
  session : ℕ
deriving DecidableEq

/-- Where the ExternalClient thread is. A connect sequence for a connection remembers whether it
was started for the item at the front of `reconnectQueue_`, which is popped after it. In the wait for
the forced devices `awaiting` is before its condition, and `receiving` is before the wait of the queue; so are
`connecting` and `polling` in `drainQueueDuringConnect`. -/
inductive ClientLoop where
  | looping
  | waiting
  | draining (connection : ℕ) (fromQueue : Bool)
  | forcing (connection : ℕ) (fromQueue : Bool)
  | awaiting (connection : ℕ) (connectedDevices forcedDevices : List DeviceIdentification) (fromQueue : Bool)
  | receiving (connection : ℕ) (connectedDevices forcedDevices : List DeviceIdentification) (fromQueue : Bool)
  | connecting (connection : ℕ) (fromQueue : Bool)
  | polling (connection : ℕ) (fromQueue : Bool)
  | filling (connection : ℕ) (fromQueue : Bool)
  | joining (connection : ℕ) (fromQueue : Bool)
  | popping
deriving DecidableEq

/-- The `ExternalClient`. `timer_` holds the connections whose reconnect handler is still to run; arming the timer
again makes the handler before run at once. -/
structure Client (β : Type) where
  toExternalQueue_ : List (InternalClientMessage β)
  reconnectQueue_ : List ReconnectQueueItem
  externalConnectionsList_ : ℕ → Endpoint β
  timer_ : List ℕ
  loop : ClientLoop
  stopped : Bool

/-- The modules of each entry of `externalConnectionSettingsList`. -/
abbrev ConnectionSettings (β : Type) := List (Modules β)

namespace ConnectionSettings

def modules (settings : ConnectionSettings β) (connection : ℕ) : Modules β :=
  settings.getD connection fun _ => none

/-- A module goes to the first connection that lists it. -/
def externalConnectionMap_ (settings : ConnectionSettings β) (moduleNumber : ℤ) : Option ℕ :=
  settings.findIdx? fun modules => (modules moduleNumber).isSome

end ConnectionSettings

/-! ## One connection -/

namespace Endpoint
variable [BufferType β] (modules : Modules β)

def init : Endpoint β := ⟨.init,false,false,0,0⟩

omit [BufferType β] in
def isModuleSupported (moduleNumber : ℤ) : Bool := (modules moduleNumber).isSome

def fillErrorAggregator (e : Endpoint β) (deviceStatus : DeviceStatus β) : Endpoint β :=
  if isModuleSupported modules deviceStatus.device.module_ then
    { e with
      connection := { e.connection.fillErrorAggregator modules deviceStatus with inFlight := none }
      responseHandled_ := false }
  else e

def deinitializeConnection (e : Endpoint β) : Endpoint β :=
  { e with
    connection := e.connection.deinitializeConnection modules false
    listening := false
    responseHandled_ := false }

omit [BufferType β] in
def setNotInitialized (e : Endpoint β) : Endpoint β :=
  { e with connection := { e.connection with state_ := .NOT_INITIALIZED } }

/-- A failure to send closes the connection. -/
def sendStatus (e : Endpoint β) (status : DeviceStatus β) (deviceState : StatusDeviceState) (sent : Bool) :
    Endpoint β :=
  let connection := e.connection.sendStatus modules status deviceState BufferType.unallocated sent
  if isModuleSupported modules status.device.module_ && !sent then
    { e with connection := connection, listening := false, responseHandled_ := false }
  else { e with connection := connection }

/-- The connect thread is started. -/
def startConnectThread (e : Endpoint β) (connectedDevices : List DeviceIdentification) : Endpoint β :=
  { e with
    connection :=
      (e.connection.fillErrorAggregatorWithNotAckedStatuses modules).goto (.opening connectedDevices)
    responseHandled_ := false }

omit [BufferType β] in
/-- Those without a last status are forced to aggregate. -/
def forceAggregationOnAllDevices (e : Endpoint β) (connectedDevices : List DeviceIdentification) :
    List DeviceIdentification := connectedDevices.filter fun device => !e.connection.isRegistered device

omit [BufferType β] in
def connectResult (e : Endpoint β) : Option Bool :=
  match e.connection.connectThread with
  | .finished ok => some ok
  | _ => none

/-- A section of the connect thread; the receive loop starts when the session is established. -/
def initializeConnection (e : Endpoint β) (answer : Answer β) : Option (Endpoint β) :=
  (e.connection.initializeConnection modules answer).map fun connection =>
    match e.connection.connectThread with
    | .establishing _ => { e with connection := connection, listening := true, session := e.session + 1 }
    | .sending _ _ _ _ _ =>
      { e with connection := connection, responseHandled_ := e.responseHandled_ && answer.sent }
    | _ => { e with connection := connection }

omit [BufferType β] in
/-- One round of `receivingHandlerLoop`: what it pushes to `reconnectQueue_`, if it ends. -/
def receivingHandlerLoop (e : Endpoint β) (serverDisconnect : Bool) (message : Option (ServerMessage β)) :
    Option Bool × Endpoint β :=
  if serverDisconnect then (some false,{ e with listening := false })
  else
    match message with
    | none => (none,e)
    | some message =>
      if e.connection.state_ = .NOT_CONNECTED then (none,e)
      else
        match message with
        | .command sessionId messageCounter deviceCommand =>
          let r := e.connection.handleCommand modules sessionId messageCounter deviceCommand
          if r.1 = .OK then (none,{ e with connection := r.2 })
          else (some true,{ e with connection := r.2, listening := false })
        | .statusResponse _ _ messageCounter =>
          let r := e.connection.sentMessagesHandler_.acknowledgeStatus messageCounter
          let connection := { e.connection with sentMessagesHandler_ := r.2 }
          if r.1 = .OK then (none,{ e with connection := connection })
          else (some false,{ e with connection := connection, listening := false })
        | .connectResponse _ _ => (some true,{ e with listening := false })

omit [BufferType β] in
/-- `timeoutHandler`: the first one of a session pushes an item. -/
def timeoutHandler (e : Endpoint β) : Option Bool × Endpoint β :=
  if e.responseHandled_ then (none,{ e with expired := e.expired - 1 })
  else (some true,{ e with expired := e.expired - 1, responseHandled_ := true })

end Endpoint

/-! ## The client -/

namespace Client
variable [BufferType β] (settings : ConnectionSettings β)

def init : Client β := ⟨[],[],fun _ => .init,[],.looping,false⟩

omit [BufferType β] in
def goto (s : Client β) (loop : ClientLoop) : Client β := { s with loop := loop }

omit [BufferType β] in
def setEndpoint (s : Client β) (connection : ℕ) (e : Endpoint β) : Client β :=
  { s with externalConnectionsList_ := Function.update s.externalConnectionsList_ connection e }

omit [BufferType β] in
/-- `reconnectQueue_->pushAndNotify`. -/
def pushReconnect (s : Client β) (connection : ℕ) (reconnect : Bool) : Client β :=
  { s with
    reconnectQueue_ :=
      s.reconnectQueue_ ++ [⟨connection,reconnect,(s.externalConnectionsList_ connection).session⟩] }

omit [BufferType β] in
/-- What a thread of a connection did, with the item it pushed. -/
def report (s : Client β) (connection : ℕ) (r : Option Bool × Endpoint β) : Client β :=
  match r.1 with
  | none => s.setEndpoint connection r.2
  | some reconnect => (s.setEndpoint connection r.2).pushReconnect connection reconnect

/-- `ExternalClient::sendStatus`, with the connection that a connect sequence is to be started for
when none is running. -/
def sendStatus (s : Client β) (internalMessage : InternalClientMessage β) (sent : Bool) :
    Option ℕ × Client β :=
  let deviceStatus := internalMessage.devicestatus
  match settings.externalConnectionMap_ deviceStatus.device.module_ with
  | none => (none,s)
  | some connection =>
    let e := s.externalConnectionsList_ connection
    if e.connection.state_ ≠ .CONNECTED then
      let e := e.fillErrorAggregator (settings.modules connection) deviceStatus
      (if e.connection.state_ = .NOT_INITIALIZED then some connection else none,s.setEndpoint connection e)
    else
      (none,s.setEndpoint connection (e.sendStatus (settings.modules connection) deviceStatus
        (if internalMessage.disconnected then .DISCONNECT else .RUNNING) sent))

/-- A message that a connect sequence has popped: its own statuses are filled in, others are sent. -/
def passOn (s : Client β) (connection : ℕ) (internalMessage : InternalClientMessage β)
    (sent : Bool) : Client β :=
  let deviceStatus := internalMessage.devicestatus
  if Endpoint.isModuleSupported (settings.modules connection) deviceStatus.device.module_ then
    s.setEndpoint connection ((s.externalConnectionsList_ connection).fillErrorAggregator
      (settings.modules connection) deviceStatus)
  else (s.sendStatus settings internalMessage sent).2

/-- A round of the wait for the devices that were forced to aggregate; the wait of the queue may end
without a message. -/
def awaitForced (s : Client β) (connection : ℕ) (connectedDevices : List DeviceIdentification)
    (forcedDevices : List DeviceIdentification) (fromQueue sent : Bool) : Client β :=
  match s.toExternalQueue_ with
  | [] => s.goto (.awaiting connection connectedDevices forcedDevices fromQueue)
  | internalMessage :: queue =>
    let s := { s with toExternalQueue_ := queue }
    let device := internalMessage.devicestatus.device
    if Endpoint.isModuleSupported (settings.modules connection) device.module_ then
      if forcedDevices.any device.isSame then
        (s.passOn settings connection internalMessage sent).goto
          (.awaiting connection connectedDevices (forcedDevices.eraseP device.isSame) fromQueue)
      else
        { s with toExternalQueue_ := queue ++ [internalMessage] }.goto
          (.awaiting connection connectedDevices forcedDevices fromQueue)
    else
      (s.passOn settings connection internalMessage sent).goto
        (.awaiting connection connectedDevices forcedDevices fromQueue)

/-- A round of `drainQueueDuringConnect`; the wait of the queue may end without a message. An own status is
filled in by the next section. -/
def drainQueueDuringConnect (s : Client β) (connection : ℕ) (fromQueue sent : Bool) :
    Client β :=
  match s.toExternalQueue_ with
  | [] => s.goto (.connecting connection fromQueue)
  | internalMessage :: queue =>
    let e := s.externalConnectionsList_ connection
    if e.connectResult.isSome || e.connection.state_ = .CONNECTED || internalMessage.disconnected then
      s.goto (.joining connection fromQueue)
    else
      let s := { s with toExternalQueue_ := queue }
      let deviceStatus := internalMessage.devicestatus
      if Endpoint.isModuleSupported (settings.modules connection) deviceStatus.device.module_ then
        (s.setEndpoint connection { e with
          connection := { e.connection with inFlight := some deviceStatus } }).goto
            (.filling connection fromQueue)
      else (s.passOn settings connection internalMessage sent).goto (.connecting connection fromQueue)

/-- The next section of `handleAggregatedMessages` and of the `startExternalConnectSequence` in it.
`connectedDevices` is what `getAllConnectedDevices` returns. -/
def handleAggregatedMessages (s : Client β) (connectedDevices : List DeviceIdentification)
    (sent : Bool) : Option (Client β) :=
  match s.loop with
  | .looping =>
    if s.stopped then none
    else
      match s.reconnectQueue_ with
      | [] => some (s.goto .waiting)
      | reconnectItem :: _ =>
        let connection := reconnectItem.connection_
        let e := (s.externalConnectionsList_ connection).deinitializeConnection (settings.modules connection)
        if reconnectItem.reconnect then
          some ((s.setEndpoint connection e).goto (.draining connection true))
        else some ((s.setEndpoint connection e.setNotInitialized).goto .popping)
  | .popping => some ({ s with reconnectQueue_ := s.reconnectQueue_.tail }.goto .waiting)
  | .waiting =>
    match s.toExternalQueue_ with
    | [] => some (s.goto .looping)
    | message :: queue =>
      let r := { s with toExternalQueue_ := queue }.sendStatus settings message sent
      match r.1 with
      | none => some (r.2.goto .looping)
      | some connection => some (r.2.goto (.draining connection false))
  | .draining connection fromQueue =>
    match s.toExternalQueue_ with
    | [] => some (s.goto (.forcing connection fromQueue))
    | internalMessage :: queue =>
      if internalMessage.disconnected then some (s.goto (.forcing connection fromQueue))
      else some ({ s with toExternalQueue_ := queue }.passOn settings connection internalMessage sent)
  | .forcing connection fromQueue =>
    if connectedDevices.all fun device =>
        Endpoint.isModuleSupported (settings.modules connection) device.module_ then
      some (s.goto (.awaiting connection connectedDevices
        ((s.externalConnectionsList_ connection).forceAggregationOnAllDevices connectedDevices) fromQueue))
    else none
  | .awaiting connection connectedDevices forcedDevices fromQueue =>
    if forcedDevices.isEmpty || s.stopped then
      some ((s.setEndpoint connection ((s.externalConnectionsList_ connection).startConnectThread
        (settings.modules connection) connectedDevices)).goto (.connecting connection fromQueue))
    else some (s.goto (.receiving connection connectedDevices forcedDevices fromQueue))
  | .receiving connection connectedDevices forcedDevices fromQueue =>
    some (s.awaitForced settings connection connectedDevices forcedDevices fromQueue sent)
  | .connecting connection fromQueue =>
    let e := s.externalConnectionsList_ connection
    if e.connectResult.isSome || s.stopped || e.connection.state_ = .CONNECTED then
      some (s.goto (.joining connection fromQueue))
    else some (s.goto (.polling connection fromQueue))
  | .polling connection fromQueue => some (s.drainQueueDuringConnect settings connection fromQueue sent)
  | .filling connection fromQueue =>
    let e := s.externalConnectionsList_ connection
    match e.connection.inFlight with
    | none => none
    | some deviceStatus =>
      some ((s.setEndpoint connection (e.fillErrorAggregator (settings.modules connection)
        deviceStatus)).goto (.connecting connection fromQueue))
  | .joining connection fromQueue =>
    match (s.externalConnectionsList_ connection).connectResult with
    | none => none
    | some ok =>
      let s := if !ok && !s.stopped then { s with timer_ := s.timer_ ++ [connection] } else s
      some (s.goto (if fromQueue then .popping else .looping))

/-- A push of the Module Handler, a section of the client thread, of the connect thread or of the
receive loop of a connection, an acknowledgement timer that expires or whose handler runs, the
reconnect timer, or the end of the gateway. -/
inductive ClientAction (β : Type) where
  | push (internalMessage : InternalClientMessage β)
  | client (connectedDevices : List DeviceIdentification) (sent : Bool)
  | thread (connection : ℕ) (answer : Answer β)
  | receive (connection : ℕ) (serverDisconnect : Bool) (message : Option (ServerMessage β))
  | expire (connection : ℕ)
  | timeout (connection : ℕ)
  | reconnectTimer (connection : ℕ)
  | stop

def clientStep (s : Client β) : ClientAction β → Option (Client β)
  | .push internalMessage => some { s with toExternalQueue_ := s.toExternalQueue_ ++ [internalMessage] }
  | .client connectedDevices sent => s.handleAggregatedMessages settings connectedDevices sent
  | .thread connection answer =>
    ((s.externalConnectionsList_ connection).initializeConnection (settings.modules connection) answer).map
      (s.setEndpoint connection)
  | .receive connection serverDisconnect message =>
    let e := s.externalConnectionsList_ connection
    if e.listening ∧ e.connection.state_ ≠ .CONNECTING then
      some (s.report connection (e.receivingHandlerLoop (settings.modules connection) serverDisconnect message))
    else none
  | .expire connection =>
    let e := s.externalConnectionsList_ connection
    if e.connection.sentMessagesHandler_.allStatusesAcked then none
    else some (s.setEndpoint connection { e with expired := e.expired + 1 })
  | .timeout connection =>
    let e := s.externalConnectionsList_ connection
    if 0 < e.expired then some (s.report connection e.timeoutHandler) else none
  | .reconnectTimer connection =>
    if connection ∈ s.timer_ then
      some ({ s with timer_ := s.timer_.erase connection }.pushReconnect connection true)
    else none
  | .stop => some { s with stopped := true }

/-! ## What passing a message on leaves alone -/

section Frame
variable {settings}

/-- The queues, the threads and the sessions are those of `s`. -/
structure SameQueues (s t : Client β) : Prop where
  toExternalQueue_ : t.toExternalQueue_ = s.toExternalQueue_
  reconnectQueue_ : t.reconnectQueue_ = s.reconnectQueue_
  loop : t.loop = s.loop
  session : ∀ connection,
    (t.externalConnectionsList_ connection).session = (s.externalConnectionsList_ connection).session

omit [BufferType β] in
theorem SameQueues.refl (s : Client β) : SameQueues s s := ⟨rfl,rfl,rfl,fun _ => rfl⟩

omit [BufferType β] in
theorem sameQueues_setEndpoint (s : Client β) {connection : ℕ} {e : Endpoint β}
    (h : e.session = (s.externalConnectionsList_ connection).session) :
    SameQueues s (s.setEndpoint connection e) := by
  refine ⟨rfl,rfl,rfl,fun connection' => ?_⟩
  by_cases hc : connection' = connection
  · subst hc
    simpa only [setEndpoint, Function.update_self] using h
  · simp only [setEndpoint, Function.update_of_ne hc]

theorem fillErrorAggregator_session (modules : Modules β) (e : Endpoint β) (deviceStatus : DeviceStatus β) :
    (e.fillErrorAggregator modules deviceStatus).session = e.session := by
  rw [Endpoint.fillErrorAggregator]
  split <;> rfl

theorem sendStatus_session (modules : Modules β) (e : Endpoint β) (status : DeviceStatus β)
    (deviceState : StatusDeviceState) (sent : Bool) :
    (e.sendStatus modules status deviceState sent).session = e.session := by
  simp only [Endpoint.sendStatus]
  split <;> rfl

theorem sendStatus_sameQueues (settings : ConnectionSettings β) (s : Client β)
    (internalMessage : InternalClientMessage β) (sent : Bool) :
    SameQueues s (s.sendStatus settings internalMessage sent).2 := by
  simp only [sendStatus]
  split
  · exact .refl s
  · split
    · exact sameQueues_setEndpoint s (fillErrorAggregator_session _ _ _)
    · exact sameQueues_setEndpoint s (sendStatus_session _ _ _ _ _)

theorem passOn_sameQueues (settings : ConnectionSettings β) (s : Client β) (connection : ℕ)
    (internalMessage : InternalClientMessage β) (sent : Bool) :
    SameQueues s (s.passOn settings connection internalMessage sent) := by
  simp only [passOn]
  split
  · exact sameQueues_setEndpoint s (fillErrorAggregator_session _ _ _)
  · exact sendStatus_sameQueues settings s internalMessage sent

omit [BufferType β] in
/-- A thread of a connection may push an item for it. -/
theorem report_queues (s : Client β) (connection : ℕ) {r : Option Bool × Endpoint β}
    (h : r.2.session = (s.externalConnectionsList_ connection).session) :
    (s.report connection r).toExternalQueue_ = s.toExternalQueue_ ∧
      (s.report connection r).loop = s.loop ∧
      (∀ connection', ((s.report connection r).externalConnectionsList_ connection').session =
        (s.externalConnectionsList_ connection').session) ∧
      ((s.report connection r).reconnectQueue_ = s.reconnectQueue_ ∨ ∃ reconnect,
        (s.report connection r).reconnectQueue_ = s.reconnectQueue_ ++
          [⟨connection,reconnect,(s.externalConnectionsList_ connection).session⟩]) := by
  have hsame := sameQueues_setEndpoint s h
  simp only [report]
  cases r.1 with
  | none => exact ⟨rfl,rfl,hsame.session,.inl rfl⟩
  | some reconnect =>
    refine ⟨rfl,rfl,hsame.session,.inr ⟨reconnect,?_⟩⟩
    simp only [pushReconnect, hsame.session]
    rfl

omit [BufferType β] in
theorem receivingHandlerLoop_session (modules : Modules β) (e : Endpoint β) (serverDisconnect : Bool)
    (message : Option (ServerMessage β)) :
    (e.receivingHandlerLoop modules serverDisconnect message).2.session = e.session := by
  unfold Endpoint.receivingHandlerLoop
  split
  · rfl
  · split
    · rfl
    · split
      · rfl
      · split
        · dsimp only
          split <;> rfl
        · dsimp only
          split <;> rfl
        · rfl

omit [BufferType β] in
theorem timeoutHandler_session (e : Endpoint β) : e.timeoutHandler.2.session = e.session := by
  rw [Endpoint.timeoutHandler]
  split <;> rfl

end Frame

end Client

end ModuleGateway.ExternalClient
