import ModuleGateway.ExternalClient.ErrorAggregator

/-! # One external connection

The state of `ExternalConnection` with its `SentMessagesHandler`, and the functions
the ExternalClient thread, the connect thread and the receive loop call. The
connect thread is cut at its critical sections. What the channel answers is given
to every step that uses it; `sent` lists what was handed to the channel, and
`acknowledged` the statuses a response was accepted for.
-/
namespace ModuleGateway.ExternalClient
open Structures

variable {β : Type}

inductive ConnectionState where
  | NOT_INITIALIZED
  | NOT_CONNECTED
  | CONNECTING
  | CONNECTED
  | CLOSING
deriving DecidableEq

/-- `ExternalProtocol::Status::DeviceState`. -/
inductive StatusDeviceState where
  | CONNECTING
  | RUNNING
  | DISCONNECT
  | ERROR
deriving DecidableEq

/-- `ExternalProtocol::Status`. -/
structure Status (β : Type) where
  sessionId : String
  deviceState : StatusDeviceState
  messageCounter : UInt32
  deviceStatus : DeviceStatus β
  errorMessage : β

inductive CommandResponseType where
  | OK
  | DEVICE_NOT_SUPPORTED
  | DEVICE_NOT_CONNECTED
deriving DecidableEq

/-- `ExternalProtocol::ExternalClient`, without the fixed company and vehicle name. -/
inductive ClientMessage (β : Type) where
  | connect (sessionId : String) (devices : List DeviceIdentification)
  | status (status : Status β)
  | commandResponse (sessionId : String) (type : CommandResponseType) (messageCounter : UInt32)

/-- `ExternalProtocol::ExternalServer`; the flags say that the type is `ALREADY_LOGGED`, and
that it is `OK`. -/
inductive ServerMessage (β : Type) where
  | connectResponse (sessionId : String) (alreadyLogged : Bool)
  | statusResponse (sessionId : String) (ok : Bool) (messageCounter : UInt32)
  | command (sessionId : String) (messageCounter : UInt32) (deviceCommand : DeviceCommand β)

/-! ## Sent messages -/

structure SentMessagesHandler (β : Type) where
  notAckedStatuses_ : List (Status β)
  connectedDevices_ : List DeviceIdentification
  acknowledged : List (Status β)

namespace SentMessagesHandler

def addNotAckedStatus (s : SentMessagesHandler β) (status : Status β) : SentMessagesHandler β :=
  { s with notAckedStatuses_ := s.notAckedStatuses_ ++ [status] }

/-- `operator==` of identifications. -/
def sameDevice (device connectedDevice : DeviceIdentification) : Bool := device.isSame connectedDevice

def isDeviceConnected (s : SentMessagesHandler β) (device : DeviceIdentification) : Bool :=
  s.connectedDevices_.any (sameDevice device)

def isAnyDeviceConnected (s : SentMessagesHandler β) : Bool := !s.connectedDevices_.isEmpty

def allStatusesAcked (s : SentMessagesHandler β) : Bool := s.notAckedStatuses_.isEmpty

/-- The first status with the counter of the response is taken out. -/
def acknowledgeStatus (s : SentMessagesHandler β) (responseCounter : UInt32) :
    ReturnCode × SentMessagesHandler β :=
  match s.notAckedStatuses_.find? fun status => status.messageCounter = responseCounter with
  | none => (.NOT_OK,s)
  | some status =>
    let s := { s with
      notAckedStatuses_ := s.notAckedStatuses_.eraseP fun status => status.messageCounter = responseCounter
      acknowledged := s.acknowledged ++ [status] }
    (if !s.isAnyDeviceConnected && s.allStatusesAcked then .NOT_OK else .OK,s)

def clearAll (s : SentMessagesHandler β) : SentMessagesHandler β := { s with notAckedStatuses_ := [] }

def addDeviceAsConnected (s : SentMessagesHandler β) (device : DeviceIdentification) :
    SentMessagesHandler β := { s with connectedDevices_ := s.connectedDevices_ ++ [device] }

/-- One occurrence is taken out. -/
def deleteConnectedDevice (s : SentMessagesHandler β) (device : DeviceIdentification) :
    SentMessagesHandler β :=
  { s with connectedDevices_ := s.connectedDevices_.eraseP (sameDevice device) }

end SentMessagesHandler

/-! ## The connection -/

/-- Where the connect thread is; `finished` is also the state before the first one, and
remembers whether `initializeConnection` returned `OK`. -/
inductive ConnectThread (β : Type) where
  | finished (ok : Bool)
  | opening (devices : List DeviceIdentification)
  | connecting (devices : List DeviceIdentification)
  | reading (devices remaining : List DeviceIdentification)
  | sending (devices : List DeviceIdentification) (device : DeviceIdentification) (status error : β)
      (remaining : List DeviceIdentification)
  | acknowledging (devices : List DeviceIdentification) (responses : ℕ)
  | commanding (devices : List DeviceIdentification) (commands : ℕ)
  | establishing (devices : List DeviceIdentification)
  | clearing (devices : List DeviceIdentification)

namespace ConnectThread

/-- The devices the sequence was started with. -/
def devices : ConnectThread β → List DeviceIdentification
  | .finished _ => []
  | .opening devices => devices
  | .connecting devices => devices
  | .reading devices _ => devices
  | .sending devices _ _ _ _ => devices
  | .acknowledging devices _ => devices
  | .commanding devices _ => devices
  | .establishing devices => devices
  | .clearing devices => devices

/-- Those of them whose status is still to be sent. -/
def pending : ConnectThread β → List DeviceIdentification
  | .opening devices => devices
  | .connecting devices => devices
  | .reading _ remaining => remaining
  | .sending _ device _ _ remaining => device :: remaining
  | _ => []

end ConnectThread

/-- `inFlight` is a status the client thread has taken from its queue for `fillErrorAggregator`. -/
structure ExternalConnection (β : Type) where
  state_ : ConnectionState
  sessionId_ : String
  clientMessageCounter_ : UInt32
  serverMessageCounter_ : UInt32
  sentMessagesHandler_ : SentMessagesHandler β
  errorAggregators_ : ℤ → ErrorAggregator β
  sent : List (ClientMessage β)
  commandQueue_ : List (DeviceCommand β)
  connectThread : ConnectThread β
  inFlight : Option (DeviceStatus β)

/-- The modules the connection serves, with their library handlers. -/
abbrev Modules (β : Type) := ℤ → Option (ModuleLibraryHandler β)

namespace ExternalConnection

def init : ExternalConnection β :=
  ⟨.NOT_INITIALIZED,"",0,0,⟨[],[],[]⟩,fun _ => .init,[],[],.finished false,none⟩

def goto (s : ExternalConnection β) (connectThread : ConnectThread β) : ExternalConnection β :=
  { s with connectThread := connectThread }

/-- `communicationChannel_->sendMessage`; whether it succeeds is up to the channel. -/
def sendMessage (s : ExternalConnection β) (message : ClientMessage β) : ExternalConnection β :=
  { s with sent := s.sent ++ [message] }

variable [BufferType β] (modules : Modules β)

/-- `errorAggregators_.find(module)->second.add_status_to_error_aggregator(status, device)`. -/
def addStatusToErrorAggregator (errorAggregators : ℤ → ErrorAggregator β) (status : DeviceStatus β) :
    ℤ → ErrorAggregator β :=
  match modules status.device.module_ with
  | none => errorAggregators
  | some module_ =>
    Function.update errorAggregators status.device.module_
      ((errorAggregators status.device.module_).add_status_to_error_aggregator module_
        status.statusdata status.device).2

/-- `fillErrorAggregatorWithNotAckedStatuses` and its `Impl`. -/
def fillErrorAggregatorWithNotAckedStatuses (s : ExternalConnection β) : ExternalConnection β :=
  { s with
    errorAggregators_ := s.sentMessagesHandler_.notAckedStatuses_.foldl
      (fun errorAggregators notAckedStatus =>
        addStatusToErrorAggregator modules errorAggregators notAckedStatus.deviceStatus)
      s.errorAggregators_
    sentMessagesHandler_ := s.sentMessagesHandler_.clearAll }

def fillErrorAggregator (s : ExternalConnection β) (deviceStatus : DeviceStatus β) :
    ExternalConnection β :=
  match modules deviceStatus.device.module_ with
  | none => s
  | some _ =>
    let s := s.fillErrorAggregatorWithNotAckedStatuses modules
    { s with errorAggregators_ := addStatusToErrorAggregator modules s.errorAggregators_ deviceStatus }

/-- The loop over the aggregators after a successful connect sequence. -/
def clearErrorAggregators (s : ExternalConnection β) : ExternalConnection β :=
  { s with errorAggregators_ := fun number => (s.errorAggregators_ number).clear_error_aggregator }

def deinitializeConnection (s : ExternalConnection β) (completeDisconnect : Bool) :
    ExternalConnection β :=
  let s := { s with state_ := .NOT_INITIALIZED, clientMessageCounter_ := 0, serverMessageCounter_ := 0 }
  if completeDisconnect then s.clearErrorAggregators
  else s.fillErrorAggregatorWithNotAckedStatuses modules

omit [BufferType β] in
/-- `errorAggregator.get_last_status(...) != DEVICE_NOT_REGISTERED`. -/
def isRegistered (s : ExternalConnection β) (device : DeviceIdentification) : Bool :=
  ((s.errorAggregators_ device.module_).devices_ device.key).isSome

omit [BufferType β] in
/-- The switch of `sendStatus`: the state that is sent and the set of connected devices. -/
def switchDeviceState (handler : SentMessagesHandler β) (device : DeviceIdentification) :
    StatusDeviceState → StatusDeviceState × SentMessagesHandler β
  | .CONNECTING => (.CONNECTING,handler.addDeviceAsConnected device)
  | .RUNNING =>
    if !handler.isDeviceConnected device then (.CONNECTING,handler.addDeviceAsConnected device)
    else (.RUNNING,handler)
  | .DISCONNECT => (.DISCONNECT,handler.deleteConnectedDevice device)
  | .ERROR => (.ERROR,handler)

omit [BufferType β] in
/-- The state that is sent, after the override for devices that are not registered, and the
set of connected devices after the switch. -/
def switched (s : ExternalConnection β) (device : DeviceIdentification)
    (deviceState : StatusDeviceState) : StatusDeviceState × SentMessagesHandler β :=
  switchDeviceState s.sentMessagesHandler_ device
    (if s.isRegistered device then deviceState else .CONNECTING)

omit [BufferType β] in
def createStatus (s : ExternalConnection β) (status : DeviceStatus β)
    (deviceState : StatusDeviceState) (errorMessage : β) : Status β :=
  ⟨s.sessionId_,(s.switched status.device deviceState).1,s.clientMessageCounter_ + 1,status,errorMessage⟩

def sendStatus (s : ExternalConnection β) (status : DeviceStatus β) (deviceState : StatusDeviceState)
    (errorMessage : β) (sent : Bool) : ExternalConnection β :=
  if (modules status.device.module_).isNone then s
  else
    let externalMessage := s.createStatus status deviceState errorMessage
    let s := { s with
      errorAggregators_ :=
        if s.isRegistered status.device then s.errorAggregators_
        else addStatusToErrorAggregator modules s.errorAggregators_ status
      clientMessageCounter_ := s.clientMessageCounter_ + 1
      sentMessagesHandler_ := (s.switched status.device deviceState).2.addNotAckedStatus externalMessage }
    let s := s.sendMessage (.status externalMessage)
    if sent then s else s.deinitializeConnection modules false

/-- The return code; a command that is refused may still have moved the counter. -/
def handleCommand (s : ExternalConnection β) (sessionId : String) (messageCounter : UInt32)
    (deviceCommand : DeviceCommand β) : ReturnCode × ExternalConnection β :=
  if sessionId ≠ s.sessionId_ then (.COMMAND_INVALID,s)
  else if s.serverMessageCounter_ ≠ 0 ∧ s.serverMessageCounter_ + 1 ≠ messageCounter then
    (.COMMAND_INVALID,s)
  else
    let s := { s with serverMessageCounter_ := messageCounter }
    let device := deviceCommand.device
    match modules device.module_ with
    | none => (.NOT_OK,s)
    | some module_ =>
      if s.sentMessagesHandler_.isDeviceConnected device then
        (.OK,{ s with commandQueue_ := s.commandQueue_ ++ [deviceCommand] }.sendMessage
          (.commandResponse s.sessionId_ .OK messageCounter))
      else if module_.isDeviceTypeSupported device.deviceType ≠ .OK then
        (.OK,s.sendMessage (.commandResponse s.sessionId_ .DEVICE_NOT_SUPPORTED messageCounter))
      else (.OK,s.sendMessage (.commandResponse s.sessionId_ .DEVICE_NOT_CONNECTED messageCounter))

/-! ## The connect thread -/

/-- What the channel and the random generator answer to one section of the connect thread. -/
structure Answer (β : Type) where
  opened : Bool
  sessionId : String
  sent : Bool
  received : Option (ServerMessage β)

omit [BufferType β] in
/-- A step of the connect sequence failed. -/
def fail (s : ExternalConnection β) : ExternalConnection β :=
  { s with state_ := .NOT_CONNECTED }.goto (.finished false)

omit [BufferType β] in
/-- Up to the channel: a failure here leaves the connection `NOT_CONNECTED`. -/
def openChannel (s : ExternalConnection β) (devices : List DeviceIdentification) (answer : Answer β) :
    ExternalConnection β :=
  let s := if s.state_ = .NOT_INITIALIZED then { s with state_ := .NOT_CONNECTED } else s
  if answer.opened then { s with state_ := .CONNECTING }.goto (.connecting devices)
  else s.goto (.finished false)

omit [BufferType β] in
/-- `connectMessageHandle`. -/
def connectMessageHandle (s : ExternalConnection β) (devices : List DeviceIdentification)
    (answer : Answer β) : ExternalConnection β :=
  let s := { s with sessionId_ := answer.sessionId }.sendMessage (.connect answer.sessionId devices)
  if !answer.sent then s.fail
  else
    match answer.received with
    | some (.connectResponse sessionId alreadyLogged) =>
      if sessionId ≠ s.sessionId_ then s.fail
      else if alreadyLogged then s.fail
      else s.goto (.reading devices devices)
    | _ => s.fail

/-- The section of `statusMessageHandle` under `errorAggregatorsMutex_`. -/
def readStatus (s : ExternalConnection β) (devices : List DeviceIdentification)
    (device : DeviceIdentification) (remaining : List DeviceIdentification) : ExternalConnection β :=
  let aggregator := s.errorAggregators_ device.module_
  match aggregator.get_error device with
  | .error .DEVICE_NOT_REGISTERED => s.fail
  | error =>
    let errorBuffer := match error with
      | .ok error => error
      | .error _ => BufferType.unallocated
    match aggregator.get_last_status device with
    | .error _ => s.fail
    | .ok status => s.goto (.sending devices device status errorBuffer remaining)

omit [BufferType β] in
/-- One response of the second step. -/
def receiveStatusResponse (s : ExternalConnection β) (devices : List DeviceIdentification)
    (responses : ℕ) (received : Option (ServerMessage β)) : ExternalConnection β :=
  match received with
  | some (.statusResponse sessionId ok messageCounter) =>
    if !ok then s.fail
    else if sessionId ≠ s.sessionId_ then s.fail
    else
      { s with sentMessagesHandler_ := (s.sentMessagesHandler_.acknowledgeStatus messageCounter).2 }.goto
        (.acknowledging devices responses)
  | _ => s.fail

/-- One command of the third step. -/
def receiveCommand (s : ExternalConnection β) (devices : List DeviceIdentification) (commands : ℕ)
    (received : Option (ServerMessage β)) : ExternalConnection β :=
  match received with
  | some (.command sessionId messageCounter deviceCommand) =>
    match s.handleCommand modules sessionId messageCounter deviceCommand with
    | (.OK,s) => s.goto (.commanding devices commands)
    | (_,s) => s.fail
  | _ => s.fail

/-- The next section of `initializeConnection`. -/
def initializeConnection (s : ExternalConnection β) (answer : Answer β) : Option (ExternalConnection β) :=
  match s.connectThread with
  | .finished _ => none
  | .opening devices => some (s.openChannel devices answer)
  | .connecting devices => some (s.connectMessageHandle devices answer)
  | .reading devices [] => some (s.goto (.acknowledging devices devices.length))
  | .reading devices (device :: remaining) => some (s.readStatus devices device remaining)
  | .sending devices device status error remaining =>
    some ((s.sendStatus modules ⟨device,status⟩ .CONNECTING error answer.sent).goto
      (.reading devices remaining))
  | .acknowledging devices 0 => some (s.goto (.commanding devices devices.length))
  | .acknowledging devices (responses + 1) =>
    some (s.receiveStatusResponse devices responses answer.received)
  | .commanding devices 0 => some (s.goto (.establishing devices))
  | .commanding devices (commands + 1) => some (s.receiveCommand modules devices commands answer.received)
  | .establishing devices => some ({ s with state_ := .CONNECTED }.goto (.clearing devices))
  | .clearing _ => some (s.clearErrorAggregators.goto (.finished true))

/-! ## Steps -/

/-- A section of the connect thread, of the client thread, or of the receive loop. The client
calls `sendStatus`, `connect` and `deinitializeConnection` only outside of a connect sequence, and
`connect` with the devices of the modules of the connection; it looks at `state_` when it
takes a status and fills the error aggregator with it afterwards. -/
inductive ConnectionAction (β : Type) where
  | connect (devices : List DeviceIdentification)
  | thread (answer : Answer β)
  | sendStatus (status : DeviceStatus β) (deviceState : StatusDeviceState) (sent : Bool)
  | take (status : DeviceStatus β)
  | fill
  | receive (message : ServerMessage β)
  | deinitializeConnection (completeDisconnect : Bool)

omit [BufferType β] in
/-- No connect thread runs and the client has no status in its hands. -/
def isIdle (s : ExternalConnection β) : Bool :=
  match s.connectThread with
  | .finished _ => s.inFlight.isNone
  | _ => false

def connectionStep (s : ExternalConnection β) : ConnectionAction β → Option (ExternalConnection β)
  | .connect devices =>
    if s.isIdle ∧ s.state_ ≠ .CONNECTED ∧ devices.all (fun device => (modules device.module_).isSome) then
      some ((s.fillErrorAggregatorWithNotAckedStatuses modules).goto (.opening devices))
    else none
  | .thread answer => s.initializeConnection modules answer
  | .sendStatus status deviceState sent =>
    if s.isIdle ∧ s.state_ = .CONNECTED then
      some (s.sendStatus modules status deviceState BufferType.unallocated sent)
    else none
  | .take status =>
    if s.inFlight.isNone ∧ s.state_ ≠ .CONNECTED then some { s with inFlight := some status } else none
  | .fill => s.inFlight.map fun status => { s.fillErrorAggregator modules status with inFlight := none }
  | .receive message =>
    if s.state_ = .CONNECTED then
      match message with
      | .statusResponse _ _ messageCounter =>
        some { s with
          sentMessagesHandler_ := (s.sentMessagesHandler_.acknowledgeStatus messageCounter).2 }
      | .command sessionId messageCounter deviceCommand =>
        some (s.handleCommand modules sessionId messageCounter deviceCommand).2
      | .connectResponse _ _ => some s
    else none
  | .deinitializeConnection completeDisconnect =>
    if s.isIdle then some (s.deinitializeConnection modules completeDisconnect) else none

/-! ## What the functions leave alone -/

section Frame
variable {modules} (s : ExternalConnection β)

omit [BufferType β] in
theorem isIdle_iff {s : ExternalConnection β} :
    s.isIdle = true ↔ (∃ ok, s.connectThread = .finished ok) ∧ s.inFlight = none := by
  rw [isIdle]
  split
  next ok hthread => simp [hthread]
  next hno => exact iff_of_false Bool.false_ne_true fun ⟨⟨ok,h⟩,_⟩ => hno ok h

theorem deinitializeConnection_frame (modules : Modules β) (completeDisconnect : Bool) :
    let t := s.deinitializeConnection modules completeDisconnect
    t.state_ = .NOT_INITIALIZED ∧ t.sessionId_ = s.sessionId_ ∧ t.sent = s.sent ∧
      t.connectThread = s.connectThread ∧ t.inFlight = s.inFlight ∧
      t.sentMessagesHandler_.connectedDevices_ = s.sentMessagesHandler_.connectedDevices_ ∧
      t.sentMessagesHandler_.acknowledged = s.sentMessagesHandler_.acknowledged := by
  cases completeDisconnect <;> exact ⟨rfl,rfl,rfl,rfl,rfl,rfl,rfl⟩

theorem fillErrorAggregator_frame (modules : Modules β) (status : DeviceStatus β) :
    let t := s.fillErrorAggregator modules status
    t.state_ = s.state_ ∧ t.sessionId_ = s.sessionId_ ∧ t.sent = s.sent ∧
      t.connectThread = s.connectThread ∧ t.inFlight = s.inFlight ∧
      t.sentMessagesHandler_.connectedDevices_ = s.sentMessagesHandler_.connectedDevices_ ∧
      t.sentMessagesHandler_.acknowledged = s.sentMessagesHandler_.acknowledged := by
  rw [fillErrorAggregator]
  cases modules status.device.module_ <;> exact ⟨rfl,rfl,rfl,rfl,rfl,rfl,rfl⟩

omit [BufferType β] in
/-- Acknowledging a status touches neither the connected devices nor anything outside. -/
theorem acknowledgeStatus_connectedDevices_ (handler : SentMessagesHandler β) (counter : UInt32) :
    (handler.acknowledgeStatus counter).2.connectedDevices_ = handler.connectedDevices_ := by
  rw [SentMessagesHandler.acknowledgeStatus]
  split <;> rfl

omit [BufferType β] in
theorem acknowledgeStatus_notAcked (handler : SentMessagesHandler β) (counter : UInt32) :
    (handler.acknowledgeStatus counter).2.notAckedStatuses_ =
      handler.notAckedStatuses_.eraseP fun status => status.messageCounter = counter := by
  rw [SentMessagesHandler.acknowledgeStatus]
  cases hfind : handler.notAckedStatuses_.find? fun status => status.messageCounter = counter with
  | none => exact (List.eraseP_of_forall_not fun status hmem h => List.find?_eq_none.mp hfind status hmem h).symm
  | some status => rfl

omit [BufferType β] in
theorem acknowledgeStatus_subset (handler : SentMessagesHandler β) (counter : UInt32) :
    (handler.acknowledgeStatus counter).2.notAckedStatuses_ ⊆ handler.notAckedStatuses_ := by
  rw [acknowledgeStatus_notAcked]
  exact List.eraseP_subset

omit [BufferType β] in
/-- A status that is taken out is acknowledged. -/
theorem acknowledgeStatus_acknowledged (handler : SentMessagesHandler β) (counter : UInt32) :
    ∃ acked, (handler.acknowledgeStatus counter).2.acknowledged = handler.acknowledged ++ acked ∧
      (acked ++ (handler.acknowledgeStatus counter).2.notAckedStatuses_).Perm handler.notAckedStatuses_ := by
  rw [SentMessagesHandler.acknowledgeStatus]
  cases hfind : handler.notAckedStatuses_.find? fun status => status.messageCounter = counter with
  | none => exact ⟨[],(List.append_nil _).symm,List.Perm.refl _⟩
  | some status =>
    refine ⟨[status],rfl,?_⟩
    obtain ⟨hcounter,before,after,hsplit,hbefore⟩ := List.find?_eq_some_iff_append.mp hfind
    dsimp only
    have herase : (status :: after).eraseP (fun status => decide (status.messageCounter = counter)) = after :=
      List.eraseP_cons_of_pos hcounter
    rw [hsplit, List.eraseP_append_right _ (by simpa using hbefore), herase]
    exact (@List.perm_middle _ status before after).symm

omit [BufferType β] in
/-- A command moves the counter, goes to the queue and is answered. -/
theorem handleCommand_frame (modules : Modules β) (sessionId : String) (messageCounter : UInt32)
    (deviceCommand : DeviceCommand β) :
    ∃ counter queue responses,
      (s.handleCommand modules sessionId messageCounter deviceCommand).2 =
        { s with serverMessageCounter_ := counter, commandQueue_ := queue, sent := s.sent ++ responses } ∧
      ∀ m ∈ responses, ∃ type, m = .commandResponse s.sessionId_ type messageCounter := by
  rw [handleCommand]
  split
  · exact ⟨s.serverMessageCounter_,s.commandQueue_,[],by simp,by simp⟩
  · split
    · exact ⟨s.serverMessageCounter_,s.commandQueue_,[],by simp,by simp⟩
    · dsimp only
      split
      · exact ⟨messageCounter,s.commandQueue_,[],by simp,by simp⟩
      · split
        · exact ⟨messageCounter,_,[_],rfl,by simp⟩
        · split
          · exact ⟨messageCounter,s.commandQueue_,[_],rfl,by simp⟩
          · exact ⟨messageCounter,s.commandQueue_,[_],rfl,by simp⟩

omit [BufferType β] in
/-- The switch touches the connected devices only. -/
theorem switched_frame (device : DeviceIdentification) (deviceState : StatusDeviceState) :
    (s.switched device deviceState).2.notAckedStatuses_ = s.sentMessagesHandler_.notAckedStatuses_ ∧
      (s.switched device deviceState).2.acknowledged = s.sentMessagesHandler_.acknowledged := by
  rw [switched]
  cases s.isRegistered device with
  | false => exact ⟨rfl,rfl⟩
  | true =>
    cases deviceState with
    | RUNNING =>
      simp only [if_true, switchDeviceState]
      split <;> exact ⟨rfl,rfl⟩
    | CONNECTING => exact ⟨rfl,rfl⟩
    | DISCONNECT => exact ⟨rfl,rfl⟩
    | ERROR => exact ⟨rfl,rfl⟩

theorem sendStatus_frame (status : DeviceStatus β) (h : (modules status.device.module_).isSome)
    (deviceState : StatusDeviceState) (errorMessage : β) (sent : Bool) :
    let t := s.sendStatus modules status deviceState errorMessage sent
    t.state_ = (if sent then s.state_ else .NOT_INITIALIZED) ∧ t.sessionId_ = s.sessionId_ ∧
      t.sent = s.sent ++ [.status (s.createStatus status deviceState errorMessage)] ∧
      t.connectThread = s.connectThread ∧ t.inFlight = s.inFlight ∧
      t.sentMessagesHandler_.connectedDevices_ =
        (s.switched status.device deviceState).2.connectedDevices_ ∧
      t.sentMessagesHandler_.acknowledged = s.sentMessagesHandler_.acknowledged := by
  have hacked := (s.switched_frame status.device deviceState).2
  have hsome : ¬(modules status.device.module_).isNone = true := by
    rw [Option.isNone_iff_eq_none, ← Option.not_isSome_iff_eq_none]
    exact not_not_intro h
  rw [sendStatus, if_neg hsome]
  cases sent <;> exact ⟨rfl,rfl,rfl,rfl,rfl,rfl,hacked⟩

theorem addStatusToErrorAggregator_unsupported {modules : Modules β}
    (errorAggregators : ℤ → ErrorAggregator β) {status : DeviceStatus β}
    (h : ∀ module_, modules status.device.module_ = some module_ →
      module_.isDeviceTypeSupported status.device.deviceType = .NOT_OK) :
    addStatusToErrorAggregator modules errorAggregators status = errorAggregators := by
  rw [addStatusToErrorAggregator]
  cases hmodule : modules status.device.module_ with
  | none => rfl
  | some module_ =>
    dsimp only
    rw [ErrorAggregator.add_status_to_error_aggregator, if_pos (h module_ hmodule)]
    exact Function.update_eq_self _ _

/-- A status of a registered device, or of a type that is not aggregated, changes no entry
unless it cannot be sent. -/
theorem sendStatus_registered (status : DeviceStatus β) (h : (modules status.device.module_).isSome)
    (hregistered : s.isRegistered status.device = true ∨
      ∀ module_, modules status.device.module_ = some module_ →
        module_.isDeviceTypeSupported status.device.deviceType = .NOT_OK)
    (deviceState : StatusDeviceState) (errorMessage : β) (sent : Bool) :
    ∃ u : ExternalConnection β, u.errorAggregators_ = s.errorAggregators_ ∧
      u.connectThread = s.connectThread ∧ u.inFlight = s.inFlight ∧
      u.sent = s.sent ++ [.status (s.createStatus status deviceState errorMessage)] ∧
      u.sentMessagesHandler_.notAckedStatuses_ =
        s.sentMessagesHandler_.notAckedStatuses_ ++ [s.createStatus status deviceState errorMessage] ∧
      u.sentMessagesHandler_.acknowledged = s.sentMessagesHandler_.acknowledged ∧
      s.sendStatus modules status deviceState errorMessage sent =
        if sent then u else u.deinitializeConnection modules false := by
  have hsome : ¬(modules status.device.module_).isNone = true := by
    rw [Option.isNone_iff_eq_none, ← Option.not_isSome_iff_eq_none]
    exact not_not_intro h
  have hentries : (if s.isRegistered status.device then s.errorAggregators_
      else addStatusToErrorAggregator modules s.errorAggregators_ status) = s.errorAggregators_ := by
    rcases hregistered with hreg | hunsupported
    · exact if_pos hreg
    · rw [addStatusToErrorAggregator_unsupported s.errorAggregators_ hunsupported, ite_self]
  obtain ⟨hnotAcked,hacked⟩ := s.switched_frame status.device deviceState
  let u := ({ s with
    errorAggregators_ :=
      if s.isRegistered status.device then s.errorAggregators_
      else addStatusToErrorAggregator modules s.errorAggregators_ status
    clientMessageCounter_ := s.clientMessageCounter_ + 1
    sentMessagesHandler_ := (s.switched status.device deviceState).2.addNotAckedStatus
      (s.createStatus status deviceState errorMessage) } : ExternalConnection β).sendMessage
        (.status (s.createStatus status deviceState errorMessage))
  rw [sendStatus, if_neg hsome]
  exact ⟨u,hentries,rfl,rfl,rfl,congrArg (· ++ _) hnotAcked,hacked,rfl⟩

theorem sendStatus_none (status : DeviceStatus β) (h : ¬(modules status.device.module_).isSome)
    (deviceState : StatusDeviceState) (errorMessage : β) (sent : Bool) :
    s.sendStatus modules status deviceState errorMessage sent = s := by
  rw [sendStatus, if_pos (by simpa using h)]

/-! ## What a section of the connect thread ends with -/

omit [BufferType β] in
theorem openChannel_cases (devices : List DeviceIdentification) (answer : Answer β) :
    s.openChannel devices answer = { s with state_ := .CONNECTING }.goto (.connecting devices) ∨
      ∃ state, (state = .CONNECTED → s.state_ = .CONNECTED) ∧
        s.openChannel devices answer = { s with state_ := state }.goto (.finished false) := by
  simp only [openChannel]
  by_cases hstate : s.state_ = .NOT_INITIALIZED <;> cases answer.opened
  · exact .inr ⟨.NOT_CONNECTED,nofun,by rw [if_pos hstate]; rfl⟩
  · exact .inl (by rw [if_pos hstate]; rfl)
  · exact .inr ⟨s.state_,id,by rw [if_neg hstate]; rfl⟩
  · exact .inl (by rw [if_neg hstate]; rfl)

omit [BufferType β] in
theorem connectMessageHandle_cases (devices : List DeviceIdentification) (answer : Answer β) :
    let u := { s with
      sessionId_ := answer.sessionId
      sent := s.sent ++ [ClientMessage.connect answer.sessionId devices] }
    s.connectMessageHandle devices answer = u.fail ∨
      s.connectMessageHandle devices answer = u.goto (.reading devices devices) := by
  intro u
  have hdef : s.connectMessageHandle devices answer =
      if !answer.sent then u.fail
      else
        match answer.received with
        | some (.connectResponse sessionId alreadyLogged) =>
          if sessionId ≠ u.sessionId_ then u.fail
          else if alreadyLogged then u.fail
          else u.goto (.reading devices devices)
        | _ => u.fail := rfl
  clear_value u
  rw [hdef]
  split
  · exact .inl rfl
  · split
    · split
      · exact .inl rfl
      · split
        · exact .inl rfl
        · exact .inr rfl
    · exact .inl rfl

/-- A device that is read is registered, and its error goes along if there is one. -/
theorem readStatus_cases (devices : List DeviceIdentification) (device : DeviceIdentification)
    (remaining : List DeviceIdentification) :
    (¬s.isRegistered device = true ∧ s.readStatus devices device remaining = s.fail) ∨ ∃ deviceState : DeviceState β,
      (s.errorAggregators_ device.module_).devices_ device.key = some deviceState ∧
      s.readStatus devices device remaining = s.goto (.sending devices device deviceState.lastStatus
        (if isAllocated deviceState.errorMessage then deviceState.errorMessage
          else BufferType.unallocated) remaining) := by
  simp only [readStatus, isRegistered, ErrorAggregator.get_error, ErrorAggregator.get_last_status]
  cases (s.errorAggregators_ device.module_).devices_ device.key with
  | none => exact .inl ⟨Bool.false_ne_true,rfl⟩
  | some deviceState =>
    refine .inr ⟨deviceState,rfl,?_⟩
    by_cases halloc : isAllocated deviceState.errorMessage = true
    · simp only [halloc, if_true]
    · simp only [halloc, if_false, Bool.false_eq_true]

omit [BufferType β] in
theorem receiveStatusResponse_cases (devices : List DeviceIdentification) (responses : ℕ)
    (received : Option (ServerMessage β)) :
    ((¬∃ messageCounter, received = some (.statusResponse s.sessionId_ true messageCounter)) ∧
      s.receiveStatusResponse devices responses received = s.fail) ∨ ∃ messageCounter,
      s.receiveStatusResponse devices responses received =
        { s with sentMessagesHandler_ := (s.sentMessagesHandler_.acknowledgeStatus messageCounter).2 }.goto
          (.acknowledging devices responses) := by
  simp only [receiveStatusResponse]
  split
  · rename_i sessionId ok messageCounter
    by_cases hok : ok = true
    · by_cases hsession : sessionId = s.sessionId_
      · exact .inr ⟨messageCounter,by simp [hok, hsession]⟩
      · exact .inl ⟨by simp [hsession],by simp [hok, hsession]⟩
    · exact .inl ⟨by simp [hok],by simp [hok]⟩
  · rename_i hother
    exact .inl ⟨fun ⟨counter,h⟩ => hother _ _ _ h,rfl⟩

omit [BufferType β] in
theorem handleCommand_ok (modules : Modules β) {sessionId : String} {messageCounter : UInt32}
    {deviceCommand : DeviceCommand β} :
    (s.handleCommand modules sessionId messageCounter deviceCommand).1 = .OK ↔ sessionId = s.sessionId_ ∧
      (s.serverMessageCounter_ = 0 ∨ s.serverMessageCounter_ + 1 = messageCounter) ∧
      (modules deviceCommand.device.module_).isSome := by
  rw [handleCommand]
  by_cases hsession : sessionId = s.sessionId_
  · rw [if_neg (not_not_intro hsession)]
    by_cases hcounter : s.serverMessageCounter_ = 0 ∨ s.serverMessageCounter_ + 1 = messageCounter
    · rw [if_neg fun h => hcounter.elim h.1 h.2]
      dsimp only
      cases hmodule : modules deviceCommand.device.module_ with
      | none => simp
      | some module_ =>
        refine iff_of_true ?_ ⟨hsession,hcounter,rfl⟩
        dsimp only
        split
        · rfl
        · split <;> rfl
    · rw [if_pos (not_or.mp hcounter)]
      exact iff_of_false ReturnCode.noConfusion fun h => hcounter h.2.1
  · rw [if_pos hsession]
    exact iff_of_false ReturnCode.noConfusion fun h => hsession h.1

omit [BufferType β] in
theorem receiveCommand_cases (modules : Modules β) (devices : List DeviceIdentification) (commands : ℕ)
    (received : Option (ServerMessage β)) :
    ∃ counter queue responses,
      let u := { s with serverMessageCounter_ := counter, commandQueue_ := queue, sent := s.sent ++ responses }
      (∀ m ∈ responses, ∃ sessionId type messageCounter, m = .commandResponse sessionId type messageCounter) ∧
        (((¬∃ messageCounter deviceCommand,
            received = some (.command s.sessionId_ messageCounter deviceCommand) ∧
              (s.serverMessageCounter_ = 0 ∨ s.serverMessageCounter_ + 1 = messageCounter) ∧
              (modules deviceCommand.device.module_).isSome) ∧
            s.receiveCommand modules devices commands received = u.fail) ∨
          s.receiveCommand modules devices commands received = u.goto (.commanding devices commands)) := by
  by_cases hcommand : ∃ sessionId messageCounter deviceCommand,
      received = some (.command sessionId messageCounter deviceCommand)
  · obtain ⟨sessionId,messageCounter,deviceCommand,rfl⟩ := hcommand
    obtain ⟨counter,queue,responses,hstate,hresponses⟩ :=
      s.handleCommand_frame modules sessionId messageCounter deviceCommand
    refine ⟨counter,queue,responses,fun m hm => ?_,?_⟩
    · obtain ⟨type,rfl⟩ := hresponses m hm
      exact ⟨_,_,_,rfl⟩
    · simp only [receiveCommand]
      split
      · rename_i u hu
        exact .inr (congrArg (fun u => u.goto (.commanding devices commands))
          ((congrArg Prod.snd hu).symm.trans hstate))
      · rename_i u hno hu
        refine .inl ⟨?_,congrArg fail ((congrArg Prod.snd hu).symm.trans hstate)⟩
        rintro ⟨messageCounter',deviceCommand',h,haccepted⟩
        obtain ⟨rfl,rfl,rfl⟩ := ServerMessage.command.inj (Option.some.inj h)
        exact hno ((congrArg Prod.fst hu).symm.trans ((s.handleCommand_ok modules).mpr ⟨rfl,haccepted⟩))
  · refine ⟨s.serverMessageCounter_,s.commandQueue_,[],by simp,.inl ⟨?_,?_⟩⟩
    · exact fun ⟨messageCounter,deviceCommand,h,_⟩ => hcommand ⟨_,_,_,h⟩
    · rw [List.append_nil]
      simp only [receiveCommand]
      split
      · exact absurd ⟨_,_,_,rfl⟩ hcommand
      · rfl

end Frame

/-! ## A connection for one module -/

def camera : DeviceIdentification := ⟨1,2,"cam","a",5⟩

def lidar : DeviceIdentification := ⟨1,3,"lidar","b",5⟩

/-- One connection, for module 1. -/
def moduleOne : Modules (List UInt8) := fun module_ => if module_ = 1 then some collector else none

/-- The connect thread goes on, and the server answers so. -/
def answered (received : Option (ServerMessage (List UInt8))) : ConnectionAction (List UInt8) :=
  .thread ⟨true,"session",true,received⟩

/-- The first status of a device while the connection is down. -/
def statusWhileDown (device : DeviceIdentification) (status : List UInt8) :
    List (ConnectionAction (List UInt8)) := [.take ⟨device,status⟩,.fill]

/-- A connect sequence for one device that succeeds. -/
def connectSequence (device : DeviceIdentification) : List (ConnectionAction (List UInt8)) :=
  [.connect [device],answered none,answered (some (.connectResponse "session" false)),
    answered none,answered none,answered none,answered (some (.statusResponse "session" true 1)),
    answered none,answered (some (.command "session" 1 ⟨device,[0]⟩)),
    answered none,answered none,answered none]

end ExternalConnection

end ModuleGateway.ExternalClient
