import ModuleGateway.ExternalClient.StatusOrigin
import ModuleGateway.Library.Execution

/-! # Numbered runs are runs

What the buffers of a numbered run remember is never looked at: forgetting it
commutes with every function of the connection, so the numbered runs are exactly
the runs on plain buffers, seen with the origins of their statuses.
-/
namespace ModuleGateway.ExternalClient
open Structures ExternalConnection Execution

variable {γ : Type}

/-! ## Forgetting the origins -/

def plainStatus (status : DeviceStatus (Traced γ)) : DeviceStatus γ := ⟨status.device,status.statusdata.buffer⟩

def plainCommand (command : DeviceCommand (Traced γ)) : DeviceCommand γ :=
  ⟨command.device,command.commanddata.buffer⟩

def DeviceState.plain (deviceState : DeviceState (Traced γ)) : DeviceState γ :=
  ⟨deviceState.errorMessage.buffer,deviceState.lastStatus.buffer⟩

def ErrorAggregator.plain (s : ErrorAggregator (Traced γ)) : ErrorAggregator γ :=
  ⟨fun key => (s.devices_ key).map DeviceState.plain⟩

def Status.plain (status : Status (Traced γ)) : Status γ :=
  ⟨status.sessionId,status.deviceState,status.messageCounter,plainStatus status.deviceStatus,
    status.errorMessage.buffer⟩

def ClientMessage.plain : ClientMessage (Traced γ) → ClientMessage γ
  | .connect sessionId devices => .connect sessionId devices
  | .status externalMessage => .status externalMessage.plain
  | .commandResponse sessionId type messageCounter => .commandResponse sessionId type messageCounter

def SentMessagesHandler.plain (s : SentMessagesHandler (Traced γ)) : SentMessagesHandler γ :=
  ⟨s.notAckedStatuses_.map Status.plain,s.connectedDevices_,s.acknowledged.map Status.plain⟩

def ConnectThread.plain : ConnectThread (Traced γ) → ConnectThread γ
  | .finished ok => .finished ok
  | .opening devices => .opening devices
  | .connecting devices => .connecting devices
  | .reading devices remaining => .reading devices remaining
  | .sending devices device status error remaining => .sending devices device status.buffer error.buffer remaining
  | .acknowledging devices responses => .acknowledging devices responses
  | .commanding devices commands => .commanding devices commands
  | .establishing devices => .establishing devices
  | .clearing devices => .clearing devices

namespace ExternalConnection

def plain (s : ExternalConnection (Traced γ)) : ExternalConnection γ where
  state_ := s.state_
  sessionId_ := s.sessionId_
  clientMessageCounter_ := s.clientMessageCounter_
  serverMessageCounter_ := s.serverMessageCounter_
  sentMessagesHandler_ := s.sentMessagesHandler_.plain
  errorAggregators_ number := (s.errorAggregators_ number).plain
  sent := s.sent.map ClientMessage.plain
  commandQueue_ := s.commandQueue_.map plainCommand
  connectThread := s.connectThread.plain
  inFlight := s.inFlight.map plainStatus

end ExternalConnection

/-! ## Messages that were sent -/

theorem ExternalConnection.sendMessage_plain (s : ExternalConnection (Traced γ))
    (message : ClientMessage (Traced γ)) :
    (s.sendMessage message).plain = s.plain.sendMessage message.plain := by
  simp only [sendMessage, plain, List.map_append, List.map_cons, List.map_nil]

namespace SentMessagesHandler

theorem addNotAckedStatus_plain (s : SentMessagesHandler (Traced γ)) (status : Status (Traced γ)) :
    (s.addNotAckedStatus status).plain = s.plain.addNotAckedStatus status.plain := by
  simp only [addNotAckedStatus, SentMessagesHandler.plain, List.map_append, List.map_cons, List.map_nil]

theorem acknowledgeStatus_plain (s : SentMessagesHandler (Traced γ)) (responseCounter : UInt32) :
    (s.acknowledgeStatus responseCounter).2.plain = (s.plain.acknowledgeStatus responseCounter).2 := by
  have hfind : s.plain.notAckedStatuses_.find? (fun status => status.messageCounter = responseCounter) =
      (s.notAckedStatuses_.find? fun status => status.messageCounter = responseCounter).map Status.plain :=
    List.find?_map ..
  have herase : s.plain.notAckedStatuses_.eraseP (fun status => status.messageCounter = responseCounter) =
      (s.notAckedStatuses_.eraseP fun status => status.messageCounter = responseCounter).map Status.plain :=
    List.eraseP_map ..
  rw [acknowledgeStatus, acknowledgeStatus, hfind]
  cases s.notAckedStatuses_.find? fun status => status.messageCounter = responseCounter with
  | none => rfl
  | some status =>
    simp only [Option.map_some, herase]
    simp only [SentMessagesHandler.plain, List.map_append, List.map_cons, List.map_nil]

end SentMessagesHandler

/-! ## Error aggregators -/

variable [BufferType γ]

omit [BufferType γ] in
theorem DeviceState.add_plain (module_ : ModuleLibraryHandler γ) (deviceState : DeviceState (Traced γ))
    (status : Traced γ) (device_type : UInt32) :
    (deviceState.add (traced module_) status device_type).2.plain =
      (deviceState.plain.add module_ status.buffer device_type).2 := by
  simp only [DeviceState.add, traced, DeviceState.plain]
  obtain ⟨code,errorMessageBuffer⟩ :=
    module_.aggregateError deviceState.errorMessage.buffer status.buffer device_type
  cases code <;> rfl

theorem getD_blank_plain (entry : Option (DeviceState (Traced γ))) :
    (entry.getD DeviceState.blank).plain = (entry.map DeviceState.plain).getD DeviceState.blank := by
  cases entry <;> rfl

theorem ErrorAggregator.add_plain (module_ : ModuleLibraryHandler γ) (s : ErrorAggregator (Traced γ))
    (status : Traced γ) (device : DeviceIdentification) :
    (s.add_status_to_error_aggregator (traced module_) status device).2.plain =
      (s.plain.add_status_to_error_aggregator module_ status.buffer device).2 := by
  rw [ErrorAggregator.plain, ErrorAggregator.mk.injEq]
  funext key
  rw [add_status_to_error_aggregator_devices_, add_status_to_error_aggregator_devices_]
  have hsame : (traced module_).isDeviceTypeSupported = module_.isDeviceTypeSupported := rfl
  rw [hsame]
  split
  · rw [Option.map_some, DeviceState.add_plain, getD_blank_plain]
    rfl
  · rfl

theorem ErrorAggregator.clear_plain (s : ErrorAggregator (Traced γ)) :
    s.clear_error_aggregator.plain = s.plain.clear_error_aggregator := by
  simp only [ErrorAggregator.clear_error_aggregator, ErrorAggregator.plain, Option.map_map]
  rfl

namespace ExternalConnection
variable (modules : Modules γ)

theorem addStatusToErrorAggregator_plain (errorAggregators : ℤ → ErrorAggregator (Traced γ))
    (status : DeviceStatus (Traced γ)) (number : ℤ) :
    (addStatusToErrorAggregator (tracedModules modules) errorAggregators status number).plain =
      addStatusToErrorAggregator modules (fun number => (errorAggregators number).plain) (plainStatus status)
        number := by
  have hdevice : (plainStatus status).device = status.device := rfl
  simp only [addStatusToErrorAggregator, tracedModules, hdevice]
  cases modules status.device.module_ with
  | none => rfl
  | some module_ =>
    by_cases hnumber : number = status.device.module_
    · subst hnumber
      simp only [Option.map_some, Function.update_self]
      exact ErrorAggregator.add_plain module_ _ status.statusdata status.device
    · simp only [Option.map_some, Function.update_of_ne hnumber]

theorem foldl_plain (l : List (Status (Traced γ))) (errorAggregators : ℤ → ErrorAggregator (Traced γ)) :
    (fun number => (l.foldl (fun errorAggregators notAckedStatus =>
        addStatusToErrorAggregator (tracedModules modules) errorAggregators notAckedStatus.deviceStatus)
        errorAggregators number).plain) =
      (l.map Status.plain).foldl (fun errorAggregators notAckedStatus =>
        addStatusToErrorAggregator modules errorAggregators notAckedStatus.deviceStatus)
        fun number => (errorAggregators number).plain := by
  induction l generalizing errorAggregators with
  | nil => rfl
  | cons notAckedStatus l ih =>
    rw [List.foldl_cons, ih, List.map_cons, List.foldl_cons]
    congr 1
    funext number
    exact addStatusToErrorAggregator_plain modules errorAggregators notAckedStatus.deviceStatus number

theorem fillErrorAggregatorWithNotAckedStatuses_plain (s : ExternalConnection (Traced γ)) :
    (s.fillErrorAggregatorWithNotAckedStatuses (tracedModules modules)).plain =
      s.plain.fillErrorAggregatorWithNotAckedStatuses modules := by
  simp only [fillErrorAggregatorWithNotAckedStatuses, plain, foldl_plain]
  rfl

theorem fillErrorAggregator_plain (s : ExternalConnection (Traced γ)) (status : DeviceStatus (Traced γ)) :
    (s.fillErrorAggregator (tracedModules modules) status).plain =
      s.plain.fillErrorAggregator modules (plainStatus status) := by
  have hfill := fillErrorAggregatorWithNotAckedStatuses_plain modules s
  have hdevice : (plainStatus status).device = status.device := rfl
  simp only [fillErrorAggregator, hdevice]
  cases hmodule : modules status.device.module_ with
  | none =>
    rw [tracedModules_of_none hmodule]
  | some module_ =>
    rw [tracedModules_of_some hmodule]
    dsimp only
    rw [← hfill]
    simp only [plain, ExternalConnection.mk.injEq, true_and, and_true]
    funext number
    exact addStatusToErrorAggregator_plain modules _ status number

theorem clearErrorAggregators_plain (s : ExternalConnection (Traced γ)) :
    s.clearErrorAggregators.plain = s.plain.clearErrorAggregators := by
  simp only [clearErrorAggregators, plain, ErrorAggregator.clear_plain]

theorem deinitializeConnection_plain (s : ExternalConnection (Traced γ)) (completeDisconnect : Bool) :
    (s.deinitializeConnection (tracedModules modules) completeDisconnect).plain =
      s.plain.deinitializeConnection modules completeDisconnect := by
  cases completeDisconnect with
  | true => exact clearErrorAggregators_plain _
  | false => exact fillErrorAggregatorWithNotAckedStatuses_plain modules _

/-! ## Statuses and commands -/

omit [BufferType γ] in
theorem isRegistered_plain (s : ExternalConnection (Traced γ)) (device : DeviceIdentification) :
    s.plain.isRegistered device = s.isRegistered device := by
  simp only [isRegistered, plain, ErrorAggregator.plain, Option.isSome_map]

omit [BufferType γ] in
theorem switched_plain (s : ExternalConnection (Traced γ)) (device : DeviceIdentification)
    (deviceState : StatusDeviceState) :
    s.plain.switched device deviceState =
      ((s.switched device deviceState).1,(s.switched device deviceState).2.plain) := by
  rw [switched, switched, isRegistered_plain]
  cases s.isRegistered device with
  | false => rfl
  | true =>
    cases deviceState with
    | RUNNING =>
      have hconnected : s.plain.sentMessagesHandler_.isDeviceConnected device =
          s.sentMessagesHandler_.isDeviceConnected device := rfl
      simp only [if_true, switchDeviceState, hconnected]
      split <;> rfl
    | CONNECTING => rfl
    | DISCONNECT => rfl
    | ERROR => rfl

omit [BufferType γ] in
theorem createStatus_plain (s : ExternalConnection (Traced γ)) (status : DeviceStatus (Traced γ))
    (deviceState : StatusDeviceState) (errorMessage : Traced γ) :
    (s.createStatus status deviceState errorMessage).plain =
      s.plain.createStatus (plainStatus status) deviceState errorMessage.buffer := by
  have hdevice : (plainStatus status).device = status.device := rfl
  simp only [createStatus, hdevice, switched_plain]
  rfl

theorem sendStatus_plain (s : ExternalConnection (Traced γ)) (status : DeviceStatus (Traced γ))
    (deviceState : StatusDeviceState) (errorMessage : Traced γ) (sent : Bool) :
    (s.sendStatus (tracedModules modules) status deviceState errorMessage sent).plain =
      s.plain.sendStatus modules (plainStatus status) deviceState errorMessage.buffer sent := by
  have hdevice : (plainStatus status).device = status.device := rfl
  have hmodule : (tracedModules modules status.device.module_).isNone =
      (modules status.device.module_).isNone := Option.isNone_map
  simp only [sendStatus, hdevice, hmodule, isRegistered_plain, switched_plain, ← createStatus_plain]
  split
  · rfl
  · have hentries : (fun number => ((if s.isRegistered status.device then s.errorAggregators_
        else addStatusToErrorAggregator (tracedModules modules) s.errorAggregators_ status) number).plain) =
        if s.isRegistered status.device then s.plain.errorAggregators_
        else addStatusToErrorAggregator modules s.plain.errorAggregators_ (plainStatus status) := by
      split
      · rfl
      · exact funext fun number => addStatusToErrorAggregator_plain modules s.errorAggregators_ status number
    have hplain : ∀ u : ExternalConnection (Traced γ), (if sent then u
          else u.deinitializeConnection (tracedModules modules) false).plain =
        if sent then u.plain else u.plain.deinitializeConnection modules false := by
      intro u
      cases sent with
      | true => rfl
      | false => exact deinitializeConnection_plain modules u false
    rw [hplain, sendMessage_plain, ← hentries, ← SentMessagesHandler.addNotAckedStatus_plain]
    rfl

omit [BufferType γ] in
theorem handleCommand_plain (s : ExternalConnection (Traced γ)) (sessionId : String) (messageCounter : UInt32)
    (deviceCommand : DeviceCommand (Traced γ)) :
    s.plain.handleCommand modules sessionId messageCounter (plainCommand deviceCommand) =
      ((s.handleCommand (tracedModules modules) sessionId messageCounter deviceCommand).1,
        (s.handleCommand (tracedModules modules) sessionId messageCounter deviceCommand).2.plain) := by
  have hdevice : (plainCommand deviceCommand).device = deviceCommand.device := rfl
  have hsession : s.plain.sessionId_ = s.sessionId_ := rfl
  have hcounter : s.plain.serverMessageCounter_ = s.serverMessageCounter_ := rfl
  have hconnected : s.plain.sentMessagesHandler_.isDeviceConnected deviceCommand.device =
      s.sentMessagesHandler_.isDeviceConnected deviceCommand.device := rfl
  simp only [handleCommand, hdevice, hsession, hcounter]
  split
  · rfl
  · split
    · rfl
    · cases hmodule : modules deviceCommand.device.module_ with
      | none =>
        rw [tracedModules_of_none hmodule]
        rfl
      | some module_ =>
        have hsame : (traced module_).isDeviceTypeSupported = module_.isDeviceTypeSupported := rfl
        rw [tracedModules_of_some hmodule]
        dsimp only
        rw [hconnected, hsame]
        split
        · rw [sendMessage_plain]
          congr 2
          simp only [plain, List.map_append, List.map_cons, List.map_nil]
        · split
          · rw [sendMessage_plain]
            rfl
          · rw [sendMessage_plain]
            rfl

/-! ## The connect thread -/

omit [BufferType γ] in
theorem openChannel_plain (s : ExternalConnection (Traced γ)) (devices : List DeviceIdentification)
    (answer : Answer γ) :
    (s.openChannel devices (numberAnswer answer)).plain = s.plain.openChannel devices answer := by
  have hstate : s.plain.state_ = s.state_ := rfl
  have hopened : (numberAnswer answer).opened = answer.opened := rfl
  simp only [openChannel, hopened, hstate]
  by_cases h : s.state_ = .NOT_INITIALIZED
  · rw [if_pos h, if_pos h]
    cases answer.opened <;> rfl
  · rw [if_neg h, if_neg h]
    cases answer.opened <;> rfl

omit [BufferType γ] in
theorem connectMessageHandle_plain (s : ExternalConnection (Traced γ)) (devices : List DeviceIdentification)
    (answer : Answer γ) :
    (s.connectMessageHandle devices (numberAnswer answer)).plain = s.plain.connectMessageHandle devices answer := by
  obtain ⟨opened,sessionId,sent,received⟩ := answer
  have hconnect := sendMessage_plain { s with sessionId_ := sessionId } (.connect sessionId devices)
  have hfail := congrArg ExternalConnection.fail hconnect
  simp only [connectMessageHandle, numberAnswer]
  cases sent with
  | false => exact hfail
  | true =>
    rcases received with _ | ⟨sessionId',alreadyLogged⟩ | _ | _
    · exact hfail
    · simp only [Option.map_some, numberMessage, Bool.not_true, Bool.false_eq_true, if_false]
      have hsession : (({ s with sessionId_ := sessionId } : ExternalConnection (Traced γ)).sendMessage
          (.connect sessionId devices)).sessionId_ = sessionId := rfl
      have hplain : (({ s.plain with sessionId_ := sessionId } : ExternalConnection γ).sendMessage
          (.connect sessionId devices)).sessionId_ = sessionId := rfl
      simp only [hsession, hplain]
      split
      · exact hfail
      · split
        · exact hfail
        · exact congrArg (ExternalConnection.goto · (.reading devices devices)) hconnect
    · exact hfail
    · exact hfail

theorem readStatus_plain (s : ExternalConnection (Traced γ)) (devices : List DeviceIdentification)
    (device : DeviceIdentification) (remaining : List DeviceIdentification) :
    (s.readStatus devices device remaining).plain = s.plain.readStatus devices device remaining := by
  have hentry : (s.plain.errorAggregators_ device.module_).devices_ device.key =
      ((s.errorAggregators_ device.module_).devices_ device.key).map DeviceState.plain := rfl
  simp only [readStatus, ErrorAggregator.get_error, ErrorAggregator.get_last_status, hentry]
  cases (s.errorAggregators_ device.module_).devices_ device.key with
  | none => rfl
  | some deviceState =>
    have halloc : isAllocated deviceState.plain.errorMessage = isAllocated deviceState.errorMessage := rfl
    simp only [Option.map_some, halloc]
    by_cases h : isAllocated deviceState.errorMessage = true
    · rw [if_pos h, if_pos h]
      rfl
    · rw [if_neg h, if_neg h]
      rfl

omit [BufferType γ] in
theorem receiveStatusResponse_plain (s : ExternalConnection (Traced γ)) (devices : List DeviceIdentification)
    (responses : ℕ) (received : Option (ServerMessage γ)) :
    (s.receiveStatusResponse devices responses (received.map numberMessage)).plain =
      s.plain.receiveStatusResponse devices responses received := by
  rcases received with _ | _ | ⟨sessionId,ok,messageCounter⟩ | _
  · rfl
  · rfl
  · have hsession : s.plain.sessionId_ = s.sessionId_ := rfl
    simp only [receiveStatusResponse, Option.map_some, numberMessage, hsession]
    split
    · rfl
    · split
      · rfl
      · have hhandler := s.sentMessagesHandler_.acknowledgeStatus_plain messageCounter
        exact congrArg (fun handler => { s.plain with
          sentMessagesHandler_ := handler, connectThread := .acknowledging devices responses }) hhandler
  · rfl

omit [BufferType γ] in
theorem receiveCommand_plain (s : ExternalConnection (Traced γ)) (devices : List DeviceIdentification)
    (commands : ℕ) (received : Option (ServerMessage γ)) :
    (s.receiveCommand (tracedModules modules) devices commands (received.map numberMessage)).plain =
      s.plain.receiveCommand modules devices commands received := by
  rcases received with _ | _ | _ | ⟨sessionId,messageCounter,deviceCommand⟩
  · rfl
  · rfl
  · rfl
  · let numbered : DeviceCommand (Traced γ) := ⟨deviceCommand.device,deviceCommand.commanddata,[]⟩
    have hcommand : s.plain.handleCommand modules sessionId messageCounter deviceCommand = _ :=
      s.handleCommand_plain modules sessionId messageCounter numbered
    simp only [receiveCommand, Option.map_some, numberMessage]
    rw [hcommand]
    cases s.handleCommand (tracedModules modules) sessionId messageCounter numbered with
    | mk code t => cases code <;> rfl

theorem initializeConnection_plain (s : ExternalConnection (Traced γ)) (answer : Answer γ) :
    (s.initializeConnection (tracedModules modules) (numberAnswer answer)).map plain =
      s.plain.initializeConnection modules answer := by
  have hthread : s.plain.connectThread = s.connectThread.plain := rfl
  rw [initializeConnection, initializeConnection, hthread]
  cases s.connectThread with
  | finished ok => rfl
  | opening devices => exact congrArg some (s.openChannel_plain devices answer)
  | connecting devices => exact congrArg some (s.connectMessageHandle_plain devices answer)
  | reading devices remaining =>
    cases remaining with
    | nil => rfl
    | cons device remaining => exact congrArg some (s.readStatus_plain devices device remaining)
  | sending devices device status error remaining =>
    have hsent := s.sendStatus_plain modules ⟨device,status⟩ .CONNECTING error answer.sent
    exact congrArg some (congrArg (ExternalConnection.goto · (.reading devices remaining)) hsent)
  | acknowledging devices responses =>
    cases responses with
    | zero => rfl
    | succ responses => exact congrArg some (s.receiveStatusResponse_plain devices responses answer.received)
  | commanding devices commands =>
    cases commands with
    | zero => rfl
    | succ commands => exact congrArg some (s.receiveCommand_plain modules devices commands answer.received)
  | establishing devices => rfl
  | clearing devices =>
    exact congrArg some (congrArg (ExternalConnection.goto · (.finished true)) s.clearErrorAggregators_plain)

/-! ## Runs -/

/-- The connection cannot tell a numbered action from the plain one. -/
theorem connectionStep_plain (s : ExternalConnection (Traced γ)) (n : ℕ) (a : ConnectionAction γ) :
    (s.connectionStep (tracedModules modules) (numberAction n a)).map plain =
      s.plain.connectionStep modules a := by
  have hstate : s.plain.state_ = s.state_ := rfl
  have hidle : s.plain.isIdle = s.isIdle := by
    have hthread : s.plain.connectThread = s.connectThread.plain := rfl
    have hinFlight : s.plain.inFlight = s.inFlight.map plainStatus := rfl
    rw [isIdle, isIdle, hthread, hinFlight, Option.isNone_map]
    cases s.connectThread <;> rfl
  cases a with
  | connect devices =>
    have hmodules : devices.all (fun device => (tracedModules modules device.module_).isSome) =
        devices.all fun device => (modules device.module_).isSome := by
      simp only [tracedModules, Option.isSome_map]
    simp only [numberAction, connectionStep, hmodules, hidle, hstate]
    split
    · have hfill := s.fillErrorAggregatorWithNotAckedStatuses_plain modules
      exact congrArg some (congrArg (ExternalConnection.goto · (.opening devices)) hfill)
    · rfl
  | thread answer => exact s.initializeConnection_plain modules answer
  | sendStatus status deviceState sent =>
    simp only [numberAction, connectionStep, hidle, hstate]
    split
    · exact congrArg some (s.sendStatus_plain modules (numberStatus n status) deviceState _ sent)
    · rfl
  | take status =>
    have hinFlight : s.plain.inFlight.isNone = s.inFlight.isNone := Option.isNone_map
    simp only [numberAction, connectionStep, hinFlight, hstate]
    split <;> rfl
  | fill =>
    have hinFlight : s.plain.inFlight = s.inFlight.map plainStatus := rfl
    simp only [numberAction, connectionStep, hinFlight, Option.map_map]
    cases s.inFlight with
    | none => rfl
    | some status =>
      have hfill := s.fillErrorAggregator_plain modules status
      exact congrArg some (congrArg (fun u => { u with inFlight := none }) hfill)
  | receive message =>
    simp only [numberAction, connectionStep, hstate]
    split
    · cases message with
      | connectResponse sessionId alreadyLogged => rfl
      | statusResponse sessionId ok messageCounter =>
        have hhandler := s.sentMessagesHandler_.acknowledgeStatus_plain messageCounter
        exact congrArg some (congrArg (fun handler => { s.plain with sentMessagesHandler_ := handler }) hhandler)
      | command sessionId messageCounter deviceCommand =>
        have hcommand := s.handleCommand_plain modules sessionId messageCounter
          ⟨deviceCommand.device,deviceCommand.commanddata,[]⟩
        exact congrArg some (congrArg Prod.snd hcommand).symm
    · rfl
  | deinitializeConnection completeDisconnect =>
    simp only [numberAction, connectionStep, hidle]
    split
    · exact congrArg some (s.deinitializeConnection_plain modules completeDisconnect)
    · rfl

theorem numberedStep_plain (s : NumberedConnection γ) (a : ConnectionAction γ) :
    (numberedStep modules s a).map (·.1.plain) = s.1.plain.connectionStep modules a := by
  rw [← connectionStep_plain modules s.1 s.2 a, numberedStep, Option.map_map]
  rfl

/-- Forgetting the numbers of a run gives the run of the connection itself: every run on plain
buffers is that of exactly one numbered run. -/
theorem exec_numbered_plain (as : List (ConnectionAction γ)) :
    (exec (numberedStep modules) NumberedConnection.init as).map (·.1.plain) =
      exec (connectionStep modules) (.init : ExternalConnection γ) as :=
  exec_map (fun s : NumberedConnection γ => s.1.plain) (numberedStep_plain modules) NumberedConnection.init as

end ExternalConnection

end ModuleGateway.ExternalClient
