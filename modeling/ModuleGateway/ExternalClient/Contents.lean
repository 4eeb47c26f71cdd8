import ModuleGateway.ExternalClient.ConnectPhases

/-! # What the external server gets to see

A connection keeps the last status and the error message of a device under its identity, so what it
sends about a device was passed to it for that device, or made by its module from such statuses. And
whatever a connection sends about a device, the device is of a module of that connection.
-/
namespace ModuleGateway.ExternalClient
open Structures ExternalConnection Execution

variable {β : Type} [BufferType β]

/-- Which bytes may count as a status and as an error message of an identity, for a connection with
these modules. -/
structure Contents (β : Type) where
  status : DeviceKey → β → Prop
  error : DeviceKey → β → Prop

namespace Contents
variable (o : Contents β) (modules : Modules β)

/-- The module of a device makes its errors of its errors and statuses. -/
structure Closed : Prop where
  status_unallocated : ∀ k, o.status k BufferType.unallocated
  error_unallocated : ∀ k, o.error k BufferType.unallocated
  aggregateError : ∀ k module_ current status aggregated, modules k.module_ = some module_ →
    o.error k current → o.status k status →
      module_.aggregateError current status k.deviceType = (.OK,aggregated) → o.error k aggregated

/-- The status that is passed for a device is one of it. -/
def Passed (status : DeviceStatus β) : Prop := o.status status.device.key status.statusdata

/-- What a message says about devices: they are of the modules, and the contents are theirs. -/
def Message : ClientMessage β → Prop
  | .connect _ devices => ∀ device ∈ devices, (modules device.module_).isSome
  | .status status => (modules status.deviceStatus.device.module_).isSome ∧ o.Passed status.deviceStatus ∧
      o.error status.deviceStatus.device.key status.errorMessage
  | .commandResponse _ _ _ => True

def Aggregators (errorAggregators : ℤ → ErrorAggregator β) : Prop :=
  ∀ number k d, (errorAggregators number).devices_ k = some d → o.status k d.lastStatus ∧ o.error k d.errorMessage

/-- What the connect thread is about to send. -/
def Thread : ConnectThread β → Prop
  | .sending _ device status error _ => o.status device.key status ∧ o.error device.key error
  | _ => True

end Contents

/-- An error message of an identity: none, or what `aggregateError` made of one and a status. -/
inductive ErrorOf (modules : Modules β) (status : DeviceKey → β → Prop) (k : DeviceKey) : β → Prop
  | unallocated : ErrorOf modules status k BufferType.unallocated
  | aggregated {module_ : ModuleLibraryHandler β} {currentError deviceStatus errorMessage : β}
      (loaded : modules k.module_ = some module_) (error : ErrorOf modules status k currentError)
      (passed : status k deviceStatus)
      (aggregateError : module_.aggregateError currentError deviceStatus k.deviceType = (.OK,errorMessage)) :
      ErrorOf modules status k errorMessage

theorem errorOf_closed {status : DeviceKey → β → Prop} (modules : Modules β)
    (h : ∀ k, status k BufferType.unallocated) : (Contents.mk status (ErrorOf modules status)).Closed modules where
  status_unallocated := h
  error_unallocated _ := .unallocated
  aggregateError _ _ _ _ _ hm hcurrent hstatus haggregated := .aggregated hm hcurrent hstatus haggregated

namespace ExternalConnection
variable {o : Contents β} {modules : Modules β} {s t : ExternalConnection β}

structure From (o : Contents β) (modules : Modules β) (s : ExternalConnection β) : Prop where
  aggregators : o.Aggregators s.errorAggregators_
  notAcked : ∀ status ∈ s.sentMessagesHandler_.notAckedStatuses_, o.Passed status.deviceStatus
  sent : ∀ message ∈ s.sent, o.Message modules message
  inFlight : ∀ status, s.inFlight = some status → o.Passed status
  thread : o.Thread s.connectThread
  devices : ∀ device ∈ s.connectThread.devices, (modules device.module_).isSome

theorem addStatusToErrorAggregator_from (hclosed : o.Closed modules) {errorAggregators : ℤ → ErrorAggregator β}
    (h : o.Aggregators errorAggregators) {status : DeviceStatus β} (hstatus : o.Passed status) :
    o.Aggregators (addStatusToErrorAggregator modules errorAggregators status) := by
  unfold addStatusToErrorAggregator
  split
  · exact h
  · rename_i module_ hm
    intro number k d hd
    by_cases hn : number = status.device.module_
    · subst hn
      rw [Function.update_self, ErrorAggregator.add_status_to_error_aggregator_devices_] at hd
      split at hd
      · rename_i hk
        obtain ⟨rfl,-⟩ := hk
        obtain rfl := Option.some.inj hd
        have hold : o.error status.device.key
            (((errorAggregators status.device.module_).devices_ status.device.key).getD .blank).errorMessage := by
          cases hentry : (errorAggregators status.device.module_).devices_ status.device.key with
          | none => exact hclosed.error_unallocated _
          | some old => exact (h _ _ old hentry).2
        refine ⟨by rw [DeviceState.add_lastStatus]; exact hstatus,?_⟩
        unfold DeviceState.add
        dsimp only
        split
        · exact hclosed.aggregateError _ module_ _ _ _ hm hold hstatus ‹_›
        · exact hold
      · exact h _ k d hd
    · rw [Function.update_of_ne hn] at hd
      exact h number k d hd

namespace From

omit [BufferType β] in
theorem init : (init : ExternalConnection β).From o modules where
  aggregators _ _ _ hd := by cases hd
  notAcked _ hmem := by cases hmem
  sent _ hmem := by cases hmem
  inFlight _ h := by cases h
  thread := trivial
  devices _ hmem := by cases hmem

omit [BufferType β] in
theorem goto (hs : s.From o modules) {connectThread : ConnectThread β} (hthread : o.Thread connectThread)
    (hdevices : ∀ device ∈ connectThread.devices, (modules device.module_).isSome) :
    (s.goto connectThread).From o modules :=
  ⟨hs.aggregators,hs.notAcked,hs.sent,hs.inFlight,hthread,hdevices⟩

omit [BufferType β] in
theorem fail (hs : s.From o modules) : s.fail.From o modules :=
  ⟨hs.aggregators,hs.notAcked,hs.sent,hs.inFlight,trivial,by rintro _ ⟨⟩⟩

omit [BufferType β] in
theorem sendMessage (hs : s.From o modules) {m : ClientMessage β} (h : o.Message modules m) :
    (s.sendMessage m).From o modules := by
  refine ⟨hs.aggregators,hs.notAcked,?_,hs.inFlight,hs.thread,hs.devices⟩
  intro message hmem
  rcases List.mem_append.mp hmem with hmem | hmem
  · exact hs.sent message hmem
  · rwa [List.mem_singleton.mp hmem]

theorem fillErrorAggregatorWithNotAckedStatuses (hs : s.From o modules) (hclosed : o.Closed modules) :
    (s.fillErrorAggregatorWithNotAckedStatuses modules).From o modules := by
  refine ⟨?_,by rintro _ ⟨⟩,hs.sent,hs.inFlight,hs.thread,hs.devices⟩
  have hfold : ∀ (statuses : List (Status β)) (errorAggregators : ℤ → ErrorAggregator β),
      (∀ status ∈ statuses, o.Passed status.deviceStatus) → o.Aggregators errorAggregators →
        o.Aggregators (statuses.foldl (fun errorAggregators notAckedStatus =>
          addStatusToErrorAggregator modules errorAggregators notAckedStatus.deviceStatus) errorAggregators) := by
    intro statuses
    induction statuses with
    | nil => exact fun _ _ h => h
    | cons status statuses ih =>
      intro errorAggregators hstatuses h
      refine ih _ (fun status' hmem => hstatuses status' (List.mem_cons_of_mem status hmem)) ?_
      exact addStatusToErrorAggregator_from hclosed h (hstatuses status List.mem_cons_self)
  exact hfold _ _ hs.notAcked hs.aggregators

theorem fillErrorAggregator (hs : s.From o modules) (hclosed : o.Closed modules) {status : DeviceStatus β}
    (hstatus : o.Passed status) : (s.fillErrorAggregator modules status).From o modules := by
  unfold ExternalConnection.fillErrorAggregator
  split
  · exact hs
  · have hfilled := hs.fillErrorAggregatorWithNotAckedStatuses hclosed
    exact ⟨addStatusToErrorAggregator_from hclosed hfilled.aggregators hstatus,hfilled.notAcked,hfilled.sent,
      hfilled.inFlight,hfilled.thread,hfilled.devices⟩

theorem clearErrorAggregators (hs : s.From o modules) (hclosed : o.Closed modules) :
    s.clearErrorAggregators.From o modules := by
  refine ⟨?_,hs.notAcked,hs.sent,hs.inFlight,hs.thread,hs.devices⟩
  intro number k d hd
  obtain ⟨-,-,rfl⟩ := Option.map_eq_some_iff.mp hd
  exact ⟨hclosed.status_unallocated k,hclosed.error_unallocated k⟩

theorem deinitializeConnection (hs : s.From o modules) (hclosed : o.Closed modules) (completeDisconnect : Bool) :
    (s.deinitializeConnection modules completeDisconnect).From o modules := by
  have hreset : { s with state_ := .NOT_INITIALIZED, clientMessageCounter_ := 0, serverMessageCounter_ := 0 }.From
      o modules := ⟨hs.aggregators,hs.notAcked,hs.sent,hs.inFlight,hs.thread,hs.devices⟩
  cases completeDisconnect with
  | true => exact hreset.clearErrorAggregators hclosed
  | false => exact hreset.fillErrorAggregatorWithNotAckedStatuses hclosed

theorem sendStatus (hs : s.From o modules) (hclosed : o.Closed modules) {status : DeviceStatus β}
    (hstatus : o.Passed status) (deviceState : StatusDeviceState) {errorMessage : β}
    (herror : o.error status.device.key errorMessage) (sent : Bool) :
    (s.sendStatus modules status deviceState errorMessage sent).From o modules := by
  by_cases hmodule : (modules status.device.module_).isSome
  · have hsome : ¬(modules status.device.module_).isNone = true := by
      rw [Option.isNone_iff_eq_none, ← Option.not_isSome_iff_eq_none]
      exact not_not_intro hmodule
    obtain ⟨hnotAcked,-⟩ := s.switched_frame status.device deviceState
    rw [ExternalConnection.sendStatus, if_neg hsome]
    have hsent := sendMessage (s := { s with
        errorAggregators_ :=
          if s.isRegistered status.device then s.errorAggregators_
          else addStatusToErrorAggregator modules s.errorAggregators_ status
        clientMessageCounter_ := s.clientMessageCounter_ + 1
        sentMessagesHandler_ := (s.switched status.device deviceState).2.addNotAckedStatus
          (s.createStatus status deviceState errorMessage) })
      (m := .status (s.createStatus status deviceState errorMessage)) (o := o)
      ⟨?_,?_,hs.sent,hs.inFlight,hs.thread,hs.devices⟩ (by exact ⟨hmodule,hstatus,herror⟩)
    · cases sent with
      | true => exact hsent
      | false => exact hsent.deinitializeConnection hclosed false
    · dsimp only
      split
      · exact hs.aggregators
      · exact addStatusToErrorAggregator_from hclosed hs.aggregators hstatus
    · intro notAcked hmem
      have hmem : notAcked ∈ (s.switched status.device deviceState).2.notAckedStatuses_ ++
          [s.createStatus status deviceState errorMessage] := hmem
      rw [hnotAcked] at hmem
      rcases List.mem_append.mp hmem with hmem | hmem
      · exact hs.notAcked notAcked hmem
      · rw [List.mem_singleton.mp hmem]
        exact hstatus
  · rw [s.sendStatus_none status hmodule]
    exact hs

omit [BufferType β] in
theorem acknowledgeStatus (hs : s.From o modules) (messageCounter : UInt32) :
    { s with sentMessagesHandler_ := (s.sentMessagesHandler_.acknowledgeStatus messageCounter).2 }.From o modules :=
  ⟨hs.aggregators,fun status hmem => hs.notAcked status (acknowledgeStatus_subset _ _ hmem),hs.sent,hs.inFlight,
    hs.thread,hs.devices⟩

omit [BufferType β] in
theorem handleCommand (hs : s.From o modules) (sessionId : String) (messageCounter : UInt32)
    (deviceCommand : DeviceCommand β) : (s.handleCommand modules sessionId messageCounter deviceCommand).2.From
      o modules := by
  obtain ⟨counter,queue,responses,hstate,hresponses⟩ :=
    s.handleCommand_frame modules sessionId messageCounter deviceCommand
  rw [hstate]
  refine ⟨hs.aggregators,hs.notAcked,?_,hs.inFlight,hs.thread,hs.devices⟩
  intro message hmem
  rcases List.mem_append.mp hmem with hmem | hmem
  · exact hs.sent message hmem
  · obtain ⟨type,rfl⟩ := hresponses message hmem
    trivial

/-- A section of the connect thread sends what the aggregators have of the devices it was given. -/
theorem initializeConnection (hs : s.From o modules) (hclosed : o.Closed modules) {answer : Answer β}
    (ht : s.initializeConnection modules answer = some t) : t.From o modules := by
  unfold ExternalConnection.initializeConnection at ht
  have hdevices := hs.devices
  have hthread := hs.thread
  split at ht <;> rename_i hat
  · cases ht
  all_goals rw [hat] at hdevices hthread
  · rename_i devices
    cases ht
    obtain h | ⟨state,-,h⟩ := s.openChannel_cases devices answer <;> rw [h]
    · exact ⟨hs.aggregators,hs.notAcked,hs.sent,hs.inFlight,trivial,hdevices⟩
    · exact ⟨hs.aggregators,hs.notAcked,hs.sent,hs.inFlight,trivial,by rintro _ ⟨⟩⟩
  · rename_i devices
    cases ht
    have hsession : { s with sessionId_ := answer.sessionId }.From o modules :=
      ⟨hs.aggregators,hs.notAcked,hs.sent,hs.inFlight,hs.thread,hs.devices⟩
    have hsent := hsession.sendMessage (m := .connect answer.sessionId devices) hdevices
    obtain h | h := s.connectMessageHandle_cases devices answer <;> rw [h]
    · exact hsent.fail
    · exact hsent.goto trivial hdevices
  · cases ht
    exact hs.goto trivial hdevices
  · rename_i devices device remaining
    cases ht
    obtain ⟨-,h⟩ | ⟨deviceState,hentry,h⟩ := s.readStatus_cases devices device remaining <;> rw [h]
    · exact hs.fail
    · obtain ⟨hstatus,herror⟩ := hs.aggregators _ _ _ hentry
      refine hs.goto ⟨hstatus,?_⟩ hdevices
      split
      · exact herror
      · exact hclosed.error_unallocated _
  · rename_i devices device status error remaining
    cases ht
    have hsent := hs.sendStatus hclosed (show o.Passed ⟨device,status⟩ from hthread.1) .CONNECTING hthread.2 answer.sent
    exact hsent.goto trivial hdevices
  · cases ht
    exact hs.goto trivial hdevices
  · rename_i devices responses
    cases ht
    obtain ⟨-,h⟩ | ⟨messageCounter,h⟩ := s.receiveStatusResponse_cases devices responses answer.received <;> rw [h]
    · exact hs.fail
    · exact (hs.acknowledgeStatus messageCounter).goto trivial hdevices
  · cases ht
    exact hs.goto trivial hdevices
  · rename_i devices commands
    cases ht
    obtain ⟨counter,queue,responses,hresponses,h⟩ := s.receiveCommand_cases modules devices commands answer.received
    have hanswered : { s with
        serverMessageCounter_ := counter, commandQueue_ := queue, sent := s.sent ++ responses }.From o modules := by
      refine ⟨hs.aggregators,hs.notAcked,?_,hs.inFlight,hs.thread,hs.devices⟩
      intro message hmem
      rcases List.mem_append.mp hmem with hmem | hmem
      · exact hs.sent message hmem
      · obtain ⟨_,_,_,rfl⟩ := hresponses message hmem
        trivial
    obtain ⟨-,h⟩ | h := h <;> rw [h]
    · exact hanswered.fail
    · exact hanswered.goto trivial hdevices
  · cases ht
    exact ⟨hs.aggregators,hs.notAcked,hs.sent,hs.inFlight,trivial,hdevices⟩
  · cases ht
    exact (hs.clearErrorAggregators hclosed).goto trivial (by rintro _ ⟨⟩)

end From

end ExternalConnection

namespace Client
variable {settings : ConnectionSettings β}

/-- Every function of a connection keeps its contents apart by device. -/
theorem endpointKeeps_from {status : DeviceKey → β → Prop} {error : ℕ → DeviceKey → β → Prop}
    (hclosed : ∀ connection, (Contents.mk status (error connection)).Closed (settings.modules connection)) :
    EndpointKeeps settings (fun s => status s.device.key s.statusdata) fun connection _ e =>
      e.connection.From ⟨status,error connection⟩ (settings.modules connection) where
  fillErrorAggregator connection _ e deviceStatus hpassed he := by
    have hstatus : status deviceStatus.device.key deviceStatus.statusdata :=
      hpassed.elim id fun hinFlight => he.inFlight deviceStatus hinFlight
    unfold Endpoint.fillErrorAggregator
    split
    · have hfilled := he.fillErrorAggregator (hclosed connection) hstatus
      exact ⟨hfilled.aggregators,hfilled.notAcked,hfilled.sent,by rintro _ ⟨⟩,hfilled.thread,hfilled.devices⟩
    · exact he
  sendStatus connection _ e deviceStatus deviceState sent hpassed _ he := by
    have hsent := he.sendStatus (hclosed connection) hpassed deviceState
      ((hclosed connection).error_unallocated _) sent
    unfold Endpoint.sendStatus
    dsimp only
    split <;> exact hsent
  take connection e deviceStatus hpassed _ he := by
    refine ⟨he.aggregators,he.notAcked,he.sent,?_,he.thread,he.devices⟩
    rintro _ ⟨⟩
    exact hpassed
  initializeConnection connection _ e answer e' he' he := by
    obtain ⟨c,hc,rfl⟩ := Option.map_eq_some_iff.mp he'
    have hinitialized := he.initializeConnection (hclosed connection) hc
    split <;> exact hinitialized
  receivingHandlerLoop connection _ e serverDisconnect message _ _ he := by
    unfold Endpoint.receivingHandlerLoop
    split
    · exact he
    · split
      · exact he
      · split
        · exact he
        · split
          · dsimp only
            split <;> exact he.handleCommand _ _ _
          · dsimp only
            split <;> exact he.acknowledgeStatus _
          · exact he
  expire connection _ e he := he
  timeoutHandler connection _ e he := by
    unfold Endpoint.timeoutHandler
    split <;> exact he
  deinitializeConnection connection e he := by
    have hclosed' := he.deinitializeConnection (hclosed connection) false
    exact ⟨hclosed',hclosed'.aggregators,hclosed'.notAcked,hclosed'.sent,hclosed'.inFlight,hclosed'.thread,
      hclosed'.devices⟩
  begin connection e _ he := he
  startConnectThread connection e connectedDevices hdevices he :=
    (he.fillErrorAggregatorWithNotAckedStatuses (hclosed connection)).goto trivial hdevices
  join connection e _ he := he

end Client

end ModuleGateway.ExternalClient
