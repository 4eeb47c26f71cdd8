import ModuleGateway.Modules.DeferredErasure

/-! # The Module Handler

Two threads over the status aggregators of the loaded modules: the message thread,
cut at its critical sections, and the forwarding thread. Timers, commands of the
external server, and the erasures posted by `remove_device` come in between. Nobody
catches an exception: it ends the thread it comes out of, and the program with it.
-/
namespace ModuleGateway.Modules
open Structures Execution

variable {β : Type}

/-- `settings::status_aggregation_timeout_max_count`. -/
def status_aggregation_timeout_max_count : ℕ := 2

/-- Where the message thread is. -/
inductive MessageThread (β : Type) where
  | waiting
  | checking (modules : List ℤ) (message : Bool)
  | collecting (modules : List ℤ) (message : Bool) (module_ : ℤ) (devices : List DeviceIdentification)
  | counting (modules : List ℤ) (message : Bool) (module_ : ℤ) (device : DeviceIdentification)
      (devices : List DeviceIdentification)
  | handling
  | commanding (status : β) (device : DeviceIdentification) (addStatusToAggregatorRc : ℕ)
  | sending (device : DeviceIdentification) (addStatusToAggregatorRc : ℕ)
  | forcing (device : DeviceIdentification)
  | disconnecting (device : DeviceIdentification)
  | removing (device : DeviceIdentification)
  | popping
  | terminated

/-- The modules by their number, `moduleLibrary_.moduleLibraryHandlers`; every module has a
status aggregator. -/
abbrev ModuleLibrary (β : Type) := AList fun _ : ℤ => ModuleLibraryHandler β

structure ModuleHandler (β : Type) where
  statusAggregators : ℤ → StatusAggregator β
  fromInternalQueue_ : List (InternalClientMessage β)
  toInternalQueue_ : List (ModuleHandlerMessage β)
  toExternalQueue_ : List (InternalClientMessage β)
  commandForwardingQueue_ : List DeviceIdentification
  thread : MessageThread β

namespace ModuleHandler

def init : ModuleHandler β := ⟨fun _ => .init,[],[],[],[],.waiting⟩

def goto (s : ModuleHandler β) (thread : MessageThread β) : ModuleHandler β := { s with thread := thread }

def setAggregator (s : ModuleHandler β) (number : ℤ) (aggregator : StatusAggregator β) :
    ModuleHandler β :=
  { s with statusAggregators := Function.update s.statusAggregators number aggregator }

def pushInternal (s : ModuleHandler β) (message : ModuleHandlerMessage β) : ModuleHandler β :=
  { s with toInternalQueue_ := s.toInternalQueue_ ++ [message] }

def pushExternal (s : ModuleHandler β) (message : InternalClientMessage β) : ModuleHandler β :=
  { s with toExternalQueue_ := s.toExternalQueue_ ++ [message] }

variable (moduleLibrary_ : ModuleLibrary β)

/-! ## Timeouts -/

/-- One round of the loops of `checkTimeoutedMessages` over modules, devices and statuses. -/
def checkModule (s : ModuleHandler β) (modules : List ℤ) (message : Bool) : ModuleHandler β :=
  match modules with
  | [] => s.goto (if message then .handling else .waiting)
  | number :: modules =>
    let statusAggregator := s.statusAggregators number
    if statusAggregator.getTimeoutedMessageReady then
      s.goto (.collecting modules message number statusAggregator.get_unique_devices)
    else s.goto (.checking modules message)

def collectStatus (module_ : ModuleLibraryHandler β) (s : ModuleHandler β) (modules : List ℤ)
    (message : Bool) (number : ℤ) (devices : List DeviceIdentification) : ModuleHandler β :=
  match devices with
  | [] =>
    (s.setAggregator number (s.statusAggregators number).unsetTimeoutedMessageReady).goto
      (.checking modules message)
  | device :: devices =>
    match (s.statusAggregators number).get_aggregated_status module_ device with
    | (.ok status,aggregator) =>
      (s.setAggregator number aggregator).pushExternal (.message false (.deviceStatus ⟨device,status⟩))
    | (.error _,aggregator) =>
      (s.setAggregator number aggregator).goto (.counting modules message number device devices)

def countTimeouts (s : ModuleHandler β) (modules : List ℤ) (message : Bool) (number : ℤ)
    (device : DeviceIdentification) (devices : List DeviceIdentification) : ModuleHandler β :=
  let s := s.goto (.collecting modules message number devices)
  if (s.statusAggregators number).getDeviceTimeoutCount device ≥ status_aggregation_timeout_max_count then
    s.pushInternal (.disconnect device)
  else s

/-! ## Messages of the internal server -/

def sendConnectResponse (s : ModuleHandler β) (device : DeviceIdentification)
    (response_type : ConnectResponseType) : ModuleHandler β :=
  s.pushInternal (.message (.deviceConnectResponse response_type device))

def handleConnect (s : ModuleHandler β) (device : DeviceIdentification) : ModuleHandler β :=
  let response_type : ConnectResponseType :=
    match moduleLibrary_.lookup device.module_ with
    | none => .MODULE_NOT_SUPPORTED
    | some module_ =>
      if StatusAggregator.is_device_type_supported module_ device.deviceType = .NOT_OK then
        .DEVICE_NOT_SUPPORTED
      else .OK
  (s.sendConnectResponse device response_type).goto .popping

/-- `handleStatus` up to the end of `add_status_to_aggregator`. -/
def handleStatus (s : ModuleHandler β) (status : DeviceStatus β) : ModuleHandler β :=
  let device := status.device
  match moduleLibrary_.lookup device.module_ with
  | none => s.goto .popping
  | some module_ =>
    if module_.statusDataValid status.statusdata device.deviceType = .NOT_OK then s.goto .popping
    else
      match (s.statusAggregators device.module_).add_status_to_aggregator module_ status.statusdata device with
      | (.error .BufferNotAllocated,aggregator) => (s.setAggregator device.module_ aggregator).goto .terminated
      | (.error _,aggregator) => (s.setAggregator device.module_ aggregator).goto .popping
      | (.ok rc,aggregator) =>
        (s.setAggregator device.module_ aggregator).goto (.commanding status.statusdata device rc)

/-- `handleStatus` from `get_command` on; a look-up that fails throws out of the thread, as a
`generateCommand` that throws does. -/
def retrieveCommand [BufferType β] (module_ : ModuleLibraryHandler β) (s : ModuleHandler β) (status : β)
    (device : DeviceIdentification) (addStatusToAggregatorRc : ℕ) : ModuleHandler β :=
  match (s.statusAggregators device.module_).get_command module_ status device with
  | none => s.goto .terminated
  | some (.ok command,aggregator) =>
    ((s.setAggregator device.module_ aggregator).pushInternal
      (.message (.deviceCommand ⟨device,command⟩))).goto (.sending device addStatusToAggregatorRc)
  | some (.error .NO_MESSAGE_AVAILABLE,aggregator) =>
    ((s.setAggregator device.module_ aggregator).pushInternal
      (.message (.deviceCommand ⟨device,BufferType.unallocated⟩))).goto
        (.sending device addStatusToAggregatorRc)
  | some (.error .BufferNotAllocated,aggregator) => (s.setAggregator device.module_ aggregator).goto .terminated
  | some (.error _,aggregator) => (s.setAggregator device.module_ aggregator).goto .popping

/-- The status sent is unallocated when there is none to get. -/
def sendAggregatedStatus [BufferType β] (module_ : ModuleLibraryHandler β) (s : ModuleHandler β)
    (device : DeviceIdentification) (disconnected : Bool) : ModuleHandler β :=
  let r := (s.statusAggregators device.module_).get_aggregated_status module_ device
  let aggregatedStatusBuffer := match r.1 with
    | .ok status => status
    | .error _ => BufferType.unallocated
  (s.setAggregator device.module_ r.2).pushExternal
    (.message disconnected (.deviceStatus ⟨device,aggregatedStatusBuffer⟩))

/-- `handleDisconnect` up to the check of the device. -/
def handleDisconnect (s : ModuleHandler β) (deviceId : DeviceIdentification) : ModuleHandler β :=
  match moduleLibrary_.lookup deviceId.module_ with
  | none => s.goto .popping
  | some module_ =>
    if (s.statusAggregators deviceId.module_).is_device_valid module_ deviceId = .NOT_OK then s.goto .popping
    else s.goto (.forcing deviceId)

def forceStatus (module_ : ModuleLibraryHandler β) (s : ModuleHandler β) (deviceId : DeviceIdentification) :
    ModuleHandler β :=
  match (s.statusAggregators deviceId.module_).force_aggregation_on_device module_ deviceId with
  | (.ok (_ + 1),aggregator) =>
    (s.setAggregator deviceId.module_ aggregator).goto (.disconnecting deviceId)
  | (_,aggregator) => (s.setAggregator deviceId.module_ aggregator).goto .popping

def removeDevice (module_ : ModuleLibraryHandler β) (s : ModuleHandler β) (deviceId : DeviceIdentification) :
    ModuleHandler β :=
  (s.setAggregator deviceId.module_
    ((s.statusAggregators deviceId.module_).remove_device module_ deviceId).2).goto .popping

/-- The message at the front of `fromInternalQueue_`. -/
def handleMessage (s : ModuleHandler β) : Option (ModuleHandler β) :=
  match s.fromInternalQueue_ with
  | [] => none
  | message :: _ =>
    if message.disconnected then some (s.handleDisconnect moduleLibrary_ message.getDeviceId)
    else
      match message with
      | .message _ (.deviceConnect device) => some (s.handleConnect moduleLibrary_ device)
      | .message _ (.deviceStatus status) => some (s.handleStatus moduleLibrary_ status)
      | _ => some (s.goto .popping)

/-- The next step of the message thread. -/
def handleMessages [BufferType β] (s : ModuleHandler β) : Option (ModuleHandler β) :=
  match s.thread with
  | .waiting => some (s.goto (.checking moduleLibrary_.keys (!s.fromInternalQueue_.isEmpty)))
  | .checking modules message => some (s.checkModule modules message)
  | .collecting modules message number devices =>
    (moduleLibrary_.lookup number).map fun module_ =>
      collectStatus module_ s modules message number devices
  | .counting modules message number device devices =>
    some (s.countTimeouts modules message number device devices)
  | .handling => s.handleMessage moduleLibrary_
  | .commanding status device rc =>
    (moduleLibrary_.lookup device.module_).map fun module_ => retrieveCommand module_ s status device rc
  | .sending _ 0 => some (s.goto .popping)
  | .sending device (rc + 1) =>
    (moduleLibrary_.lookup device.module_).map fun module_ =>
      (sendAggregatedStatus module_ s device false).goto (.sending device rc)
  | .forcing device =>
    (moduleLibrary_.lookup device.module_).map fun module_ => forceStatus module_ s device
  | .disconnecting device =>
    (moduleLibrary_.lookup device.module_).map fun module_ =>
      (sendAggregatedStatus module_ s device true).goto (.removing device)
  | .removing device =>
    (moduleLibrary_.lookup device.module_).map fun module_ => removeDevice module_ s device
  | .popping => some ({ s with fromInternalQueue_ := s.fromInternalQueue_.tail }.goto .waiting)
  | .terminated => none

/-! ## The forwarding thread -/

/-- `none` when `get_command_for_forwarding` throws, inside the look-up or inside `generateCommand`. -/
def handleCommandForward (s : ModuleHandler β) (deviceId : DeviceIdentification) :
    Option (ModuleHandler β) :=
  match moduleLibrary_.lookup deviceId.module_ with
  | none => some s
  | some module_ =>
    match (s.statusAggregators deviceId.module_).get_command_for_forwarding module_ deviceId with
    | none => none
    | some (.ok command,aggregator) =>
      some ((s.setAggregator deviceId.module_ aggregator).pushInternal
        (.message (.deviceCommand ⟨deviceId,command⟩)))
    | some (.error .BufferNotAllocated,_) => none
    | some (.error _,aggregator) => some (s.setAggregator deviceId.module_ aggregator)

def handleCommandForwards (s : ModuleHandler β) : Option (ModuleHandler β) :=
  match s.commandForwardingQueue_ with
  | [] => none
  | deviceId :: rest =>
    (s.handleCommandForward moduleLibrary_ deviceId).map fun s => { s with commandForwardingQueue_ := rest }

/-- `ExternalClient::handleCommand`, on the thread that receives commands. -/
def handleCommand [BufferType β] (s : ModuleHandler β) (command : β) (device : DeviceIdentification) :
    ModuleHandler β :=
  match moduleLibrary_.lookup device.module_ with
  | none => s
  | some module_ =>
    if isAllocated command then
      let r := (s.statusAggregators device.module_).update_command module_ command device
      let s := s.setAggregator device.module_ r.2
      if r.1 = .OK ∧ module_.forwardCommandOnReceive device.deviceType = .OK then
        { s with commandForwardingQueue_ := s.commandForwardingQueue_ ++ [device] }
      else s
    else s

/-! ## The registered devices -/

def Present (s : ModuleHandler β) (device : DeviceIdentification) : Prop :=
  ((s.statusAggregators device.module_).devices.lookup device.key).isSome

variable {moduleLibrary_}

section Frame
variable (s : ModuleHandler β)

@[simp] theorem goto_thread (thread : MessageThread β) : (s.goto thread).thread = thread := rfl

@[simp] theorem setAggregator_thread (number : ℤ) (aggregator : StatusAggregator β) :
    (s.setAggregator number aggregator).thread = s.thread := rfl

@[simp] theorem pushInternal_thread (message : ModuleHandlerMessage β) :
    (s.pushInternal message).thread = s.thread := rfl

@[simp] theorem pushExternal_thread (message : InternalClientMessage β) :
    (s.pushExternal message).thread = s.thread := rfl

end Frame

theorem handleCommandForward_queue {s t : ModuleHandler β} {deviceId : DeviceIdentification}
    (ht : s.handleCommandForward moduleLibrary_ deviceId = some t) :
    t.commandForwardingQueue_ = s.commandForwardingQueue_ := by
  unfold handleCommandForward at ht
  split at ht
  · obtain rfl := Option.some.inj ht
    rfl
  · split at ht <;> cases ht <;> rfl

theorem present_setAggregator {s : ModuleHandler β} {number : ℤ} {aggregator : StatusAggregator β}
    {device : DeviceIdentification} (hs : s.Present device)
    (h : device.module_ = number → (aggregator.devices.lookup device.key).isSome) :
    (s.setAggregator number aggregator).Present device := by
  unfold Present
  by_cases hn : device.module_ = number
  · subst hn
    simpa only [setAggregator, Function.update_self] using h rfl
  · simp only [setAggregator, Function.update_of_ne hn]
    exact hs

/-- No operation of an aggregator takes a device away. -/
theorem present_operate [BufferType β] {s : ModuleHandler β} {device : DeviceIdentification}
    (hs : s.Present device) (number : ℤ) (module_ : ModuleLibraryHandler β) (op : Operation β) :
    (s.setAggregator number ((s.statusAggregators number).operate module_ op)).Present device := by
  refine present_setAggregator hs fun hn => ?_
  subst hn
  rw [StatusAggregator.operate_lookup]
  exact StatusAggregator.effect_isSome hs

/-! ## What the thread does with a message -/

variable (moduleLibrary_) in
/-- A status that is not dropped is added; the thread gives it up where that fails, and ends where it throws. -/
theorem handleStatus_cases (s : ModuleHandler β) (status : DeviceStatus β) :
    s.handleStatus moduleLibrary_ status = s.goto .popping ∨
      ∃ module_ r aggregator, moduleLibrary_.lookup status.device.module_ = some module_ ∧
        (s.statusAggregators status.device.module_).add_status_to_aggregator module_ status.statusdata status.device =
          (r,aggregator) ∧
        ((∃ code, r = .error code ∧ code ≠ .BufferNotAllocated ∧ s.handleStatus moduleLibrary_ status =
            (s.setAggregator status.device.module_ aggregator).goto .popping) ∨
          (r = .error .BufferNotAllocated ∧ s.handleStatus moduleLibrary_ status =
            (s.setAggregator status.device.module_ aggregator).goto .terminated) ∨
          ∃ rc, r = .ok rc ∧ s.handleStatus moduleLibrary_ status =
            (s.setAggregator status.device.module_ aggregator).goto
              (.commanding status.statusdata status.device rc)) := by
  unfold handleStatus
  dsimp only
  split
  · exact .inl rfl
  · rename_i module_ hm
    split
    · exact .inl rfl
    · split
      · rename_i aggregator hr
        exact .inr ⟨module_,_,aggregator,hm,hr,.inr (.inl ⟨rfl,rfl⟩)⟩
      · rename_i code aggregator hcode hr
        exact .inr ⟨module_,_,aggregator,hm,hr,.inl ⟨code,rfl,hcode,rfl⟩⟩
      · rename_i rc aggregator hr
        exact .inr ⟨module_,_,aggregator,hm,hr,.inr (.inr ⟨rc,rfl,rfl⟩)⟩

/-- The message at the front is dropped, or it is the loss of a device, a connect or a status. -/
theorem handleMessage_cases {s t : ModuleHandler β} (h : s.handleMessage moduleLibrary_ = some t) :
    ∃ message rest, s.fromInternalQueue_ = message :: rest ∧
      (t = s.goto .popping ∨
        (message.disconnected = true ∧ (moduleLibrary_.lookup message.getDeviceId.module_).isSome ∧
          t = s.goto (.forcing message.getDeviceId)) ∨
        (∃ device, message = .message false (.deviceConnect device) ∧ t = s.handleConnect moduleLibrary_ device) ∨
        ∃ status, message = .message false (.deviceStatus status) ∧ t = s.handleStatus moduleLibrary_ status) := by
  unfold handleMessage at h
  split at h
  · cases h
  · rename_i message rest hqueue
    refine ⟨message,rest,hqueue,?_⟩
    split at h
    · rename_i hdisconnected
      obtain rfl := Option.some.inj h
      unfold handleDisconnect
      split
      · exact .inl rfl
      · rename_i hm
        split
        · exact .inl rfl
        · exact .inr (.inl ⟨hdisconnected,Option.isSome_of_eq_some hm,rfl⟩)
    · rename_i hconnected
      split at h <;> obtain rfl := Option.some.inj h
      · rename_i disconnected device
        obtain rfl : disconnected = false := by simpa [InternalClientMessage.disconnected] using hconnected
        exact .inr (.inr (.inl ⟨device,rfl,rfl⟩))
      · rename_i disconnected status
        obtain rfl : disconnected = false := by simpa [InternalClientMessage.disconnected] using hconnected
        exact .inr (.inr (.inr ⟨status,rfl,rfl⟩))
      · exact .inl rfl

end ModuleHandler

end ModuleGateway.Modules
