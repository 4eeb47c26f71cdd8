import ModuleGateway.Structures.Messages
import Mathlib.Data.List.AList
import Mathlib.Logic.Function.Basic

/-! # The status aggregator of one module

Every function runs under `devicesMutex_`. Identifications are compared by
module, type and role only, so the map and the helpers take that key. The timer
of a device calls `timeouted_force_aggregation`; an erasure that `remove_device`
hands to the io_context waits in `posted` until it runs. A function of the module that
throws ends the call with `BufferNotAllocated`, and nobody catches it.
-/
namespace ModuleGateway.Modules
open Structures

variable {β : Type}

/-- `settings::max_external_commands`. -/
def max_external_commands : ℕ := 3

/-- `structures::StatusAggregatorDeviceState` with the identification it was emplaced under. -/
structure StatusAggregatorDeviceState (β : Type) where
  deviceId : DeviceIdentification
  aggregatedMessages_ : List β
  status_ : β
  defaultCommand_ : β
  externalCommandQueue_ : List β
  forwardCommandImmediately_ : Bool

namespace StatusAggregatorDeviceState

def setStatus (d : StatusAggregatorDeviceState β) (statusBuffer : β) : StatusAggregatorDeviceState β :=
  { d with status_ := statusBuffer }

def setDefaultCommand (d : StatusAggregatorDeviceState β) (commandBuffer : β) :
    StatusAggregatorDeviceState β := { d with defaultCommand_ := commandBuffer }

def consumeCommand (d : StatusAggregatorDeviceState β) :
    Option β × StatusAggregatorDeviceState β :=
  match d.externalCommandQueue_ with
  | command :: rest =>
    (some command,{ d with defaultCommand_ := command, externalCommandQueue_ := rest })
  | [] => if d.forwardCommandImmediately_ then (none,d) else (some d.defaultCommand_,d)

/-- A full queue loses its oldest command. -/
def addExternalCommand (d : StatusAggregatorDeviceState β) (commandBuffer : β) :
    ReturnCode × StatusAggregatorDeviceState β :=
  let queue := d.externalCommandQueue_ ++ [commandBuffer]
  if queue.length > max_external_commands then
    (.NOT_OK,{ d with externalCommandQueue_ := queue.tail })
  else (.OK,{ d with externalCommandQueue_ := queue })

/-- `aggregatedMessages.push`. -/
def push (d : StatusAggregatorDeviceState β) (statusBuffer : β) : StatusAggregatorDeviceState β :=
  { d with aggregatedMessages_ := d.aggregatedMessages_ ++ [statusBuffer] }

/-- The loop of `clearDeviceUnlocked`. -/
def clear (d : StatusAggregatorDeviceState β) : StatusAggregatorDeviceState β :=
  { d with aggregatedMessages_ := [] }

end StatusAggregatorDeviceState

structure StatusAggregator (β : Type) where
  devices : AList fun _ : DeviceKey => StatusAggregatorDeviceState β
  deviceTimeouts_ : DeviceKey → ℕ
  timeoutedMessageReady_ : Bool
  posted : List DeviceKey

namespace StatusAggregator

def init : StatusAggregator β := ⟨∅,fun _ => 0,false,[]⟩

/-- A change of the entry that `devices.at(device)` finds. -/
def modifyAt (s : StatusAggregator β) (device : DeviceKey)
    (f : StatusAggregatorDeviceState β → StatusAggregatorDeviceState β) : StatusAggregator β :=
  match s.devices.lookup device with
  | none => s
  | some deviceState => { s with devices := s.devices.insert device (f deviceState) }

variable (module_ : ModuleLibraryHandler β)

def is_device_type_supported (device_type : UInt32) : ReturnCode :=
  module_.isDeviceTypeSupported device_type

def isDeviceValidUnlocked (s : StatusAggregator β) (device : DeviceKey) : ReturnCode :=
  if is_device_type_supported module_ device.deviceType = .OK ∧ device ∈ s.devices then .OK
  else .NOT_OK

def clearDeviceUnlocked (s : StatusAggregator β) (device : DeviceKey) :
    ReturnCode × StatusAggregator β :=
  if s.isDeviceValidUnlocked module_ device = .NOT_OK then (.DEVICE_NOT_REGISTERED,s)
  else (.OK,s.modifyAt device StatusAggregatorDeviceState.clear)

def clear_device (s : StatusAggregator β) (device : DeviceIdentification) :
    ReturnCode × StatusAggregator β := s.clearDeviceUnlocked module_ device.key

def clear_all_devices (s : StatusAggregator β) : ReturnCode × StatusAggregator β :=
  (.OK,s.devices.keys.foldl (fun t key => (t.clearDeviceUnlocked module_ key).2) s)

/-- A code other than `OK` leaves the status as it is. -/
def aggregateStatus (deviceState : StatusAggregatorDeviceState β) (status : β)
    (device_type : UInt32) : β :=
  match module_.aggregateStatus deviceState.status_ status device_type with
  | (.OK,aggregatedStatusBuff) => aggregatedStatusBuff
  | _ => deviceState.status_

/-- Whether `aggregateStatus` ends with an exception, both where it is sent and where it is not. -/
def aggregateStatusThrows (deviceState : StatusAggregatorDeviceState β) (status : β)
    (device_type : UInt32) : Bool :=
  (module_.aggregateStatus deviceState.status_ status device_type).1 = .BufferNotAllocated

def aggregateSetStatus (deviceState : StatusAggregatorDeviceState β) (status : β)
    (device_type : UInt32) : StatusAggregatorDeviceState β :=
  deviceState.setStatus (aggregateStatus module_ deviceState status device_type)

/-- The timer restarts as well. -/
def aggregateSetSendStatus (deviceState : StatusAggregatorDeviceState β) (status : β)
    (device_type : UInt32) : StatusAggregatorDeviceState β :=
  let aggregatedStatusBuff := aggregateStatus module_ deviceState status device_type
  (deviceState.setStatus aggregatedStatusBuff).push aggregatedStatusBuff

def remove_device (s : StatusAggregator β) (device : DeviceIdentification) :
    ReturnCode × StatusAggregator β :=
  if s.isDeviceValidUnlocked module_ device.key = .NOT_OK then (.DEVICE_NOT_REGISTERED,s)
  else
    let s := (s.clearDeviceUnlocked module_ device.key).2
    (.OK,{ s with posted := s.posted ++ [device.key] })

/-- The posted lambda, the `i`-th of those that have not run yet. -/
def runPosted (s : StatusAggregator β) (i : ℕ) : Option (StatusAggregator β) :=
  s.posted[i]?.map fun device =>
    { s with devices := s.devices.erase device, posted := s.posted.eraseIdx i }

def forceAggregationOnDeviceUnlocked (s : StatusAggregator β) (device : DeviceKey) :
    Except ReturnCode ℕ × StatusAggregator β :=
  if s.isDeviceValidUnlocked module_ device = .NOT_OK then (.error .DEVICE_NOT_REGISTERED,s)
  else
    let s := s.modifyAt device fun d => d.push d.status_
    (.ok ((s.devices.lookup device).elim 0 fun d => d.aggregatedMessages_.length),s)

def force_aggregation_on_device (s : StatusAggregator β) (device : DeviceIdentification) :
    Except ReturnCode ℕ × StatusAggregator β := s.forceAggregationOnDeviceUnlocked module_ device.key

/-- The function of the timer of a device. -/
def timeouted_force_aggregation (s : StatusAggregator β) (deviceId : DeviceKey) :
    Except ReturnCode ℕ × StatusAggregator β :=
  let s := { s with
    timeoutedMessageReady_ := true
    deviceTimeouts_ := Function.update s.deviceTimeouts_ deviceId (s.deviceTimeouts_ deviceId + 1) }
  s.forceAggregationOnDeviceUnlocked module_ deviceId

/-- The entry `try_emplace` makes for a device, after `forwardCommandOnReceive`. -/
def emplaced (device : DeviceIdentification) (command status : β) : StatusAggregatorDeviceState β :=
  ⟨device,[],status,command,[],module_.forwardCommandOnReceive device.deviceType = .OK⟩

def add_status_to_aggregator (s : StatusAggregator β) (status : β) (device : DeviceIdentification) :
    Except ReturnCode ℕ × StatusAggregator β :=
  let device_type := device.deviceType
  if is_device_type_supported module_ device_type = .NOT_OK then (.error .DEVICE_NOT_SUPPORTED,s)
  else
    let s := { s with deviceTimeouts_ := Function.update s.deviceTimeouts_ device.key 0 }
    match s.devices.lookup device.key with
    | none =>
      match module_.generateFirstCommand device_type with
      | (.OK,commandBuffer) =>
        let s := { s with devices := s.devices.insert device.key (emplaced module_ device commandBuffer status) }
        (.ok 1,(s.forceAggregationOnDeviceUnlocked module_ device.key).2)
      | (code,_) => (.error (code.failedAs .COMMAND_INVALID),s)
    | some deviceState =>
      if aggregateStatusThrows module_ deviceState status device_type then (.error .BufferNotAllocated,s)
      else
        let deviceState :=
          if module_.sendStatusCondition deviceState.status_ status device_type = .OK then
            aggregateSetSendStatus module_ deviceState status device_type
          else aggregateSetStatus module_ deviceState status device_type
        (.ok deviceState.aggregatedMessages_.length,
          { s with devices := s.devices.insert device.key deviceState })

def get_aggregated_status (s : StatusAggregator β) (device : DeviceIdentification) :
    Except ReturnCode β × StatusAggregator β :=
  if s.isDeviceValidUnlocked module_ device.key = .NOT_OK then (.error .DEVICE_NOT_REGISTERED,s)
  else
    match (s.devices.lookup device.key).elim [] StatusAggregatorDeviceState.aggregatedMessages_ with
    | [] => (.error .NO_MESSAGE_AVAILABLE,s)
    | generated_status :: rest =>
      (.ok generated_status,s.modifyAt device.key fun d => { d with aggregatedMessages_ := rest })

/-- The devices in the order of the map, which nothing depends on. -/
def get_unique_devices (s : StatusAggregator β) : List DeviceIdentification :=
  s.devices.entries.map fun entry => entry.2.deviceId

def is_device_valid (s : StatusAggregator β) (device : DeviceIdentification) : ReturnCode :=
  s.isDeviceValidUnlocked module_ device.key

def update_command [BufferType β] (s : StatusAggregator β) (command : β)
    (device : DeviceIdentification) : ReturnCode × StatusAggregator β :=
  if is_device_type_supported module_ device.deviceType = .NOT_OK then (.DEVICE_NOT_SUPPORTED,s)
  else if device.key ∉ s.devices then (.DEVICE_NOT_REGISTERED,s)
  else if !isAllocated command || module_.commandDataValid command device.deviceType = .NOT_OK then
    (.COMMAND_INVALID,s)
  else (.OK,s.modifyAt device.key fun d => (d.addExternalCommand command).2)

/-- `none` when `devices.at(device)` throws. -/
def getCommandUnlocked (s : StatusAggregator β) (status : β) (device : DeviceKey) :
    Option (Except ReturnCode β × StatusAggregator β) :=
  if is_device_type_supported module_ device.deviceType = .NOT_OK then
    some (.error .DEVICE_NOT_SUPPORTED,s)
  else
    match s.devices.lookup device with
    | none => none
    | some deviceState =>
      match deviceState.consumeCommand with
      | (none,deviceState) =>
        some (.error .NO_MESSAGE_AVAILABLE,{ s with devices := s.devices.insert device deviceState })
      | (some currentCommand,deviceState) =>
        match module_.generateCommand status deviceState.status_ currentCommand device.deviceType with
        | (.OK,generated) =>
          some (.ok generated,
            { s with devices := s.devices.insert device (deviceState.setDefaultCommand generated) })
        | (code,_) =>
          some (.error (code.failedAs .COMMAND_INVALID),
            { s with devices := s.devices.insert device deviceState })

def get_command (s : StatusAggregator β) (status : β) (device : DeviceIdentification) :
    Option (Except ReturnCode β × StatusAggregator β) :=
  s.getCommandUnlocked module_ status device.key

def get_command_for_forwarding (s : StatusAggregator β) (device : DeviceIdentification) :
    Option (Except ReturnCode β × StatusAggregator β) :=
  if s.isDeviceValidUnlocked module_ device.key = .NOT_OK then some (.error .DEVICE_NOT_REGISTERED,s)
  else
    match s.devices.lookup device.key with
    | none => none
    | some deviceState => s.getCommandUnlocked module_ deviceState.status_ device.key

def unsetTimeoutedMessageReady (s : StatusAggregator β) : StatusAggregator β :=
  { s with timeoutedMessageReady_ := false }

def getTimeoutedMessageReady (s : StatusAggregator β) : Bool := s.timeoutedMessageReady_

def getDeviceTimeoutCount (s : StatusAggregator β) (device : DeviceIdentification) : ℕ :=
  s.deviceTimeouts_ device.key

/-! ## The entries after an operation -/

section Lookup
variable (s : StatusAggregator β) (device k : DeviceKey)

theorem modifyAt_lookup (f : StatusAggregatorDeviceState β → StatusAggregatorDeviceState β) :
    (s.modifyAt device f).devices.lookup k =
      if k = device then (s.devices.lookup device).map f else s.devices.lookup k := by
  rw [modifyAt]
  cases hd : s.devices.lookup device with
  | none =>
    by_cases hk : k = device
    · rw [if_pos hk, hk, hd]
      rfl
    · rw [if_neg hk]
  | some d =>
    by_cases hk : k = device
    · rw [if_pos hk, hk]
      exact AList.lookup_insert _
    · rw [if_neg hk]
      exact AList.lookup_insert_ne hk

/-- Besides the entries a change at one device leaves everything as it is. -/
theorem modifyAt_rest (f : StatusAggregatorDeviceState β → StatusAggregatorDeviceState β) :
    (s.modifyAt device f).posted = s.posted ∧
      (s.modifyAt device f).deviceTimeouts_ = s.deviceTimeouts_ ∧
      (s.modifyAt device f).timeoutedMessageReady_ = s.timeoutedMessageReady_ := by
  rw [modifyAt]
  split <;> exact ⟨rfl,rfl,rfl⟩

theorem lookup_insert (d : AList fun _ : DeviceKey => StatusAggregatorDeviceState β)
    (deviceState : StatusAggregatorDeviceState β) :
    (d.insert device deviceState).lookup k = if k = device then some deviceState else d.lookup k := by
  by_cases hk : k = device
  · rw [if_pos hk, hk, AList.lookup_insert]
  · rw [if_neg hk, AList.lookup_insert_ne hk]

/-- A check that a registered device fails exactly when `q` does not hold, then a change. -/
theorem checked_modifyAt_lookup {p : Prop} [Decidable p] (q : DeviceKey → Prop) [DecidablePred q]
    (f : StatusAggregatorDeviceState β → StatusAggregatorDeviceState β)
    (h : (s.devices.lookup device).isSome → (p ↔ ¬q device)) :
    (if p then s else s.modifyAt device f).devices.lookup k =
      if k = device ∧ q k then (s.devices.lookup k).map f else s.devices.lookup k := by
  by_cases hk : k = device
  · subst hk
    cases hd : s.devices.lookup k with
    | none =>
      split <;> simp [modifyAt_lookup, hd]
    | some d =>
      have hp := h (by rw [hd]; rfl)
      by_cases hq : q k
      · rw [if_neg fun hpp => hp.mp hpp hq, if_pos ⟨rfl,hq⟩, modifyAt_lookup, if_pos rfl, hd]
      · rw [if_pos (hp.mpr hq), if_neg fun hqq => hq hqq.2, hd]
  · have hne : ¬(k = device ∧ q k) := fun hkk => hk hkk.1
    rw [if_neg hne]
    by_cases hp : p
    · rw [if_pos hp]
    · rw [if_neg hp, modifyAt_lookup, if_neg hk]

theorem isDeviceValidUnlocked_eq_NOT_OK_iff : s.isDeviceValidUnlocked module_ device = .NOT_OK ↔
    is_device_type_supported module_ device.deviceType ≠ .OK ∨ s.devices.lookup device = none := by
  rw [isDeviceValidUnlocked, AList.lookup_eq_none, ← Classical.not_and_iff_not_or_not]
  split <;> simp_all

/-- A registered device is valid when its type is supported. -/
theorem isDeviceValidUnlocked_of_isSome (h : (s.devices.lookup device).isSome) :
    s.isDeviceValidUnlocked module_ device = .NOT_OK ↔
      ¬is_device_type_supported module_ device.deviceType = .OK := by
  rw [isDeviceValidUnlocked_eq_NOT_OK_iff]
  simp [Option.isSome_iff_ne_none.mp h]

theorem clearDeviceUnlocked_eq : (s.clearDeviceUnlocked module_ device).2 =
    if s.isDeviceValidUnlocked module_ device = .NOT_OK then s
    else s.modifyAt device StatusAggregatorDeviceState.clear := by
  rw [clearDeviceUnlocked]
  split <;> rfl

theorem forceAggregationOnDeviceUnlocked_eq : (s.forceAggregationOnDeviceUnlocked module_ device).2 =
    if s.isDeviceValidUnlocked module_ device = .NOT_OK then s
    else s.modifyAt device fun d => d.push d.status_ := by
  rw [forceAggregationOnDeviceUnlocked]
  split <;> rfl

theorem clearDeviceUnlocked_lookup : (s.clearDeviceUnlocked module_ device).2.devices.lookup k =
    if k = device ∧ is_device_type_supported module_ k.deviceType = .OK then
      (s.devices.lookup k).map .clear
    else s.devices.lookup k := by
  rw [clearDeviceUnlocked_eq]
  exact s.checked_modifyAt_lookup device k
    (fun k => is_device_type_supported module_ k.deviceType = .OK) _
    (isDeviceValidUnlocked_of_isSome module_ s device)

theorem forceAggregationOnDeviceUnlocked_lookup :
    (s.forceAggregationOnDeviceUnlocked module_ device).2.devices.lookup k =
      if k = device ∧ is_device_type_supported module_ k.deviceType = .OK then
        (s.devices.lookup k).map fun d => d.push d.status_
      else s.devices.lookup k := by
  rw [forceAggregationOnDeviceUnlocked_eq]
  exact s.checked_modifyAt_lookup device k
    (fun k => is_device_type_supported module_ k.deviceType = .OK) _
    (isDeviceValidUnlocked_of_isSome module_ s device)

end Lookup

end StatusAggregator

end ModuleGateway.Modules
