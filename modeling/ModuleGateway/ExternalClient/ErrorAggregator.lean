import ModuleGateway.Structures.Messages
import Mathlib.Logic.Function.Basic

/-! # The error aggregator of one module

Per device the last status and the error message, which `aggregateError` of the
module builds from the statuses that were added. An entry is never taken away;
clearing leaves it with empty buffers. An `aggregateError` that throws falls in with those that fail;
the gateway, which catches nothing there, ends with it.
-/
namespace ModuleGateway.ExternalClient
open Structures

variable {β : Type}

structure DeviceState (β : Type) where
  errorMessage : β
  lastStatus : β

/-- `devices_` is looked up by device only, so a function stands for the map. -/
structure ErrorAggregator (β : Type) where
  devices_ : DeviceKey → Option (DeviceState β)

namespace DeviceState

/-- `DeviceState {}`. -/
def blank [BufferType β] : DeviceState β := ⟨BufferType.unallocated,BufferType.unallocated⟩

/-- What `add_status_to_error_aggregator` makes of an entry. -/
def add (module_ : ModuleLibraryHandler β) (deviceState : DeviceState β) (status : β)
    (device_type : UInt32) : ReturnCode × DeviceState β :=
  let deviceState := { deviceState with lastStatus := status }
  match module_.aggregateError deviceState.errorMessage status device_type with
  | (.OK,errorMessageBuffer) => (.OK,{ deviceState with errorMessage := errorMessageBuffer })
  | _ => (.NOT_OK,deviceState)

theorem add_lastStatus (module_ : ModuleLibraryHandler β) (deviceState : DeviceState β) (status : β)
    (device_type : UInt32) : (deviceState.add module_ status device_type).2.lastStatus = status := by
  simp only [add]
  split <;> rfl

end DeviceState

namespace ErrorAggregator

def init : ErrorAggregator β := ⟨fun _ => none⟩

variable [BufferType β]

def add_status_to_error_aggregator (module_ : ModuleLibraryHandler β) (s : ErrorAggregator β)
    (status : β) (device : DeviceIdentification) : ReturnCode × ErrorAggregator β :=
  if module_.isDeviceTypeSupported device.deviceType = .NOT_OK then (.DEVICE_NOT_SUPPORTED,s)
  else
    let r := ((s.devices_ device.key).getD DeviceState.blank).add module_ status device.deviceType
    (r.1,⟨Function.update s.devices_ device.key (some r.2)⟩)

omit [BufferType β] in
def get_last_status (s : ErrorAggregator β) (device : DeviceIdentification) : Except ReturnCode β :=
  match s.devices_ device.key with
  | none => .error .DEVICE_NOT_REGISTERED
  | some deviceState => .ok deviceState.lastStatus

def get_error (s : ErrorAggregator β) (device : DeviceIdentification) : Except ReturnCode β :=
  match s.devices_ device.key with
  | none => .error .DEVICE_NOT_REGISTERED
  | some deviceState =>
    if isAllocated deviceState.errorMessage then .ok deviceState.errorMessage
    else .error .NO_MESSAGE_AVAILABLE

def clear_error_aggregator (s : ErrorAggregator β) : ErrorAggregator β :=
  ⟨fun key => (s.devices_ key).map fun _ => DeviceState.blank⟩

theorem add_status_to_error_aggregator_devices_ (module_ : ModuleLibraryHandler β)
    (s : ErrorAggregator β) (status : β) (device : DeviceIdentification) (k : DeviceKey) :
    (s.add_status_to_error_aggregator module_ status device).2.devices_ k =
      if k = device.key ∧ module_.isDeviceTypeSupported k.deviceType ≠ .NOT_OK then
        some (((s.devices_ k).getD DeviceState.blank).add module_ status k.deviceType).2
      else s.devices_ k := by
  rw [add_status_to_error_aggregator]
  by_cases hsup : module_.isDeviceTypeSupported device.deviceType = .NOT_OK
  · have hno : ¬(k = device.key ∧ module_.isDeviceTypeSupported k.deviceType ≠ .NOT_OK) := by
      rintro ⟨rfl,h⟩
      exact h hsup
    rw [if_pos hsup, if_neg hno]
  · rw [if_neg hsup]
    by_cases hk : k = device.key
    · subst hk
      rw [if_pos ⟨rfl,hsup⟩]
      exact Function.update_self ..
    · rw [if_neg fun h => hk h.1]
      exact Function.update_of_ne hk ..

end ErrorAggregator

/-! ## A module -/

/-- A module whose error message is the list of the statuses that were added. -/
def collector : ModuleLibraryHandler (List UInt8) where
  isDeviceTypeSupported _ := .OK
  sendStatusCondition _ _ _ := .OK
  generateCommand _ _ command _ := (.OK,command)
  aggregateStatus _ status _ := (.OK,status)
  aggregateError currentError status _ := (.OK,currentError ++ status)
  generateFirstCommand _ := (.OK,[0])
  statusDataValid _ _ := .OK
  commandDataValid _ _ := .OK
  forwardCommandOnReceive _ := .NOT_OK

end ModuleGateway.ExternalClient
