import ModuleGateway.Library.Ledger
import ModuleGateway.Modules.IsolatedAggregator

/-! # What becomes of the statuses of a device

The statuses of one identity against a reference that only looks at the calls for that identity: the
fold of the statuses added so far, and a ledger of what was put up for sending. The module may answer
differently at every call.
-/
namespace ModuleGateway.Modules
open Structures

variable {β : Type}

/-- The calls that bring a status, put one up, take one and drop what was put up. -/
inductive StatusCall (β : Type) where
  | add_status_to_aggregator (status : β) (device : DeviceIdentification)
  | force_aggregation_on_device (device : DeviceIdentification)
  | get_aggregated_status (device : DeviceIdentification)
  | clear_device (device : DeviceIdentification)

namespace StatusCall

def device : StatusCall β → DeviceIdentification
  | .add_status_to_aggregator _ device => device
  | .force_aggregation_on_device device => device
  | .get_aggregated_status device => device
  | .clear_device device => device

def operation : StatusCall β → Operation β
  | .add_status_to_aggregator status device => .add_status_to_aggregator status device
  | .force_aggregation_on_device device => .force_aggregation_on_device device
  | .get_aggregated_status device => .get_aggregated_status device
  | .clear_device device => .clear_device device

end StatusCall

/-- What a call returns. -/
inductive StatusResult (β : Type) where
  | queued (result : Except ReturnCode ℕ)
  | taken (result : Except ReturnCode β)
  | cleared (code : ReturnCode)

/-- The buffer that a call hands out. -/
def StatusResult.buffer : StatusResult β → Option β
  | .taken (.ok generated_status) => some generated_status
  | _ => none

namespace StatusAggregator
variable [BufferType β]

def statusResult (module_ : ModuleLibraryHandler β) (s : StatusAggregator β) : StatusCall β → StatusResult β
  | .add_status_to_aggregator status device => .queued (s.add_status_to_aggregator module_ status device).1
  | .force_aggregation_on_device device => .queued (s.force_aggregation_on_device module_ device).1
  | .get_aggregated_status device => .taken (s.get_aggregated_status module_ device).1
  | .clear_device device => .cleared (s.clear_device module_ device).1

/-- The buffers that the calls for identity `k` hand out, in order. -/
def handedOut (k : DeviceKey) (s : StatusAggregator β) : List (ModuleLibraryHandler β × StatusCall β) → List β
  | [] => []
  | call :: calls =>
    (if call.2.device.key = k then (s.statusResult call.1 call.2).buffer.toList else []) ++
      handedOut k (s.operate call.1 call.2.operation) calls

end StatusAggregator

/-! ## The reference -/

/-- One step of the fold. The first status counts when there is a first command for the device. -/
def foldStatus (module_ : ModuleLibraryHandler β) (device_type : UInt32) : Option β → β → Option β
  | none, status => if (module_.generateFirstCommand device_type).1 = .OK then some status else none
  | some current, status =>
    match module_.aggregateStatus current status device_type with
    | (.OK,aggregated) => some aggregated
    | _ => some current

/-- The status of an identity, and what was put up for sending. -/
structure StatusReference (β : Type) where
  status : Option β
  ledger : Ledger β

namespace StatusReference
variable (r : StatusReference β)

def init : StatusReference β := ⟨none,.empty⟩

/-- Whether the function that a new status is handed to throws. -/
def throws (module_ : ModuleLibraryHandler β) (device_type : UInt32) (status : β) : Bool :=
  (r.status.elim (module_.generateFirstCommand device_type).1 fun current =>
    (module_.aggregateStatus current status device_type).1) = .BufferNotAllocated

/-- The first status and one that the module wants to be sent are put up; where the module throws, the
fold skips the status and nothing is put up. -/
def add (module_ : ModuleLibraryHandler β) (device_type : UInt32) (status : β) : StatusReference β :=
  let current := foldStatus module_ device_type r.status status
  let sent := !r.throws module_ device_type status &&
    r.status.all fun current => module_.sendStatusCondition current status device_type = .OK
  ⟨current,if sent then current.elim r.ledger r.ledger.put else r.ledger⟩

/-- The reference after a call for its identity. -/
def after (module_ : ModuleLibraryHandler β) (call : StatusCall β) : StatusReference β :=
  if module_.isDeviceTypeSupported call.device.deviceType = .OK then
    match call with
    | .add_status_to_aggregator status device => r.add module_ device.deviceType status
    | .force_aggregation_on_device _ => { r with ledger := r.status.elim r.ledger r.ledger.put }
    | .get_aggregated_status _ => { r with ledger := r.ledger.take }
    | .clear_device _ => { r with ledger := r.ledger.discard }
  else r

/-- The device is registered, and its type is supported. -/
def valid (module_ : ModuleLibraryHandler β) (device_type : UInt32) : Bool :=
  module_.isDeviceTypeSupported device_type = .OK ∧ r.status.isSome

/-- What that call returns. -/
def result (module_ : ModuleLibraryHandler β) : StatusCall β → StatusResult β
  | .add_status_to_aggregator status device =>
    let next := r.after module_ (.add_status_to_aggregator status device)
    .queued
      (if module_.isDeviceTypeSupported device.deviceType = .OK then
        if r.throws module_ device.deviceType status then .error .BufferNotAllocated
        else if next.status.isSome then .ok next.ledger.pending.length
        else .error .COMMAND_INVALID
      else .error .DEVICE_NOT_SUPPORTED)
  | .force_aggregation_on_device device =>
    .queued
      (if r.valid module_ device.deviceType then .ok (r.ledger.pending.length + 1)
      else .error .DEVICE_NOT_REGISTERED)
  | .get_aggregated_status device =>
    .taken
      (if r.valid module_ device.deviceType then
        r.ledger.pending.head?.elim (.error .NO_MESSAGE_AVAILABLE) .ok
      else .error .DEVICE_NOT_REGISTERED)
  | .clear_device device =>
    .cleared (if r.valid module_ device.deviceType then .OK else .DEVICE_NOT_REGISTERED)

/-- The reference of identity `k` after calls for any devices. -/
def run (k : DeviceKey) (calls : List (ModuleLibraryHandler β × StatusCall β)) : StatusReference β :=
  calls.foldl (fun r call => if call.2.device.key = k then r.after call.1 call.2 else r) r

end StatusReference

/-- The device is registered once it has a status, and its queue holds what is pending. -/
structure Tallies (entry : Option (StatusAggregatorDeviceState β)) (r : StatusReference β) : Prop where
  status : entry.map StatusAggregatorDeviceState.status_ = r.status
  queue : entry.elim [] StatusAggregatorDeviceState.aggregatedMessages_ = r.ledger.pending

section Tallies
variable {entry : Option (StatusAggregatorDeviceState β)} {r : StatusReference β}

theorem Tallies.init : Tallies (none : Option (StatusAggregatorDeviceState β)) .init := ⟨rfl,rfl⟩

theorem Tallies.of_none (h : Tallies none r) : r.status = none ∧ r.ledger.pending = [] :=
  ⟨h.status.symm,h.queue.symm⟩

theorem Tallies.of_some {d : StatusAggregatorDeviceState β} (h : Tallies (some d) r) :
    r.status = some d.status_ ∧ r.ledger.pending = d.aggregatedMessages_ :=
  ⟨h.status.symm,h.queue.symm⟩

theorem Tallies.push (h : Tallies entry r) :
    Tallies (entry.map fun d => d.push d.status_) { r with ledger := r.status.elim r.ledger r.ledger.put } := by
  cases entry with
  | none =>
    obtain ⟨hstatus,hqueue⟩ := h.of_none
    refine ⟨hstatus.symm,?_⟩
    rw [hstatus]
    exact hqueue.symm
  | some d =>
    obtain ⟨hstatus,hqueue⟩ := h.of_some
    refine ⟨hstatus.symm,?_⟩
    simp [hstatus, hqueue, StatusAggregatorDeviceState.push]

theorem Tallies.pop (h : Tallies entry r) :
    Tallies (entry.map fun d => { d with aggregatedMessages_ := d.aggregatedMessages_.tail })
      { r with ledger := r.ledger.take } := by
  cases entry with
  | none =>
    obtain ⟨hstatus,hqueue⟩ := h.of_none
    exact ⟨hstatus.symm,by simp [hqueue]⟩
  | some d =>
    obtain ⟨hstatus,hqueue⟩ := h.of_some
    exact ⟨hstatus.symm,by simp [hqueue]⟩

theorem Tallies.clear (h : Tallies entry r) :
    Tallies (entry.map .clear) { r with ledger := r.ledger.discard } := by
  cases entry with
  | none => exact ⟨h.status,by simp⟩
  | some d => exact ⟨h.status,by simp [StatusAggregatorDeviceState.clear]⟩

/-- The aggregate of both paths is one step of the fold. -/
theorem foldStatus_some (module_ : ModuleLibraryHandler β) (d : StatusAggregatorDeviceState β) (status : β)
    (device_type : UInt32) : foldStatus module_ device_type (some d.status_) status =
      some (StatusAggregator.aggregateStatus module_ d status device_type) := by
  unfold foldStatus StatusAggregator.aggregateStatus
  dsimp only
  rcases module_.aggregateStatus d.status_ status device_type with ⟨code,aggregated⟩
  cases code <;> rfl

theorem StatusAggregator.aggregateStatus_of_throws {module_ : ModuleLibraryHandler β}
    {d : StatusAggregatorDeviceState β} {status : β} {device_type : UInt32}
    (h : aggregateStatusThrows module_ d status device_type = true) :
    aggregateStatus module_ d status device_type = d.status_ := by
  unfold aggregateStatusThrows at h
  unfold aggregateStatus
  generalize module_.aggregateStatus d.status_ status device_type = result at h
  obtain ⟨code,aggregated⟩ := result
  obtain rfl : code = .BufferNotAllocated := of_decide_eq_true h
  rfl

theorem Tallies.aggregated {d : StatusAggregatorDeviceState β} (h : Tallies (some d) r)
    (module_ : ModuleLibraryHandler β) (status : β) (device_type : UInt32) :
    Tallies (some (StatusAggregator.aggregated module_ status device_type d)) (r.add module_ device_type status) := by
  obtain ⟨hstatus,hqueue⟩ := h.of_some
  have hthrows : r.throws module_ device_type status =
      StatusAggregator.aggregateStatusThrows module_ d status device_type := by
    unfold StatusReference.throws StatusAggregator.aggregateStatusThrows
    rw [hstatus, Option.elim_some]
  unfold StatusReference.add StatusAggregator.aggregated
  rw [hthrows, hstatus, foldStatus_some]
  by_cases hthrown : StatusAggregator.aggregateStatusThrows module_ d status device_type = true
  · rw [if_pos hthrown]
    refine ⟨?_,by simp [hthrown, hqueue]⟩
    rw [StatusAggregator.aggregateStatus_of_throws hthrown]
    rfl
  rw [if_neg hthrown]
  by_cases hsent : module_.sendStatusCondition d.status_ status device_type = .OK
  · rw [if_pos hsent]
    refine ⟨rfl,?_⟩
    simp [hthrown, hsent, hqueue, StatusAggregator.aggregateSetSendStatus, StatusAggregatorDeviceState.setStatus,
      StatusAggregatorDeviceState.push]
  · rw [if_neg hsent]
    refine ⟨rfl,?_⟩
    simp [hsent, hqueue, StatusAggregator.aggregateSetStatus, StatusAggregatorDeviceState.setStatus]

theorem Tallies.registered (h : Tallies none r) {module_ : ModuleLibraryHandler β} {device : DeviceIdentification}
    (hsupported : module_.isDeviceTypeSupported device.deviceType = .OK) (status : β) :
    Tallies (StatusAggregator.registered module_ status device) (r.add module_ device.deviceType status) := by
  obtain ⟨hstatus,hqueue⟩ := h.of_none
  have hsupported' : StatusAggregator.is_device_type_supported module_ device.deviceType = .OK := hsupported
  unfold StatusReference.add StatusReference.throws StatusAggregator.registered foldStatus
  rw [hstatus]
  rcases module_.generateFirstCommand device.deviceType with ⟨code,command⟩
  cases code with
  | OK =>
    refine ⟨?_,?_⟩ <;>
      simp [hsupported', hqueue, StatusAggregatorDeviceState.push, StatusAggregator.emplaced]
  | _ => exact ⟨by simp,by simp [hqueue]⟩

end Tallies

/-! ## One call -/

namespace StatusAggregator
variable [BufferType β] {s : StatusAggregator β} {k : DeviceKey} {r : StatusReference β}
  {module_ : ModuleLibraryHandler β} {call : StatusCall β}

end StatusAggregator

/-! ## Every sequence of calls -/

section Reference
variable {k : DeviceKey} {r : StatusReference β} {module_ : ModuleLibraryHandler β} {call : StatusCall β}

end Reference

namespace StatusAggregator
variable [BufferType β] {s : StatusAggregator β} {k : DeviceKey} {r : StatusReference β}

end StatusAggregator

end ModuleGateway.Modules
