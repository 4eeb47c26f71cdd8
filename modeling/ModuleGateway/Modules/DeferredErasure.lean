import ModuleGateway.Library.Execution
import ModuleGateway.Modules.StatusAggregator

/-! # Removal at the call and removal at the erasure

`remove_device` clears the entry and posts its erasure. The specification deletes
the entry at the call. Every other operation changes the entry of an identity as a
function of that entry alone, so the two can differ only at identities whose
erasure is still to come.
-/
namespace ModuleGateway.Modules
open Structures Execution

variable {β : Type}

/-- The operations that are the same with either removal; the timer of a device and the
atomic flag count as operations. -/
inductive Operation (β : Type) where
  | clear_device (device : DeviceIdentification)
  | clear_all_devices
  | add_status_to_aggregator (status : β) (device : DeviceIdentification)
  | get_aggregated_status (device : DeviceIdentification)
  | force_aggregation_on_device (device : DeviceIdentification)
  | timeouted_force_aggregation (deviceId : DeviceKey)
  | update_command (command : β) (device : DeviceIdentification)
  | get_command (status : β) (device : DeviceIdentification)
  | get_command_for_forwarding (device : DeviceIdentification)
  | unsetTimeoutedMessageReady

inductive AggregatorAction (β : Type) where
  | operate (op : Operation β)
  | remove_device (device : DeviceIdentification)
  | runPosted (i : ℕ)

namespace StatusAggregator
variable (module_ : ModuleLibraryHandler β)

/-- The state after an operation; a look-up that throws leaves it as it was. -/
def operate [BufferType β] (s : StatusAggregator β) : Operation β → StatusAggregator β
  | .clear_device device => (s.clear_device module_ device).2
  | .clear_all_devices => (s.clear_all_devices module_).2
  | .add_status_to_aggregator status device => (s.add_status_to_aggregator module_ status device).2
  | .get_aggregated_status device => (s.get_aggregated_status module_ device).2
  | .force_aggregation_on_device device => (s.force_aggregation_on_device module_ device).2
  | .timeouted_force_aggregation deviceId => (s.timeouted_force_aggregation module_ deviceId).2
  | .update_command command device => (s.update_command module_ command device).2
  | .get_command status device => (s.get_command module_ status device).elim s Prod.snd
  | .get_command_for_forwarding device => (s.get_command_for_forwarding module_ device).elim s Prod.snd
  | .unsetTimeoutedMessageReady => s.unsetTimeoutedMessageReady

def step [BufferType β] (s : StatusAggregator β) : AggregatorAction β → Option (StatusAggregator β)
  | .operate op => some (s.operate module_ op)
  | .remove_device device => some (s.remove_device module_ device).2
  | .runPosted i => s.runPosted i

/-- Removal that deletes the device at the call. -/
def removeNow (s : StatusAggregator β) (device : DeviceIdentification) : StatusAggregator β :=
  if s.isDeviceValidUnlocked module_ device.key = .NOT_OK then s
  else { s with devices := s.devices.erase device.key }

def specStep [BufferType β] (s : StatusAggregator β) : AggregatorAction β → StatusAggregator β
  | .operate op => s.operate module_ op
  | .remove_device device => s.removeNow module_ device
  | .runPosted _ => s

/-- The module may answer differently at every step. -/
def callStep [BufferType β] (s : StatusAggregator β) (call : ModuleLibraryHandler β × AggregatorAction β) :
    Option (StatusAggregator β) := s.step call.1 call.2

def specCall [BufferType β] (s : StatusAggregator β) (call : ModuleLibraryHandler β × AggregatorAction β) :
    StatusAggregator β := s.specStep call.1 call.2

/-! ## What an operation does to one entry -/

/-- `getCommandUnlocked` on the entry it finds. -/
def consumed (status : β) (device_type : UInt32) (d : StatusAggregatorDeviceState β) :
    StatusAggregatorDeviceState β :=
  match d.consumeCommand with
  | (none,d) => d
  | (some currentCommand,d) =>
    match module_.generateCommand status d.status_ currentCommand device_type with
    | (.OK,generated) => d.setDefaultCommand generated
    | _ => d

/-- `add_status_to_aggregator` on the entry it finds. -/
def aggregated (status : β) (device_type : UInt32) (d : StatusAggregatorDeviceState β) :
    StatusAggregatorDeviceState β :=
  if aggregateStatusThrows module_ d status device_type then d
  else if module_.sendStatusCondition d.status_ status device_type = .OK then
    aggregateSetSendStatus module_ d status device_type
  else aggregateSetStatus module_ d status device_type

/-- The entry of a device that was not registered, once its status is added. -/
def registered (status : β) (device : DeviceIdentification) : Option (StatusAggregatorDeviceState β) :=
  match module_.generateFirstCommand device.deviceType with
  | (.OK,command) =>
    let d := emplaced module_ device command status
    some (if is_device_type_supported module_ device.deviceType = .OK then d.push status else d)
  | _ => none

/-- The entry of identity `k` after an operation, from the entry before it. -/
def effect [BufferType β] (op : Operation β) (k : DeviceKey) (entry : Option (StatusAggregatorDeviceState β)) :
    Option (StatusAggregatorDeviceState β) :=
  let supported := is_device_type_supported module_ k.deviceType
  match op with
  | .clear_device device =>
    if k = device.key ∧ supported = .OK then entry.map .clear else entry
  | .clear_all_devices => if supported = .OK then entry.map .clear else entry
  | .add_status_to_aggregator status device =>
    if k = device.key ∧ supported ≠ .NOT_OK then
      match entry with
      | none => registered module_ status device
      | some d => some (aggregated module_ status k.deviceType d)
    else entry
  | .get_aggregated_status device =>
    if k = device.key ∧ supported = .OK then
      entry.map fun d => { d with aggregatedMessages_ := d.aggregatedMessages_.tail }
    else entry
  | .force_aggregation_on_device device =>
    if k = device.key ∧ supported = .OK then entry.map fun d => d.push d.status_ else entry
  | .timeouted_force_aggregation deviceId =>
    if k = deviceId ∧ supported = .OK then entry.map fun d => d.push d.status_ else entry
  | .update_command command device =>
    if k = device.key ∧ supported ≠ .NOT_OK ∧ isAllocated command ∧
        module_.commandDataValid command k.deviceType ≠ .NOT_OK then
      entry.map fun d => (d.addExternalCommand command).2
    else entry
  | .get_command status device =>
    if k = device.key ∧ supported ≠ .NOT_OK then entry.map (consumed module_ status k.deviceType)
    else entry
  | .get_command_for_forwarding device =>
    if k = device.key ∧ supported = .OK then
      entry.map fun d => consumed module_ d.status_ k.deviceType d
    else entry
  | .unsetTimeoutedMessageReady => entry

/-- A new status is aggregated, and sent or not, unless `aggregateStatus` throws. -/
theorem aggregated_cases (status : β) (device_type : UInt32) (d : StatusAggregatorDeviceState β) :
    aggregated module_ status device_type d = d ∨
      aggregated module_ status device_type d = aggregateSetSendStatus module_ d status device_type ∨
      aggregated module_ status device_type d = aggregateSetStatus module_ d status device_type := by
  unfold aggregated
  split
  · exact .inl rfl
  · split
    · exact .inr (.inl rfl)
    · exact .inr (.inr rfl)

variable {module_} (s : StatusAggregator β)

theorem clear_all_devices_lookup (k : DeviceKey) :
    (s.clear_all_devices module_).2.devices.lookup k =
      if is_device_type_supported module_ k.deviceType = .OK then (s.devices.lookup k).map .clear
      else s.devices.lookup k := by
  have hclear : ∀ e : Option (StatusAggregatorDeviceState β),
      (e.map StatusAggregatorDeviceState.clear).map StatusAggregatorDeviceState.clear =
        e.map StatusAggregatorDeviceState.clear := by
    intro e
    cases e <;> rfl
  have hfold : ∀ (keys : List DeviceKey) (t : StatusAggregator β),
      (keys.foldl (fun t key => (t.clearDeviceUnlocked module_ key).2) t).devices.lookup k =
        if k ∈ keys ∧ is_device_type_supported module_ k.deviceType = .OK then
          (t.devices.lookup k).map .clear
        else t.devices.lookup k := by
    intro keys
    induction keys with
    | nil => simp
    | cons key keys ih =>
      intro t
      rw [List.foldl_cons, ih, clearDeviceUnlocked_lookup]
      by_cases hsup : is_device_type_supported module_ k.deviceType = .OK
      · by_cases hk : k = key
        · by_cases hmem : k ∈ keys <;> simp [← hk, hmem, hsup, hclear]
        · simp [hk, hsup]
      · simp [hsup]
  rw [clear_all_devices, hfold]
  by_cases hsup : is_device_type_supported module_ k.deviceType = .OK
  · by_cases hmem : k ∈ s.devices.keys
    · rw [if_pos ⟨hmem,hsup⟩, if_pos hsup]
    · have hnone : s.devices.lookup k = none := AList.lookup_eq_none.mpr hmem
      rw [if_neg fun h => hmem h.1, if_pos hsup, hnone]
      rfl
  · rw [if_neg fun h => hsup h.2, if_neg hsup]

/-- The first status of a device is forced right after its entry is emplaced. -/
theorem emplaced_lookup {s : StatusAggregator β} {device : DeviceIdentification} {command status : β}
    (h : s.devices.lookup device.key = some (emplaced module_ device command status)) :
    (s.forceAggregationOnDeviceUnlocked module_ device.key).2.devices.lookup device.key =
      some (if is_device_type_supported module_ device.deviceType = .OK then
        (emplaced module_ device command status).push status
        else emplaced module_ device command status) := by
  rw [forceAggregationOnDeviceUnlocked_lookup, h]
  by_cases hok : is_device_type_supported module_ device.deviceType = .OK
  · rw [if_pos ⟨rfl,hok⟩, if_pos hok]
    rfl
  · rw [if_neg fun h => hok h.2, if_neg hok]

theorem add_status_to_aggregator_lookup [BufferType β] (status : β) (device : DeviceIdentification) (k : DeviceKey) :
    (s.add_status_to_aggregator module_ status device).2.devices.lookup k =
      effect module_ (.add_status_to_aggregator status device) k (s.devices.lookup k) := by
  simp only [add_status_to_aggregator, effect]
  by_cases hsup : is_device_type_supported module_ device.deviceType = .NOT_OK
  · have hno : ¬(k = device.key ∧ is_device_type_supported module_ k.deviceType ≠ .NOT_OK) := by
      rintro ⟨rfl,h⟩
      exact h hsup
    rw [if_pos hsup, if_neg hno]
  · rw [if_neg hsup]
    by_cases hk : k = device.key
    · subst hk
      rw [if_pos ⟨rfl,hsup⟩]
      cases hd : s.devices.lookup device.key with
      | none =>
        rcases hgen : module_.generateFirstCommand device.deviceType with ⟨code,command⟩
        cases code <;> simp only [registered, hgen, hd]
        exact emplaced_lookup (AList.lookup_insert _)
      | some d =>
        change _ = some (aggregated module_ status device.deviceType d)
        simp only [aggregated]
        by_cases hthrows : aggregateStatusThrows module_ d status device.deviceType
        · rw [if_pos hthrows, if_pos hthrows]
          exact hd
        · rw [if_neg hthrows, if_neg hthrows]
          exact AList.lookup_insert _
    · have hno : ¬(k = device.key ∧ is_device_type_supported module_ k.deviceType ≠ .NOT_OK) :=
        fun h => hk h.1
      rw [if_neg hno]
      cases hd : s.devices.lookup device.key with
      | none =>
        rcases hgen : module_.generateFirstCommand device.deviceType with ⟨code,command⟩
        cases code <;> simp only
        rw [forceAggregationOnDeviceUnlocked_lookup, if_neg fun h => hk h.1, lookup_insert, if_neg hk]
      | some d =>
        dsimp only
        split
        · rfl
        · simp only [lookup_insert, if_neg hk]

theorem get_aggregated_status_lookup [BufferType β] (device : DeviceIdentification) (k : DeviceKey) :
    (s.get_aggregated_status module_ device).2.devices.lookup k =
      effect module_ (.get_aggregated_status device) k (s.devices.lookup k) := by
  have hpop := s.checked_modifyAt_lookup device.key k
    (fun k => is_device_type_supported module_ k.deviceType = .OK)
    (fun d => { d with aggregatedMessages_ := d.aggregatedMessages_.tail })
    (isDeviceValidUnlocked_of_isSome module_ s device.key)
  refine Eq.trans ?_ hpop
  rw [get_aggregated_status]
  split
  · rfl
  · rw [modifyAt_lookup]
    cases hd : s.devices.lookup device.key with
    | none =>
      by_cases hk : k = device.key
      · subst hk
        simp [hd]
      · simp [hk]
    | some d =>
      cases hm : d.aggregatedMessages_ with
      | nil =>
        have hsame : { d with aggregatedMessages_ := d.aggregatedMessages_.tail } = d := by
          rw [hm, List.tail_nil, ← hm]
        by_cases hk : k = device.key
        · subst hk
          simpa [hm, hd] using hsame.symm
        · simp [hm, hk]
      | cons x rest =>
        simp only [Option.elim_some, hm, modifyAt_lookup, hd, Option.map_some, List.tail_cons]

theorem update_command_lookup [BufferType β] (command : β) (device : DeviceIdentification) (k : DeviceKey) :
    (s.update_command module_ command device).2.devices.lookup k =
      effect module_ (.update_command command device) k (s.devices.lookup k) := by
  refine Eq.trans ?_ (s.checked_modifyAt_lookup device.key k
    (p := is_device_type_supported module_ device.deviceType = .NOT_OK ∨ device.key ∉ s.devices ∨
      (!isAllocated command || module_.commandDataValid command device.deviceType = .NOT_OK) = true)
    (fun k => is_device_type_supported module_ k.deviceType ≠ .NOT_OK ∧ isAllocated command ∧
      module_.commandDataValid command k.deviceType ≠ .NOT_OK)
    (fun d => (d.addExternalCommand command).2) ?_)
  · rw [update_command]
    split_ifs <;> simp_all
  · intro hd
    have hmem : device.key ∈ s.devices := AList.lookup_isSome.mp hd
    change _ ↔ ¬(is_device_type_supported module_ device.deviceType ≠ .NOT_OK ∧ _ ∧
      module_.commandDataValid command device.deviceType ≠ .NOT_OK)
    cases isAllocated command <;> simp [hmem, imp_iff_not_or]

/-- The state that `getCommandUnlocked` leaves, also when it throws. -/
theorem getCommandUnlocked_lookup (status : β) (device k : DeviceKey) :
    ((s.getCommandUnlocked module_ status device).elim s Prod.snd).devices.lookup k =
      if k = device ∧ is_device_type_supported module_ k.deviceType ≠ .NOT_OK then
        (s.devices.lookup k).map (consumed module_ status k.deviceType)
      else s.devices.lookup k := by
  have hstate : (s.getCommandUnlocked module_ status device).elim s Prod.snd =
      if is_device_type_supported module_ device.deviceType = .NOT_OK then s
      else s.modifyAt device (consumed module_ status device.deviceType) := by
    rw [getCommandUnlocked]
    split
    · rfl
    · rw [modifyAt]
      cases hd : s.devices.lookup device with
      | none => rfl
      | some d =>
        obtain ⟨current,d',hc⟩ : ∃ current d', d.consumeCommand = (current,d') := ⟨_,_,rfl⟩
        cases current with
        | none => simp only [consumed, hc, Option.elim_some]
        | some current =>
          rcases hgen : module_.generateCommand status d'.status_ current device.deviceType
            with ⟨code,generated⟩
          cases code <;> simp only [consumed, hc, hgen, Option.elim_some]
  rw [hstate]
  have h := s.checked_modifyAt_lookup device k
    (p := is_device_type_supported module_ device.deviceType = .NOT_OK)
    (fun k => is_device_type_supported module_ k.deviceType ≠ .NOT_OK)
    (consumed module_ status device.deviceType) fun _ => by simp
  rw [h]
  by_cases hk : k = device
  · rw [hk]
  · rw [if_neg fun h => hk h.1, if_neg fun h => hk h.1]

theorem get_command_for_forwarding_lookup [BufferType β] (device : DeviceIdentification) (k : DeviceKey) :
    ((s.get_command_for_forwarding module_ device).elim s Prod.snd).devices.lookup k =
      effect module_ (.get_command_for_forwarding device) k (s.devices.lookup k) := by
  simp only [get_command_for_forwarding, effect]
  cases hd : s.devices.lookup device.key with
  | none =>
    rw [if_pos ((isDeviceValidUnlocked_eq_NOT_OK_iff module_ s device.key).mpr (.inr hd))]
    by_cases hk : k = device.key
    · subst hk
      simp [hd]
    · simp [hk]
  | some d =>
    have hvalid := isDeviceValidUnlocked_of_isSome module_ s device.key (by rw [hd]; rfl)
    by_cases hok : is_device_type_supported module_ device.key.deviceType = .OK
    · rw [if_neg fun h => hvalid.mp h hok]
      simp only [getCommandUnlocked_lookup]
      by_cases hk : k = device.key
      · subst hk
        simp [hd, hok]
      · simp [hk]
    · rw [if_pos (hvalid.mpr hok)]
      by_cases hk : k = device.key
      · subst hk
        simp [hok]
      · simp [hk]

theorem operate_lookup [BufferType β] (op : Operation β) (k : DeviceKey) :
    (s.operate module_ op).devices.lookup k = effect module_ op k (s.devices.lookup k) := by
  cases op with
  | clear_device device => exact clearDeviceUnlocked_lookup module_ s device.key k
  | clear_all_devices => exact s.clear_all_devices_lookup k
  | add_status_to_aggregator status device => exact s.add_status_to_aggregator_lookup status device k
  | get_aggregated_status device => exact s.get_aggregated_status_lookup device k
  | force_aggregation_on_device device => exact forceAggregationOnDeviceUnlocked_lookup module_ s device.key k
  | timeouted_force_aggregation deviceId => exact forceAggregationOnDeviceUnlocked_lookup module_ _ deviceId k
  | update_command command device => exact s.update_command_lookup command device k
  | get_command status device => exact s.getCommandUnlocked_lookup status device.key k
  | get_command_for_forwarding device => exact s.get_command_for_forwarding_lookup device k
  | unsetTimeoutedMessageReady => rfl

theorem operate_posted [BufferType β] (op : Operation β) :
    (s.operate module_ op).posted = s.posted := by
  have hclear : ∀ (t : StatusAggregator β) key, (t.clearDeviceUnlocked module_ key).2.posted = t.posted := by
    intro t key
    rw [clearDeviceUnlocked_eq]
    split
    · rfl
    · exact (modifyAt_rest t key _).1
  have hforce : ∀ (t : StatusAggregator β) key,
      (t.forceAggregationOnDeviceUnlocked module_ key).2.posted = t.posted := by
    intro t key
    rw [forceAggregationOnDeviceUnlocked_eq]
    split
    · rfl
    · exact (modifyAt_rest t key _).1
  have hcommand : ∀ status key,
      ((s.getCommandUnlocked module_ status key).elim s Prod.snd).posted = s.posted := by
    intro status key
    rw [getCommandUnlocked]
    split
    · rfl
    · split
      · rfl
      · split
        · rfl
        · split <;> rfl
  cases op with
  | clear_device device => exact hclear s device.key
  | clear_all_devices =>
    suffices h : ∀ (keys : List DeviceKey) (t : StatusAggregator β),
        (keys.foldl (fun t key => (t.clearDeviceUnlocked module_ key).2) t).posted = t.posted from h _ s
    intro keys
    induction keys with
    | nil => exact fun _ => rfl
    | cons key keys ih => exact fun t => (ih _).trans (hclear t key)
  | add_status_to_aggregator status device =>
    simp only [operate, add_status_to_aggregator]
    split
    · rfl
    · split
      · split
        · exact hforce _ _
        · rfl
      · split <;> rfl
  | get_aggregated_status device =>
    simp only [operate, get_aggregated_status]
    split
    · rfl
    · split
      · rfl
      · exact (modifyAt_rest s _ _).1
  | force_aggregation_on_device device => exact hforce s device.key
  | timeouted_force_aggregation deviceId => exact hforce _ deviceId
  | update_command command device =>
    simp only [operate, update_command]
    split
    · rfl
    · split
      · rfl
      · split
        · rfl
        · exact (modifyAt_rest s _ _).1
  | get_command status device => exact hcommand status device.key
  | get_command_for_forwarding device =>
    simp only [operate, get_command_for_forwarding]
    split
    · rfl
    · split
      · rfl
      · exact hcommand _ _
  | unsetTimeoutedMessageReady => rfl

/-! ## Registration while an erasure is pending -/

variable (module_) in
/-- `add_status_to_aggregator` will succeed: the type is supported, and the device is
registered or its first command can be generated. -/
def Accepts (s : StatusAggregator β) (device : DeviceIdentification) : Prop :=
  is_device_type_supported module_ device.deviceType ≠ .NOT_OK ∧
    (device.key ∈ s.devices ∨ (module_.generateFirstCommand device.deviceType).1 = .OK)

/-- It does succeed, unless `aggregateStatus` throws. -/
theorem accepts_iff {s : StatusAggregator β} {status : β} {device : DeviceIdentification} :
    (∃ n, (s.add_status_to_aggregator module_ status device).1 = .ok n) ↔ s.Accepts module_ device ∧
      ∀ d, s.devices.lookup device.key = some d →
        ¬aggregateStatusThrows module_ d status device.deviceType := by
  rw [Accepts, add_status_to_aggregator]
  by_cases hsup : is_device_type_supported module_ device.deviceType = .NOT_OK
  · simp [hsup]
  · simp only [ne_eq, hsup, not_false_eq_true, true_and, ← AList.lookup_isSome]
    cases s.devices.lookup device.key with
    | none =>
      rcases module_.generateFirstCommand device.deviceType with ⟨code,command⟩
      cases code <;> simp
    | some d => cases hthrows : aggregateStatusThrows module_ d status device.deviceType <;> simp [hthrows]

theorem Accepts.registered [BufferType β] {s : StatusAggregator β} {device : DeviceIdentification}
    (h : s.Accepts module_ device) (status : β) :
    (effect module_ (.add_status_to_aggregator status device) device.key
      (s.devices.lookup device.key)).isSome := by
  have hif : device.key = device.key ∧ is_device_type_supported module_ device.key.deviceType ≠ .NOT_OK :=
    ⟨rfl,h.1⟩
  unfold effect
  dsimp only
  rw [if_pos hif]
  cases hd : s.devices.lookup device.key with
  | some d => rfl
  | none =>
    have hgen := h.2.resolve_left (AList.lookup_eq_none.mp hd)
    revert hgen
    simp only [StatusAggregator.registered]
    rcases module_.generateFirstCommand device.deviceType with ⟨code,command⟩
    rintro rfl
    rfl

/-- No status is accepted for an identity whose erasure is still to come. -/
def NoStaleErasure (s : StatusAggregator β) : ModuleLibraryHandler β × AggregatorAction β → Prop
  | (module_,.operate (.add_status_to_aggregator _ device)) => s.Accepts module_ device → device.key ∉ s.posted
  | _ => True

/-- An entry comes into being only by a status of its device. -/
theorem effect_none [BufferType β] {op : Operation β} {k : DeviceKey}
    (h : (effect module_ op k none).isSome) : ∃ status device,
      op = .add_status_to_aggregator status device ∧ k = device.key ∧
        is_device_type_supported module_ device.deviceType ≠ .NOT_OK ∧
        (module_.generateFirstCommand device.deviceType).1 = .OK := by
  cases op with
  | add_status_to_aggregator status device =>
    simp only [effect] at h
    by_cases hk : k = device.key ∧ is_device_type_supported module_ k.deviceType ≠ .NOT_OK
    · rw [if_pos hk, registered] at h
      obtain ⟨rfl,hsup⟩ := hk
      refine ⟨status,device,rfl,rfl,hsup,?_⟩
      revert h
      rcases module_.generateFirstCommand device.deviceType with ⟨code,command⟩
      cases code <;> simp
    · simp [if_neg hk] at h
  | _ => simp [effect] at h

/-- No operation but the erasure takes an entry away. -/
theorem effect_isSome [BufferType β] {op : Operation β} {k : DeviceKey}
    {entry : Option (StatusAggregatorDeviceState β)} (h : entry.isSome) :
    (effect module_ op k entry).isSome := by
  obtain ⟨d,rfl⟩ := Option.isSome_iff_exists.mp h
  cases op <;> simp only [effect] <;> first | rfl | (split <;> rfl)

/-! ## The specification is followed -/

/-- The two agree except at identities whose erasure is still to come; those are gone in the
specification. -/
def Follows (s c : StatusAggregator β) : Prop :=
  ∀ k, c.devices.lookup k = if k ∈ s.posted then none else s.devices.lookup k

theorem Follows.operate [BufferType β] {s c : StatusAggregator β} (h : s.Follows c) {op : Operation β}
    (hop : s.NoStaleErasure (module_,.operate op)) :
    (s.operate module_ op).Follows (c.operate module_ op) := by
  intro k
  rw [operate_lookup, operate_lookup, operate_posted, h k]
  by_cases hk : k ∈ s.posted
  · rw [if_pos hk, if_pos hk, ← Option.not_isSome_iff_eq_none]
    intro hsome
    obtain ⟨status,device,rfl,rfl,hsup,hgen⟩ := effect_none hsome
    exact hop ⟨hsup,.inr hgen⟩ hk
  · rw [if_neg hk, if_neg hk]

theorem removeNow_lookup (c : StatusAggregator β) (device : DeviceIdentification) (k : DeviceKey) :
    (c.removeNow module_ device).devices.lookup k =
      if k = device.key ∧ is_device_type_supported module_ k.deviceType = .OK then none
      else c.devices.lookup k := by
  rw [removeNow]
  by_cases hk : k = device.key
  · subst hk
    by_cases hinvalid : c.isDeviceValidUnlocked module_ device.key = .NOT_OK
    · rw [if_pos hinvalid]
      rcases (isDeviceValidUnlocked_eq_NOT_OK_iff module_ c device.key).mp hinvalid with h | h
      · rw [if_neg fun hh => h hh.2]
      · rw [h, ite_self]
    · have hok : is_device_type_supported module_ device.key.deviceType = .OK := by
        by_contra h
        exact hinvalid ((isDeviceValidUnlocked_eq_NOT_OK_iff module_ c device.key).mpr (.inl h))
      rw [if_neg hinvalid, if_pos ⟨rfl,hok⟩]
      exact AList.lookup_erase _ _
  · have hno : ¬(k = device.key ∧ is_device_type_supported module_ k.deviceType = .OK) := fun h => hk h.1
    rw [if_neg hno]
    split
    · rfl
    · exact AList.lookup_erase_ne hk

theorem Follows.remove_device {s c : StatusAggregator β} (h : s.Follows c)
    (device : DeviceIdentification) :
    (s.remove_device module_ device).2.Follows (c.removeNow module_ device) := by
  intro k
  rw [removeNow_lookup, h k, StatusAggregator.remove_device]
  by_cases hinvalid : s.isDeviceValidUnlocked module_ device.key = .NOT_OK
  · rw [if_pos hinvalid]
    rcases (isDeviceValidUnlocked_eq_NOT_OK_iff module_ s device.key).mp hinvalid with hsup | hnone
    · refine if_neg ?_
      rintro ⟨rfl,hok⟩
      exact hsup hok
    · by_cases hk : k = device.key
      · subst hk
        rw [hnone, ite_self, ite_self]
      · exact if_neg fun hh => hk hh.1
  · rw [if_neg hinvalid]
    have hok : is_device_type_supported module_ device.key.deviceType = .OK := by
      by_contra hno
      exact hinvalid ((isDeviceValidUnlocked_eq_NOT_OK_iff module_ s device.key).mpr (.inl hno))
    have hposted : (s.clearDeviceUnlocked module_ device.key).2.posted = s.posted := by
      rw [clearDeviceUnlocked_eq, if_neg hinvalid, (modifyAt_rest s _ _).1]
    simp only [hposted, clearDeviceUnlocked_lookup, List.mem_append, List.mem_singleton]
    by_cases hk : k = device.key
    · rw [if_pos ⟨hk,hk ▸ hok⟩, if_pos (.inr hk)]
    · simp [hk]

theorem Follows.runPosted {s t c : StatusAggregator β} (h : s.Follows c) {i : ℕ}
    (ht : s.runPosted i = some t) : t.Follows c := by
  obtain ⟨device,hi,rfl⟩ := Option.map_eq_some_iff.mp ht
  intro k
  rw [h k]
  by_cases hk : k ∈ s.posted.eraseIdx i
  · rw [if_pos hk, if_pos (List.mem_of_mem_eraseIdx hk)]
  · rw [if_neg hk]
    by_cases hkd : k = device
    · subst hkd
      rw [if_pos (List.mem_of_getElem? hi), AList.lookup_erase]
    · have hnot : k ∉ s.posted := by
        intro hmem
        obtain ⟨j,hj⟩ := List.mem_iff_getElem?.mp hmem
        have hji : j ≠ i := by
          rintro rfl
          exact hkd (Option.some.inj (hj.symm.trans hi))
        exact hk (List.mem_eraseIdx_iff_getElem?.mpr ⟨j,hji,hj⟩)
      rw [if_neg hnot, AList.lookup_erase_ne hkd]

theorem Follows.step [BufferType β] {s t c : StatusAggregator β} (h : s.Follows c)
    {call : ModuleLibraryHandler β × AggregatorAction β} (hcall : s.NoStaleErasure call)
    (ht : s.callStep call = some t) : t.Follows (c.specCall call) := by
  obtain ⟨module_,a⟩ := call
  cases a with
  | operate op =>
    obtain rfl := Option.some.inj ht
    exact h.operate hcall
  | remove_device device =>
    obtain rfl := Option.some.inj ht
    exact h.remove_device device
  | runPosted i => exact h.runPosted ht

/-- A registered device without a pending erasure stays so until it is removed. -/
theorem step_registered [BufferType β] {s t : StatusAggregator β} {a : AggregatorAction β}
    {k : DeviceKey} (hs : (s.devices.lookup k).isSome ∧ k ∉ s.posted)
    (ha : ∀ device, a = .remove_device device → device.key ≠ k) (ht : s.step module_ a = some t) :
    (t.devices.lookup k).isSome ∧ k ∉ t.posted := by
  cases a with
  | operate op =>
    obtain rfl := Option.some.inj ht
    rw [operate_lookup, operate_posted]
    exact ⟨effect_isSome hs.1,hs.2⟩
  | remove_device device =>
    obtain rfl := Option.some.inj ht
    have hne := ha device rfl
    rw [StatusAggregator.remove_device]
    split
    · exact hs
    · have hlookup := clearDeviceUnlocked_lookup module_ s device.key k
      rw [if_neg fun h => hne h.1.symm] at hlookup
      rename_i hvalid
      have hposted : (s.clearDeviceUnlocked module_ device.key).2.posted = s.posted := by
        rw [clearDeviceUnlocked_eq, if_neg hvalid, (modifyAt_rest s _ _).1]
      simp only [hlookup, hposted, List.mem_append, List.mem_singleton]
      exact ⟨hs.1,fun h => h.elim hs.2 fun h => hne h.symm⟩
  | runPosted i =>
    obtain ⟨device,hi,rfl⟩ := Option.map_eq_some_iff.mp ht
    have hne : k ≠ device := by
      rintro rfl
      exact hs.2 (List.mem_of_getElem? hi)
    refine ⟨?_,fun h => hs.2 (List.mem_of_mem_eraseIdx h)⟩
    rw [AList.lookup_erase_ne hne]
    exact hs.1

/-- While no status is accepted for an identity whose erasure is still to come, the entries
without a pending erasure are those of the specification; in particular a device stays
registered from a status that was accepted until it is removed again. -/
theorem exec_refines_removeNow [BufferType β] {calls : List (ModuleLibraryHandler β × AggregatorAction β)}
    {s : StatusAggregator β} (hg : Guarded callStep NoStaleErasure init calls)
    (he : exec callStep init calls = some s) :
    (∀ k, k ∉ s.posted → s.devices.lookup k = (calls.foldl specCall init).devices.lookup k) ∧
    ∀ bs module_ status device cs u n,
      calls = bs ++ (module_,.operate (.add_status_to_aggregator status device)) :: cs →
      exec callStep init bs = some u →
      (u.add_status_to_aggregator module_ status device).1 = .ok n →
      (∀ remover d, (remover,.remove_device d) ∈ cs → d.key ≠ device.key) →
      (s.devices.lookup device.key).isSome ∧
        s.devices.lookup device.key = (calls.foldl specCall init).devices.lookup device.key := by
  have hstep : ∀ (s c : StatusAggregator β) call t, s.Follows c → s.NoStaleErasure call →
      s.callStep call = some t → t.Follows (c.specCall call) := fun _ _ _ _ h hcall ht => h.step hcall ht
  have hfollows : s.Follows (calls.foldl specCall init) :=
    exec_simulation (fun k => (ite_self _).symm) hstep hg he
  have hsame : ∀ k, k ∉ s.posted →
      s.devices.lookup k = (calls.foldl specCall init).devices.lookup k := fun k hk => by
    rw [hfollows k, if_neg hk]
  refine ⟨hsame,?_⟩
  intro bs module_ status device cs u n hcalls hu hn hcs
  subst hcalls
  obtain ⟨-,hgu⟩ := guarded_append hg hu
  have haccepts := (accepts_iff.mp ⟨n,hn⟩).1
  have hposted := hgu.1 haccepts
  obtain ⟨v,hv,hcont⟩ := exec_cons_eq_some.mp (by
    obtain ⟨w,hw,hrest⟩ := exec_append_eq_some.mp he
    obtain rfl : u = w := Option.some.inj (hu.symm.trans hw)
    exact hrest)
  obtain rfl := Option.some.inj hv
  have hregistered : ((u.operate module_ (.add_status_to_aggregator status device)).devices.lookup
      device.key).isSome := by
    rw [operate_lookup]
    exact haccepts.registered _
  have hend := exec_guarded_invariant (I := fun t => (t.devices.lookup device.key).isSome ∧ device.key ∉ t.posted)
    ⟨hregistered,by rwa [operate_posted]⟩
    (fun _ call _ hs hcall ht => step_registered hs hcall ht)
    (guarded_of_forall_mem fun call hmem _ d hd => hcs call.1 d (hd ▸ hmem)) hcont
  exact ⟨hend.1,hsame _ hend.2⟩

/-! ## The erasure that comes after the device is back -/

/-- A module that accepts everything and takes the newest status for the aggregate. -/
def relay : ModuleLibraryHandler (List UInt8) where
  isDeviceTypeSupported _ := .OK
  sendStatusCondition _ _ _ := .NOT_OK
  generateCommand _ _ command _ := (.OK,command)
  aggregateStatus _ status _ := (.OK,status)
  aggregateError _ status _ := (.OK,status)
  generateFirstCommand _ := (.OK,[0])
  statusDataValid _ _ := .OK
  commandDataValid _ _ := .OK
  forwardCommandOnReceive _ := .NOT_OK

def camera : DeviceIdentification := ⟨1,2,"cam","a",5⟩

/-- The device is removed, sends a status again, and then its erasure runs. -/
def staleErasure : List (ModuleLibraryHandler (List UInt8) × AggregatorAction (List UInt8)) :=
  [(relay,.operate (.add_status_to_aggregator [1] camera)),(relay,.remove_device camera),
    (relay,.operate (.add_status_to_aggregator [2] camera)),(relay,.runPosted 0)]

theorem staleErasure_loses_device :
    ¬∀ (calls : List (ModuleLibraryHandler (List UInt8) × AggregatorAction (List UInt8))) s,
      exec callStep init calls = some s → s.posted = [] →
      ∀ k, s.devices.lookup k = (calls.foldl specCall init).devices.lookup k := by
  intro hall
  have h := hall staleErasure _ rfl rfl camera.key
  exact absurd (congrArg Option.isSome h) (by decide)

/-- Removed, erased, and then back. -/
def erasedThenBack : List (ModuleLibraryHandler (List UInt8) × AggregatorAction (List UInt8)) :=
  [(relay,.operate (.add_status_to_aggregator [1] camera)),(relay,.remove_device camera),(relay,.runPosted 0),
    (relay,.operate (.add_status_to_aggregator [2] camera)),
    (relay,.operate (.timeouted_force_aggregation camera.key))]

theorem exec_refines_removeNow_back :
    ∃ s, exec callStep init erasedThenBack = some s ∧
      (s.devices.lookup camera.key).isSome ∧
      s.devices.lookup camera.key = (erasedThenBack.foldl specCall init).devices.lookup camera.key := by
  have hg : Guarded callStep NoStaleErasure init erasedThenBack :=
    .cons (fun _ => List.not_mem_nil) rfl (.cons trivial rfl (.cons trivial rfl
      (.cons (fun _ => List.not_mem_nil) rfl (.cons trivial rfl trivial))))
  obtain ⟨u,hu,hn⟩ : ∃ u, exec callStep init (erasedThenBack.take 3) = some u ∧
      (u.add_status_to_aggregator relay [2] camera).1 = .ok 1 := ⟨_,rfl,rfl⟩
  refine ⟨_,rfl,(exec_refines_removeNow hg rfl).2 _ relay [2] camera _ u 1 rfl hu hn ?_⟩
  simp

end StatusAggregator

end ModuleGateway.Modules
