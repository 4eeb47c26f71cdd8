import ModuleGateway.Modules.RegisteredDevices

/-! # An aggregator with one device

An operation answers from the entry of its device, and leaves the entries of the other devices
alone. So an aggregator that holds one device only goes through the same states of it as one that
holds others too. What all devices of the module share is the flag that their timers set.
-/
namespace ModuleGateway.Modules
open Structures Execution

variable {β : Type}

/-! ## Operations of an aggregator -/

namespace Operation

/-- The identity that an operation is about. -/
def device : Operation β → Option DeviceKey
  | .clear_device device | .add_status_to_aggregator _ device | .get_aggregated_status device
  | .force_aggregation_on_device device | .update_command _ device | .get_command _ device
  | .get_command_for_forwarding device => some device.key
  | .timeouted_force_aggregation deviceId => some deviceId
  | .clear_all_devices | .unsetTimeoutedMessageReady => none

/-- `deviceTimeouts_` after an operation. -/
def timeouts (module_ : ModuleLibraryHandler β) : Operation β → (DeviceKey → ℕ) → DeviceKey → ℕ
  | .add_status_to_aggregator _ device, counts =>
    if StatusAggregator.is_device_type_supported module_ device.deviceType = .NOT_OK then counts
    else Function.update counts device.key 0
  | .timeouted_force_aggregation deviceId, counts => Function.update counts deviceId (counts deviceId + 1)
  | _, counts => counts

/-- `timeoutedMessageReady_` after an operation. -/
def ready : Operation β → Bool → Bool
  | .timeouted_force_aggregation _, _ => true
  | .unsetTimeoutedMessageReady, _ => false
  | _, ready => ready

theorem ready_mono (op : Operation β) {flag flag' : Bool} (h : flag = true → flag' = true)
    (hready : op.ready flag = true) : op.ready flag' = true := by
  cases op with
  | timeouted_force_aggregation deviceId => rfl
  | unsetTimeoutedMessageReady => cases hready
  | _ => exact h hready

/-- What is done to a device takes no flag back. -/
theorem ready_of_device {op : Operation β} {device : DeviceKey} (h : op.device = some device) {flag : Bool}
    (hready : flag = true) : op.ready flag = true := by
  cases op with
  | timeouted_force_aggregation deviceId => rfl
  | unsetTimeoutedMessageReady => cases h
  | _ => exact hready

/-- The count of an identity depends on nothing but itself. -/
theorem timeouts_congr (module_ : ModuleLibraryHandler β) (op : Operation β) {counts counts' : DeviceKey → ℕ}
    {k : DeviceKey} (h : counts' k = counts k) : op.timeouts module_ counts' k = op.timeouts module_ counts k := by
  have hupdate : ∀ device (n n' : ℕ), (k = device → n' = n) →
      Function.update counts' device n' k = Function.update counts device n k := by
    intro device n n' hn
    by_cases hk : k = device
    · subst hk
      rw [Function.update_self, Function.update_self, hn rfl]
    · rw [Function.update_of_ne hk, Function.update_of_ne hk, h]
  cases op with
  | add_status_to_aggregator status device =>
    dsimp only [timeouts]
    split
    · exact h
    · exact hupdate _ _ _ fun _ => rfl
  | timeouted_force_aggregation deviceId =>
    refine hupdate _ _ _ ?_
    rintro rfl
    rw [h]
  | _ => exact h

theorem timeouts_of_ne (module_ : ModuleLibraryHandler β) {op : Operation β} {k : DeviceKey}
    (h : op.device ≠ some k) (counts : DeviceKey → ℕ) : op.timeouts module_ counts k = counts k := by
  cases op with
  | add_status_to_aggregator status device =>
    dsimp only [timeouts]
    split
    · rfl
    · exact Function.update_of_ne (fun hk => h (congrArg some hk.symm)) _ _
  | timeouted_force_aggregation deviceId => exact Function.update_of_ne (fun hk => h (congrArg some hk.symm)) _ _
  | _ => rfl

end Operation

namespace StatusAggregator
variable {module_ : ModuleLibraryHandler β} {s t : StatusAggregator β} {k : DeviceKey}

theorem forceAggregationOnDeviceUnlocked_clock (s : StatusAggregator β) (device : DeviceKey) :
    (s.forceAggregationOnDeviceUnlocked module_ device).2.deviceTimeouts_ = s.deviceTimeouts_ ∧
      (s.forceAggregationOnDeviceUnlocked module_ device).2.timeoutedMessageReady_ = s.timeoutedMessageReady_ := by
  rw [forceAggregationOnDeviceUnlocked_eq]
  split
  · exact ⟨rfl,rfl⟩
  · exact (modifyAt_rest s device _).2

theorem clearDeviceUnlocked_clock (s : StatusAggregator β) (device : DeviceKey) :
    (s.clearDeviceUnlocked module_ device).2.deviceTimeouts_ = s.deviceTimeouts_ ∧
      (s.clearDeviceUnlocked module_ device).2.timeoutedMessageReady_ = s.timeoutedMessageReady_ := by
  rw [clearDeviceUnlocked_eq]
  split
  · exact ⟨rfl,rfl⟩
  · exact (modifyAt_rest s device _).2

theorem getCommandUnlocked_clock (s : StatusAggregator β) (status : β) (device : DeviceKey) :
    ((s.getCommandUnlocked module_ status device).elim s Prod.snd).deviceTimeouts_ = s.deviceTimeouts_ ∧
      ((s.getCommandUnlocked module_ status device).elim s Prod.snd).timeoutedMessageReady_ =
        s.timeoutedMessageReady_ := by
  unfold getCommandUnlocked
  split
  · exact ⟨rfl,rfl⟩
  · split
    · exact ⟨rfl,rfl⟩
    · split
      · exact ⟨rfl,rfl⟩
      · split <;> exact ⟨rfl,rfl⟩

/-- The counts and the flag after an operation. -/
theorem operate_clock [BufferType β] (s : StatusAggregator β) (op : Operation β) :
    (s.operate module_ op).deviceTimeouts_ = op.timeouts module_ s.deviceTimeouts_ ∧
      (s.operate module_ op).timeoutedMessageReady_ = op.ready s.timeoutedMessageReady_ := by
  cases op with
  | clear_device device => exact s.clearDeviceUnlocked_clock device.key
  | clear_all_devices =>
    suffices h : ∀ (keys : List DeviceKey) (t : StatusAggregator β),
        (keys.foldl (fun t key => (t.clearDeviceUnlocked module_ key).2) t).deviceTimeouts_ = t.deviceTimeouts_ ∧
        (keys.foldl (fun t key => (t.clearDeviceUnlocked module_ key).2) t).timeoutedMessageReady_ =
          t.timeoutedMessageReady_ from h s.devices.keys s
    intro keys
    induction keys with
    | nil => exact fun _ => ⟨rfl,rfl⟩
    | cons key keys ih =>
      intro t
      obtain ⟨htimeouts,hready⟩ := ih (t.clearDeviceUnlocked module_ key).2
      exact ⟨htimeouts.trans (t.clearDeviceUnlocked_clock key).1,hready.trans (t.clearDeviceUnlocked_clock key).2⟩
  | add_status_to_aggregator status device =>
    simp only [operate, add_status_to_aggregator, Operation.timeouts, Operation.ready]
    split
    · exact ⟨rfl,rfl⟩
    · split
      · split
        · exact forceAggregationOnDeviceUnlocked_clock _ _
        · exact ⟨rfl,rfl⟩
      · split <;> exact ⟨rfl,rfl⟩
  | get_aggregated_status device =>
    simp only [operate, get_aggregated_status, Operation.timeouts, Operation.ready]
    split
    · exact ⟨rfl,rfl⟩
    · split
      · exact ⟨rfl,rfl⟩
      · exact (modifyAt_rest s _ _).2
  | force_aggregation_on_device device => exact s.forceAggregationOnDeviceUnlocked_clock device.key
  | timeouted_force_aggregation deviceId => exact forceAggregationOnDeviceUnlocked_clock _ deviceId
  | update_command command device =>
    simp only [operate, update_command, Operation.timeouts, Operation.ready]
    split
    · exact ⟨rfl,rfl⟩
    · split
      · exact ⟨rfl,rfl⟩
      · split
        · exact ⟨rfl,rfl⟩
        · exact (modifyAt_rest s _ _).2
  | get_command status device => exact s.getCommandUnlocked_clock status device.key
  | get_command_for_forwarding device =>
    simp only [operate, get_command_for_forwarding, Operation.timeouts, Operation.ready]
    split
    · exact ⟨rfl,rfl⟩
    · split
      · exact ⟨rfl,rfl⟩
      · exact s.getCommandUnlocked_clock _ _
  | unsetTimeoutedMessageReady => exact ⟨rfl,rfl⟩

/-- An operation leaves the entries of the other identities alone. -/
theorem effect_of_ne [BufferType β] {op : Operation β} {device : DeviceKey} (hop : op.device = some device)
    (h : k ≠ device) (entry : Option (StatusAggregatorDeviceState β)) : effect module_ op k entry = entry := by
  cases op <;> simp only [Operation.device, Option.some.injEq, reduceCtorEq] at hop
  all_goals
    subst hop
    exact if_neg fun hk => h hk.1

/-! What an operation answers depends on the entry of the device only. -/

section Congr
variable (module_) {device : DeviceIdentification}

theorem mem_devices_congr (h : t.devices.lookup k = s.devices.lookup k) : k ∈ t.devices ↔ k ∈ s.devices := by
  rw [← AList.lookup_isSome, ← AList.lookup_isSome, h]

theorem isDeviceValidUnlocked_congr (h : t.devices.lookup k = s.devices.lookup k) :
    t.isDeviceValidUnlocked module_ k = s.isDeviceValidUnlocked module_ k := by
  unfold isDeviceValidUnlocked
  simp only [mem_devices_congr h]

theorem get_aggregated_status_congr (h : t.devices.lookup device.key = s.devices.lookup device.key) :
    (t.get_aggregated_status module_ device).1 = (s.get_aggregated_status module_ device).1 := by
  unfold get_aggregated_status
  rw [isDeviceValidUnlocked_congr module_ h, h]
  split
  · rfl
  · split <;> rfl

theorem force_aggregation_on_device_congr (h : t.devices.lookup device.key = s.devices.lookup device.key) :
    (t.force_aggregation_on_device module_ device).1 = (s.force_aggregation_on_device module_ device).1 := by
  unfold force_aggregation_on_device forceAggregationOnDeviceUnlocked
  rw [isDeviceValidUnlocked_congr module_ h]
  split
  · rfl
  · dsimp only
    rw [modifyAt_lookup, modifyAt_lookup, h]

theorem add_status_to_aggregator_congr (status : β) (h : t.devices.lookup device.key = s.devices.lookup device.key) :
    (t.add_status_to_aggregator module_ status device).1 = (s.add_status_to_aggregator module_ status device).1 := by
  unfold add_status_to_aggregator
  dsimp only
  split
  · rfl
  · rw [h]
    split <;> split <;> rfl

theorem getCommandUnlocked_congr (status : β) (h : t.devices.lookup k = s.devices.lookup k) :
    (t.getCommandUnlocked module_ status k).map Prod.fst = (s.getCommandUnlocked module_ status k).map Prod.fst := by
  unfold getCommandUnlocked
  split
  · rfl
  · rw [h]
    split
    · rfl
    · split
      · rfl
      · split <;> rfl

theorem get_command_for_forwarding_congr (h : t.devices.lookup device.key = s.devices.lookup device.key) :
    (t.get_command_for_forwarding module_ device).map Prod.fst =
      (s.get_command_for_forwarding module_ device).map Prod.fst := by
  unfold get_command_for_forwarding
  rw [isDeviceValidUnlocked_congr module_ h, h]
  split
  · rfl
  · split
    · rfl
    · exact getCommandUnlocked_congr module_ _ h

theorem update_command_congr [BufferType β] (command : β)
    (h : t.devices.lookup device.key = s.devices.lookup device.key) :
    (t.update_command module_ command device).1 = (s.update_command module_ command device).1 := by
  unfold update_command
  simp only [mem_devices_congr h]
  split
  · rfl
  · split
    · rfl
    · split <;> rfl

end Congr

/-! ## An aggregator with one device -/

/-- `t` holds no device but `k`, and that one as `s` holds it. In `t` the flag is `flag`; in `s` it
may also be set by the timers of the other devices. -/
structure Isolates (k : DeviceKey) (flag : Bool) (s t : StatusAggregator β) : Prop where
  lookup : t.devices.lookup k = s.devices.lookup k
  others : ∀ key, key ≠ k → t.devices.lookup key = none
  timeouts : t.deviceTimeouts_ k = s.deviceTimeouts_ k
  ready : t.timeoutedMessageReady_ = flag
  set : flag = true → s.timeoutedMessageReady_ = true
  posted : t.posted = s.posted.filter (· = k)

variable {flag : Bool}

theorem Isolates.init : (init : StatusAggregator β).Isolates k false init := ⟨rfl,fun _ _ => rfl,rfl,rfl,nofun,rfl⟩

/-- An operation on the device, or on none, on both sides. -/
theorem Isolates.operate [BufferType β] (h : s.Isolates k flag t) (module_ : ModuleLibraryHandler β)
    {op : Operation β} (hop : ∀ device, op.device = some device → device = k) :
    (s.operate module_ op).Isolates k (op.ready flag) (t.operate module_ op) where
  lookup := by rw [operate_lookup, operate_lookup, h.lookup]
  others key hkey := by
    rw [operate_lookup, h.others key hkey]
    cases hdevice : op.device with
    | none =>
      cases op with
      | clear_all_devices => exact ite_self none
      | unsetTimeoutedMessageReady => rfl
      | _ => cases hdevice
    | some device =>
      refine effect_of_ne hdevice ?_ none
      rwa [hop device hdevice]
  timeouts := by
    rw [(t.operate_clock op).1, (s.operate_clock op).1]
    exact op.timeouts_congr module_ h.timeouts
  ready := by rw [(t.operate_clock op).2, h.ready]
  set hflag := by
    rw [(s.operate_clock op).2]
    exact op.ready_mono h.set hflag
  posted := by rw [operate_posted, operate_posted, h.posted]

/-- An operation on another device. -/
theorem Isolates.operate_other [BufferType β] (h : s.Isolates k flag t) (module_ : ModuleLibraryHandler β)
    {op : Operation β} {device : DeviceKey} (hop : op.device = some device) (hne : device ≠ k) :
    (s.operate module_ op).Isolates k flag t where
  lookup := by rw [operate_lookup, effect_of_ne hop hne.symm, h.lookup]
  others := h.others
  timeouts := by
    have hother : op.device ≠ some k := by
      rw [hop]
      exact fun hk => hne (Option.some.inj hk)
    rw [(s.operate_clock op).1, op.timeouts_of_ne module_ hother, h.timeouts]
  ready := h.ready
  set hflag := by
    rw [(s.operate_clock op).2]
    exact op.ready_of_device hop (h.set hflag)
  posted := by rw [operate_posted, h.posted]

/-- The flag of the other devices is taken back. -/
theorem Isolates.unset_other (h : s.Isolates k false t) : s.unsetTimeoutedMessageReady.Isolates k false t :=
  ⟨h.lookup,h.others,h.timeouts,h.ready,nofun,h.posted⟩

theorem Isolates.remove_device [BufferType β] {device : DeviceIdentification} (h : s.Isolates device.key flag t)
    (module_ : ModuleLibraryHandler β) :
    (s.remove_device module_ device).2.Isolates device.key flag (t.remove_device module_ device).2 := by
  have hown : ∀ d, (Operation.clear_device device : Operation β).device = some d → d = device.key :=
    fun d hd => (Option.some.inj hd).symm
  have hcleared : (s.operate module_ (.clear_device device)).Isolates device.key flag
      (t.operate module_ (.clear_device device)) := h.operate module_ hown
  unfold StatusAggregator.remove_device
  rw [isDeviceValidUnlocked_congr module_ h.lookup]
  split
  · exact h
  · refine ⟨hcleared.lookup,hcleared.others,hcleared.timeouts,hcleared.ready,hcleared.set,?_⟩
    have hlast : [device.key].filter (· = device.key) = [device.key] := List.filter_cons_of_pos (decide_eq_true rfl)
    dsimp only
    rw [List.filter_append, hlast]
    exact congrArg (· ++ [device.key]) hcleared.posted

theorem Isolates.remove_device_other [BufferType β] (h : s.Isolates k flag t) {device : DeviceIdentification}
    (hne : device.key ≠ k) (module_ : ModuleLibraryHandler β) :
    (s.remove_device module_ device).2.Isolates k flag t := by
  have hcleared : (s.operate module_ (.clear_device device)).Isolates k flag t := h.operate_other module_ rfl hne
  unfold StatusAggregator.remove_device
  split
  · exact h
  · refine ⟨hcleared.lookup,h.others,hcleared.timeouts,h.ready,hcleared.set,?_⟩
    have hlast : [device.key].filter (· = k) = [] := List.filter_cons_of_neg (by simpa using hne)
    dsimp only
    rw [List.filter_append, hlast, List.append_nil]
    exact hcleared.posted

/-- The entries of one identity are the one that is looked up. -/
theorem entries_filter (devices : AList fun _ : DeviceKey => StatusAggregatorDeviceState β) (k : DeviceKey) :
    devices.entries.filter (fun entry => entry.1 = k) = (devices.lookup k).toList.map (Sigma.mk k) := by
  obtain ⟨entries,hnodup⟩ := devices
  change entries.filter _ = (entries.dlookup k).toList.map (Sigma.mk k)
  induction entries with
  | nil => rfl
  | cons entry entries ih =>
    obtain ⟨key,d⟩ := entry
    obtain ⟨hnot,hrest⟩ := List.nodupKeys_cons.mp hnodup
    by_cases hk : key = k
    · subst hk
      rw [List.filter_cons_of_pos (by simp), List.dlookup_cons_eq, ih hrest, List.dlookup_eq_none.mpr hnot]
      rfl
    · rw [List.filter_cons_of_neg (by simpa using hk), List.dlookup_cons_ne _ _ (Ne.symm hk)]
      exact ih hrest

/-- Where every entry is under its own identity, the devices that are left are those of the identity. -/
theorem Isolates.get_unique_devices (h : s.Isolates k flag t)
    (hplace : ∀ key d, s.devices.lookup key = some d → d.deviceId.key = key) :
    t.get_unique_devices = s.get_unique_devices.filter fun device => device.key = k := by
  have hmine : t.devices.entries.filter (fun entry => entry.1 = k) = t.devices.entries := by
    rw [List.filter_eq_self]
    intro entry hentry
    rw [decide_eq_true_eq]
    by_contra hne
    have hlookup := AList.mem_lookup_iff.mpr hentry
    rw [h.others _ hne] at hlookup
    cases hlookup
  have hkey : ∀ entry ∈ s.devices.entries, decide (entry.2.deviceId.key = k) = decide (entry.1 = k) := by
    intro entry hentry
    rw [hplace entry.1 entry.2 (AList.mem_lookup_iff.mpr hentry)]
  unfold StatusAggregator.get_unique_devices
  rw [List.filter_map, ← hmine, entries_filter, h.lookup, ← entries_filter]
  exact congrArg (List.map _) (List.filter_congr hkey).symm

end StatusAggregator

end ModuleGateway.Modules
