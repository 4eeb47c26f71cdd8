import ModuleGateway.Modules.HandlerThreads
import ModuleGateway.Modules.LibraryHandlers

/-! # Aggregated statuses on their way to the External Client

How many statuses `handleStatus` sends is decided when its status is added; they are popped one by
one later on, while timers and other threads push more of them and a failed command leaves some for
the next status or timeout. The message thread is the only one that pops, so the count is covered.
-/
namespace ModuleGateway.Modules
open Structures Execution

variable {β : Type}

/-! ## What an observer of the queues sees -/

/-- The status that a message to the External Client carries for an identity. -/
def statusFor (k : DeviceKey) : InternalClientMessage β → Option β
  | .message _ (.deviceStatus status) => if status.device.key = k then some status.statusdata else none
  | _ => none

/-- The buffers that were ever pushed into the `aggregatedMessages` of each device, and those that
were pushed to `toExternalQueue_` in a message of that device. -/
structure Gathered (β : Type) where
  aggregated : DeviceKey → List β
  sent : DeviceKey → List β

namespace HandlerThreads

def seeStatuses (s : HandlerThreads β) (_ : ModuleLibrary β × ThreadAction β) (t : HandlerThreads β)
    (gathered : Gathered β) : Gathered β where
  aggregated k :=
    gathered.aggregated k ++ appended (s.handler.aggregatedMessages k) (t.handler.aggregatedMessages k)
  sent k :=
    gathered.sent k ++ (appended s.handler.toExternalQueue_ t.handler.toExternalQueue_).filterMap (statusFor k)

/-- The call of `remove_device`. -/
def removesDevice (s : HandlerThreads β) (call : ModuleLibrary β × ThreadAction β) : Bool :=
  match call.2, s.handler.thread with
  | .messages, .removing _ => true
  | _, _ => false

end HandlerThreads

/-! ## The queue of one device -/

/-- The operations that only add to the queues of aggregated statuses. -/
def Operation.keepsStatuses : Operation β → Bool
  | .clear_device _ | .clear_all_devices | .get_aggregated_status _ => false
  | _ => true

namespace StatusAggregator
variable [BufferType β] (module_ : ModuleLibraryHandler β)

omit [BufferType β] in
theorem consumed_aggregatedMessages (status : β) (device_type : UInt32) (d : StatusAggregatorDeviceState β) :
    (consumed module_ status device_type d).aggregatedMessages_ = d.aggregatedMessages_ ∧
      (consumed module_ status device_type d).deviceId = d.deviceId := by
  obtain ⟨command,h⟩ := consumed_eq d module_ status device_type
  rw [h]
  exact ⟨rfl,rfl⟩

omit [BufferType β] in
theorem aggregated_aggregatedMessages (status : β) (device_type : UInt32) (d : StatusAggregatorDeviceState β) :
    d.aggregatedMessages_ <+: (aggregated module_ status device_type d).aggregatedMessages_ ∧
      (aggregated module_ status device_type d).deviceId = d.deviceId := by
  obtain h | h | h := aggregated_cases module_ status device_type d <;> rw [h]
  · exact ⟨List.prefix_refl _,rfl⟩
  · exact ⟨List.prefix_append _ _,rfl⟩
  · exact ⟨List.prefix_refl _,rfl⟩

omit [BufferType β] in
theorem addExternalCommand_aggregatedMessages (command : β) (d : StatusAggregatorDeviceState β) :
    (d.addExternalCommand command).2.aggregatedMessages_ = d.aggregatedMessages_ ∧
      (d.addExternalCommand command).2.deviceId = d.deviceId := by
  unfold StatusAggregatorDeviceState.addExternalCommand
  dsimp only
  split <;> exact ⟨rfl,rfl⟩

omit [BufferType β] in
theorem registered_deviceId {status : β} {device : DeviceIdentification} {e : StatusAggregatorDeviceState β}
    (h : registered module_ status device = some e) : e.deviceId = device := by
  unfold registered at h
  split at h
  · obtain rfl := Option.some.inj h
    split <;> rfl
  · cases h

/-- An operation never changes the device of an entry, and a new entry gets that of its status. -/
theorem effect_deviceId {op : Operation β} {k : DeviceKey} {entry : Option (StatusAggregatorDeviceState β)}
    {e : StatusAggregatorDeviceState β} (h : effect module_ op k entry = some e)
    (hentry : ∀ d, entry = some d → d.deviceId.key = k) : e.deviceId.key = k := by
  have hmap : ∀ {p : Prop} [Decidable p] (f : StatusAggregatorDeviceState β → StatusAggregatorDeviceState β),
      (if p then entry.map f else entry) = some e → (∀ d, (f d).deviceId = d.deviceId) → e.deviceId.key = k := by
    intro p _ f he hf
    split at he
    · obtain ⟨d,hd,rfl⟩ := Option.map_eq_some_iff.mp he
      rw [hf]
      exact hentry d hd
    · exact hentry e he
  cases op with
  | add_status_to_aggregator status device =>
    simp only [effect] at h
    split at h
    · rename_i hk
      cases entry with
      | none =>
        rw [registered_deviceId module_ h]
        exact hk.1.symm
      | some d =>
        obtain rfl := Option.some.inj h
        rw [(aggregated_aggregatedMessages module_ status _ d).2]
        exact hentry d rfl
    · exact hentry e h
  | unsetTimeoutedMessageReady => exact hentry e h
  | update_command command device => exact hmap _ h fun d => (addExternalCommand_aggregatedMessages command d).2
  | get_command status device => exact hmap _ h fun d => (consumed_aggregatedMessages module_ status _ d).2
  | get_command_for_forwarding device => exact hmap _ h fun d => (consumed_aggregatedMessages module_ _ _ d).2
  | _ => exact hmap _ h fun _ => rfl

theorem effect_aggregatedMessages {op : Operation β} (hop : op.keepsStatuses = true) (k : DeviceKey)
    (entry : Option (StatusAggregatorDeviceState β)) :
    entry.elim [] StatusAggregatorDeviceState.aggregatedMessages_ <+:
      (effect module_ op k entry).elim [] StatusAggregatorDeviceState.aggregatedMessages_ := by
  have hmap : ∀ {p : Prop} [Decidable p] (f : StatusAggregatorDeviceState β → StatusAggregatorDeviceState β),
      (∀ d, d.aggregatedMessages_ <+: (f d).aggregatedMessages_) →
      entry.elim [] StatusAggregatorDeviceState.aggregatedMessages_ <+:
        (if p then entry.map f else entry).elim [] StatusAggregatorDeviceState.aggregatedMessages_ := by
    intro p _ f hf
    split
    · cases entry with
      | none => exact List.prefix_refl _
      | some d => exact hf d
    · exact List.prefix_refl _
  cases op with
  | clear_device device => cases hop
  | clear_all_devices => cases hop
  | get_aggregated_status device => cases hop
  | add_status_to_aggregator status device =>
    simp only [effect]
    split
    · cases entry with
      | none => exact List.nil_prefix
      | some d => exact (aggregated_aggregatedMessages module_ status _ d).1
    · exact List.prefix_refl _
  | force_aggregation_on_device device => exact hmap _ fun d => List.prefix_append _ _
  | timeouted_force_aggregation deviceId => exact hmap _ fun d => List.prefix_append _ _
  | update_command command device =>
    apply hmap
    intro d
    rw [(addExternalCommand_aggregatedMessages command d).1]
  | get_command status device =>
    apply hmap
    intro d
    rw [(consumed_aggregatedMessages module_ status _ d).1]
  | get_command_for_forwarding device =>
    apply hmap
    intro d
    rw [(consumed_aggregatedMessages module_ _ _ d).1]
  | unsetTimeoutedMessageReady => exact List.prefix_refl _

/-! ## What the operations return -/

omit [BufferType β] in
/-- A status is handed out while there is one, from the front of the queue. -/
theorem get_aggregated_status_cases (s : StatusAggregator β) (device : DeviceIdentification) :
    (∃ code, s.get_aggregated_status module_ device = (.error code,s)) ∧
        (is_device_type_supported module_ device.deviceType = .OK →
          (s.devices.lookup device.key).elim [] StatusAggregatorDeviceState.aggregatedMessages_ = []) ∨
      ∃ status t, s.get_aggregated_status module_ device = (.ok status,t) ∧
        is_device_type_supported module_ device.deviceType = .OK ∧
        ∃ rest, (s.devices.lookup device.key).elim [] StatusAggregatorDeviceState.aggregatedMessages_ =
          status :: rest := by
  unfold get_aggregated_status
  by_cases hvalid : s.isDeviceValidUnlocked module_ device.key = .NOT_OK
  · rw [if_pos hvalid]
    refine .inl ⟨⟨_,rfl⟩,?_⟩
    intro hsupported
    obtain hno | hnone := (isDeviceValidUnlocked_eq_NOT_OK_iff module_ s device.key).mp hvalid
    · exact absurd hsupported hno
    · rw [hnone]
      rfl
  · rw [if_neg hvalid]
    have hsupported : is_device_type_supported module_ device.deviceType = .OK := by
      by_contra hno
      exact hvalid ((isDeviceValidUnlocked_eq_NOT_OK_iff module_ s device.key).mpr (.inl hno))
    cases hqueue : (s.devices.lookup device.key).elim [] StatusAggregatorDeviceState.aggregatedMessages_ with
    | nil => exact .inl ⟨⟨_,rfl⟩,fun _ => rfl⟩
    | cons status rest => exact .inr ⟨status,_,rfl,hsupported,rest,rfl⟩

omit [BufferType β] in
/-- The number that `add_status_to_aggregator` returns is covered by the queue. -/
theorem add_status_to_aggregator_backed {s t : StatusAggregator β} {status : β} {device : DeviceIdentification}
    {rc : ℕ} (hsupported : is_device_type_supported module_ device.deviceType = .OK)
    (h : s.add_status_to_aggregator module_ status device = (.ok rc,t)) :
    rc ≤ ((t.devices.lookup device.key).elim [] StatusAggregatorDeviceState.aggregatedMessages_).length := by
  unfold add_status_to_aggregator at h
  rw [if_neg (by rw [hsupported]; nofun)] at h
  dsimp only at h
  split at h
  · split at h
    · cases h
      rw [emplaced_lookup (AList.lookup_insert _), if_pos hsupported]
      exact le_refl 1
    · cases h
  · split at h
    · cases h
    · cases h
      rw [AList.lookup_insert]
      exact le_refl _

omit [BufferType β] in
/-- What a forced aggregation returns is the length of the queue. -/
theorem force_aggregation_on_device_backed {s t : StatusAggregator β} {device : DeviceIdentification} {rc : ℕ}
    (h : s.force_aggregation_on_device module_ device = (.ok rc,t)) :
    rc = ((t.devices.lookup device.key).elim [] StatusAggregatorDeviceState.aggregatedMessages_).length := by
  unfold force_aggregation_on_device forceAggregationOnDeviceUnlocked at h
  split at h
  · cases h
  · cases h
    generalize (s.modifyAt device.key fun d => d.push d.status_).devices.lookup device.key = entry
    cases entry <;> rfl

end StatusAggregator

/-! ## The steps of the Module Handler -/

namespace ModuleHandler
variable {supported : ℤ → UInt32 → Bool} {moduleLibrary_ : ModuleLibrary β} {s t : ModuleHandler β}

/-- Every device is in the aggregator of its module, under its own identity and with a supported
type, and stays there. -/
structure Filed (supported : ℤ → UInt32 → Bool) (s : ModuleHandler β) : Prop where
  entries : ∀ number key d, (s.statusAggregators number).devices.lookup key = some d →
    key.module_ = number ∧ d.deviceId.key = key ∧ supported number key.deviceType = true
  posted : ∀ number, (s.statusAggregators number).posted = []

/-- The statuses that the message thread counts on are there. -/
def BackedAt (s : ModuleHandler β) : MessageThread β → Prop
  | .collecting _ _ number devices | .counting _ _ number _ devices => ∀ device ∈ devices, device.module_ = number
  | .commanding _ device rc | .sending device rc => rc ≤ (s.aggregatedMessages device.key).length
  | .disconnecting device => s.aggregatedMessages device.key ≠ []
  | _ => True

def Backed (s : ModuleHandler β) : Prop := s.BackedAt s.thread

/-- A step either adds statuses to the queues, or takes the oldest one of a device and pushes it in
a message of that device. -/
inductive Moves (s t : ModuleHandler β) : Prop
  | adds (queues : ∀ k, s.aggregatedMessages k <+: t.aggregatedMessages k)
      (external : t.toExternalQueue_ = s.toExternalQueue_ ∨ t.toExternalQueue_ = s.toExternalQueue_.tail)
  | sends (device : DeviceIdentification) (status : β) (disconnected : Bool)
      (front : s.aggregatedMessages device.key = status :: t.aggregatedMessages device.key)
      (others : ∀ k, k ≠ device.key → t.aggregatedMessages k = s.aggregatedMessages k)
      (external : t.toExternalQueue_ =
        s.toExternalQueue_ ++ [.message disconnected (.deviceStatus ⟨device,status⟩)])

structure Advance (supported : ℤ → UInt32 → Bool) (s t : ModuleHandler β) : Prop where
  filed : t.Filed supported
  moves : s.Moves t
  backed : t.Backed

theorem aggregatedMessages_congr (h : t.statusAggregators = s.statusAggregators) (k : DeviceKey) :
    t.aggregatedMessages k = s.aggregatedMessages k := by
  unfold aggregatedMessages entry
  rw [h]

@[simp] theorem aggregatedMessages_goto (thread : MessageThread β) (k : DeviceKey) :
    (s.goto thread).aggregatedMessages k = s.aggregatedMessages k := rfl

theorem aggregatedMessages_setAggregator (device : DeviceIdentification) (aggregator : StatusAggregator β) :
    (s.setAggregator device.module_ aggregator).aggregatedMessages device.key =
      (aggregator.devices.lookup device.key).elim [] StatusAggregatorDeviceState.aggregatedMessages_ := by
  unfold aggregatedMessages
  rw [entry_setAggregator]
  exact congrArg (Option.elim · [] _) (if_pos rfl)

theorem Filed.congr (hs : s.Filed supported) (h : t.statusAggregators = s.statusAggregators) : t.Filed supported :=
  ⟨h ▸ hs.entries,h ▸ hs.posted⟩

/-- A step that leaves the aggregators alone. -/
theorem Filed.advance (hs : s.Filed supported) (haggregators : t.statusAggregators = s.statusAggregators)
    (hexternal : t.toExternalQueue_ = s.toExternalQueue_) (hbacked : t.Backed) : Advance supported s t where
  filed := hs.congr haggregators
  moves := by
    refine .adds ?_ (.inl hexternal)
    intro k
    rw [aggregatedMessages_congr haggregators]
  backed := hbacked

variable [BufferType β]

theorem aggregatedMessages_operate (s : ModuleHandler β) (number : ℤ) (module_ : ModuleLibraryHandler β)
    {op : Operation β} (hop : op.keepsStatuses = true) (k : DeviceKey) : s.aggregatedMessages k <+:
      (s.setAggregator number ((s.statusAggregators number).operate module_ op)).aggregatedMessages k := by
  unfold aggregatedMessages
  rw [entry_operate]
  split
  · exact StatusAggregator.effect_aggregatedMessages module_ hop k _
  · exact List.prefix_refl _

theorem Filed.operate (hs : s.Filed supported) (hsupports : HandlerThreads.Supports supported moduleLibrary_)
    {number : ℤ} {module_ : ModuleLibraryHandler β} (hm : moduleLibrary_.lookup number = some module_)
    (op : Operation β)
    (hadd : ∀ status device, op = .add_status_to_aggregator status device → device.module_ = number) :
    (s.setAggregator number ((s.statusAggregators number).operate module_ op)).Filed supported := by
  constructor
  · intro n key e he
    by_cases hn : n = number
    · subst hn
      simp only [setAggregator, Function.update_self, StatusAggregator.operate_lookup] at he
      have hdeviceId := StatusAggregator.effect_deviceId module_ he fun d hd => (hs.entries n key d hd).2.1
      cases hd : (s.statusAggregators n).devices.lookup key with
      | some d =>
        obtain ⟨hmodule,-,hsupported⟩ := hs.entries n key d hd
        exact ⟨hmodule,hdeviceId,hsupported⟩
      | none =>
        rw [hd] at he
        obtain ⟨status,device,hop,rfl,hsupported,-⟩ := StatusAggregator.effect_none (Option.isSome_of_eq_some he)
        refine ⟨hadd status device hop,hdeviceId,?_⟩
        unfold StatusAggregator.is_device_type_supported at hsupported
        rw [hsupports n module_ hm] at hsupported
        by_contra hno
        exact hsupported (if_neg hno)
    · simp only [setAggregator, Function.update_of_ne hn] at he
      exact hs.entries n key e he
  · intro n
    by_cases hn : n = number
    · subst hn
      simp only [setAggregator, Function.update_self, StatusAggregator.operate_posted]
      exact hs.posted n
    · simp only [setAggregator, Function.update_of_ne hn]
      exact hs.posted n

/-- An operation that only adds statuses, and a move of the thread. -/
theorem Filed.advance_operate (hs : s.Filed supported) (hsupports : HandlerThreads.Supports supported moduleLibrary_)
    {number : ℤ} {module_ : ModuleLibraryHandler β} (hm : moduleLibrary_.lookup number = some module_)
    (op : Operation β) (hop : op.keepsStatuses = true)
    (hadd : ∀ status device, op = .add_status_to_aggregator status device → device.module_ = number)
    (haggregators : t.statusAggregators =
      (s.setAggregator number ((s.statusAggregators number).operate module_ op)).statusAggregators)
    (hexternal : t.toExternalQueue_ = s.toExternalQueue_) (hbacked : t.Backed) : Advance supported s t where
  filed := (hs.operate hsupports hm op hadd).congr haggregators
  moves := by
    refine .adds ?_ (.inl hexternal)
    intro k
    rw [aggregatedMessages_congr haggregators]
    exact s.aggregatedMessages_operate number module_ hop k
  backed := hbacked

/-- The oldest status of a device is taken and pushed. -/
theorem Filed.advance_send (hs : s.Filed supported) (hsupports : HandlerThreads.Supports supported moduleLibrary_)
    {device : DeviceIdentification} {module_ : ModuleLibraryHandler β}
    (hm : moduleLibrary_.lookup device.module_ = some module_) {status : β} {rest : List β} (disconnected : Bool)
    (hsupported : StatusAggregator.is_device_type_supported module_ device.deviceType = .OK)
    (hfront : s.aggregatedMessages device.key = status :: rest)
    (haggregators : t.statusAggregators = (s.setAggregator device.module_
      ((s.statusAggregators device.module_).operate module_ (.get_aggregated_status device))).statusAggregators)
    (hexternal : t.toExternalQueue_ =
      s.toExternalQueue_ ++ [.message disconnected (.deviceStatus ⟨device,status⟩)])
    (hbacked : t.aggregatedMessages device.key = rest → t.Backed) : Advance supported s t := by
  have hentry : ∀ k, t.entry k = if k = device.key ∧ True then
      (s.entry k).map fun d => { d with aggregatedMessages_ := d.aggregatedMessages_.tail } else s.entry k := by
    intro k
    refine Eq.trans ?_ (s.entry_operate_device module_ device k (.get_aggregated_status device) ?_)
    · unfold entry
      rw [haggregators]
    · by_cases hk : k = device.key
      · subst hk
        exact (if_pos ⟨rfl,hsupported⟩).trans (if_pos ⟨rfl,trivial⟩).symm
      · exact (if_neg fun h => hk h.1).trans (if_neg fun h => hk h.1).symm
  have hrest : t.aggregatedMessages device.key = rest := by
    unfold aggregatedMessages at hfront ⊢
    rw [hentry, if_pos ⟨rfl,trivial⟩]
    cases hd : s.entry device.key with
    | none =>
      rw [hd] at hfront
      cases hfront
    | some d =>
      rw [hd, Option.elim_some] at hfront
      rw [Option.map_some, Option.elim_some, hfront, List.tail_cons]
  refine ⟨(hs.operate hsupports hm (.get_aggregated_status device) nofun).congr haggregators,?_,hbacked hrest⟩
  apply Moves.sends device status disconnected
  · rw [hrest]
    exact hfront
  · intro k hk
    unfold aggregatedMessages
    rw [hentry, if_neg fun h => hk h.1]
  · exact hexternal

omit [BufferType β] in
theorem Filed.advance_checkModule (hs : s.Filed supported) (modules : List ℤ) (message : Bool) :
    Advance supported s (s.checkModule modules message) := by
  unfold checkModule
  split
  · refine hs.advance rfl rfl ?_
    cases message <;> exact trivial
  · rename_i number modules
    dsimp only
    split
    · refine hs.advance rfl rfl ?_
      intro device hdevice
      obtain ⟨⟨key,d⟩,hentry,rfl⟩ := List.mem_map.mp hdevice
      obtain ⟨hmodule,hdeviceId,-⟩ := hs.entries number key d (AList.mem_lookup_iff.mpr hentry)
      have hmodule' : d.deviceId.key.module_ = number := hdeviceId ▸ hmodule
      exact hmodule'
    · exact hs.advance rfl rfl trivial

theorem Filed.advance_collectStatus (hs : s.Filed supported)
    (hsupports : HandlerThreads.Supports supported moduleLibrary_) {number : ℤ} {module_ : ModuleLibraryHandler β}
    (hm : moduleLibrary_.lookup number = some module_) {modules : List ℤ} {message : Bool}
    {devices : List DeviceIdentification} (hthread : s.thread = .collecting modules message number devices)
    (hb : s.Backed) : Advance supported s (collectStatus module_ s modules message number devices) := by
  unfold Backed at hb
  rw [hthread] at hb
  unfold collectStatus
  split
  · exact hs.advance_operate hsupports hm .unsetTimeoutedMessageReady rfl nofun rfl rfl trivial
  · rename_i device devices
    obtain rfl : device.module_ = number := hb device List.mem_cons_self
    obtain ⟨⟨code,hr⟩,-⟩ | ⟨status,aggregator,hr,hsupported,rest,hfront⟩ :=
      StatusAggregator.get_aggregated_status_cases module_ (s.statusAggregators device.module_) device
    · rw [hr]
      apply hs.advance
      · exact Function.update_eq_self _ _
      · rfl
      · intro other hother
        exact hb other (List.mem_cons_of_mem _ hother)
    · have haggregator : (s.statusAggregators device.module_).operate module_ (.get_aggregated_status device) =
          aggregator := congrArg Prod.snd hr
      rw [hr]
      apply hs.advance_send hsupports hm false hsupported hfront
      · rw [haggregator]
        rfl
      · rfl
      · intro _
        have hstays : ((s.setAggregator device.module_ aggregator).pushExternal
            (.message false (.deviceStatus ⟨device,status⟩))).thread = s.thread := rfl
        change ModuleHandler.BackedAt _ _
        rw [hstays, hthread]
        exact hb

/-- A send that finds the queue of the device filled. -/
theorem Filed.advance_sendAggregatedStatus (hs : s.Filed supported)
    (hsupports : HandlerThreads.Supports supported moduleLibrary_) {device : DeviceIdentification}
    {module_ : ModuleLibraryHandler β} (hm : moduleLibrary_.lookup device.module_ = some module_)
    (disconnected : Bool) {thread : MessageThread β} (hne : s.aggregatedMessages device.key ≠ [])
    (hbacked : ∀ t : ModuleHandler β, t.aggregatedMessages device.key = (s.aggregatedMessages device.key).tail →
      t.BackedAt thread) :
    Advance supported s ((sendAggregatedStatus module_ s device disconnected).goto thread) := by
  have hsupported : StatusAggregator.is_device_type_supported module_ device.deviceType = .OK := by
    cases hd : s.entry device.key with
    | none =>
      refine absurd ?_ hne
      unfold aggregatedMessages
      rw [hd]
      rfl
    | some d =>
      unfold StatusAggregator.is_device_type_supported
      rw [hsupports _ _ hm]
      exact if_pos (hs.entries _ _ _ hd).2.2
  obtain ⟨-,hnil⟩ | ⟨status,aggregator,hr,-,rest,hfront⟩ :=
    StatusAggregator.get_aggregated_status_cases module_ (s.statusAggregators device.module_) device
  · exact absurd (hnil hsupported) hne
  · have haggregator : (s.statusAggregators device.module_).operate module_ (.get_aggregated_status device) =
        aggregator := congrArg Prod.snd hr
    unfold sendAggregatedStatus
    rw [hr]
    apply hs.advance_send hsupports hm disconnected hsupported hfront
    · rw [haggregator]
      rfl
    · rfl
    · intro hrest
      apply hbacked
      rw [hrest]
      have hfront' : s.aggregatedMessages device.key = status :: rest := hfront
      rw [hfront', List.tail_cons]

theorem Filed.advance_forceStatus (hs : s.Filed supported)
    (hsupports : HandlerThreads.Supports supported moduleLibrary_) {device : DeviceIdentification}
    {module_ : ModuleLibraryHandler β} (hm : moduleLibrary_.lookup device.module_ = some module_) :
    Advance supported s (forceStatus module_ s device) := by
  have haggregator : (s.statusAggregators device.module_).operate module_ (.force_aggregation_on_device device) =
      ((s.statusAggregators device.module_).force_aggregation_on_device module_ device).2 := rfl
  unfold forceStatus
  split
  · rename_i rc aggregator hr
    rw [hr] at haggregator
    apply hs.advance_operate hsupports hm (.force_aggregation_on_device device) rfl nofun
    · rw [haggregator]
      rfl
    · rfl
    · have hlength := StatusAggregator.force_aggregation_on_device_backed module_ hr
      intro hnil
      rw [aggregatedMessages_goto, aggregatedMessages_setAggregator] at hnil
      rw [hnil] at hlength
      cases hlength
  · rename_i aggregator hr
    apply hs.advance_operate hsupports hm (.force_aggregation_on_device device) rfl nofun
    · rw [haggregator, hr]
      rfl
    · rfl
    · exact trivial

theorem Filed.advance_handleStatus (hs : s.Filed supported)
    (hsupports : HandlerThreads.Supports supported moduleLibrary_) (status : DeviceStatus β) :
    Advance supported s (s.handleStatus moduleLibrary_ status) := by
  have hown : ∀ st device, Operation.add_status_to_aggregator status.statusdata status.device =
      .add_status_to_aggregator st device → device.module_ = status.device.module_ := by
    rintro _ _ ⟨⟩
    rfl
  obtain h | ⟨module_,_,aggregator,hm,hr,⟨code,rfl,-,h⟩ | ⟨rfl,h⟩ | ⟨rc,rfl,h⟩⟩ :=
    s.handleStatus_cases moduleLibrary_ status
  all_goals rw [h]
  · exact hs.advance rfl rfl trivial
  · refine hs.advance_operate hsupports hm _ rfl hown ?_ rfl trivial
    simp only [StatusAggregator.operate, hr]
    rfl
  · refine hs.advance_operate hsupports hm _ rfl hown ?_ rfl trivial
    simp only [StatusAggregator.operate, hr]
    rfl
  · refine hs.advance_operate hsupports hm _ rfl hown ?_ rfl ?_
    · simp only [StatusAggregator.operate, hr]
      rfl
    · change rc ≤ _
      have hsupported : StatusAggregator.is_device_type_supported module_ status.device.deviceType = .OK := by
        unfold StatusAggregator.is_device_type_supported
        rw [hsupports _ _ hm]
        by_contra hno
        unfold StatusAggregator.add_status_to_aggregator StatusAggregator.is_device_type_supported at hr
        dsimp only at hr
        rw [hsupports _ _ hm, if_neg fun h => hno (if_pos h), if_pos rfl] at hr
        cases hr
      rw [aggregatedMessages_goto, aggregatedMessages_setAggregator]
      exact StatusAggregator.add_status_to_aggregator_backed module_ hsupported hr

theorem Filed.advance_handleMessage (hs : s.Filed supported)
    (hsupports : HandlerThreads.Supports supported moduleLibrary_) (h : s.handleMessage moduleLibrary_ = some t) :
    Advance supported s t := by
  obtain ⟨-,-,-,rfl | ⟨-,-,rfl⟩ | ⟨device,-,rfl⟩ | ⟨status,-,rfl⟩⟩ := handleMessage_cases h
  · exact hs.advance rfl rfl trivial
  · exact hs.advance rfl rfl trivial
  · exact hs.advance rfl rfl trivial
  · exact hs.advance_handleStatus hsupports status

/-- A step of the message thread outside `get_command` and `remove_device`. -/
theorem Filed.advance_handleMessages (hs : s.Filed supported) (hb : s.Backed)
    (hsupports : HandlerThreads.Supports supported moduleLibrary_) (h : s.handleMessages moduleLibrary_ = some t)
    (hcommanding : ∀ status device rc, s.thread ≠ .commanding status device rc)
    (hremoving : ∀ device, s.thread ≠ .removing device) : Advance supported s t := by
  unfold handleMessages at h
  unfold Backed at hb
  split at h <;> rename_i hthread
  · cases h
    exact hs.advance rfl rfl trivial
  · cases h
    exact hs.advance_checkModule _ _
  · obtain ⟨module_,hm,rfl⟩ := Option.map_eq_some_iff.mp h
    exact hs.advance_collectStatus hsupports hm hthread hb
  · cases h
    rw [hthread] at hb
    unfold countTimeouts
    dsimp only
    split <;> exact hs.advance rfl rfl hb
  · exact hs.advance_handleMessage hsupports h
  · exact absurd hthread (hcommanding _ _ _)
  · cases h
    exact hs.advance rfl rfl trivial
  · rename_i device rc
    obtain ⟨module_,hm,rfl⟩ := Option.map_eq_some_iff.mp h
    rw [hthread] at hb
    have hlength : rc + 1 ≤ (s.aggregatedMessages device.key).length := hb
    apply hs.advance_sendAggregatedStatus hsupports hm
    · intro hnil
      rw [hnil] at hlength
      cases hlength
    · intro t htail
      change rc ≤ _
      rw [htail, List.length_tail]
      omega
  · obtain ⟨module_,hm,rfl⟩ := Option.map_eq_some_iff.mp h
    exact hs.advance_forceStatus hsupports hm
  · obtain ⟨module_,hm,rfl⟩ := Option.map_eq_some_iff.mp h
    rw [hthread] at hb
    exact hs.advance_sendAggregatedStatus hsupports hm true hb fun _ _ => trivial
  · exact absurd hthread (hremoving _)
  · cases h
    exact hs.advance rfl rfl trivial
  · cases h

omit [BufferType β] in
/-- Other threads leave the message thread where it is and what it counts on in its place. -/
theorem Backed.mono (hb : s.Backed) (hthread : t.thread = s.thread)
    (hqueues : ∀ k, s.aggregatedMessages k <+: t.aggregatedMessages k) : t.Backed := by
  unfold Backed at hb ⊢
  rw [hthread]
  cases hs : s.thread with
  | commanding status device rc =>
    rw [hs] at hb
    exact Nat.le_trans hb (hqueues device.key).length_le
  | sending device rc =>
    rw [hs] at hb
    exact Nat.le_trans hb (hqueues device.key).length_le
  | disconnecting device =>
    rw [hs] at hb
    intro hnil
    exact hb (List.prefix_nil.mp (hnil ▸ hqueues device.key))
  | collecting modules message number devices =>
    rw [hs] at hb
    exact hb
  | counting modules message number device devices =>
    rw [hs] at hb
    exact hb
  | _ => exact trivial

/-- An operation of another thread. -/
theorem Filed.advance_other (hs : s.Filed supported) (hb : s.Backed)
    (hsupports : HandlerThreads.Supports supported moduleLibrary_) {number : ℤ} {module_ : ModuleLibraryHandler β}
    (hm : moduleLibrary_.lookup number = some module_) (op : Operation β) (hop : op.keepsStatuses = true)
    (hadd : ∀ status device, op = .add_status_to_aggregator status device → device.module_ = number) :
    Advance supported s (s.setAggregator number ((s.statusAggregators number).operate module_ op)) :=
  hs.advance_operate hsupports hm op hop hadd rfl rfl
    (hb.mono rfl fun k => s.aggregatedMessages_operate number module_ hop k)

end ModuleHandler

/-! ## The run -/

namespace HandlerThreads
variable {supported : ℤ → UInt32 → Bool} {moduleLibrary_ : ModuleLibrary β} {s t : HandlerThreads β}
  {gathered : Gathered β}

/-- What was ever aggregated for a device is what was sent and, behind it, what is queued. -/
structure Accounted (supported : ℤ → UInt32 → Bool) (s : HandlerThreads β) (gathered : Gathered β) : Prop where
  books : ∀ k, gathered.aggregated k = gathered.sent k ++ s.handler.aggregatedMessages k
  filed : s.handler.Filed supported
  backed : s.handler.Backed
  held : ∀ hand, s.statusHand = some hand → ∃ status rc, s.handler.thread = .commanding status hand.device rc

theorem Accounted.init : (init : HandlerThreads β).Accounted supported ⟨fun _ => [],fun _ => []⟩ where
  books _ := rfl
  filed := by
    refine ⟨?_,fun _ => rfl⟩
    intro number key d hd
    cases hd
  backed := trivial
  held _ h := nomatch h

theorem books_of_moves (h : s.handler.Moves t.handler) (call : ModuleLibrary β × ThreadAction β)
    (hbooks : ∀ k, gathered.aggregated k = gathered.sent k ++ s.handler.aggregatedMessages k) (k : DeviceKey) :
    (seeStatuses s call t gathered).aggregated k =
      (seeStatuses s call t gathered).sent k ++ t.handler.aggregatedMessages k := by
  simp only [seeStatuses]
  rw [hbooks]
  cases h with
  | adds queues external =>
    obtain ⟨statuses,hstatuses⟩ := queues k
    have hexternal : appended s.handler.toExternalQueue_ t.handler.toExternalQueue_ = [] := by
      apply appended_of_length_le
      obtain h | h := external
      · rw [h]
      · rw [h, List.length_tail]
        exact Nat.sub_le _ _
    rw [hexternal, ← hstatuses, appended_append, List.filterMap_nil, List.append_nil, List.append_assoc]
  | sends device status disconnected front others external =>
    rw [external, appended_append]
    by_cases hk : k = device.key
    · subst hk
      rw [appended_of_length_le (by rw [front]; exact Nat.le_succ _), front]
      simp only [List.filterMap_cons, List.filterMap_nil, statusFor, if_true, List.append_nil, List.append_assoc,
        List.singleton_append]
    · have hne : ¬device.key = k := fun h => hk h.symm
      rw [others k hk, appended_of_length_le (le_refl _)]
      simp only [List.filterMap_cons, List.filterMap_nil, statusFor, if_neg hne, List.append_nil]

theorem Accounted.advance (hs : s.Accounted supported gathered) (call : ModuleLibrary β × ThreadAction β)
    (h : ModuleHandler.Advance supported s.handler t.handler)
    (hheld : ∀ hand, t.statusHand = some hand → ∃ status rc, t.handler.thread = .commanding status hand.device rc) :
    t.Accounted supported (seeStatuses s call t gathered) where
  books := books_of_moves h.moves call hs.books
  filed := h.filed
  backed := h.backed
  held := hheld

/-- A step that touches neither the aggregators nor the message thread. -/
theorem Accounted.frame (hs : s.Accounted supported gathered) (call : ModuleLibrary β × ThreadAction β)
    (haggregators : t.handler.statusAggregators = s.handler.statusAggregators)
    (hexternal : t.handler.toExternalQueue_ = s.handler.toExternalQueue_ ∨
      t.handler.toExternalQueue_ = s.handler.toExternalQueue_.tail)
    (hthread : t.handler.thread = s.handler.thread) (hhand : t.statusHand = s.statusHand) :
    t.Accounted supported (seeStatuses s call t gathered) := by
  have hqueues : ∀ k, s.handler.aggregatedMessages k <+: t.handler.aggregatedMessages k := by
    intro k
    rw [ModuleHandler.aggregatedMessages_congr haggregators]
  refine hs.advance call ⟨hs.filed.congr haggregators,.adds hqueues hexternal,hs.backed.mono hthread hqueues⟩ ?_
  rw [hhand, hthread]
  exact hs.held

variable [BufferType β]

/-- An operation of a thread other than the message thread. -/
theorem Accounted.operate (hs : s.Accounted supported gathered) (hsupports : Supports supported moduleLibrary_)
    (call : ModuleLibrary β × ThreadAction β) {number : ℤ} {module_ : ModuleLibraryHandler β}
    (hm : moduleLibrary_.lookup number = some module_) (op : Operation β) (hop : op.keepsStatuses = true)
    (hadd : ∀ status device, op = .add_status_to_aggregator status device → device.module_ = number)
    (hhandler : t.handler =
      s.handler.setAggregator number ((s.handler.statusAggregators number).operate module_ op))
    (hhand : t.statusHand = s.statusHand) : t.Accounted supported (seeStatuses s call t gathered) := by
  apply hs.advance
  · rw [hhandler]
    exact hs.filed.advance_other hs.backed hsupports hm op hop hadd
  · rw [hhand, hhandler]
    exact hs.held

theorem Accounted.handleMessages (hs : s.Accounted supported gathered) (hsupports : Supports supported moduleLibrary_)
    (hg : s.removesDevice (moduleLibrary_,.messages) = false) (ht : s.handleMessages moduleLibrary_ = some t) :
    t.Accounted supported (seeStatuses s (moduleLibrary_,.messages) t gathered) := by
  unfold HandlerThreads.handleMessages at ht
  split at ht
  · rename_i status device rc hthread
    have hbacked := hs.backed
    unfold ModuleHandler.Backed at hbacked
    rw [hthread] at hbacked
    split at ht
    · rename_i hand hhand
      cases ht
      obtain ⟨status',rc',hat⟩ := hs.held hand hhand
      obtain ⟨-,rfl,-⟩ := MessageThread.commanding.inj (hthread.symm.trans hat)
      exact hs.advance _ (hs.filed.advance rfl rfl hbacked) nofun
    · rename_i hnone
      obtain ⟨module_,hm,rfl⟩ := Option.map_eq_some_iff.mp ht
      obtain ⟨hand,thread,heq,hcases⟩ := takeCommand_eq module_ s status device hnone
      have hadvance : ModuleHandler.Advance supported s.handler (takeCommand module_ s status device).handler := by
        rw [heq]
        refine hs.filed.advance_operate hsupports hm (.get_command status device) rfl nofun rfl rfl ?_
        obtain ⟨-,-,rfl,-⟩ | ⟨-,rfl | rfl⟩ := hcases
        · exact hs.backed.mono rfl fun k => s.handler.aggregatedMessages_operate device.module_ module_ rfl k
        · exact trivial
        · exact trivial
      apply hs.advance _ hadvance
      rw [heq]
      intro taken htaken
      obtain ⟨taken',hhand,hstays,hfrom⟩ | ⟨hhand,-⟩ := hcases
      · obtain rfl : taken' = taken := Option.some.inj (hhand.symm.trans htaken)
        refine ⟨status,rc,?_⟩
        rw [hfrom.owner]
        exact hstays.trans hthread
      · rw [hhand] at htaken
        cases htaken
  · rename_i hcommanding
    obtain ⟨handler,hhandler,rfl⟩ := Option.map_eq_some_iff.mp ht
    apply hs.advance
    · apply hs.filed.advance_handleMessages hs.backed hsupports hhandler hcommanding
      intro device hremoving
      unfold removesDevice at hg
      rw [hremoving] at hg
      cases hg
    · intro hand hhand
      obtain ⟨status,rc,hat⟩ := hs.held hand hhand
      exact absurd hat (hcommanding _ _ _)

theorem Accounted.step (hs : s.Accounted supported gathered) {call : ModuleLibrary β × ThreadAction β}
    (hg : s.removesDevice call = false) (hsupports : Supports supported call.1) (ht : s.threadStep call = some t) :
    t.Accounted supported (seeStatuses s call t gathered) := by
  obtain ⟨moduleLibrary_,a⟩ := call
  cases a with
  | messages => exact hs.handleMessages hsupports hg ht
  | forwards =>
    simp only [threadStep, handleCommandForwards] at ht
    split at ht
    · rename_i hand _
      cases ht
      cases hand <;> exact hs.frame _ rfl (.inl rfl) rfl rfl
    · split at ht
      · cases ht
      · rename_i deviceId _ _
        obtain ⟨-,rfl⟩ | ⟨module_,hand,hm,rfl,-⟩ := takeForwarded_eq ht
        · exact hs.frame _ rfl (.inl rfl) rfl rfl
        · refine hs.operate hsupports _ hm (.get_command_for_forwarding deviceId) rfl ?_ rfl rfl
          rintro _ _ ⟨⟩
  | command command device =>
    simp only [threadStep, handleCommands] at ht
    split at ht
    · cases ht
      obtain h | ⟨module_,hm,-,h,-⟩ := updateCommand_eq moduleLibrary_ s command device
      · rw [h]
        exact hs.frame _ rfl (.inl rfl) rfl rfl
      · rw [h]
        refine hs.operate hsupports _ hm (.update_command command device) rfl ?_ rfl rfl
        rintro _ _ ⟨⟩
    · cases ht
  | event =>
    obtain ⟨device,-,rfl⟩ := Option.map_eq_some_iff.mp ht
    exact hs.frame _ rfl (.inl rfl) rfl rfl
  | force device =>
    obtain ⟨module_,hm,rfl⟩ := Option.map_eq_some_iff.mp ht
    refine hs.operate hsupports _ hm (.force_aggregation_on_device device) rfl ?_ rfl rfl
    rintro _ _ ⟨⟩
  | receive message =>
    cases ht
    exact hs.frame _ rfl (.inl rfl) rfl rfl
  | tick number deviceId =>
    obtain ⟨module_,hm,rfl⟩ := Option.map_eq_some_iff.mp ht
    refine hs.operate hsupports _ hm (.timeouted_force_aggregation deviceId) rfl ?_ rfl rfl
    rintro _ _ ⟨⟩
  | erase number i =>
    obtain ⟨aggregator,hrun,-⟩ := Option.map_eq_some_iff.mp ht
    unfold StatusAggregator.runPosted at hrun
    rw [hs.filed.posted number] at hrun
    cases hrun
  | sent =>
    cases ht
    exact hs.frame _ rfl (.inr rfl) rfl rfl
  | listened =>
    cases ht
    exact hs.frame _ rfl (.inl rfl) rfl rfl

/-- In a run in which no device is removed, what is sent for a device is at any time a prefix of
what was ever aggregated for it, and `handleStatus` never sends from an empty queue. -/
theorem exec_sent_prefix {as : List (ModuleLibrary β × ThreadAction β)}
    (hg : Guarded threadStep (fun s call => s.removesDevice call = false) init as)
    (hsupports : ∀ call ∈ as, Supports supported call.1) (he : exec threadStep init as = some s) :
    (∀ k, (observe threadStep seeStatuses init ⟨fun _ => [],fun _ => []⟩ as).sent k <+:
        (observe threadStep seeStatuses init ⟨fun _ => [],fun _ => []⟩ as).aggregated k) ∧
      ∀ device rc, s.handler.thread = .sending device (rc + 1) → s.handler.aggregatedMessages device.key ≠ [] := by
  have hs : s.Accounted supported (observe threadStep seeStatuses init ⟨fun _ => [],fun _ => []⟩ as) := by
    refine exec_observe_invariant Accounted.init ?_ (hg.and_mem hsupports) he
    intro s gathered call t hs ha ht
    exact hs.step ha.1 ha.2 ht
  refine ⟨?_,?_⟩
  · intro k
    rw [hs.books]
    exact List.prefix_append _ _
  · intro device rc hsending
    have hbacked := hs.backed
    unfold ModuleHandler.Backed at hbacked
    rw [hsending] at hbacked
    intro hnil
    have hlength : rc + 1 ≤ (s.handler.aggregatedMessages device.key).length := hbacked
    rw [hnil] at hlength
    cases hlength

/-- A forced status is left over from before, and the timer of the camera fires between its second
status and the command for it. -/
def fedDuringStatus : List (ModuleLibrary (List UInt8) × ThreadAction (List UInt8)) :=
  cameraStatus [1] 9 ++ [(pushLibrary,.force StatusAggregator.camera)] ++ cameraStatus [2] 4 ++
    [(pushLibrary,.tick 1 StatusAggregator.camera.key),(pushLibrary,.messages),(pushLibrary,.messages)]

theorem exec_sent_prefix_fedDuringStatus :
    ∃ s, exec threadStep init fedDuringStatus = some s ∧
      s.handler.thread = .sending StatusAggregator.camera 1 ∧
      (observe threadStep seeStatuses init ⟨fun _ => [],fun _ => []⟩ fedDuringStatus).sent
        StatusAggregator.camera.key = [[1]] ∧
      [[1]] <+: (observe threadStep seeStatuses init ⟨fun _ => [],fun _ => []⟩ fedDuringStatus).aggregated
        StatusAggregator.camera.key ∧
      s.handler.aggregatedMessages StatusAggregator.camera.key ≠ [] := by
  have hg : Guarded threadStep (fun s call => s.removesDevice call = false) init fedDuringStatus := by decide +kernel
  have hm : ∀ call ∈ fedDuringStatus, Supports (fun _ _ => true) call.1 := by
    have hlibrary : ∀ call ∈ fedDuringStatus, call.1 = pushLibrary := by
      simp [fedDuringStatus, cameraStatus]
    intro call hcall
    rw [hlibrary call hcall]
    exact pushLibrary_supports
  obtain ⟨hsent,hfilled⟩ := exec_sent_prefix hg hm rfl
  exact ⟨_,rfl,rfl,rfl,hsent StatusAggregator.camera.key,hfilled _ _ rfl⟩

/-! ## A call without an answer -/

/-- The pusher in a process of its own. -/
def asyncLibrary : ModuleLibrary RawBuffer := AList.singleton 1 (asyncHandler (executor pusher))

/-- The same process, while it does not answer `isDeviceTypeSupported` in time. -/
def timedOutLibrary : ModuleLibrary RawBuffer :=
  AList.singleton 1 (asyncHandler { executor pusher with isDeviceTypeSupportedAsync := fun _ => none })

/-- The status of the camera is aggregated and its command got; then one call times out. -/
def timedOutSend : List (ModuleLibrary RawBuffer × ThreadAction RawBuffer) :=
  (asyncLibrary,.receive (.message false (.deviceStatus ⟨StatusAggregator.camera,.bytes [1]⟩))) ::
    List.replicate 6 (asyncLibrary,.messages) ++ [(timedOutLibrary,.messages)]

/-- `get_aggregated_status` returns `DEVICE_NOT_REGISTERED`, and `sendAggregatedStatus` pushes the buffer that
it did not fill: nothing of the kind was ever queued. -/
theorem timedOutSend_not_prefix :
    ¬∀ (as : List (ModuleLibrary RawBuffer × ThreadAction RawBuffer)) s,
      Guarded threadStep (fun s call => s.removesDevice call = false) init as → exec threadStep init as = some s →
      ∀ k, (observe threadStep seeStatuses init ⟨fun _ => [],fun _ => []⟩ as).sent k <+:
        (observe threadStep seeStatuses init ⟨fun _ => [],fun _ => []⟩ as).aggregated k := by
  intro hall
  have hg : Guarded threadStep (fun s call => s.removesDevice call = false) init timedOutSend := by decide +kernel
  have hprefix := hall timedOutSend _ hg rfl StatusAggregator.camera.key
  have hsent : (observe threadStep seeStatuses init ⟨fun _ => [],fun _ => []⟩ timedOutSend).sent
      StatusAggregator.camera.key = [.null 0] := rfl
  have haggregated : (observe threadStep seeStatuses init ⟨fun _ => [],fun _ => []⟩ timedOutSend).aggregated
      StatusAggregator.camera.key = [.bytes [1]] := rfl
  rw [hsent, haggregated] at hprefix
  revert hprefix
  decide

end HandlerThreads

end ModuleGateway.Modules
