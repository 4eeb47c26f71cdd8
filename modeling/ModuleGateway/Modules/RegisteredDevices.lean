import ModuleGateway.Modules.AggregatedStatuses

/-! # The registered devices

Everything a step of the Module Handler can do to the aggregators: one operation on one of
them, the addition of the status at the front of `fromInternalQueue_`, a removal, or an
erasure. A device gets into an aggregator by its own status only, so it is always in the one
of its module.
-/
namespace ModuleGateway.Modules
open Structures Execution

variable {β : Type}

/-- The device the message thread works on. -/
def MessageThread.device : MessageThread β → Option DeviceIdentification
  | .commanding _ device _ | .sending device _ | .forcing device | .disconnecting device | .removing device =>
    some device
  | _ => none

namespace ModuleHandler
variable {moduleLibrary_ : ModuleLibrary β} {s t : ModuleHandler β}

/-- The message thread is about to handle this status. -/
def StatusAtFront (s : ModuleHandler β) (status : DeviceStatus β) : Prop :=
  s.thread = .handling ∧ ∃ rest, s.fromInternalQueue_ = .message false (.deviceStatus status) :: rest

/-- Everything a step can do to the aggregators. -/
inductive AggregatorChange [BufferType β] (moduleLibrary_ : ModuleLibrary β) (s t : ModuleHandler β) : Prop
  | same (aggregators : t.statusAggregators = s.statusAggregators)
  | operate (number : ℤ) (module_ : ModuleLibraryHandler β) (op : Operation β)
      (loaded : moduleLibrary_.lookup number = some module_)
      (noAdd : ∀ status device, op ≠ .add_status_to_aggregator status device)
      (aggregators : t.statusAggregators =
        Function.update s.statusAggregators number ((s.statusAggregators number).operate module_ op))
  | add (status : DeviceStatus β) (module_ : ModuleLibraryHandler β)
      (loaded : moduleLibrary_.lookup status.device.module_ = some module_)
      (front : s.StatusAtFront status)
      (aggregators : t.statusAggregators = Function.update s.statusAggregators status.device.module_
        ((s.statusAggregators status.device.module_).operate module_
          (.add_status_to_aggregator status.statusdata status.device)))
  | remove (device : DeviceIdentification) (module_ : ModuleLibraryHandler β)
      (loaded : moduleLibrary_.lookup device.module_ = some module_)
      (thread : s.thread = .removing device)
      (aggregators : t.statusAggregators = Function.update s.statusAggregators device.module_
        ((s.statusAggregators device.module_).remove_device module_ device).2)
  | erase (number : ℤ) (i : ℕ) (aggregator : StatusAggregator β)
      (run : (s.statusAggregators number).runPosted i = some aggregator)
      (aggregators : t.statusAggregators = Function.update s.statusAggregators number aggregator)

variable [BufferType β]

theorem handleMessage_change (hthread : s.thread = .handling) (h : s.handleMessage moduleLibrary_ = some t) :
    AggregatorChange moduleLibrary_ s t := by
  obtain ⟨message,rest,hqueue,rfl | ⟨-,-,rfl⟩ | ⟨device,-,rfl⟩ | ⟨status,rfl,rfl⟩⟩ := handleMessage_cases h
  · exact .same rfl
  · exact .same rfl
  · exact .same rfl
  · obtain h | ⟨module_,r,aggregator,hm,hadd,h⟩ := s.handleStatus_cases moduleLibrary_ status
    · rw [h]
      exact .same rfl
    · refine .add status module_ hm ⟨hthread,rest,hqueue⟩ ?_
      obtain ⟨code,-,-,h⟩ | ⟨-,h⟩ | ⟨rc,-,h⟩ := h
      all_goals
        rw [h]
        simp only [StatusAggregator.operate, hadd]
        rfl

/-- The message thread outside `get_command`. -/
theorem handleMessages_change (h : s.handleMessages moduleLibrary_ = some t)
    (hcommanding : ∀ status device rc, s.thread ≠ .commanding status device rc) :
    AggregatorChange moduleLibrary_ s t := by
  unfold handleMessages at h
  split at h <;> rename_i hthread
  · cases h
    exact .same rfl
  · cases h
    unfold checkModule
    split
    · exact .same rfl
    · dsimp only
      split <;> exact .same rfl
  · obtain ⟨module_,hm,rfl⟩ := Option.map_eq_some_iff.mp h
    unfold collectStatus
    split
    · exact .operate _ module_ .unsetTimeoutedMessageReady hm (by rintro _ _ ⟨⟩) rfl
    · rename_i device _
      split <;> rename_i hget
      all_goals
        refine .operate _ module_ (.get_aggregated_status device) hm (by rintro _ _ ⟨⟩) ?_
        simp only [StatusAggregator.operate, hget]
        rfl
  · cases h
    unfold countTimeouts
    dsimp only
    split <;> exact .same rfl
  · exact handleMessage_change hthread h
  · exact absurd hthread (hcommanding _ _ _)
  · cases h
    exact .same rfl
  · rename_i device rc
    obtain ⟨module_,hm,rfl⟩ := Option.map_eq_some_iff.mp h
    exact .operate _ module_ (.get_aggregated_status device) hm (by rintro _ _ ⟨⟩) rfl
  · rename_i device
    obtain ⟨module_,hm,rfl⟩ := Option.map_eq_some_iff.mp h
    unfold forceStatus
    split <;> rename_i hforce
    all_goals
      refine .operate _ module_ (.force_aggregation_on_device device) hm (by rintro _ _ ⟨⟩) ?_
      simp only [StatusAggregator.operate, hforce]
      rfl
  · rename_i device
    obtain ⟨module_,hm,rfl⟩ := Option.map_eq_some_iff.mp h
    exact .operate _ module_ (.get_aggregated_status device) hm (by rintro _ _ ⟨⟩) rfl
  · rename_i device
    obtain ⟨module_,hm,rfl⟩ := Option.map_eq_some_iff.mp h
    exact .remove device module_ hm hthread rfl
  · cases h
    exact .same rfl
  · cases h

/-! ## The device of the message thread -/

/-- The module of the device that the message thread works on is loaded. -/
def ThreadLoaded (moduleLibrary_ : ModuleLibrary β) (s : ModuleHandler β) : Prop :=
  ∀ device, s.thread.device = some device → (moduleLibrary_.lookup device.module_).isSome

omit [BufferType β] in
theorem ThreadLoaded.of_none (h : t.thread.device = none) : t.ThreadLoaded moduleLibrary_ := by
  intro device hdevice
  rw [h] at hdevice
  cases hdevice

omit [BufferType β] in
theorem ThreadLoaded.of_eq (hs : s.ThreadLoaded moduleLibrary_) (h : t.thread.device = s.thread.device) :
    t.ThreadLoaded moduleLibrary_ := by
  unfold ThreadLoaded
  rwa [h]

omit [BufferType β] in
theorem ThreadLoaded.of_some {device : DeviceIdentification} (h : t.thread.device = some device)
    (hloaded : (moduleLibrary_.lookup device.module_).isSome) : t.ThreadLoaded moduleLibrary_ := by
  intro device' hdevice
  obtain rfl := Option.some.inj (h.symm.trans hdevice)
  exact hloaded

omit [BufferType β] in
/-- The thread begins to work on a device only after it found its module. -/
theorem handleMessage_loaded (h : s.handleMessage moduleLibrary_ = some t) : t.ThreadLoaded moduleLibrary_ := by
  obtain ⟨_,-,-,rfl | ⟨-,hloaded,rfl⟩ | ⟨device,-,rfl⟩ | ⟨status,-,rfl⟩⟩ := handleMessage_cases h
  · exact .of_none rfl
  · exact .of_some rfl hloaded
  · exact .of_none rfl
  · obtain h | ⟨_,_,_,hm,-,⟨_,-,-,h⟩ | ⟨-,h⟩ | ⟨_,-,h⟩⟩ := s.handleStatus_cases moduleLibrary_ status
    all_goals rw [h]
    · exact .of_none rfl
    · exact .of_none rfl
    · exact .of_none rfl
    · exact .of_some rfl (Option.isSome_of_eq_some hm)

theorem ThreadLoaded.handleMessages (hs : s.ThreadLoaded moduleLibrary_)
    (h : s.handleMessages moduleLibrary_ = some t)
    (hcommanding : ∀ status device rc, s.thread ≠ .commanding status device rc) :
    t.ThreadLoaded moduleLibrary_ := by
  unfold ModuleHandler.handleMessages at h
  split at h <;> rename_i hthread
  · cases h
    exact .of_none rfl
  · cases h
    unfold checkModule
    split
    · split <;> exact .of_none rfl
    · dsimp only
      split <;> exact .of_none rfl
  · obtain ⟨module_,hm,rfl⟩ := Option.map_eq_some_iff.mp h
    unfold collectStatus
    split
    · exact .of_none rfl
    · split
      · exact .of_eq hs rfl
      · exact .of_none rfl
  · cases h
    unfold countTimeouts
    dsimp only
    split <;> exact .of_none rfl
  · exact handleMessage_loaded h
  · exact absurd hthread (hcommanding _ _ _)
  · cases h
    exact .of_none rfl
  · obtain ⟨module_,hm,rfl⟩ := Option.map_eq_some_iff.mp h
    exact .of_some rfl (Option.isSome_of_eq_some hm)
  · obtain ⟨module_,hm,rfl⟩ := Option.map_eq_some_iff.mp h
    unfold forceStatus
    split
    · exact .of_some rfl (Option.isSome_of_eq_some hm)
    · exact .of_none rfl
  · obtain ⟨module_,hm,rfl⟩ := Option.map_eq_some_iff.mp h
    exact .of_some rfl (Option.isSome_of_eq_some hm)
  · obtain ⟨module_,-,rfl⟩ := Option.map_eq_some_iff.mp h
    exact .of_none rfl
  · cases h
    exact .of_none rfl
  · cases h

/-! ## Devices in the aggregator of their module -/

/-- Every device is in the aggregator of its module, under its own identity and with a type that is
supported. -/
def InPlace (supported : ℤ → UInt32 → Bool) (s : ModuleHandler β) : Prop :=
  ∀ number key d, (s.statusAggregators number).devices.lookup key = some d →
    key.module_ = number ∧ d.deviceId.key = key ∧ supported number key.deviceType = true

omit [BufferType β] in
theorem InPlace.init {supported : ℤ → UInt32 → Bool} : (init : ModuleHandler β).InPlace supported := by
  intro number key d hd
  cases hd

omit [BufferType β] in
/-- One aggregator changes, and its devices are in place. -/
theorem InPlace.update {supported : ℤ → UInt32 → Bool} (hs : s.InPlace supported) {number : ℤ}
    {aggregator : StatusAggregator β}
    (haggregators : t.statusAggregators = Function.update s.statusAggregators number aggregator)
    (h : ∀ key d, aggregator.devices.lookup key = some d →
      key.module_ = number ∧ d.deviceId.key = key ∧ supported number key.deviceType = true) :
    t.InPlace supported := by
  intro n key d hd
  rw [haggregators] at hd
  by_cases hn : n = number
  · subst hn
    rw [Function.update_self] at hd
    exact h key d hd
  · rw [Function.update_of_ne hn] at hd
    exact hs n key d hd

/-- After an operation that adds no other device than one of the module. -/
theorem InPlace.operate {supported : ℤ → UInt32 → Bool} (hs : s.InPlace supported) {number : ℤ}
    {module_ : ModuleLibraryHandler β} {op : Operation β}
    (hsupported : ∀ device_type, module_.isDeviceTypeSupported device_type ≠ .NOT_OK →
      supported number device_type = true)
    (hadd : ∀ status device, op = .add_status_to_aggregator status device → device.module_ = number)
    (key : DeviceKey) (d : StatusAggregatorDeviceState β)
    (hd : ((s.statusAggregators number).operate module_ op).devices.lookup key = some d) :
    key.module_ = number ∧ d.deviceId.key = key ∧ supported number key.deviceType = true := by
  rw [StatusAggregator.operate_lookup] at hd
  have hdeviceId := StatusAggregator.effect_deviceId module_ hd fun e he => (hs number key e he).2.1
  cases hlookup : (s.statusAggregators number).devices.lookup key with
  | some e =>
    obtain ⟨hmodule,-,hsup⟩ := hs number key e hlookup
    exact ⟨hmodule,hdeviceId,hsup⟩
  | none =>
    rw [hlookup] at hd
    obtain ⟨status,device,hop,rfl,hsup,-⟩ := StatusAggregator.effect_none (Option.isSome_of_eq_some hd)
    exact ⟨hadd status device hop,hdeviceId,hsupported _ hsup⟩

theorem AggregatorChange.inPlace (h : AggregatorChange moduleLibrary_ s t) {supported : ℤ → UInt32 → Bool}
    (hsupported : ∀ number module_, moduleLibrary_.lookup number = some module_ → ∀ device_type,
      module_.isDeviceTypeSupported device_type ≠ .NOT_OK → supported number device_type = true)
    (hs : s.InPlace supported) : t.InPlace supported := by
  cases h with
  | same aggregators =>
    unfold InPlace
    rwa [aggregators]
  | operate number module_ op loaded noAdd aggregators =>
    refine hs.update aggregators ?_
    exact hs.operate (hsupported number module_ loaded) fun status device hop => absurd hop (noAdd status device)
  | add status module_ loaded front aggregators =>
    refine hs.update aggregators ?_
    refine hs.operate (hsupported _ module_ loaded) ?_
    rintro _ _ ⟨⟩
    rfl
  | remove device module_ loaded thread aggregators =>
    refine hs.update aggregators ?_
    rw [StatusAggregator.remove_device_devices]
    exact hs.operate (hsupported _ module_ loaded) nofun
  | erase number i aggregator run aggregators =>
    refine hs.update aggregators ?_
    obtain ⟨device,-,rfl⟩ := Option.map_eq_some_iff.mp run
    intro key d hd
    have hne : key ≠ device := by
      rintro rfl
      rw [AList.lookup_erase] at hd
      cases hd
    rw [AList.lookup_erase_ne hne] at hd
    exact hs number key d hd

end ModuleHandler

/-! ## All threads -/

namespace HandlerThreads
variable [BufferType β] {moduleLibrary_ : ModuleLibrary β} {s t : HandlerThreads β}

/-- The command that `handleStatus` holds is that of the device it is at. -/
def HandInPlace (s : HandlerThreads β) : Prop :=
  ∀ hand, s.statusHand = some hand → ∃ status rc, s.handler.thread = .commanding status hand.device rc

omit [BufferType β] in
theorem HandInPlace.init : (init : HandlerThreads β).HandInPlace := fun _ h => nomatch h

theorem HandInPlace.messages (ht : s.handleMessages moduleLibrary_ = some t) (hs : s.HandInPlace) : t.HandInPlace := by
  unfold handleMessages at ht
  split at ht
  · rename_i status device rc hthread
    split at ht
    · cases ht
      exact nofun
    · rename_i hnone
      obtain ⟨module_,-,rfl⟩ := Option.map_eq_some_iff.mp ht
      obtain ⟨hand,thread,heq,hcases⟩ := takeCommand_eq module_ s status device hnone
      rw [heq]
      intro taken htaken
      obtain ⟨taken',hhand,hstays,hfrom⟩ | ⟨hhand,-⟩ := hcases
      · obtain rfl : taken' = taken := Option.some.inj (hhand.symm.trans htaken)
        refine ⟨status,rc,?_⟩
        rw [hfrom.owner]
        exact hstays.trans hthread
      · rw [hhand] at htaken
        cases htaken
  · rename_i hcommanding
    obtain ⟨handler,-,rfl⟩ := Option.map_eq_some_iff.mp ht
    intro hand hhand
    obtain ⟨status,rc,hat⟩ := hs hand hhand
    exact absurd hat (hcommanding _ _ _)

theorem messages_change (ht : s.handleMessages moduleLibrary_ = some t) :
    ModuleHandler.AggregatorChange moduleLibrary_ s.handler t.handler := by
  unfold handleMessages at ht
  split at ht
  · rename_i status device rc hthread
    split at ht
    · cases ht
      exact .same rfl
    · rename_i hnone
      obtain ⟨module_,hm,rfl⟩ := Option.map_eq_some_iff.mp ht
      obtain ⟨hand,thread,heq,-⟩ := takeCommand_eq module_ s status device hnone
      rw [heq]
      exact .operate _ module_ (.get_command status device) hm nofun rfl
  · rename_i hcommanding
    obtain ⟨handler,hhandler,rfl⟩ := Option.map_eq_some_iff.mp ht
    exact ModuleHandler.handleMessages_change hhandler hcommanding

/-- What the other threads and the environment can do to the aggregators, and that they leave the message
thread where it is. -/
theorem other_change {a : ThreadAction β} (hmessages : a ≠ .messages)
    (ht : s.threadStep (moduleLibrary_,a) = some t) :
    ModuleHandler.AggregatorChange moduleLibrary_ s.handler t.handler ∧
      t.handler.thread = s.handler.thread ∧ t.statusHand = s.statusHand := by
  cases a with
  | messages => exact absurd rfl hmessages
  | forwards =>
    simp only [threadStep, handleCommandForwards] at ht
    split at ht
    · rename_i hand _
      cases ht
      cases hand <;> exact ⟨.same rfl,rfl,rfl⟩
    · split at ht
      · cases ht
      · rename_i deviceId _ _
        obtain ⟨-,rfl⟩ | ⟨module_,hand,hm,rfl,-⟩ := takeForwarded_eq ht
        · exact ⟨.same rfl,rfl,rfl⟩
        · exact ⟨.operate _ module_ (.get_command_for_forwarding deviceId) hm (by rintro _ _ ⟨⟩) rfl,rfl,rfl⟩
  | command command device =>
    simp only [threadStep, handleCommands] at ht
    split at ht
    · cases ht
      obtain h | ⟨module_,hm,-,h,-⟩ := updateCommand_eq moduleLibrary_ s command device
      · rw [h]
        exact ⟨.same rfl,rfl,rfl⟩
      · rw [h]
        exact ⟨.operate _ module_ (.update_command command device) hm (by rintro _ _ ⟨⟩) rfl,rfl,rfl⟩
    · cases ht
  | event =>
    obtain ⟨device,-,rfl⟩ := Option.map_eq_some_iff.mp ht
    exact ⟨.same rfl,rfl,rfl⟩
  | force device =>
    obtain ⟨module_,hm,rfl⟩ := Option.map_eq_some_iff.mp ht
    exact ⟨.operate _ module_ (.force_aggregation_on_device device) hm (by rintro _ _ ⟨⟩) rfl,rfl,rfl⟩
  | receive message =>
    cases ht
    exact ⟨.same rfl,rfl,rfl⟩
  | tick number deviceId =>
    obtain ⟨module_,hm,rfl⟩ := Option.map_eq_some_iff.mp ht
    exact ⟨.operate _ module_ (.timeouted_force_aggregation deviceId) hm (by rintro _ _ ⟨⟩) rfl,rfl,rfl⟩
  | erase number i =>
    obtain ⟨aggregator,hrun,rfl⟩ := Option.map_eq_some_iff.mp ht
    exact ⟨.erase number i aggregator hrun rfl,rfl,rfl⟩
  | sent =>
    cases ht
    exact ⟨.same rfl,rfl,rfl⟩
  | listened =>
    cases ht
    exact ⟨.same rfl,rfl,rfl⟩

theorem threadStep_change {a : ThreadAction β} (ht : s.threadStep (moduleLibrary_,a) = some t) :
    ModuleHandler.AggregatorChange moduleLibrary_ s.handler t.handler := by
  by_cases hmessages : a = .messages
  · subst hmessages
    exact messages_change ht
  · exact (other_change hmessages ht).1

theorem HandInPlace.step {a : ThreadAction β} (hs : s.HandInPlace) (ht : s.threadStep (moduleLibrary_,a) = some t) :
    t.HandInPlace := by
  by_cases hmessages : a = .messages
  · subst hmessages
    exact hs.messages ht
  · obtain ⟨-,hthread,hhand⟩ := other_change hmessages ht
    unfold HandInPlace
    rwa [hhand, hthread]

theorem messages_threadLoaded (hs : s.handler.ThreadLoaded moduleLibrary_) (hplace : s.HandInPlace)
    (ht : s.handleMessages moduleLibrary_ = some t) : t.handler.ThreadLoaded moduleLibrary_ := by
  unfold handleMessages at ht
  split at ht
  · rename_i status device rc hthread
    split at ht
    · rename_i hand hhand
      cases ht
      obtain ⟨status',rc',hat⟩ := hplace hand hhand
      exact .of_some rfl (hs hand.device (congrArg MessageThread.device hat))
    · rename_i hnone
      obtain ⟨module_,hm,rfl⟩ := Option.map_eq_some_iff.mp ht
      obtain ⟨hand,thread,heq,⟨-,-,rfl,-⟩ | ⟨-,rfl | rfl⟩⟩ := takeCommand_eq module_ s status device hnone <;>
        rw [heq]
      · exact hs.of_eq rfl
      · exact .of_none rfl
      · exact .of_none rfl
  · rename_i hcommanding
    obtain ⟨handler,hhandler,rfl⟩ := Option.map_eq_some_iff.mp ht
    exact hs.handleMessages hhandler hcommanding

theorem threadStep_threadLoaded {a : ThreadAction β} (hs : s.handler.ThreadLoaded moduleLibrary_)
    (hplace : s.HandInPlace) (ht : s.threadStep (moduleLibrary_,a) = some t) : t.handler.ThreadLoaded moduleLibrary_ := by
  by_cases hmessages : a = .messages
  · subst hmessages
    exact messages_threadLoaded hs hplace ht
  · obtain ⟨-,hthread,-⟩ := other_change hmessages ht
    exact hs.of_eq (congrArg MessageThread.device hthread)

end HandlerThreads

end ModuleGateway.Modules
