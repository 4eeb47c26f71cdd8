import ModuleGateway.Modules.Progress

/-! # Devices that fall silent

The timer of a registered device goes on firing. When it has fired often enough since the last status of the device
that its module took, the Internal Server is asked to disconnect the device; a status in between starts the count
anew, whatever the other devices and the other threads do. A round of the message thread that has not come to the
module of such a device yet lists the device.
-/
namespace ModuleGateway.Modules
open Structures Execution

variable {β : Type}

namespace ModuleHandler
variable {moduleLibrary_ : ModuleLibrary β} {s t : ModuleHandler β} {k : DeviceKey}

/-- The module finds the status valid and supports the type of its device. -/
def takesStatus (module_ : ModuleLibraryHandler β) (status : DeviceStatus β) : Prop :=
  module_.statusDataValid status.statusdata status.device.deviceType ≠ .NOT_OK ∧
    StatusAggregator.is_device_type_supported module_ status.device.deviceType ≠ .NOT_OK

instance (module_ : ModuleLibraryHandler β) (status : DeviceStatus β) : Decidable (takesStatus module_ status) :=
  inferInstanceAs (Decidable (_ ∧ _))

/-- The device of a status that its module takes. -/
def heardIn (moduleLibrary_ : ModuleLibrary β) (status : DeviceStatus β) : Option DeviceKey :=
  (moduleLibrary_.lookup status.device.module_).bind fun module_ =>
    if takesStatus module_ status then some status.device.key else none

/-- The device that the message thread is about to add a status of. -/
def hears (moduleLibrary_ : ModuleLibrary β) (s : ModuleHandler β) : Option DeviceKey :=
  match s.thread,s.fromInternalQueue_ with
  | .handling,.message false (.deviceStatus status) :: _ => heardIn moduleLibrary_ status
  | _,_ => none

/-- `deviceTimeouts_` in the aggregator of the device. -/
def timeouts (s : ModuleHandler β) (k : DeviceKey) : ℕ := (s.statusAggregators k.module_).deviceTimeouts_ k

/-- The count of a device that is heard starts anew. -/
def restarts (heard : Option DeviceKey) (counts : DeviceKey → ℕ) : DeviceKey → ℕ :=
  heard.elim counts fun k => Function.update counts k 0

theorem hears_of_thread (h : s.thread ≠ .handling) : s.hears moduleLibrary_ = none := by
  unfold hears
  split
  · exact absurd ‹_› h
  · rfl

theorem timeouts_setAggregator (s : ModuleHandler β) (number : ℤ) (aggregator : StatusAggregator β) :
    (s.setAggregator number aggregator).timeouts k =
      if k.module_ = number then aggregator.deviceTimeouts_ k else s.timeouts k := by
  unfold timeouts setAggregator
  dsimp only
  by_cases hn : k.module_ = number
  · rw [if_pos hn, hn, Function.update_self]
  · rw [if_neg hn, Function.update_of_ne hn]

theorem timeouts_setAggregator_same {number : ℤ} {aggregator : StatusAggregator β}
    (h : aggregator.deviceTimeouts_ = (s.statusAggregators number).deviceTimeouts_) :
    (s.setAggregator number aggregator).timeouts = s.timeouts := by
  funext k
  rw [timeouts_setAggregator, h]
  split
  · rename_i hn
    subst hn
    rfl
  · rfl

variable [BufferType β]

/-- An operation that is neither a tick nor a status. -/
theorem timeouts_operate (s : ModuleHandler β) (number : ℤ) (module_ : ModuleLibraryHandler β) (op : Operation β)
    (hop : ∀ counts : DeviceKey → ℕ, op.timeouts module_ counts = counts) :
    (s.setAggregator number ((s.statusAggregators number).operate module_ op)).timeouts = s.timeouts :=
  timeouts_setAggregator_same ((StatusAggregator.operate_clock _ op).1.trans (hop _))

/-- A valid status is added. -/
theorem timeouts_add (s : ModuleHandler β) {module_ : ModuleLibraryHandler β} {status : DeviceStatus β}
    (hvalid : module_.statusDataValid status.statusdata status.device.deviceType ≠ .NOT_OK) :
    (s.setAggregator status.device.module_ ((s.statusAggregators status.device.module_).operate module_
      (.add_status_to_aggregator status.statusdata status.device))).timeouts =
        restarts (if takesStatus module_ status then some status.device.key else none) s.timeouts := by
  by_cases hsupported : StatusAggregator.is_device_type_supported module_ status.device.deviceType = .NOT_OK
  · rw [if_neg fun h : takesStatus module_ status => h.2 hsupported]
    exact s.timeouts_operate _ _ _ fun counts => if_pos hsupported
  · have htakes : takesStatus module_ status := ⟨hvalid,hsupported⟩
    funext k
    rw [if_pos htakes, timeouts_setAggregator, (StatusAggregator.operate_clock _ _).1]
    simp only [Operation.timeouts, if_neg hsupported, restarts, Option.elim_some]
    by_cases hk : k = status.device.key
    · subst hk
      rw [Function.update_self, Function.update_self]
      exact if_pos rfl
    · rw [Function.update_of_ne hk, Function.update_of_ne hk]
      split
      · rename_i hn
        rw [← hn]
        rfl
      · rfl

theorem handleStatus_timeouts (s : ModuleHandler β) (status : DeviceStatus β) :
    (s.handleStatus moduleLibrary_ status).timeouts = restarts (heardIn moduleLibrary_ status) s.timeouts := by
  unfold handleStatus heardIn
  dsimp only
  cases moduleLibrary_.lookup status.device.module_ with
  | none => rfl
  | some module_ =>
    dsimp only [Option.bind_some]
    split
    · rename_i hinvalid
      rw [if_neg fun h : takesStatus module_ status => h.1 hinvalid]
      rfl
    · rename_i hvalid
      have hadd := s.timeouts_add hvalid
      simp only [StatusAggregator.operate] at hadd
      split <;> rename_i heq
      all_goals
        rw [heq] at hadd
        exact hadd

theorem handleMessage_timeouts (hthread : s.thread = .handling) (h : s.handleMessage moduleLibrary_ = some t) :
    t.timeouts = restarts (s.hears moduleLibrary_) s.timeouts := by
  unfold handleMessage at h
  unfold hears
  split at h
  · cases h
  · rename_i message rest hqueue
    rw [hthread, hqueue]
    split at h
    · rename_i hdisconnected
      obtain rfl := Option.some.inj h
      have hsame : (s.handleDisconnect moduleLibrary_ message.getDeviceId).timeouts = s.timeouts := by
        unfold handleDisconnect
        split
        · rfl
        · split <;> rfl
      rw [hsame]
      split
      · rename_i heq
        cases heq
        cases hdisconnected
      · rfl
    · rename_i hdisconnected
      split at h
      · rename_i disconnect device
        obtain rfl : disconnect = false := Bool.eq_false_iff.mpr hdisconnected
        cases h
        rfl
      · rename_i disconnect status
        obtain rfl : disconnect = false := Bool.eq_false_iff.mpr hdisconnected
        cases h
        exact s.handleStatus_timeouts status
      · rename_i hother
        cases h
        split
        · rename_i status _ _ heq
          cases heq
          exact absurd rfl (hother false status)
        · rfl

/-- The message thread outside `get_command`. -/
theorem handleMessages_timeouts (h : s.handleMessages moduleLibrary_ = some t)
    (hcommanding : ∀ status device rc, s.thread ≠ .commanding status device rc) :
    t.timeouts = restarts (s.hears moduleLibrary_) s.timeouts := by
  by_cases hhandling : s.thread = .handling
  · rw [handleMessages, hhandling] at h
    exact handleMessage_timeouts hhandling h
  rw [hears_of_thread hhandling]
  show t.timeouts = s.timeouts
  unfold handleMessages at h
  split at h <;> rename_i hthread
  · cases h
    rfl
  · cases h
    unfold checkModule
    split
    · rfl
    · dsimp only
      split <;> rfl
  · rename_i number devices
    obtain ⟨module_,-,rfl⟩ := Option.map_eq_some_iff.mp h
    unfold collectStatus
    split
    · exact s.timeouts_operate number module_ .unsetTimeoutedMessageReady fun _ => rfl
    · rename_i device _
      have hget := s.timeouts_operate number module_ (.get_aggregated_status device) fun _ => rfl
      simp only [StatusAggregator.operate] at hget
      split <;> rename_i heq
      all_goals
        rw [heq] at hget
        exact hget
  · cases h
    unfold countTimeouts
    dsimp only
    split <;> rfl
  · exact absurd hthread hhandling
  · exact absurd hthread (hcommanding _ _ _)
  · cases h
    rfl
  · rename_i device _
    obtain ⟨module_,-,rfl⟩ := Option.map_eq_some_iff.mp h
    exact s.timeouts_operate device.module_ module_ (.get_aggregated_status device) fun _ => rfl
  · rename_i device
    obtain ⟨module_,-,rfl⟩ := Option.map_eq_some_iff.mp h
    have hforce := s.timeouts_operate device.module_ module_ (.force_aggregation_on_device device) fun _ => rfl
    simp only [StatusAggregator.operate] at hforce
    unfold forceStatus
    split <;> rename_i heq
    all_goals
      rw [heq] at hforce
      exact hforce
  · rename_i device
    obtain ⟨module_,-,rfl⟩ := Option.map_eq_some_iff.mp h
    exact s.timeouts_operate device.module_ module_ (.get_aggregated_status device) fun _ => rfl
  · rename_i device
    obtain ⟨module_,-,rfl⟩ := Option.map_eq_some_iff.mp h
    apply timeouts_setAggregator_same
    unfold StatusAggregator.remove_device
    split
    · rfl
    · exact (StatusAggregator.clearDeviceUnlocked_clock _ device.key).1
  · cases h
    rfl
  · cases h

/-! ## Requests to disconnect a device -/

/-- The message thread is about to count the ticks of a device of the module. -/
def Counts (s : ModuleHandler β) (number : ℤ) (device : DeviceIdentification) : Prop :=
  ∃ modules message devices, s.thread = .counting modules message number device devices

/-- A step of the message thread asks to disconnect a device. -/
def Asks (s t : ModuleHandler β) (device : DeviceIdentification) : Prop :=
  t.toInternalQueue_ = s.toInternalQueue_ ++ [.disconnect device]

omit [BufferType β] in
theorem not_asks {device : DeviceIdentification} (h : t.toInternalQueue_ = s.toInternalQueue_) : ¬s.Asks t device := by
  intro hasks
  cases List.self_eq_append_right.mp (h.symm.trans hasks)

omit [BufferType β] in
theorem not_asks_of_message {device : DeviceIdentification} {message : InternalServer β}
    (h : t.toInternalQueue_ = s.toInternalQueue_ ++ [.message message]) : ¬s.Asks t device := by
  intro hasks
  cases List.append_cancel_left (h.symm.trans hasks)

omit [BufferType β] in
theorem countTimeouts_asks_iff {modules : List ℤ} {message : Bool} {number : ℤ} {device device' : DeviceIdentification}
    {devices : List DeviceIdentification} :
    s.Asks (s.countTimeouts modules message number device devices) device' ↔ device' = device ∧
      status_aggregation_timeout_max_count ≤ (s.statusAggregators number).deviceTimeouts_ device.key := by
  unfold countTimeouts
  dsimp only
  split
  · rename_i hmany
    constructor
    · intro hasks
      have hasks : s.toInternalQueue_ ++ [.disconnect device] = s.toInternalQueue_ ++ [.disconnect device'] := hasks
      cases List.append_cancel_left hasks
      exact ⟨rfl,hmany⟩
    · rintro ⟨rfl,-⟩
      rfl
  · rename_i hfew
    constructor
    · intro hasks
      exact absurd hasks (not_asks rfl)
    · rintro ⟨-,hmany⟩
      exact absurd hmany hfew

omit [BufferType β] in
theorem handleMessage_not_asks {device : DeviceIdentification} (h : s.handleMessage moduleLibrary_ = some t) :
    ¬s.Asks t device := by
  obtain ⟨-,-,-,rfl | ⟨-,-,rfl⟩ | ⟨device,-,rfl⟩ | ⟨status,-,rfl⟩⟩ := handleMessage_cases h
  · exact not_asks rfl
  · exact not_asks rfl
  · exact not_asks_of_message rfl
  · obtain h | ⟨_,_,_,-,-,⟨_,-,-,h⟩ | ⟨-,h⟩ | ⟨_,-,h⟩⟩ := s.handleStatus_cases moduleLibrary_ status
    all_goals
      rw [h]
      exact not_asks rfl

/-- Nowhere but in the count. -/
theorem handleMessages_not_asks {device : DeviceIdentification} (h : s.handleMessages moduleLibrary_ = some t)
    (hcommanding : ∀ status device rc, s.thread ≠ .commanding status device rc)
    (hcounting : ∀ modules message number device devices, s.thread ≠ .counting modules message number device devices) :
    ¬s.Asks t device := by
  unfold handleMessages at h
  split at h <;> rename_i hthread
  · cases h
    exact not_asks rfl
  · cases h
    unfold checkModule
    split
    · exact not_asks rfl
    · dsimp only
      split <;> exact not_asks rfl
  · obtain ⟨module_,-,rfl⟩ := Option.map_eq_some_iff.mp h
    unfold collectStatus
    split
    · exact not_asks rfl
    · split <;> exact not_asks rfl
  · exact absurd hthread (hcounting _ _ _ _ _)
  · exact handleMessage_not_asks h
  · exact absurd hthread (hcommanding _ _ _)
  · cases h
    exact not_asks rfl
  · obtain ⟨module_,-,rfl⟩ := Option.map_eq_some_iff.mp h
    exact not_asks rfl
  · obtain ⟨module_,-,rfl⟩ := Option.map_eq_some_iff.mp h
    unfold forceStatus
    split <;> exact not_asks rfl
  · obtain ⟨module_,-,rfl⟩ := Option.map_eq_some_iff.mp h
    exact not_asks rfl
  · obtain ⟨module_,-,rfl⟩ := Option.map_eq_some_iff.mp h
    exact not_asks rfl
  · cases h
    exact not_asks rfl
  · cases h

end ModuleHandler

namespace HandlerThreads
variable [BufferType β] {moduleLibrary_ : ModuleLibrary β} {s t : HandlerThreads β}

/-- How often the timer of each device has fired since its module took a status of it. -/
def observeSilence (s : HandlerThreads β) (call : ModuleLibrary β × ThreadAction β) (_ : HandlerThreads β)
    (silence : DeviceKey → ℕ) : DeviceKey → ℕ :=
  match call.2 with
  | .messages => ModuleHandler.restarts (s.handler.hears call.1) silence
  | .tick number deviceId =>
    if deviceId.module_ = number then Function.update silence deviceId (silence deviceId + 1) else silence
  | _ => silence

theorem messages_timeouts (ht : s.handleMessages moduleLibrary_ = some t) :
    t.handler.timeouts = ModuleHandler.restarts (s.handler.hears moduleLibrary_) s.handler.timeouts := by
  unfold handleMessages at ht
  split at ht
  · rename_i status device rc hthread
    rw [ModuleHandler.hears_of_thread (by rw [hthread]; rintro ⟨⟩)]
    split at ht
    · cases ht
      rfl
    · rename_i hnone
      obtain ⟨module_,-,rfl⟩ := Option.map_eq_some_iff.mp ht
      obtain ⟨hand,thread,heq,-⟩ := takeCommand_eq module_ s status device hnone
      rw [heq]
      exact s.handler.timeouts_operate _ _ _ fun _ => rfl
  · rename_i hcommanding
    obtain ⟨handler,hhandler,rfl⟩ := Option.map_eq_some_iff.mp ht
    exact ModuleHandler.handleMessages_timeouts hhandler hcommanding

theorem threadStep_timeouts {call : ModuleLibrary β × ThreadAction β} (ht : s.threadStep call = some t) :
    t.handler.timeouts = observeSilence s call t s.handler.timeouts := by
  obtain ⟨moduleLibrary_,a⟩ := call
  cases a with
  | messages => exact messages_timeouts ht
  | forwards =>
    simp only [threadStep, handleCommandForwards] at ht
    split at ht
    · rename_i hand _
      cases ht
      cases hand <;> rfl
    · split at ht
      · cases ht
      · obtain ⟨-,rfl⟩ | ⟨module_,hand,-,rfl,-⟩ := takeForwarded_eq ht
        · rfl
        · exact s.handler.timeouts_operate _ _ _ fun _ => rfl
  | command command device =>
    simp only [threadStep, handleCommands] at ht
    split at ht
    · cases ht
      obtain h | ⟨module_,-,-,h,-⟩ := updateCommand_eq moduleLibrary_ s command device
      · rw [h]
        rfl
      · rw [h]
        exact s.handler.timeouts_operate _ _ _ fun _ => rfl
    · cases ht
  | event =>
    obtain ⟨device,-,rfl⟩ := Option.map_eq_some_iff.mp ht
    rfl
  | force device =>
    obtain ⟨module_,-,rfl⟩ := Option.map_eq_some_iff.mp ht
    exact s.handler.timeouts_operate device.module_ module_ (.force_aggregation_on_device device) fun _ => rfl
  | tick number deviceId =>
    obtain ⟨module_,-,rfl⟩ := Option.map_eq_some_iff.mp ht
    have hticked :
        ((s.handler.statusAggregators number).timeouted_force_aggregation module_ deviceId).2.deviceTimeouts_ =
          Function.update (s.handler.statusAggregators number).deviceTimeouts_ deviceId
            ((s.handler.statusAggregators number).deviceTimeouts_ deviceId + 1) :=
      (StatusAggregator.operate_clock _ (.timeouted_force_aggregation deviceId)).1
    funext k
    simp only [observeSilence, withHandler]
    rw [ModuleHandler.timeouts_setAggregator, hticked]
    by_cases hk : k = deviceId
    · subst hk
      by_cases hn : k.module_ = number
      · subst hn
        simp only [if_true, Function.update_self, ModuleHandler.timeouts]
      · rw [if_neg hn, if_neg hn]
    · have hothers : (s.handler.statusAggregators k.module_).deviceTimeouts_ k = s.handler.timeouts k := rfl
      rw [Function.update_of_ne hk]
      split
      · rename_i hn
        subst hn
        split
        · rw [Function.update_of_ne hk, hothers]
        · exact hothers
      · split
        · rw [Function.update_of_ne hk]
        · rfl
  | erase number i =>
    obtain ⟨aggregator,hrun,rfl⟩ := Option.map_eq_some_iff.mp ht
    obtain ⟨key,-,rfl⟩ := Option.map_eq_some_iff.mp hrun
    exact ModuleHandler.timeouts_setAggregator_same rfl
  | _ =>
    cases ht
    rfl

theorem messages_asks_iff {device : DeviceIdentification} (ht : s.handleMessages moduleLibrary_ = some t) :
    s.handler.Asks t.handler device ↔ ∃ number, s.handler.Counts number device ∧
      status_aggregation_timeout_max_count ≤ (s.handler.statusAggregators number).deviceTimeouts_ device.key := by
  have hnot (hasks : ¬s.handler.Asks t.handler device) (hcounting : ∀ modules message number device devices,
      s.handler.thread ≠ .counting modules message number device devices) :
      s.handler.Asks t.handler device ↔ ∃ number, s.handler.Counts number device ∧
        status_aggregation_timeout_max_count ≤ (s.handler.statusAggregators number).deviceTimeouts_ device.key := by
    refine iff_of_false hasks ?_
    rintro ⟨number,⟨modules,message,devices,hthread⟩,-⟩
    exact hcounting _ _ _ _ _ hthread
  unfold handleMessages at ht
  split at ht
  · rename_i status device' rc hthread
    refine hnot ?_ (by rw [hthread]; rintro _ _ _ _ _ ⟨⟩)
    split at ht
    · cases ht
      exact ModuleHandler.not_asks_of_message rfl
    · rename_i hnone
      obtain ⟨module_,-,rfl⟩ := Option.map_eq_some_iff.mp ht
      obtain ⟨hand,thread,heq,-⟩ := takeCommand_eq module_ s status device' hnone
      rw [heq]
      exact ModuleHandler.not_asks rfl
  · rename_i hcommanding
    obtain ⟨handler,hhandler,rfl⟩ := Option.map_eq_some_iff.mp ht
    by_cases hcounting : ∀ modules message number device devices,
        s.handler.thread ≠ .counting modules message number device devices
    · exact hnot (ModuleHandler.handleMessages_not_asks hhandler hcommanding hcounting) hcounting
    · simp only [not_forall, not_not] at hcounting
      obtain ⟨modules,message,number,device',devices,hthread⟩ := hcounting
      rw [ModuleHandler.handleMessages, hthread] at hhandler
      cases hhandler
      refine ModuleHandler.countTimeouts_asks_iff.trans ⟨?_,?_⟩
      · rintro ⟨rfl,hmany⟩
        exact ⟨number,⟨modules,message,devices,hthread⟩,hmany⟩
      · rintro ⟨number',⟨modules',message',devices',hthread'⟩,hmany⟩
        obtain ⟨-,-,rfl,rfl,-⟩ := (MessageThread.counting.injEq ..).mp (hthread.symm.trans hthread')
        exact ⟨rfl,hmany⟩

/-- The other threads ask for nothing of the kind. -/
theorem threadStep_not_asks {a : ThreadAction β} {device : DeviceIdentification} (hmessages : a ≠ .messages)
    (ht : s.threadStep (moduleLibrary_,a) = some t) : ¬s.handler.Asks t.handler device := by
  cases a with
  | messages => exact absurd rfl hmessages
  | forwards =>
    simp only [threadStep, handleCommandForwards] at ht
    split at ht
    · rename_i hand _
      cases ht
      cases hand with
      | none => exact ModuleHandler.not_asks rfl
      | some hand => exact ModuleHandler.not_asks_of_message rfl
    · split at ht
      · cases ht
      · obtain ⟨-,rfl⟩ | ⟨module_,hand,-,rfl,-⟩ := takeForwarded_eq ht <;> exact ModuleHandler.not_asks rfl
  | command command device =>
    simp only [threadStep, handleCommands] at ht
    split at ht
    · cases ht
      obtain h | ⟨module_,-,-,h,-⟩ := updateCommand_eq moduleLibrary_ s command device <;>
        rw [h] <;> exact ModuleHandler.not_asks rfl
    · cases ht
  | event =>
    obtain ⟨device,-,rfl⟩ := Option.map_eq_some_iff.mp ht
    exact ModuleHandler.not_asks rfl
  | force device =>
    obtain ⟨module_,-,rfl⟩ := Option.map_eq_some_iff.mp ht
    exact ModuleHandler.not_asks rfl
  | tick number deviceId =>
    obtain ⟨module_,-,rfl⟩ := Option.map_eq_some_iff.mp ht
    exact ModuleHandler.not_asks rfl
  | erase number i =>
    obtain ⟨aggregator,-,rfl⟩ := Option.map_eq_some_iff.mp ht
    exact ModuleHandler.not_asks rfl
  | listened =>
    cases ht
    intro hasks
    have hlength := congrArg List.length hasks
    simp only [withHandler, List.length_tail, List.length_append, List.length_singleton] at hlength
    omega
  | _ =>
    cases ht
    exact ModuleHandler.not_asks rfl

theorem exec_timeouts {as : List (ModuleLibrary β × ThreadAction β)} (he : exec threadStep .init as = some s) :
    s.handler.timeouts = observe threadStep observeSilence .init (fun _ => 0) as := by
  apply exec_observe_invariant (I := fun (s : HandlerThreads β) silence => s.handler.timeouts = silence) rfl ?_
    (guarded_true _ as) he
  rintro s silence call t rfl - ht
  exact threadStep_timeouts ht

/-- In every run, whatever the modules answer, the Internal Server is asked to disconnect a device when the message
thread counts the ticks of its timer and there were two or more since the last status of the device that its
module took, and at no other time. -/
theorem exec_asks_iff {as : List (ModuleLibrary β × ThreadAction β)} (he : exec threadStep .init as = some s)
    {a : ThreadAction β} (ht : s.threadStep (moduleLibrary_,a) = some t) (device : DeviceIdentification) :
    s.handler.Asks t.handler device ↔ a = .messages ∧ s.handler.Counts device.module_ device ∧
      status_aggregation_timeout_max_count ≤ observe threadStep observeSilence .init (fun _ => 0) as device.key := by
  rw [← exec_timeouts he]
  by_cases hmessages : a = .messages
  · subst hmessages
    refine (messages_asks_iff ht).trans ⟨?_,?_⟩
    · rintro ⟨number,⟨modules,message,devices,hthread⟩,hmany⟩
      obtain rfl : device.module_ = number := (exec_coherent he).placed.collects number (device :: devices)
        (by rw [hthread]; rfl) device List.mem_cons_self
      exact ⟨rfl,⟨modules,message,devices,hthread⟩,hmany⟩
    · rintro ⟨-,hcounts,hmany⟩
      exact ⟨device.module_,hcounts,hmany⟩
  · exact iff_of_false (threadStep_not_asks hmessages ht) fun h => hmessages h.1

/-- The first status of the camera is handled, its timer expires twice, and the next round comes to the count. -/
def fallsSilent : List (ModuleLibrary (List UInt8) × ThreadAction (List UInt8)) :=
  [(pushLibrary,.receive (.message false (.deviceStatus ⟨StatusAggregator.camera,[1]⟩)))] ++
    List.replicate 8 (pushLibrary,.messages) ++
    List.replicate 2 (pushLibrary,.tick 1 StatusAggregator.camera.key) ++ List.replicate 6 (pushLibrary,.messages)

theorem exec_asks_iff_fallsSilent : ∃ s t : HandlerThreads (List UInt8), exec threadStep init fallsSilent = some s ∧
    s.threadStep (pushLibrary,.messages) = some t ∧ s.handler.Asks t.handler StatusAggregator.camera := by
  have hrun : ∃ s : HandlerThreads (List UInt8), exec threadStep init fallsSilent = some s ∧
      s.handler.thread = .counting [] false 1 StatusAggregator.camera [] := ⟨_,rfl,rfl⟩
  obtain ⟨s,hs,hthread⟩ := hrun
  obtain ⟨t,ht⟩ : ∃ t, s.threadStep (pushLibrary,.messages) = some t := by
    simp only [threadStep, handleMessages, hthread, ModuleHandler.handleMessages, Option.map_some]
    exact ⟨_,rfl⟩
  refine ⟨s,t,hs,ht,(exec_asks_iff hs ht StatusAggregator.camera).mpr ⟨rfl,⟨[],false,[],hthread⟩,?_⟩⟩
  decide +kernel

end HandlerThreads

/-! ## The round that finds the device -/

/-- The round does not come to the module before it comes to others, or it is still to begin. -/
def MessageThread.Before (thread : MessageThread β) (number : ℤ) : Prop :=
  thread = .waiting ∨ number ∈ thread.toCheck ∧ thread.toCheck.Nodup ∧ thread.collected ≠ some number

namespace ModuleHandler
variable {moduleLibrary_ : ModuleLibrary β} {s t : ModuleHandler β} {k : DeviceKey}

/-- The device is registered to stay, its timer has fired twice without a status, and the flag says so. -/
structure Silent (s : ModuleHandler β) (k : DeviceKey) : Prop where
  ready : s.ready k.module_ = true
  registered : k ∈ (s.statusAggregators k.module_).devices
  posted : k ∉ (s.statusAggregators k.module_).posted
  many : status_aggregation_timeout_max_count ≤ s.timeouts k

/-- The round has not come to the module of the silent device, or it has listed the device. -/
inductive Overdue (s : ModuleHandler β) (k : DeviceKey) : Prop
  | before (thread : s.thread.Before k.module_) (silent : s.Silent k)
  | listed (devices : List DeviceIdentification) (thread : s.thread.collects = some (k.module_,devices))
      (mem : ∃ device ∈ devices, device.key = k) (many : status_aggregation_timeout_max_count ≤ s.timeouts k)

theorem Silent.of_same (hs : s.Silent k) (h : t.statusAggregators k.module_ = s.statusAggregators k.module_) :
    t.Silent k := by
  refine ⟨?_,?_,?_,?_⟩
  · unfold ModuleHandler.ready
    rw [h]
    exact hs.ready
  · rw [h]
    exact hs.registered
  · rw [h]
    exact hs.posted
  · unfold timeouts
    rw [h]
    exact hs.many

theorem Silent.operate [BufferType β] (hs : s.Silent k) {number : ℤ} {module_ : ModuleLibraryHandler β}
    {op : Operation β} (hready : ∀ flag, op.ready flag = flag)
    (hcounts : ∀ counts : DeviceKey → ℕ, op.timeouts module_ counts = counts) :
    (s.setAggregator number ((s.statusAggregators number).operate module_ op)).Silent k := by
  by_cases hn : k.module_ = number
  · subst hn
    have hself : (s.setAggregator k.module_ ((s.statusAggregators k.module_).operate module_ op)).statusAggregators
        k.module_ = (s.statusAggregators k.module_).operate module_ op := Function.update_self _ _ _
    refine ⟨?_,?_,?_,?_⟩
    · unfold ModuleHandler.ready StatusAggregator.getTimeoutedMessageReady
      rw [hself, StatusAggregator.operate_ready, hready]
      exact hs.ready
    · rw [hself, ← AList.lookup_isSome, StatusAggregator.operate_lookup]
      exact StatusAggregator.effect_isSome (AList.lookup_isSome.mpr hs.registered)
    · rw [hself, StatusAggregator.operate_posted]
      exact hs.posted
    · rw [timeouts_operate s k.module_ module_ op hcounts]
      exact hs.many
  · exact hs.of_same (Function.update_of_ne hn _ _)

theorem runPosted_clock {number : ℤ} {i : ℕ} {aggregator : StatusAggregator β}
    (hrun : (s.statusAggregators number).runPosted i = some aggregator) :
    aggregator.deviceTimeouts_ = (s.statusAggregators number).deviceTimeouts_ ∧
      aggregator.timeoutedMessageReady_ = (s.statusAggregators number).timeoutedMessageReady_ := by
  obtain ⟨key,-,rfl⟩ := Option.map_eq_some_iff.mp hrun
  exact ⟨rfl,rfl⟩

/-- The erasure of another device. -/
theorem Silent.erase (hs : s.Silent k) {number : ℤ} {i : ℕ} {aggregator : StatusAggregator β}
    (hrun : (s.statusAggregators number).runPosted i = some aggregator) :
    (s.setAggregator number aggregator).Silent k := by
  by_cases hn : k.module_ = number
  · subst hn
    obtain ⟨htimeouts,hready⟩ := runPosted_clock hrun
    have hself : (s.setAggregator k.module_ aggregator).statusAggregators k.module_ = aggregator :=
      Function.update_self _ _ _
    refine ⟨?_,?_,?_,?_⟩
    · rw [ready_setAggregator hready]
      exact hs.ready
    all_goals obtain ⟨key,hkey,rfl⟩ := Option.map_eq_some_iff.mp hrun
    · have hne : k ≠ key := by
        rintro rfl
        exact hs.posted (List.mem_of_getElem? hkey)
      rw [hself, ← AList.lookup_isSome, AList.lookup_erase_ne hne]
      exact AList.lookup_isSome.mpr hs.registered
    · rw [hself]
      exact fun hmem => hs.posted (List.mem_of_mem_eraseIdx hmem)
    · rw [timeouts_setAggregator_same htimeouts]
      exact hs.many
  · exact hs.of_same (Function.update_of_ne hn _ _)

theorem waiting_overdue (hs : s.Silent k) {modules : List ℤ} (hmem : k.module_ ∈ modules) (hnodup : modules.Nodup)
    (message : Bool) : (s.goto (.checking modules message)).Overdue k :=
  .before (.inr ⟨hmem,hnodup,by rintro ⟨⟩⟩) (hs.of_same rfl)

theorem checkModule_overdue (hs : s.Silent k) {modules : List ℤ} {message : Bool} (hmem : k.module_ ∈ modules)
    (hnodup : modules.Nodup) (hplace : s.InPlace fun _ _ => true) : (s.checkModule modules message).Overdue k := by
  unfold checkModule
  cases modules with
  | nil => cases hmem
  | cons number modules =>
    obtain ⟨hnot,hnodup⟩ := List.nodup_cons.mp hnodup
    dsimp only
    rcases List.mem_cons.mp hmem with rfl | hlater
    · have hready : (s.statusAggregators k.module_).getTimeoutedMessageReady = true := hs.ready
      obtain ⟨d,hd⟩ := Option.isSome_iff_exists.mp (AList.lookup_isSome.mpr hs.registered)
      rw [if_pos hready]
      refine .listed _ rfl ⟨d.deviceId,?_,(hplace _ k d hd).2.1⟩ hs.many
      exact List.mem_map.mpr ⟨⟨k,d⟩,AList.mem_lookup_iff.mp hd,rfl⟩
    · have hne : number ≠ k.module_ := by
        rintro rfl
        exact hnot hlater
      split
      · exact .before (.inr ⟨hlater,hnodup,fun h => hne (Option.some.inj h)⟩) (hs.of_same rfl)
      · exact .before (.inr ⟨hlater,hnodup,by rintro ⟨⟩⟩) (hs.of_same rfl)

/-- The devices of another module are collected. -/
theorem collectStatus_overdue_other (hs : s.Silent k) {module_ : ModuleLibraryHandler β} {modules : List ℤ}
    {message : Bool} {number : ℤ} {devices : List DeviceIdentification}
    (hthread : s.thread = .collecting modules message number devices) (hmem : k.module_ ∈ modules)
    (hnodup : modules.Nodup) (hne : number ≠ k.module_) :
    (collectStatus module_ s modules message number devices).Overdue k := by
  have hsame (aggregator : StatusAggregator β) : (s.setAggregator number aggregator).statusAggregators k.module_ =
      s.statusAggregators k.module_ := Function.update_of_ne hne.symm _ _
  have hother : (some number : Option ℤ) ≠ some k.module_ := fun h => hne (Option.some.inj h)
  unfold collectStatus
  split
  · exact .before (.inr ⟨hmem,hnodup,by rintro ⟨⟩⟩) (hs.of_same (hsame _))
  · split
    · refine .before ?_ (hs.of_same (hsame _))
      rw [pushExternal_thread, setAggregator_thread, hthread]
      exact .inr ⟨hmem,hnodup,hother⟩
    · exact .before (.inr ⟨hmem,hnodup,hother⟩) (hs.of_same (hsame _))

/-- The devices of the module are collected, the silent one among them. -/
theorem collectStatus_overdue {module_ : ModuleLibraryHandler β} {modules : List ℤ} {message : Bool}
    {devices : List DeviceIdentification} (hthread : s.thread = .collecting modules message k.module_ devices)
    (hmem : ∃ device ∈ devices, device.key = k)
    (hmany : status_aggregation_timeout_max_count ≤
      (collectStatus module_ s modules message k.module_ devices).timeouts k) :
    (collectStatus module_ s modules message k.module_ devices).Overdue k := by
  apply Overdue.listed devices ?_ hmem hmany
  cases devices with
  | nil =>
    obtain ⟨device,hdevice,-⟩ := hmem
    cases hdevice
  | cons device devices =>
    unfold collectStatus
    dsimp only
    split
    · rw [pushExternal_thread, setAggregator_thread, hthread]
      rfl
    · rfl

/-- The ticks of a device of the module are counted. -/
theorem countTimeouts_overdue {modules : List ℤ} {message : Bool} {device : DeviceIdentification}
    {devices : List DeviceIdentification} (hmem : ∃ d ∈ device :: devices, d.key = k)
    (hmany : status_aggregation_timeout_max_count ≤ s.timeouts k) :
    (s.countTimeouts modules message k.module_ device devices).Overdue k ∨
      ∃ device', device'.key = k ∧ s.Asks (s.countTimeouts modules message k.module_ device devices) device' := by
  obtain ⟨found,hfound,hkey⟩ := hmem
  rcases List.mem_cons.mp hfound with rfl | hlater
  · refine .inr ⟨found,hkey,countTimeouts_asks_iff.mpr ⟨rfl,?_⟩⟩
    rw [hkey]
    exact hmany
  · left
    unfold countTimeouts
    dsimp only
    split <;> exact .listed devices rfl ⟨found,hlater,hkey⟩ hmany

theorem countTimeouts_overdue_other (hs : s.Silent k) {modules : List ℤ} {message : Bool} {number : ℤ}
    {device : DeviceIdentification} {devices : List DeviceIdentification} (hmem : k.module_ ∈ modules)
    (hnodup : modules.Nodup) (hne : number ≠ k.module_) :
    (s.countTimeouts modules message number device devices).Overdue k := by
  have hother : (some number : Option ℤ) ≠ some k.module_ := fun h => hne (Option.some.inj h)
  unfold countTimeouts
  dsimp only
  split <;> exact .before (.inr ⟨hmem,hnodup,hother⟩) (hs.of_same rfl)

variable [BufferType β]

/-- A step of the message thread brings the round nearer to the device, or asks to disconnect it. -/
theorem Overdue.handleMessages (hs : s.Overdue k) (hloaded : k.module_ ∈ moduleLibrary_.keys)
    (hplace : s.InPlace fun _ _ => true) (h : s.handleMessages moduleLibrary_ = some t) :
    t.Overdue k ∨ ∃ device, device.key = k ∧ s.Asks t device := by
  cases hs with
  | before thread silent =>
    left
    rcases thread with hwaiting | ⟨hmem,hnodup,hother⟩
    · rw [ModuleHandler.handleMessages, hwaiting] at h
      cases h
      exact waiting_overdue silent hloaded moduleLibrary_.nodupKeys _
    · cases hthread : s.thread with
      | checking modules message =>
        rw [hthread] at hmem hnodup
        rw [ModuleHandler.handleMessages, hthread] at h
        cases h
        exact checkModule_overdue silent hmem hnodup hplace
      | collecting modules message number devices =>
        rw [hthread] at hmem hnodup hother
        rw [ModuleHandler.handleMessages, hthread] at h
        obtain ⟨module_,-,rfl⟩ := Option.map_eq_some_iff.mp h
        exact collectStatus_overdue_other silent hthread hmem hnodup fun hn => hother (congrArg some hn)
      | counting modules message number device devices =>
        rw [hthread] at hmem hnodup hother
        rw [ModuleHandler.handleMessages, hthread] at h
        cases h
        exact countTimeouts_overdue_other silent hmem hnodup fun hn => hother (congrArg some hn)
      | _ =>
        rw [hthread] at hmem
        cases hmem
  | listed devices thread mem many =>
    cases hthread : s.thread with
    | collecting modules message number devices' =>
      rw [hthread] at thread
      cases thread
      have htimeouts := handleMessages_timeouts h (by rw [hthread]; rintro _ _ _ ⟨⟩)
      rw [hears_of_thread (by rw [hthread]; rintro ⟨⟩)] at htimeouts
      have hmany : status_aggregation_timeout_max_count ≤ t.timeouts k := by
        rw [htimeouts]
        exact many
      rw [ModuleHandler.handleMessages, hthread] at h
      obtain ⟨module_,-,rfl⟩ := Option.map_eq_some_iff.mp h
      exact .inl (collectStatus_overdue hthread mem hmany)
    | counting modules message number device devices' =>
      rw [hthread] at thread
      cases thread
      rw [ModuleHandler.handleMessages, hthread] at h
      cases h
      exact countTimeouts_overdue mem many
    | _ =>
      rw [hthread] at thread
      cases thread

end ModuleHandler

namespace HandlerThreads
variable [BufferType β] {moduleLibrary_ : ModuleLibrary β} {s t : HandlerThreads β} {k : DeviceKey}

theorem messages_overdue (hs : s.handler.Overdue k) (hloaded : k.module_ ∈ moduleLibrary_.keys)
    (hplace : s.handler.InPlace fun _ _ => true) (ht : s.handleMessages moduleLibrary_ = some t) :
    t.handler.Overdue k ∨ ∃ device, device.key = k ∧ s.handler.Asks t.handler device := by
  unfold handleMessages at ht
  split at ht
  · rename_i status device rc hthread
    have hnot : ¬s.handler.Overdue k := by
      rintro (⟨hbefore,-⟩ | ⟨devices,hlisted,-,-⟩)
      · rw [hthread] at hbefore
        rcases hbefore with ⟨⟨⟩⟩ | ⟨⟨⟩,-⟩
      · rw [hthread] at hlisted
        cases hlisted
    exact absurd hs hnot
  · obtain ⟨handler,hhandler,rfl⟩ := Option.map_eq_some_iff.mp ht
    exact hs.handleMessages hloaded hplace hhandler

omit [BufferType β] in
/-- Beside the message thread the device stays listed, or stays silent. -/
theorem overdue_beside (hs : s.handler.Overdue k) (hthread : t.handler.thread = s.handler.thread)
    (htimeouts : t.handler.timeouts = s.handler.timeouts) (hsilent : s.handler.Silent k → t.handler.Silent k) :
    t.handler.Overdue k := by
  cases hs with
  | listed devices thread mem many => exact .listed devices (hthread ▸ thread) mem (htimeouts ▸ many)
  | before thread silent => exact .before (hthread ▸ thread) (hsilent silent)

theorem forwards_overdue (hs : s.handler.Overdue k) (ht : s.handleCommandForwards moduleLibrary_ = some t) :
    t.handler.Overdue k := by
  unfold handleCommandForwards at ht
  split at ht
  · rename_i hand _
    cases ht
    cases hand <;> exact overdue_beside hs rfl rfl fun hsilent => hsilent.of_same rfl
  · split at ht
    · cases ht
    · obtain ⟨-,rfl⟩ | ⟨module_,hand,-,rfl,-⟩ := takeForwarded_eq ht
      · exact overdue_beside hs rfl rfl fun hsilent => hsilent.of_same rfl
      · exact overdue_beside hs rfl (s.handler.timeouts_operate _ _ _ fun _ => rfl) fun hsilent =>
          hsilent.operate (fun _ => rfl) fun _ => rfl

omit [BufferType β] in
theorem erase_overdue (hs : s.handler.Overdue k) {number : ℤ} {i : ℕ} {aggregator : StatusAggregator β}
    (hrun : (s.handler.statusAggregators number).runPosted i = some aggregator) :
    (s.withHandler (s.handler.setAggregator number aggregator)).handler.Overdue k := by
  have htimeouts := ModuleHandler.timeouts_setAggregator_same (ModuleHandler.runPosted_clock hrun).1
  exact overdue_beside hs rfl htimeouts fun hsilent => hsilent.erase hrun

end HandlerThreads
end ModuleGateway.Modules
