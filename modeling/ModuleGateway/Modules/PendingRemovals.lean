import ModuleGateway.Modules.RegisteredDevices
import ModuleGateway.Modules.Answers

/-! # The devices that remain

What becomes of an entry when everything that waits has run: the message thread finishes the message
at the front, handles the other ones, and the posted erasures run. Only a status brings back what a
disconnect takes away, so no step of the Module Handler makes an entry remain that did not.
-/
namespace ModuleGateway.Modules
open Structures Execution

variable {β : Type}

/-- The message at the front of `fromInternalQueue_` has been acted on and is still there. -/
def MessageThread.handled : MessageThread β → Bool
  | .waiting | .checking _ _ | .collecting _ _ _ _ | .counting _ _ _ _ _ | .handling => false
  | .commanding _ _ _ | .sending _ _ | .forcing _ | .disconnecting _ | .removing _ | .popping | .terminated => true

/-- The message thread is about to remove the device. -/
def MessageThread.removes (k : DeviceKey) : MessageThread β → Bool
  | .forcing device | .disconnecting device | .removing device => device.key == k
  | _ => false

theorem MessageThread.removes_of_not_handled {k : DeviceKey} {thread : MessageThread β}
    (h : thread.handled = false) : thread.removes k = false := by
  cases thread <;> first | rfl | cases h

/-- The module is loaded and supports the type. -/
def ofLibrary (modules : List ℤ) (supported : ℤ → UInt32 → Bool) (number : ℤ) (device_type : UInt32) : Bool :=
  modules.contains number && supported number device_type

theorem ofLibrary_iff {modules : List ℤ} {supported : ℤ → UInt32 → Bool} {number : ℤ} {device_type : UInt32} :
    ofLibrary modules supported number device_type = true ↔
      number ∈ modules ∧ supported number device_type = true := by
  rw [ofLibrary, Bool.and_eq_true, List.contains_iff_mem]

/-- Whether a device is registered after a message, when it was before it or not. -/
def leaves (k : DeviceKey) (registered : Bool) (message : InternalClientMessage β) : Bool :=
  if message.disconnected then registered && message.getDeviceId.key != k
  else match message with
    | .message _ (.deviceStatus status) => registered || status.device.key == k
    | _ => registered

theorem leaves_disconnected {k : DeviceKey} {message : InternalClientMessage β} (h : message.disconnected = true)
    (b : Bool) : leaves k b message = (b && message.getDeviceId.key != k) := by
  unfold leaves
  exact if_pos h

/-- Only a disconnect takes a device away. -/
theorem leaves_connected {k : DeviceKey} {message : InternalClientMessage β} (h : ¬message.disconnected = true) :
    leaves k true message = true := by
  unfold leaves
  rw [if_neg h]
  split <;> rfl

theorem leaves_status {k : DeviceKey} {status : DeviceStatus β} (h : status.device.key = k) (b : Bool) :
    leaves k b (.message false (.deviceStatus status)) = true :=
  Bool.or_eq_true_iff.mpr (.inr (beq_iff_eq.mpr h))

theorem leaves_mono {k : DeviceKey} {message : InternalClientMessage β} {b b' : Bool} (h : b = true → b' = true)
    (hb : leaves k b message = true) : leaves k b' message = true := by
  unfold leaves at hb ⊢
  split at hb
  · rename_i hd
    rw [if_pos hd]
    rw [Bool.and_eq_true] at hb ⊢
    exact ⟨h hb.1,hb.2⟩
  · rename_i hd
    rw [if_neg hd]
    split at hb
    · rw [Bool.or_eq_true] at hb ⊢
      exact hb.imp_left h
    · exact h hb

theorem foldl_leaves_mono {k : DeviceKey} {messages : List (InternalClientMessage β)} {b b' : Bool}
    (h : b = true → b' = true) (hb : messages.foldl (leaves k) b = true) : messages.foldl (leaves k) b' = true := by
  induction messages generalizing b b' with
  | nil => exact h hb
  | cons message messages ih => exact ih (leaves_mono h) hb

/-- The erasure of a device that is valid is posted. -/
theorem StatusAggregator.remove_device_posted (module_ : ModuleLibraryHandler β) (s : StatusAggregator β)
    (device : DeviceIdentification) : (s.remove_device module_ device).2.posted =
      s.posted ++ if s.isDeviceValidUnlocked module_ device.key = .NOT_OK then [] else [device.key] := by
  unfold remove_device
  split
  · exact (List.append_nil _).symm
  · rw [clearDeviceUnlocked_eq]
    split
    · contradiction
    · exact congrArg (· ++ _) (modifyAt_rest s _ _).1

namespace ModuleHandler
variable {moduleLibrary_ : ModuleLibrary β} {s t : ModuleHandler β}

/-- The messages that the thread has not acted on. -/
def unhandled (s : ModuleHandler β) : List (InternalClientMessage β) :=
  if s.thread.handled then s.fromInternalQueue_.tail else s.fromInternalQueue_

/-- The entry is there, and no erasure of it is posted. -/
def kept (s : ModuleHandler β) (k : DeviceKey) : Bool :=
  (s.entry k).isSome && !(s.statusAggregators k.module_).posted.contains k

/-- The device is registered after everything that waits has run. -/
def remains (s : ModuleHandler β) (k : DeviceKey) : Bool :=
  s.unhandled.foldl (leaves k) (s.kept k && !s.thread.removes k)

/-- A message that the thread has acted on is still at the front. -/
def FrontHeld (s : ModuleHandler β) : Prop := s.thread.handled = true → s.fromInternalQueue_ ≠ []

theorem kept_iff {k : DeviceKey} : s.kept k = true ↔
    (s.entry k).isSome ∧ k ∉ (s.statusAggregators k.module_).posted := by
  rw [kept, Bool.and_eq_true, Bool.not_eq_true', List.contains_eq_mem, decide_eq_false_iff_not]

/-- With the same messages to handle, an entry remains when it did. -/
theorem remains_of_le {k : DeviceKey} (hunhandled : t.unhandled = s.unhandled)
    (hkept : (t.kept k && !t.thread.removes k) = true → (s.kept k && !s.thread.removes k) = true)
    (h : t.remains k = true) : s.remains k = true := by
  unfold remains at h ⊢
  rw [hunhandled] at h
  exact foldl_leaves_mono hkept h

/-- The thread acts on the message at the front. -/
theorem remains_of_handled {k : DeviceKey} {message : InternalClientMessage β}
    {rest : List (InternalClientMessage β)} (hqueue : s.fromInternalQueue_ = message :: rest)
    (hbefore : s.thread.handled = false) (hincoming : t.fromInternalQueue_ = s.fromInternalQueue_)
    (hafter : t.thread.handled = true)
    (hkept : (t.kept k && !t.thread.removes k) = true →
      leaves k (s.kept k && !s.thread.removes k) message = true)
    (h : t.remains k = true) : s.remains k = true := by
  unfold remains unhandled at h ⊢
  rw [if_pos hafter, hincoming, hqueue] at h
  rw [if_neg (by rw [hbefore]; nofun), hqueue, List.foldl_cons]
  exact foldl_leaves_mono hkept h

/-- Messages that come in behind the one at the front. -/
theorem remains_append (incoming : List (InternalClientMessage β))
    (hfront : s.FrontHeld) (k : DeviceKey) :
    ({ s with fromInternalQueue_ := s.fromInternalQueue_ ++ incoming } : ModuleHandler β).remains k =
      incoming.foldl (leaves k) (s.remains k) := by
  have hunhandled : ({ s with fromInternalQueue_ := s.fromInternalQueue_ ++ incoming } : ModuleHandler β).unhandled =
      s.unhandled ++ incoming := by
    unfold unhandled
    dsimp only
    split
    · rename_i hhandled
      exact List.tail_append_of_ne_nil (hfront hhandled)
    · rfl
  unfold remains
  rw [hunhandled, List.foldl_append]
  rfl

/-! ## Entries that are kept -/

variable [BufferType β]

/-- A step keeps no entry that was not kept, unless it adds the status of the device. -/
theorem AggregatorChange.kept (h : AggregatorChange moduleLibrary_ s t) {k : DeviceKey} (hk : t.kept k = true) :
    s.kept k = true ∨ ∃ status, s.StatusAtFront status ∧ status.device.key = k := by
  rw [kept_iff] at hk ⊢
  obtain ⟨hentry,hposted⟩ := hk
  have hoperate : ∀ {number : ℤ} {module_ : ModuleLibraryHandler β} {op : Operation β},
      t.statusAggregators = Function.update s.statusAggregators number
        ((s.statusAggregators number).operate module_ op) →
      k ∉ (s.statusAggregators k.module_).posted ∧ ((s.entry k).isSome ∨
        ∃ status device, op = .add_status_to_aggregator status device ∧ k = device.key) := by
    intro number module_ op haggregators
    unfold ModuleHandler.entry at hentry ⊢
    rw [haggregators] at hentry hposted
    by_cases hn : k.module_ = number
    · subst hn
      rw [Function.update_self] at hentry hposted
      rw [StatusAggregator.operate_posted] at hposted
      rw [StatusAggregator.operate_lookup] at hentry
      refine ⟨hposted,?_⟩
      cases hlookup : (s.statusAggregators k.module_).devices.lookup k with
      | some d => exact .inl rfl
      | none =>
        rw [hlookup] at hentry
        obtain ⟨status,device,hop,hkey,-⟩ := StatusAggregator.effect_none hentry
        exact .inr ⟨status,device,hop,hkey⟩
    · rw [Function.update_of_ne hn] at hentry hposted
      exact ⟨hposted,.inl hentry⟩
  cases h with
  | same aggregators =>
    unfold ModuleHandler.entry at hentry
    rw [aggregators] at hentry hposted
    exact .inl ⟨hentry,hposted⟩
  | operate number module_ op loaded noAdd aggregators =>
    obtain ⟨hposted,hentry | ⟨status,device,hop,-⟩⟩ := hoperate aggregators
    · exact .inl ⟨hentry,hposted⟩
    · exact absurd hop (noAdd status device)
  | add status module_ loaded front aggregators =>
    obtain ⟨hposted,hentry | ⟨_,_,⟨⟩,hkey⟩⟩ := hoperate aggregators
    · exact .inl ⟨hentry,hposted⟩
    · exact .inr ⟨status,front,hkey.symm⟩
  | remove device module_ loaded thread aggregators =>
    left
    unfold ModuleHandler.entry at hentry ⊢
    rw [aggregators] at hentry hposted
    by_cases hn : k.module_ = device.module_
    · rw [hn, Function.update_self] at hentry hposted
      rw [hn]
      rw [StatusAggregator.remove_device_devices] at hentry
      have hlookup : ((s.statusAggregators device.module_).operate module_ (.clear_device device)).devices.lookup k = _ :=
        StatusAggregator.operate_lookup _ _ _
      rw [hlookup] at hentry
      rw [StatusAggregator.remove_device_posted] at hposted
      refine ⟨?_,fun hmem => hposted (List.mem_append_left _ hmem)⟩
      cases hd : (s.statusAggregators device.module_).devices.lookup k with
      | some d => rfl
      | none =>
        rw [hd] at hentry
        obtain ⟨_,_,⟨⟩,-⟩ := StatusAggregator.effect_none hentry
    · rw [Function.update_of_ne hn] at hentry hposted
      exact ⟨hentry,hposted⟩
  | erase number i aggregator run aggregators =>
    left
    obtain ⟨device,hi,rfl⟩ := Option.map_eq_some_iff.mp run
    unfold ModuleHandler.entry at hentry ⊢
    rw [aggregators] at hentry hposted
    by_cases hn : k.module_ = number
    · subst hn
      rw [Function.update_self] at hentry hposted
      have hne : k ≠ device := by
        rintro rfl
        rw [AList.lookup_erase] at hentry
        cases hentry
      rw [AList.lookup_erase_ne hne] at hentry
      refine ⟨hentry,fun hmem => hposted ?_⟩
      obtain ⟨j,hj⟩ := List.mem_iff_getElem?.mp hmem
      rw [List.mem_eraseIdx_iff_getElem?]
      refine ⟨j,?_,hj⟩
      rintro rfl
      exact hne (Option.some.inj (hj.symm.trans hi))
    · rw [Function.update_of_ne hn] at hentry hposted
      exact ⟨hentry,hposted⟩

/-! ## The message thread -/

omit [BufferType β] in
/-- Every registered device is of a loaded module that supports its type. -/
def Served (moduleLibrary_ : ModuleLibrary β) (s : ModuleHandler β) : Prop :=
  ∀ number key, ((s.statusAggregators number).devices.lookup key).isSome →
    ∃ module_, moduleLibrary_.lookup number = some module_ ∧ module_.isDeviceTypeSupported key.deviceType = .OK

omit [BufferType β] in
theorem InPlace.served {modules : List ℤ} {supported : ℤ → UInt32 → Bool}
    (hs : s.InPlace (ofLibrary modules supported)) (hkeys : moduleLibrary_.keys = modules)
    (hsupports : HandlerThreads.Supports supported moduleLibrary_) : s.Served moduleLibrary_ := by
  intro number key hentry
  obtain ⟨d,hd⟩ := Option.isSome_iff_exists.mp hentry
  obtain ⟨hloaded,hsupported⟩ := ofLibrary_iff.mp (hs number key d hd).2.2
  rw [← hkeys] at hloaded
  obtain ⟨module_,hm⟩ := Option.isSome_iff_exists.mp (AList.lookup_isSome.mpr hloaded)
  refine ⟨module_,hm,?_⟩
  rw [hsupports number module_ hm, if_pos hsupported]

omit [BufferType β] in
theorem Served.entry_of_unloaded (hs : s.Served moduleLibrary_) {device : DeviceIdentification}
    (hm : moduleLibrary_.lookup device.module_ = none) : s.entry device.key = none := by
  rw [← Option.not_isSome_iff_eq_none]
  intro hentry
  obtain ⟨module_,hloaded,-⟩ := hs device.module_ device.key hentry
  rw [hm] at hloaded
  cases hloaded

omit [BufferType β] in
theorem Served.entry_of_invalid (hs : s.Served moduleLibrary_) {device : DeviceIdentification}
    {module_ : ModuleLibraryHandler β} (hm : moduleLibrary_.lookup device.module_ = some module_)
    (hinvalid : (s.statusAggregators device.module_).isDeviceValidUnlocked module_ device.key = .NOT_OK) :
    s.entry device.key = none := by
  rw [← Option.not_isSome_iff_eq_none]
  intro hentry
  obtain ⟨module',hloaded,hsupported⟩ := hs device.module_ device.key hentry
  obtain rfl := Option.some.inj (hm.symm.trans hloaded)
  obtain hunsupported | hnone := (StatusAggregator.isDeviceValidUnlocked_eq_NOT_OK_iff module_ _ _).mp hinvalid
  · exact hunsupported hsupported
  · unfold ModuleHandler.entry at hentry
    rw [show device.key.module_ = device.module_ from rfl, hnone] at hentry
    cases hentry

omit [BufferType β] in
theorem kept_of_entry {k : DeviceKey} (h : s.entry k = none) : s.kept k = false := by
  rw [kept, h]
  rfl

/-- A step that only changes the aggregators, and works on for the same message. -/
theorem AggregatorChange.remains (h : AggregatorChange moduleLibrary_ s t)
    (hincoming : t.fromInternalQueue_ = s.fromInternalQueue_) (hhandled : t.thread.handled = s.thread.handled)
    {k : DeviceKey} (hremoves : s.thread.removes k = true → t.kept k = true → t.thread.removes k = true)
    (hk : t.remains k = true) : s.remains k = true := by
  have hunhandled : t.unhandled = s.unhandled := by
    unfold unhandled
    rw [hincoming, hhandled]
  by_cases hfront : ∃ status, s.StatusAtFront status ∧ status.device.key = k
  · -- a status of the device still waits, whatever happened to its entry
    obtain ⟨status,⟨hthread,rest,hqueue⟩,hkey⟩ := hfront
    have hwaits : s.unhandled = .message false (.deviceStatus status) :: rest := by
      unfold unhandled
      rw [hthread]
      exact hqueue
    unfold ModuleHandler.remains at hk ⊢
    rw [hunhandled, hwaits, List.foldl_cons] at hk
    rw [hwaits, List.foldl_cons]
    exact foldl_leaves_mono (fun _ => leaves_status hkey _) hk
  · refine remains_of_le hunhandled ?_ hk
    rw [Bool.and_eq_true, Bool.and_eq_true, Bool.not_eq_true', Bool.not_eq_true']
    rintro ⟨hkept,hnot⟩
    refine ⟨(h.kept hkept).resolve_right hfront,?_⟩
    rw [← Bool.not_eq_true]
    intro hremoving
    rw [hremoves hremoving hkept] at hnot
    cases hnot

/-- The thread takes up the message at the front. -/
theorem remains_handleMessage (hthread : s.thread = .handling) (hs : s.Served moduleLibrary_)
    (h : s.handleMessage moduleLibrary_ = some t) {k : DeviceKey} (hk : t.remains k = true) :
    s.remains k = true := by
  have hchange := handleMessage_change hthread h
  have hremoves : s.thread.removes k = false := by rw [hthread]; rfl
  have hbefore : s.thread.handled = false := by rw [hthread]; rfl
  unfold handleMessage at h
  split at h
  · cases h
  · rename_i message rest hqueue
    split at h
    · rename_i hdisconnected
      cases h
      -- the device goes, or was not there to begin with
      have hgone : s.entry message.getDeviceId.key = none → s.kept k = true →
          leaves k (s.kept k && !s.thread.removes k) message = true := by
        intro hnone hkept
        have hne : message.getDeviceId.key ≠ k := by
          rintro rfl
          rw [kept_of_entry hnone] at hkept
          cases hkept
        rw [leaves_disconnected hdisconnected, hkept, hremoves]
        simpa using hne
      unfold handleDisconnect at hk
      split at hk
      · rename_i hm
        refine remains_of_handled (t := s.goto .popping) hqueue hbefore rfl rfl ?_ hk
        intro hkept
        exact hgone (hs.entry_of_unloaded hm) (Bool.and_eq_true_iff.mp hkept).1
      · rename_i module_ hm
        split at hk
        · rename_i hinvalid
          refine remains_of_handled (t := s.goto .popping) hqueue hbefore rfl rfl ?_ hk
          intro hkept
          exact hgone (hs.entry_of_invalid hm hinvalid) (Bool.and_eq_true_iff.mp hkept).1
        · refine remains_of_handled (t := s.goto (.forcing message.getDeviceId)) hqueue hbefore rfl rfl ?_ hk
          intro hkept
          obtain ⟨hkept,hnot⟩ := Bool.and_eq_true_iff.mp hkept
          rw [leaves_disconnected hdisconnected, hremoves]
          exact Bool.and_eq_true_iff.mpr ⟨Bool.and_eq_true_iff.mpr ⟨hkept,rfl⟩,hnot⟩
    · rename_i hconnected
      have hmessage : t.kept k = true → leaves k (s.kept k && !s.thread.removes k) message = true := by
        intro hkept
        obtain hkept | ⟨status,⟨-,rest',hfront⟩,hkey⟩ := hchange.kept hkept
        · rw [hkept, hremoves]
          exact leaves_connected hconnected
        · obtain rfl : message = .message false (.deviceStatus status) := by
            rw [hqueue] at hfront
            exact List.head_eq_of_cons_eq hfront
          exact leaves_status hkey _
      have hrest : t.fromInternalQueue_ = s.fromInternalQueue_ → t.thread.handled = true → s.remains k = true :=
        fun hincoming hafter => remains_of_handled hqueue hbefore hincoming hafter
          (fun hkept => hmessage (Bool.and_eq_true_iff.mp hkept).1) hk
      split at h
      · cases h
        exact hrest rfl rfl
      · cases h
        clear hchange hmessage hk
        unfold handleStatus at hrest
        dsimp only at hrest
        split at hrest
        · exact hrest rfl rfl
        · split at hrest
          · exact hrest rfl rfl
          · split at hrest <;> exact hrest rfl rfl
      · cases h
        exact hrest rfl rfl

omit [BufferType β] in
/-- Forcing the aggregation of a device that is there gives at least one status. -/
theorem forceStatus_thread {device : DeviceIdentification} {module_ : ModuleLibraryHandler β}
    (hm : moduleLibrary_.lookup device.module_ = some module_) (hs : s.Served moduleLibrary_)
    (hkept : (forceStatus module_ s device).kept device.key = true) :
    (forceStatus module_ s device).thread = .disconnecting device := by
  have hdevice : device.key.module_ = device.module_ := rfl
  by_cases hinvalid : (s.statusAggregators device.module_).isDeviceValidUnlocked module_ device.key = .NOT_OK
  · have hforced : (s.statusAggregators device.module_).force_aggregation_on_device module_ device =
        (.error .DEVICE_NOT_REGISTERED,s.statusAggregators device.module_) := if_pos hinvalid
    have hnone := hs.entry_of_invalid hm hinvalid
    unfold forceStatus at hkept
    rw [hforced] at hkept
    have hentry := (kept_iff.mp hkept).1
    rw [entry_goto, entry_setAggregator, if_pos hdevice] at hentry
    unfold ModuleHandler.entry at hnone
    rw [hdevice] at hnone
    rw [hnone] at hentry
    cases hentry
  · obtain ⟨n,hforced⟩ : ∃ n, (s.statusAggregators device.module_).force_aggregation_on_device module_ device =
        (.ok n,(s.statusAggregators device.module_).modifyAt device.key fun d => d.push d.status_) :=
      ⟨_,if_neg hinvalid⟩
    have hlength := StatusAggregator.force_aggregation_on_device_backed module_ hforced
    rw [StatusAggregator.modifyAt_lookup, if_pos rfl] at hlength
    cases hlookup : (s.statusAggregators device.module_).devices.lookup device.key with
    | none => exact absurd ((StatusAggregator.isDeviceValidUnlocked_eq_NOT_OK_iff module_ _ _).mpr (.inr hlookup)) hinvalid
    | some d =>
      rw [hlookup, Option.map_some, Option.elim_some, StatusAggregatorDeviceState.push, List.length_append,
        List.length_singleton] at hlength
      subst hlength
      unfold forceStatus
      rw [hforced]
      rfl

/-- After the removal of a device its erasure is posted. -/
theorem kept_removeDevice {device : DeviceIdentification} {module_ : ModuleLibraryHandler β}
    (hm : moduleLibrary_.lookup device.module_ = some module_) (hs : s.Served moduleLibrary_) :
    (removeDevice module_ s device).kept device.key = false := by
  rw [← Bool.not_eq_true]
  intro hkept
  obtain ⟨hentry,hposted⟩ := kept_iff.mp hkept
  have hdevice : device.key.module_ = device.module_ := rfl
  have haggregator : (removeDevice module_ s device).statusAggregators device.module_ =
      ((s.statusAggregators device.module_).remove_device module_ device).2 := Function.update_self ..
  rw [hdevice, haggregator, StatusAggregator.remove_device_posted] at hposted
  split at hposted
  · rename_i hinvalid
    unfold ModuleHandler.entry at hentry
    have hnone := hs.entry_of_invalid hm hinvalid
    rw [hdevice, haggregator, StatusAggregator.remove_device_devices,
      StatusAggregator.operate_lookup] at hentry
    unfold ModuleHandler.entry at hnone
    rw [hdevice] at hnone
    rw [hnone] at hentry
    obtain ⟨_,_,⟨⟩,-⟩ := StatusAggregator.effect_none hentry
  · exact hposted (List.mem_append_right _ List.mem_cons_self)

/-- The message thread outside `get_command`, when it does not take up a message or let one go. -/
theorem handleMessages_frame (hs : s.Served moduleLibrary_) (h : s.handleMessages moduleLibrary_ = some t)
    (hcommanding : ∀ status device rc, s.thread ≠ .commanding status device rc) (hhandling : s.thread ≠ .handling)
    (hpopping : s.thread ≠ .popping) :
    t.fromInternalQueue_ = s.fromInternalQueue_ ∧ t.thread.handled = s.thread.handled ∧
      ∀ k, s.thread.removes k = true → t.kept k = true → t.thread.removes k = true := by
  unfold handleMessages at h
  split at h <;> rename_i hthread
  · cases h
    rw [hthread]
    exact ⟨rfl,rfl,nofun⟩
  · cases h
    rw [hthread]
    unfold checkModule
    split
    · split <;> exact ⟨rfl,rfl,nofun⟩
    · dsimp only
      split <;> exact ⟨rfl,rfl,nofun⟩
  · obtain ⟨module_,-,rfl⟩ := Option.map_eq_some_iff.mp h
    rw [hthread]
    unfold collectStatus
    split
    · exact ⟨rfl,rfl,nofun⟩
    · split
      · exact ⟨rfl,congrArg MessageThread.handled hthread,nofun⟩
      · exact ⟨rfl,rfl,nofun⟩
  · cases h
    rw [hthread]
    unfold countTimeouts
    dsimp only
    split <;> exact ⟨rfl,rfl,nofun⟩
  · exact absurd hthread hhandling
  · exact absurd hthread (hcommanding _ _ _)
  · cases h
    rw [hthread]
    exact ⟨rfl,rfl,nofun⟩
  · obtain ⟨module_,-,rfl⟩ := Option.map_eq_some_iff.mp h
    rw [hthread]
    exact ⟨rfl,rfl,nofun⟩
  · rename_i device
    obtain ⟨module_,hm,rfl⟩ := Option.map_eq_some_iff.mp h
    rw [hthread]
    refine ⟨?_,?_,?_⟩
    · unfold forceStatus
      split <;> rfl
    · unfold forceStatus
      split <;> rfl
    · intro k hremoves hkept
      obtain rfl : device.key = k := by simpa [MessageThread.removes] using hremoves
      rw [forceStatus_thread hm hs hkept]
      exact hremoves
  · obtain ⟨module_,-,rfl⟩ := Option.map_eq_some_iff.mp h
    rw [hthread]
    exact ⟨rfl,rfl,fun k hremoves _ => hremoves⟩
  · rename_i device
    obtain ⟨module_,hm,rfl⟩ := Option.map_eq_some_iff.mp h
    rw [hthread]
    refine ⟨rfl,rfl,?_⟩
    intro k hremoves hkept
    obtain rfl : device.key = k := by simpa [MessageThread.removes] using hremoves
    rw [kept_removeDevice hm hs] at hkept
    cases hkept
  · exact absurd hthread hpopping
  · cases h

/-- The message thread outside `get_command`. -/
theorem remains_handleMessages (hs : s.Served moduleLibrary_) (h : s.handleMessages moduleLibrary_ = some t)
    (hcommanding : ∀ status device rc, s.thread ≠ .commanding status device rc) {k : DeviceKey}
    (hk : t.remains k = true) : s.remains k = true := by
  by_cases hhandling : s.thread = .handling
  · rw [handleMessages, hhandling] at h
    exact remains_handleMessage hhandling hs h hk
  by_cases hpopping : s.thread = .popping
  · rw [handleMessages, hpopping] at h
    cases h
    refine remains_of_le ?_ ?_ hk
    · unfold unhandled
      rw [hpopping]
      rfl
    · rw [hpopping]
      exact id
  obtain ⟨hincoming,hhandled,hremoves⟩ := handleMessages_frame hs h hcommanding hhandling hpopping
  exact (handleMessages_change h hcommanding).remains hincoming hhandled (hremoves k) hk

theorem FrontHeld.handleMessages (hs : s.FrontHeld) (hserved : s.Served moduleLibrary_)
    (h : s.handleMessages moduleLibrary_ = some t)
    (hcommanding : ∀ status device rc, s.thread ≠ .commanding status device rc) : t.FrontHeld := by
  by_cases hhandling : s.thread = .handling
  · rw [ModuleHandler.handleMessages, hhandling] at h
    intro _
    have hne : s.fromInternalQueue_ ≠ [] := by
      intro hnil
      rw [handleMessage, hnil] at h
      cases h
    cases handleMessage_answers (by rw [hhandling]; rfl) h with
    | quiet devices incoming => rwa [incoming]
    | answers message incoming => rwa [incoming]
    | pops incoming outgoing before => rw [hhandling] at before; cases before
  by_cases hpopping : s.thread = .popping
  · rw [ModuleHandler.handleMessages, hpopping] at h
    cases h
    rintro ⟨⟩
  obtain ⟨hincoming,hhandled,-⟩ := handleMessages_frame hserved h hcommanding hhandling hpopping
  unfold FrontHeld
  rwa [hhandled, hincoming]

end ModuleHandler

/-! ## All threads -/

namespace HandlerThreads
variable [BufferType β] {moduleLibrary_ : ModuleLibrary β} {s t : HandlerThreads β}

theorem remains_messages (hs : s.handler.Served moduleLibrary_) (ht : s.handleMessages moduleLibrary_ = some t)
    {k : DeviceKey} (hk : t.handler.remains k = true) : s.handler.remains k = true := by
  have hchange := messages_change ht
  unfold handleMessages at ht
  split at ht
  · rename_i status device rc hthread
    have hnothing : ∀ k, s.handler.thread.removes k = true → t.handler.kept k = true →
        t.handler.thread.removes k = true := by
      rw [hthread]
      nofun
    split at ht
    · cases ht
      exact hchange.remains rfl (by rw [hthread]; rfl) (hnothing k) hk
    · rename_i hnone
      obtain ⟨module_,-,rfl⟩ := Option.map_eq_some_iff.mp ht
      obtain ⟨hand,thread,heq,hthread'⟩ := takeCommand_eq module_ s status device hnone
      rw [heq] at hchange hnothing hk
      refine hchange.remains rfl ?_ (hnothing k) hk
      obtain ⟨-,-,rfl,-⟩ | ⟨-,rfl | rfl⟩ := hthread' <;> rw [hthread] <;> rfl
  · rename_i hcommanding
    obtain ⟨handler,hhandler,rfl⟩ := Option.map_eq_some_iff.mp ht
    exact ModuleHandler.remains_handleMessages hs hhandler hcommanding hk

/-- What remains after a step of the Module Handler remained before it. -/
theorem remains_threadStep (hs : s.handler.Served moduleLibrary_) {a : ThreadAction β} (ha : a.ofServer = false)
    (ht : s.threadStep (moduleLibrary_,a) = some t) {k : DeviceKey} (hk : t.handler.remains k = true) :
    s.handler.remains k = true := by
  by_cases hmessages : a = .messages
  · subst hmessages
    exact remains_messages hs ht hk
  · obtain ⟨hchange,hthread,-⟩ := other_change hmessages ht
    obtain ⟨forwarded,hleaves⟩ := threadStep_leaves hmessages ha ht
    refine hchange.remains hleaves.incoming (congrArg MessageThread.handled hthread) ?_ hk
    intro hremoves _
    rwa [hthread]

/-- The message that the thread acts on is at the front. -/
theorem front_messages (hs : s.handler.FrontHeld) (hserved : s.handler.Served moduleLibrary_)
    (ht : s.handleMessages moduleLibrary_ = some t) : t.handler.FrontHeld := by
  have hanswers := handleMessages_answers ht
  unfold handleMessages at ht
  split at ht
  · rename_i status device rc hthread
    have hne : s.handler.fromInternalQueue_ ≠ [] := hs (by rw [hthread]; rfl)
    intro _
    cases hanswers with
    | quiet devices incoming => rwa [incoming]
    | answers message incoming => rwa [incoming]
    | pops incoming outgoing before => rw [hthread] at before; cases before
  · rename_i hcommanding
    obtain ⟨handler,hhandler,rfl⟩ := Option.map_eq_some_iff.mp ht
    exact hs.handleMessages hserved hhandler hcommanding

theorem front_threadStep (hs : s.handler.FrontHeld) (hserved : s.handler.Served moduleLibrary_)
    {a : ThreadAction β} (ha : a.ofServer = false) (ht : s.threadStep (moduleLibrary_,a) = some t) :
    t.handler.FrontHeld := by
  by_cases hmessages : a = .messages
  · subst hmessages
    exact front_messages hs hserved ht
  · obtain ⟨forwarded,hleaves⟩ := threadStep_leaves hmessages ha ht
    unfold ModuleHandler.FrontHeld
    rwa [hleaves.thread, hleaves.incoming]

end HandlerThreads

end ModuleGateway.Modules
