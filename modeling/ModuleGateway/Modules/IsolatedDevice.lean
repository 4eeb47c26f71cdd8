import ModuleGateway.Modules.IsolatedAggregator
import ModuleGateway.Modules.Answers

/-! # The share of one device

A Module Handler in which there is only one device, next to one that has others too: the entry of
the device, its messages and its events are the same, and the message thread is at the same place
as long as it is at a message of the device or at none. Every step of the whole handler is a step
of the device alone, or nothing that the device could see.
-/
namespace ModuleGateway.Modules
open Structures Execution

variable {β : Type}

/-- The identity that a message of the Internal Server is about, as `handleMessages` takes it. -/
def subject (message : InternalClientMessage β) : Option DeviceKey :=
  if message.disconnected then some message.getDeviceId.key
  else
    match message with
    | .message _ (.deviceStatus status) => some status.device.key
    | .message _ (.deviceConnect device) => some device.key
    | _ => none

/-- The identity that a message of the Module Handler goes to. -/
def recipient : ModuleHandlerMessage β → DeviceKey
  | .disconnect deviceId => deviceId.key
  | .message (.deviceCommand command) => command.device.key
  | .message (.deviceConnectResponse _ device) => device.key

namespace MessageThread

/-- The thread is at a message that it has found in the queue. -/
def hasMessage : MessageThread β → Bool
  | .waiting | .terminated => false
  | .checking _ message | .collecting _ message _ _ | .counting _ message _ _ _ => message
  | _ => true

/-- The thread handles a message, past the collection of the timeouted statuses. -/
def handles : MessageThread β → Bool
  | .waiting | .checking _ _ | .collecting _ _ _ _ | .counting _ _ _ _ _ | .terminated => false
  | _ => true

/-- The module whose devices are collected, and those that are still to come. -/
def collects : MessageThread β → Option (ℤ × List DeviceIdentification)
  | .collecting _ _ number devices => some (number,devices)
  | .counting _ _ number device devices => some (number,device :: devices)
  | _ => none

theorem hasMessage_of_handles {thread : MessageThread β} (h : thread.handles = true) : thread.hasMessage = true := by
  cases thread <;> first | rfl | cases h

theorem collects_of_handles {thread : MessageThread β} (h : thread.handles = true) : thread.collects = none := by
  cases thread <;> first | rfl | cases h

end MessageThread

namespace ModuleHandler
variable {s t : ModuleHandler β} {k : DeviceKey} {flag : Bool}

/-- The message at the front is about the device. -/
def atFront (s : ModuleHandler β) (k : DeviceKey) : Bool :=
  s.fromInternalQueue_.head?.any fun message => subject message = some k

/-- `t` has no device but `k`; the threads are compared apart. -/
structure Isolates (k : DeviceKey) (flag : Bool) (s t : ModuleHandler β) : Prop where
  aggregator : (s.statusAggregators k.module_).Isolates k flag (t.statusAggregators k.module_)
  others : ∀ number, number ≠ k.module_ → t.statusAggregators number = .init
  incoming : t.fromInternalQueue_ = s.fromInternalQueue_.filter fun message => subject message = some k
  outgoing : t.toInternalQueue_ = s.toInternalQueue_.filter fun message => recipient message = k
  events : t.commandForwardingQueue_ = s.commandForwardingQueue_.filter fun device => device.key = k

namespace Isolates

theorem entry (h : s.Isolates k flag t) : t.entry k = s.entry k := h.aggregator.lookup

/-- A change that both aggregators of the module go through. -/
theorem setAggregator {flag' : Bool} (h : s.Isolates k flag t) {number : ℤ} (hn : number = k.module_)
    {a b : StatusAggregator β} (hab : a.Isolates k flag' b) :
    (s.setAggregator number a).Isolates k flag' (t.setAggregator number b) := by
  subst hn
  refine ⟨?_,?_,h.incoming,h.outgoing,h.events⟩
  · dsimp only [ModuleHandler.setAggregator]
    rw [Function.update_self, Function.update_self]
    exact hab
  · intro number hnumber
    exact (Function.update_of_ne hnumber _ _).trans (h.others number hnumber)

/-- A change that concerns other devices only. -/
theorem setAggregator_other (h : s.Isolates k flag t) {number : ℤ} {a : StatusAggregator β}
    (ha : number = k.module_ → a.Isolates k flag (t.statusAggregators k.module_)) :
    (s.setAggregator number a).Isolates k flag t := by
  refine ⟨?_,h.others,h.incoming,h.outgoing,h.events⟩
  dsimp only [ModuleHandler.setAggregator]
  by_cases hn : k.module_ = number
  · subst hn
    rw [Function.update_self]
    exact ha rfl
  · rw [Function.update_of_ne hn]
    exact h.aggregator

theorem goto (h : s.Isolates k flag t) (thread thread' : MessageThread β) :
    (s.goto thread).Isolates k flag (t.goto thread') := ⟨h.aggregator,h.others,h.incoming,h.outgoing,h.events⟩

theorem goto_left (h : s.Isolates k flag t) (thread : MessageThread β) : (s.goto thread).Isolates k flag t :=
  ⟨h.aggregator,h.others,h.incoming,h.outgoing,h.events⟩

theorem pushInternal (h : s.Isolates k flag t) {message : ModuleHandlerMessage β} (hm : recipient message = k) :
    (s.pushInternal message).Isolates k flag (t.pushInternal message) := by
  refine ⟨h.aggregator,h.others,h.incoming,?_,h.events⟩
  have hout := h.outgoing
  simp only [ModuleHandler.pushInternal, List.filter_append, hout, List.filter_cons, hm, decide_true, if_true,
    List.filter_nil]

theorem pushInternal_other (h : s.Isolates k flag t) {message : ModuleHandlerMessage β} (hm : recipient message ≠ k) :
    (s.pushInternal message).Isolates k flag t := by
  refine ⟨h.aggregator,h.others,h.incoming,?_,h.events⟩
  have hout := h.outgoing
  simp only [ModuleHandler.pushInternal, List.filter_append, hout, List.filter_cons, hm, decide_false,
    Bool.false_eq_true, if_false, List.filter_nil, List.append_nil]

/-- Nobody in the Module Handler reads `toExternalQueue_`. -/
theorem pushExternal (h : s.Isolates k flag t) (message message' : InternalClientMessage β) :
    (s.pushExternal message).Isolates k flag (t.pushExternal message') :=
  ⟨h.aggregator,h.others,h.incoming,h.outgoing,h.events⟩

theorem pushExternal_left (h : s.Isolates k flag t) (message : InternalClientMessage β) :
    (s.pushExternal message).Isolates k flag t := ⟨h.aggregator,h.others,h.incoming,h.outgoing,h.events⟩

/-- An operation on the device. -/
theorem operate [BufferType β] (h : s.Isolates k flag t) {device : DeviceIdentification} (hk : device.key = k)
    (module_ : ModuleLibraryHandler β) {op : Operation β} (hop : op.device = some device.key) :
    (s.setAggregator device.module_ ((s.statusAggregators device.module_).operate module_ op)).Isolates k (op.ready flag)
      (t.setAggregator device.module_ ((t.statusAggregators device.module_).operate module_ op)) := by
  refine h.setAggregator (congrArg DeviceKey.module_ hk) ?_
  subst hk
  refine h.aggregator.operate module_ ?_
  intro d hd
  exact Option.some.inj (hd.symm.trans hop)

/-- An operation on another device. -/
theorem operate_other [BufferType β] (h : s.Isolates k flag t) (number : ℤ) (module_ : ModuleLibraryHandler β)
    {op : Operation β} {device : DeviceKey} (hop : op.device = some device) (hne : device ≠ k) :
    (s.setAggregator number ((s.statusAggregators number).operate module_ op)).Isolates k flag t := by
  refine h.setAggregator_other ?_
  rintro rfl
  exact h.aggregator.operate_other module_ hop hne

/-- What an aggregator answers about the device is the same on both sides. -/
theorem lookup (h : s.Isolates k flag t) {device : DeviceIdentification} (hk : device.key = k) :
    (t.statusAggregators device.module_).devices.lookup device.key =
      (s.statusAggregators device.module_).devices.lookup device.key := by
  subst hk
  exact h.aggregator.lookup

end Isolates

/-! ## A message of the device -/

section Own
variable {device : DeviceIdentification}

theorem Isolates.handleConnect (h : s.Isolates k flag t) (hk : device.key = k) (moduleLibrary_ : ModuleLibrary β) :
    (s.handleConnect moduleLibrary_ device).Isolates k flag (t.handleConnect moduleLibrary_ device) := by
  refine Isolates.goto (h.pushInternal ?_) _ _
  exact hk

theorem Isolates.handleDisconnect (h : s.Isolates k flag t) (hk : device.key = k) (moduleLibrary_ : ModuleLibrary β) :
    (s.handleDisconnect moduleLibrary_ device).Isolates k flag (t.handleDisconnect moduleLibrary_ device) ∧
      (t.handleDisconnect moduleLibrary_ device).thread = (s.handleDisconnect moduleLibrary_ device).thread := by
  unfold ModuleHandler.handleDisconnect
  cases moduleLibrary_.lookup device.module_ with
  | none => exact ⟨h.goto _ _,rfl⟩
  | some module_ =>
    have hvalid : (t.statusAggregators device.module_).is_device_valid module_ device =
        (s.statusAggregators device.module_).is_device_valid module_ device :=
      StatusAggregator.isDeviceValidUnlocked_congr module_ (h.lookup hk)
    dsimp only
    rw [hvalid]
    split <;> exact ⟨h.goto _ _,rfl⟩

variable [BufferType β]

theorem Isolates.handleStatus (h : s.Isolates k flag t) {status : DeviceStatus β} (hk : status.device.key = k)
    (moduleLibrary_ : ModuleLibrary β) :
    (s.handleStatus moduleLibrary_ status).Isolates k flag (t.handleStatus moduleLibrary_ status) ∧
      (t.handleStatus moduleLibrary_ status).thread = (s.handleStatus moduleLibrary_ status).thread := by
  unfold ModuleHandler.handleStatus
  dsimp only
  cases moduleLibrary_.lookup status.device.module_ with
  | none => exact ⟨h.goto _ _,rfl⟩
  | some module_ =>
    dsimp only
    split
    · exact ⟨h.goto _ _,rfl⟩
    · have hanswer := StatusAggregator.add_status_to_aggregator_congr module_ status.statusdata (h.lookup hk)
      have hadded := h.operate hk module_
        (rfl : (Operation.add_status_to_aggregator status.statusdata status.device).device = some status.device.key)
      simp only [StatusAggregator.operate] at hadded
      generalize (s.statusAggregators status.device.module_).add_status_to_aggregator module_ status.statusdata
        status.device = r at hanswer hadded ⊢
      generalize (t.statusAggregators status.device.module_).add_status_to_aggregator module_ status.statusdata
        status.device = r' at hanswer hadded ⊢
      obtain ⟨rc,a⟩ := r
      obtain ⟨rc',b⟩ := r'
      obtain rfl : rc' = rc := hanswer
      cases rc' with
      | ok rc => exact ⟨hadded.goto _ _,rfl⟩
      | error code => cases code <;> exact ⟨hadded.goto _ _,rfl⟩

theorem Isolates.sendAggregatedStatus (h : s.Isolates k flag t) (hk : device.key = k) (module_ : ModuleLibraryHandler β)
    (disconnected : Bool) : (ModuleHandler.sendAggregatedStatus module_ s device disconnected).Isolates k flag
      (ModuleHandler.sendAggregatedStatus module_ t device disconnected) := by
  have hgot := h.operate hk module_
    (rfl : (Operation.get_aggregated_status device : Operation β).device = some device.key)
  exact hgot.pushExternal _ _

theorem Isolates.forceStatus (h : s.Isolates k flag t) (hk : device.key = k) (module_ : ModuleLibraryHandler β) :
    (ModuleHandler.forceStatus module_ s device).Isolates k flag (ModuleHandler.forceStatus module_ t device) ∧
      (ModuleHandler.forceStatus module_ t device).thread = (ModuleHandler.forceStatus module_ s device).thread := by
  have hanswer := StatusAggregator.force_aggregation_on_device_congr module_ (h.lookup hk)
  have hforced := h.operate hk module_
    (rfl : (Operation.force_aggregation_on_device device : Operation β).device = some device.key)
  simp only [StatusAggregator.operate] at hforced
  unfold ModuleHandler.forceStatus
  generalize (s.statusAggregators device.module_).force_aggregation_on_device module_ device = r at hanswer hforced ⊢
  generalize (t.statusAggregators device.module_).force_aggregation_on_device module_ device = r' at hanswer hforced ⊢
  obtain ⟨rc,a⟩ := r
  obtain ⟨rc',b⟩ := r'
  obtain rfl : rc' = rc := hanswer
  rcases rc' with _ | (_ | n) <;> exact ⟨hforced.goto _ _,rfl⟩

theorem Isolates.removeDevice (h : s.Isolates k flag t) (hk : device.key = k) (module_ : ModuleLibraryHandler β) :
    (ModuleHandler.removeDevice module_ s device).Isolates k flag (ModuleHandler.removeDevice module_ t device) := by
  refine (h.setAggregator (congrArg DeviceKey.module_ hk) ?_).goto _ _
  subst hk
  exact h.aggregator.remove_device module_

end Own

/-! ## The message thread -/

/-- The message that the thread works on is still at the front, and it is about the device that the
thread works on; the devices that are collected are those of the module. -/
structure Placed (s : ModuleHandler β) : Prop where
  message : s.thread.hasMessage = true → s.fromInternalQueue_ ≠ []
  device : ∀ device, s.thread.device = some device → s.fromInternalQueue_.head?.bind subject = some device.key
  collects : ∀ number devices, s.thread.collects = some (number,devices) → ∀ device ∈ devices, device.module_ = number

theorem atFront_of_subject {device : DeviceIdentification}
    (h : s.fromInternalQueue_.head?.bind subject = some device.key) : s.atFront k = decide (device.key = k) := by
  unfold atFront
  cases hhead : s.fromInternalQueue_.head? with
  | none =>
    rw [hhead] at h
    cases h
  | some message =>
    rw [hhead, Option.bind_some] at h
    rw [Option.any_some, h]
    simp only [Option.some.injEq]

theorem atFront_cons {message : InternalClientMessage β} {rest : List (InternalClientMessage β)}
    (h : s.fromInternalQueue_ = message :: rest) : s.atFront k = decide (subject message = some k) := by
  unfold atFront
  rw [h]
  rfl

theorem exists_cons_of_atFront (h : s.atFront k = true) :
    ∃ message rest, s.fromInternalQueue_ = message :: rest ∧ subject message = some k := by
  cases hqueue : s.fromInternalQueue_ with
  | nil =>
    unfold atFront at h
    rw [hqueue] at h
    cases h
  | cons message rest =>
    rw [atFront_cons hqueue, decide_eq_true_eq] at h
    exact ⟨message,rest,rfl,h⟩

theorem Isolates.incoming_cons (h : s.Isolates k flag t) {message : InternalClientMessage β}
    {rest : List (InternalClientMessage β)} (hqueue : s.fromInternalQueue_ = message :: rest)
    (hm : subject message = some k) : t.fromInternalQueue_ =
      message :: rest.filter fun message => subject message = some k := by
  rw [h.incoming, hqueue]
  exact List.filter_cons_of_pos (decide_eq_true hm)

theorem atFront_congr (h : t.fromInternalQueue_ = s.fromInternalQueue_) : t.atFront k = s.atFront k := by
  unfold atFront
  rw [h]

section Thread
variable [BufferType β] {moduleLibrary_ : ModuleLibrary β} {s' : ModuleHandler β}

omit [BufferType β] in
theorem handleMessage_handles (h : s.handleMessage moduleLibrary_ = some s') :
    (s'.thread.handles = true ∨ s'.thread = .terminated) ∧ s'.fromInternalQueue_ = s.fromInternalQueue_ := by
  obtain ⟨-,-,-,rfl | ⟨-,-,rfl⟩ | ⟨device,-,rfl⟩ | ⟨status,-,rfl⟩⟩ := handleMessage_cases h
  · exact ⟨.inl rfl,rfl⟩
  · exact ⟨.inl rfl,rfl⟩
  · exact ⟨.inl rfl,rfl⟩
  · obtain h | ⟨_,_,_,-,-,⟨_,-,-,h⟩ | ⟨-,h⟩ | ⟨_,-,h⟩⟩ := s.handleStatus_cases moduleLibrary_ status <;> rw [h]
    · exact ⟨.inl rfl,rfl⟩
    · exact ⟨.inl rfl,rfl⟩
    · exact ⟨.inr rfl,rfl⟩
    · exact ⟨.inl rfl,rfl⟩

/-- The thread stays at its message until it takes it away, or ends. -/
theorem handleMessages_handles (h : s.handleMessages moduleLibrary_ = some s') (hhandles : s.thread.handles = true)
    (hpopping : s.thread ≠ .popping) (hcommanding : ∀ status device rc, s.thread ≠ .commanding status device rc) :
    (s'.thread.handles = true ∨ s'.thread = .terminated) ∧ s'.fromInternalQueue_ = s.fromInternalQueue_ := by
  unfold handleMessages at h
  split at h <;> rename_i hthread
  · rw [hthread] at hhandles
    cases hhandles
  · rw [hthread] at hhandles
    cases hhandles
  · rw [hthread] at hhandles
    cases hhandles
  · rw [hthread] at hhandles
    cases hhandles
  · exact handleMessage_handles h
  · exact absurd hthread (hcommanding _ _ _)
  · cases h
    exact ⟨.inl rfl,rfl⟩
  · obtain ⟨module_,-,rfl⟩ := Option.map_eq_some_iff.mp h
    exact ⟨.inl rfl,rfl⟩
  · obtain ⟨module_,-,rfl⟩ := Option.map_eq_some_iff.mp h
    unfold ModuleHandler.forceStatus
    split <;> exact ⟨.inl rfl,rfl⟩
  · obtain ⟨module_,-,rfl⟩ := Option.map_eq_some_iff.mp h
    exact ⟨.inl rfl,rfl⟩
  · obtain ⟨module_,-,rfl⟩ := Option.map_eq_some_iff.mp h
    exact ⟨.inl rfl,rfl⟩
  · exact absurd hthread hpopping
  · cases h

omit [BufferType β] in
/-- The thread goes on with the same message, or leaves it. -/
theorem Placed.goes (hs : s.Placed) (hqueue : s'.fromInternalQueue_ = s.fromInternalQueue_)
    (hmessage : s'.thread.hasMessage = true → s.thread.hasMessage = true)
    (hdevice : ∀ device, s'.thread.device = some device → s.thread.device = some device)
    (hcollects : ∀ number devices, s'.thread.collects = some (number,devices) →
      ∀ device ∈ devices, device.module_ = number) : s'.Placed where
  message h := by
    rw [hqueue]
    exact hs.message (hmessage h)
  device device h := by
    rw [hqueue]
    exact hs.device device (hdevice device h)
  collects := hcollects

omit [BufferType β] in
theorem handleMessage_placed (h : s.handleMessage moduleLibrary_ = some s') : s'.Placed := by
  obtain ⟨hhandles,hqueue⟩ := handleMessage_handles h
  refine ⟨?_,?_,?_⟩
  · intro _
    rw [hqueue]
    intro hnil
    unfold ModuleHandler.handleMessage at h
    rw [hnil] at h
    cases h
  · obtain ⟨message,rest,hfront,h⟩ := handleMessage_cases h
    rw [hqueue, hfront, List.head?_cons, Option.bind_some]
    obtain rfl | ⟨hdisconnected,-,rfl⟩ | ⟨device,-,rfl⟩ | ⟨status,rfl,rfl⟩ := h
    · nofun
    · unfold subject
      rw [if_pos hdisconnected]
      rintro _ ⟨⟩
      rfl
    · nofun
    · obtain h | ⟨_,_,_,-,-,⟨_,-,-,h⟩ | ⟨-,h⟩ | ⟨_,-,h⟩⟩ := s.handleStatus_cases moduleLibrary_ status
      all_goals rw [h]
      · nofun
      · nofun
      · nofun
      · rintro _ ⟨⟩
        rfl
  · obtain hhandles | hended := hhandles
    · rw [MessageThread.collects_of_handles hhandles]
      nofun
    · rw [hended]
      nofun

/-- Outside `get_command`. -/
theorem Placed.handleMessages (hs : s.Placed) (hplace : s.InPlace fun _ _ => true)
    (h : s.handleMessages moduleLibrary_ = some s') : s'.Placed := by
  unfold ModuleHandler.handleMessages at h
  split at h <;> rename_i hthread
  · cases h
    refine ⟨?_,nofun,nofun⟩
    intro hmessage hnil
    change (!s.fromInternalQueue_.isEmpty) = true at hmessage
    change s.fromInternalQueue_ = [] at hnil
    rw [hnil] at hmessage
    cases hmessage
  · rename_i modules message
    cases h
    unfold ModuleHandler.checkModule
    split
    · cases message with
      | true => exact hs.goes rfl (fun _ => by rw [hthread]; rfl) nofun nofun
      | false => exact hs.goes rfl nofun nofun nofun
    · rename_i number modules
      dsimp only
      split
      · refine hs.goes rfl (by rw [hthread]; exact fun h => h) nofun ?_
        rintro _ _ ⟨⟩ device hdevice
        obtain ⟨entry,hentry,rfl⟩ := List.mem_map.mp hdevice
        obtain ⟨hmodule,hkey,-⟩ := hplace number entry.1 entry.2 (AList.mem_lookup_iff.mpr hentry)
        rw [← hmodule, ← hkey]
        rfl
      · exact hs.goes rfl (by rw [hthread]; exact fun h => h) nofun nofun
  · rename_i modules message number devices
    obtain ⟨module_,-,rfl⟩ := Option.map_eq_some_iff.mp h
    have hmodule := hs.collects number devices (by rw [hthread]; rfl)
    unfold ModuleHandler.collectStatus
    split
    · exact hs.goes rfl (by rw [hthread]; exact fun h => h) nofun nofun
    · split
      · exact hs.goes rfl (fun h => h) (fun _ h => h) hs.collects
      · refine hs.goes rfl (by rw [hthread]; exact fun h => h) nofun ?_
        rintro _ _ ⟨⟩
        exact hmodule
  · rename_i modules message number device devices
    cases h
    have hmodule := hs.collects number (device :: devices) (by rw [hthread]; rfl)
    have hrest : ∀ d ∈ devices, d.module_ = number := fun d hd => hmodule d (List.mem_cons_of_mem _ hd)
    unfold ModuleHandler.countTimeouts
    dsimp only
    split <;>
      · refine hs.goes rfl (by rw [hthread]; exact fun h => h) nofun ?_
        rintro _ _ ⟨⟩
        exact hrest
  · exact handleMessage_placed h
  · obtain ⟨module_,-,rfl⟩ := Option.map_eq_some_iff.mp h
    unfold ModuleHandler.retrieveCommand
    split
    · exact hs.goes rfl nofun nofun nofun
    · exact hs.goes rfl (fun _ => by rw [hthread]; rfl) (fun _ h => by rw [hthread]; exact h) nofun
    · exact hs.goes rfl (fun _ => by rw [hthread]; rfl) (fun _ h => by rw [hthread]; exact h) nofun
    · exact hs.goes rfl nofun nofun nofun
    · exact hs.goes rfl (fun _ => by rw [hthread]; rfl) nofun nofun
  · cases h
    exact hs.goes rfl (fun _ => by rw [hthread]; rfl) nofun nofun
  · obtain ⟨module_,-,rfl⟩ := Option.map_eq_some_iff.mp h
    exact hs.goes rfl (fun _ => by rw [hthread]; rfl) (fun _ h => by rw [hthread]; exact h) nofun
  · obtain ⟨module_,-,rfl⟩ := Option.map_eq_some_iff.mp h
    unfold ModuleHandler.forceStatus
    split
    · exact hs.goes rfl (fun _ => by rw [hthread]; rfl) (fun _ h => by rw [hthread]; exact h) nofun
    · exact hs.goes rfl (fun _ => by rw [hthread]; rfl) nofun nofun
  · obtain ⟨module_,-,rfl⟩ := Option.map_eq_some_iff.mp h
    exact hs.goes rfl (fun _ => by rw [hthread]; rfl) (fun _ h => by rw [hthread]; exact h) nofun
  · obtain ⟨module_,-,rfl⟩ := Option.map_eq_some_iff.mp h
    exact hs.goes rfl (fun _ => by rw [hthread]; rfl) nofun nofun
  · cases h
    exact ⟨nofun,nofun,nofun⟩
  · cases h

/-- The message at the front is about the device, which handles it alone in the same way. -/
theorem Isolates.handleMessage_own (h : s.Isolates k flag t) (hmine : s.atFront k = true)
    (hs : s.handleMessage moduleLibrary_ = some s') :
    ∃ t', t.handleMessage moduleLibrary_ = some t' ∧ s'.Isolates k flag t' ∧ t'.thread = s'.thread := by
  unfold handleMessage at hs
  split at hs
  · cases hs
  · rename_i message rest hqueue
    rw [atFront_cons hqueue, decide_eq_true_eq] at hmine
    have hqueue' := h.incoming_cons hqueue hmine
    unfold handleMessage
    rw [hqueue']
    dsimp only
    unfold subject at hmine
    split at hs
    · rename_i hdisconnected
      rw [if_pos hdisconnected, Option.some.injEq] at hmine
      cases hs
      rw [if_pos hdisconnected]
      exact ⟨_,rfl,h.handleDisconnect hmine moduleLibrary_⟩
    · rename_i hconnected
      rw [if_neg hconnected] at hmine
      rw [if_neg hconnected]
      split at hs
      · cases hs
        exact ⟨_,rfl,h.handleConnect (Option.some.inj hmine) moduleLibrary_,rfl⟩
      · cases hs
        exact ⟨_,rfl,h.handleStatus (Option.some.inj hmine) moduleLibrary_⟩
      · cases hs
        exact ⟨_,rfl,h.goto _ _,rfl⟩

/-- A message of another device is handled. -/
theorem Isolates.handleMessage_other (h : s.Isolates k flag t) (hmine : s.atFront k = false)
    (hs : s.handleMessage moduleLibrary_ = some s') : s'.Isolates k flag t := by
  obtain ⟨message,rest,hqueue,hs⟩ := handleMessage_cases hs
  rw [atFront_cons hqueue, decide_eq_false_iff_not] at hmine
  obtain rfl | ⟨-,-,rfl⟩ | ⟨device,rfl,rfl⟩ | ⟨status,rfl,rfl⟩ := hs
  · exact h.goto_left _
  · exact h.goto_left _
  · refine Isolates.goto_left (h.pushInternal_other ?_) _
    exact fun hk => hmine (congrArg some hk)
  · obtain hs | ⟨module_,r,aggregator,-,hr,hs⟩ := s.handleStatus_cases moduleLibrary_ status
    · rw [hs]
      exact h.goto_left _
    · have hadded := h.operate_other status.device.module_ module_
        (rfl : (Operation.add_status_to_aggregator status.statusdata status.device).device = some status.device.key)
        fun hk => hmine (congrArg some hk)
      simp only [StatusAggregator.operate, hr] at hadded
      obtain ⟨code,-,-,hs⟩ | ⟨-,hs⟩ | ⟨rc,-,hs⟩ := hs <;> rw [hs] <;> exact hadded.goto_left _

/-- The thread goes on with a message of the device. -/
theorem Isolates.handleMessages_own (h : s.Isolates k flag t) (hplaced : s.Placed) (hmine : s.atFront k = true)
    (hthread : t.thread = s.thread) (hhandles : s.thread.handles = true) (hpopping : s.thread ≠ .popping)
    (hcommanding : ∀ status device rc, s.thread ≠ .commanding status device rc)
    (hs : s.handleMessages moduleLibrary_ = some s') :
    ∃ t', t.handleMessages moduleLibrary_ = some t' ∧ s'.Isolates k flag t' ∧ t'.thread = s'.thread := by
  have hdevice : ∀ device, s.thread.device = some device → device.key = k := by
    intro device hd
    rw [atFront_of_subject (hplaced.device device hd), decide_eq_true_eq] at hmine
    exact hmine
  unfold handleMessages at hs ⊢
  rw [hthread]
  split at hs <;> rename_i hat
  · rw [hat] at hhandles
    cases hhandles
  · rw [hat] at hhandles
    cases hhandles
  · rw [hat] at hhandles
    cases hhandles
  · rw [hat] at hhandles
    cases hhandles
  · exact h.handleMessage_own hmine hs
  · exact absurd hat (hcommanding _ _ _)
  · cases hs
    exact ⟨_,rfl,h.goto _ _,rfl⟩
  · obtain ⟨module_,hm,rfl⟩ := Option.map_eq_some_iff.mp hs
    rw [hm]
    exact ⟨_,rfl,(h.sendAggregatedStatus (hdevice _ (by rw [hat]; rfl)) module_ false).goto _ _,rfl⟩
  · obtain ⟨module_,hm,rfl⟩ := Option.map_eq_some_iff.mp hs
    rw [hm]
    exact ⟨_,rfl,h.forceStatus (hdevice _ (by rw [hat]; rfl)) module_⟩
  · obtain ⟨module_,hm,rfl⟩ := Option.map_eq_some_iff.mp hs
    rw [hm]
    exact ⟨_,rfl,(h.sendAggregatedStatus (hdevice _ (by rw [hat]; rfl)) module_ true).goto _ _,rfl⟩
  · obtain ⟨module_,hm,rfl⟩ := Option.map_eq_some_iff.mp hs
    rw [hm]
    exact ⟨_,rfl,h.removeDevice (hdevice _ (by rw [hat]; rfl)) module_,rfl⟩
  · exact absurd hat hpopping
  · cases hs

/-- The thread goes on with a message of another device. -/
theorem Isolates.handleMessages_other (h : s.Isolates k flag t) (hplaced : s.Placed) (hmine : s.atFront k = false)
    (hhandles : s.thread.handles = true) (hpopping : s.thread ≠ .popping)
    (hcommanding : ∀ status device rc, s.thread ≠ .commanding status device rc)
    (hs : s.handleMessages moduleLibrary_ = some s') : s'.Isolates k flag t := by
  have hdevice : ∀ device, s.thread.device = some device → device.key ≠ k := by
    intro device hd
    rw [atFront_of_subject (hplaced.device device hd), decide_eq_false_iff_not] at hmine
    exact hmine
  unfold handleMessages at hs
  split at hs <;> rename_i hat
  · rw [hat] at hhandles
    cases hhandles
  · rw [hat] at hhandles
    cases hhandles
  · rw [hat] at hhandles
    cases hhandles
  · rw [hat] at hhandles
    cases hhandles
  · exact h.handleMessage_other hmine hs
  · exact absurd hat (hcommanding _ _ _)
  · cases hs
    exact h.goto_left _
  · rename_i device rc
    obtain ⟨module_,hm,rfl⟩ := Option.map_eq_some_iff.mp hs
    have hgot := h.operate_other device.module_ module_
      (rfl : (Operation.get_aggregated_status device : Operation β).device = some device.key)
      (hdevice device (by rw [hat]; rfl))
    exact (hgot.pushExternal_left _).goto_left _
  · rename_i device
    obtain ⟨module_,hm,rfl⟩ := Option.map_eq_some_iff.mp hs
    have hforced := h.operate_other device.module_ module_
      (rfl : (Operation.force_aggregation_on_device device : Operation β).device = some device.key)
      (hdevice device (by rw [hat]; rfl))
    simp only [StatusAggregator.operate] at hforced
    unfold ModuleHandler.forceStatus
    split <;> rename_i hforce <;> rw [hforce] at hforced <;> exact hforced.goto_left _
  · rename_i device
    obtain ⟨module_,hm,rfl⟩ := Option.map_eq_some_iff.mp hs
    have hgot := h.operate_other device.module_ module_
      (rfl : (Operation.get_aggregated_status device : Operation β).device = some device.key)
      (hdevice device (by rw [hat]; rfl))
    exact (hgot.pushExternal_left _).goto_left _
  · rename_i device
    obtain ⟨module_,hm,rfl⟩ := Option.map_eq_some_iff.mp hs
    refine (h.setAggregator_other ?_).goto_left _
    intro hn
    rw [hn]
    exact h.aggregator.remove_device_other (hdevice device (by rw [hat]; rfl)) module_
  · exact absurd hat hpopping
  · cases hs

end Thread

end ModuleHandler

end ModuleGateway.Modules
