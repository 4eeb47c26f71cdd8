import ModuleGateway.Modules.HandlerThreads

/-! # Forward events and the commands they are for

A command and its forward event go into different queues under different locks. A status uses up a
command and leaves the event, a full queue drops a command and keeps the event, and an event whose
device is gone is dropped. The commands of a push-only device never outnumber its events.
-/
namespace ModuleGateway.Modules
open Structures Execution

variable {β : Type}

namespace HandlerThreads

/-- What stays the same at every call: the modules that are loaded, the types they support, and
the types for which `forwardCommandOnReceive` returns `OK`. -/
structure Steady (modules : List ℤ) (supported forwards : ℤ → UInt32 → Bool) (moduleLibrary_ : ModuleLibrary β) :
    Prop where
  keys : moduleLibrary_.keys = modules
  supported : Supports supported moduleLibrary_
  forwards : ∀ number module_, moduleLibrary_.lookup number = some module_ → ∀ device_type,
    module_.forwardCommandOnReceive device_type = .OK ↔ forwards number device_type = true

/-- The forward events that are not acted on yet. -/
def events (s : HandlerThreads β) : List DeviceIdentification :=
  match s.forwardThread with
  | .waiting => s.handler.commandForwardingQueue_
  | .acted _ => s.handler.commandForwardingQueue_.tail

def pendingEvents (s : HandlerThreads β) (k : DeviceKey) : ℕ := s.events.countP fun device => device.key = k

/-- One while `handleCommand` is between `update_command` and its push for the device. -/
def betweenPush (s : HandlerThreads β) (k : DeviceKey) : ℕ :=
  if s.updated.any fun device => device.key = k then 1 else 0

variable {modules : List ℤ} {supported forwards : ℤ → UInt32 → Bool}

/-! ## The invariant -/

/-- What is known of a registered device. -/
structure Known (modules : List ℤ) (supported forwards : ℤ → UInt32 → Bool) (k : DeviceKey)
    (d : StatusAggregatorDeviceState β) : Prop where
  loaded : k.module_ ∈ modules
  supported : supported k.module_ k.deviceType = true
  forward : d.forwardCommandImmediately_ = forwards k.module_ k.deviceType

structure Covered (modules : List ℤ) (supported forwards : ℤ → UInt32 → Bool) (s : HandlerThreads β) : Prop where
  known : ∀ k d, s.handler.entry k = some d → Known modules supported forwards k d
  covered : ∀ k d, s.handler.entry k = some d → d.forwardCommandImmediately_ = true →
    d.externalCommandQueue_.length ≤ s.pendingEvents k + s.betweenPush k
  acted : ∀ hand, s.forwardThread = .acted hand → s.handler.commandForwardingQueue_ ≠ []

variable {s t : HandlerThreads β}

theorem Covered.init : (init : HandlerThreads β).Covered modules supported forwards := by
  have hentry : ∀ k, (HandlerThreads.init : HandlerThreads β).handler.entry k = none := fun _ => rfl
  constructor
  · intro k d h
    rw [hentry] at h
    cases h
  · intro k d h
    rw [hentry] at h
    cases h
  · intro hand h
    cases h

/-- The commands of an entry after a step: none, or no more than before but for events that came. -/
def Follows (s t : HandlerThreads β) (k : DeviceKey) (d e : StatusAggregatorDeviceState β) : Prop :=
  e.forwardCommandImmediately_ = d.forwardCommandImmediately_ ∧
    (e.forwardCommandImmediately_ = true →
      e.externalCommandQueue_ = [] ∨ e.externalCommandQueue_.length + s.pendingEvents k + s.betweenPush k ≤
        d.externalCommandQueue_.length + t.pendingEvents k + t.betweenPush k)

theorem Covered.of (hs : s.Covered modules supported forwards)
    (hentry : ∀ k e, t.handler.entry k = some e →
      (∃ d, s.handler.entry k = some d ∧ (Known modules supported forwards k d → s.Follows t k d e)) ∨
        e.externalCommandQueue_ = [] ∧ Known modules supported forwards k e)
    (hacted : ∀ hand, t.forwardThread = .acted hand → t.handler.commandForwardingQueue_ ≠ []) :
    t.Covered modules supported forwards := by
  constructor
  · intro k e he
    obtain ⟨d,hd,hfollows⟩ | ⟨-,hknown⟩ := hentry k e he
    · have hknown := hs.known k d hd
      exact ⟨hknown.loaded,hknown.supported,(hfollows hknown).1.trans hknown.forward⟩
    · exact hknown
  · intro k e he hforward
    obtain ⟨d,hd,hfollows⟩ | ⟨hnil,-⟩ := hentry k e he
    · obtain ⟨hsame,hle⟩ := hfollows (hs.known k d hd)
      have hcovered := hs.covered k d hd (hsame ▸ hforward)
      obtain hnil | hle := hle hforward
      · rw [hnil, List.length_nil]
        exact Nat.zero_le _
      · omega
    · rw [hnil, List.length_nil]
      exact Nat.zero_le _
  · exact hacted

/-- A step of the message thread, a timer or another thread that uses up no command. -/
theorem Covered.keeps (hs : s.Covered modules supported forwards) {moduleLibrary_ : ModuleLibrary β}
    (hm : Steady modules supported forwards moduleLibrary_) {handler : ModuleHandler β}
    (hkeeps : ModuleHandler.Keeps moduleLibrary_ s.handler handler) :
    (s.withHandler handler).Covered modules supported forwards := by
  have hevents : ∀ k, (s.withHandler handler).pendingEvents k = s.pendingEvents k := by
    intro k
    simp only [pendingEvents, events, withHandler, hkeeps.events]
  apply hs.of
  · intro k e he
    have hkept := hkeeps.entries k
    have he' : handler.entry k = some e := he
    rw [he'] at hkept
    generalize hd : s.handler.entry k = d at hkept
    cases hkept with
    | @kept d _ queue forward =>
      refine .inl ⟨d,rfl,fun _ => ⟨forward,fun _ => ?_⟩⟩
      rw [queue, hevents]
      exact .inr (le_refl _)
    | registered loaded hsupported queue forward =>
      refine .inr ⟨queue,?_,?_,?_⟩
      · rw [← hm.keys]
        exact AList.lookup_isSome.mp (by rw [loaded]; rfl)
      · rw [hm.supported _ _ loaded] at hsupported
        by_contra hno
        exact hsupported (if_neg hno)
      · rw [forward, Bool.eq_iff_iff, decide_eq_true_iff]
        exact hm.forwards _ _ loaded _
  · intro hand h
    have hacted := hs.acted hand h
    rw [← hkeeps.events] at hacted
    exact hacted

/-- A step that touches none of the queues in question. -/
theorem Covered.frame (hs : s.Covered modules supported forwards)
    (hentry : ∀ k, t.handler.entry k = s.handler.entry k ∨ t.handler.entry k = none)
    (hevents : t.handler.commandForwardingQueue_ = s.handler.commandForwardingQueue_)
    (hforward : t.forwardThread = s.forwardThread) (hupdated : t.updated = s.updated) :
    t.Covered modules supported forwards := by
  have hsame : t.events = s.events := by
    unfold events
    rw [hforward, hevents]
  apply hs.of
  · intro k e he
    obtain h | h := hentry k
    · refine .inl ⟨e,h ▸ he,fun _ => ⟨rfl,fun _ => .inr ?_⟩⟩
      simp only [pendingEvents, betweenPush, hsame, hupdated, le_refl]
    · rw [h] at he
      cases he
  · intro hand h
    rw [hevents]
    exact hs.acted hand (hforward ▸ h)

section Steps
variable [BufferType β] {moduleLibrary_ : ModuleLibrary β}

theorem Covered.takeCommand (hs : s.Covered modules supported forwards) {module_ : ModuleLibraryHandler β}
    (status : β) (device : DeviceIdentification) (h : s.statusHand = none) :
    (takeCommand module_ s status device).Covered modules supported forwards := by
  obtain ⟨hand,thread,heq,-⟩ := takeCommand_eq module_ s status device h
  rw [heq]
  apply hs.of
  · intro k e he
    have hentry := s.handler.entry_get_command module_ device k status
    have he' := hentry.symm.trans he
    split at he'
    · obtain ⟨d,hd,rfl⟩ := Option.map_eq_some_iff.mp he'
      obtain ⟨hqueue,hforward⟩ := consumed_queue d module_ status k.deviceType
      refine .inl ⟨d,hd,fun _ => ⟨hforward,fun _ => .inr ?_⟩⟩
      have hlength := List.length_tail (l := d.externalCommandQueue_)
      rw [hqueue]
      change _ + s.pendingEvents k + s.betweenPush k ≤ _ + s.pendingEvents k + s.betweenPush k
      omega
    · exact .inl ⟨e,he',fun _ => ⟨rfl,fun _ => .inr (le_refl _)⟩⟩
  · exact hs.acted

/-- The event at the front is acted on and takes a command with it, if there is one. -/
theorem Covered.takeForwarded (hs : s.Covered modules supported forwards)
    (hm : Steady modules supported forwards moduleLibrary_) {deviceId : DeviceIdentification}
    {rest : List DeviceIdentification} (hwaiting : s.forwardThread = .waiting)
    (hfront : s.handler.commandForwardingQueue_ = deviceId :: rest)
    (ht : s.takeForwarded moduleLibrary_ deviceId = some t) : t.Covered modules supported forwards := by
  have hcount : ∀ k, s.pendingEvents k =
      rest.countP (fun device => device.key = k) + if deviceId.key = k then 1 else 0 := by
    intro k
    unfold pendingEvents events
    rw [hwaiting, hfront]
    simp only [List.countP_cons, decide_eq_true_eq]
  have hrest : ∀ (u : HandlerThreads β) hand, u.forwardThread = .acted hand →
      u.handler.commandForwardingQueue_ = s.handler.commandForwardingQueue_ →
      ∀ k, u.pendingEvents k = rest.countP fun device => device.key = k := by
    intro u hand hacted hqueue k
    unfold pendingEvents events
    rw [hacted, hqueue, hfront]
    rfl
  obtain ⟨hnone,heq⟩ | ⟨module_,hand,hloaded,heq,-⟩ := takeForwarded_eq ht
  · have hpending := hrest t none (by rw [heq]) (by rw [heq])
    have hbetween : t.betweenPush = s.betweenPush := by rw [heq]; rfl
    apply hs.of
    · intro k e he
      rw [heq] at he
      refine .inl ⟨e,he,fun hknown => ⟨rfl,fun _ => .inr ?_⟩⟩
      have hne : deviceId.key ≠ k := by
        rintro rfl
        have hmem := hknown.loaded
        rw [← hm.keys] at hmem
        exact absurd (AList.lookup_eq_none.mp hnone) (not_not_intro hmem)
      rw [hcount, if_neg hne, hpending, hbetween]
      exact le_refl _
    · intro _ _
      rw [heq, hfront]
      exact List.cons_ne_nil _ _
  · have hpending := hrest t hand (by rw [heq]) (by rw [heq]; rfl)
    have hbetween : t.betweenPush = s.betweenPush := by rw [heq]; rfl
    apply hs.of
    · intro k e he
      rw [heq] at he
      have he' := (s.handler.entry_get_command_for_forwarding module_ deviceId k).symm.trans he
      by_cases hk : deviceId.key = k
      · subst hk
        cases hd : s.handler.entry deviceId.key with
        | none =>
          rw [hd, Option.map_none, ite_self] at he'
          cases he'
        | some d =>
          refine .inl ⟨d,rfl,fun hknown => ?_⟩
          have hsupported : StatusAggregator.is_device_type_supported module_ deviceId.deviceType = .OK := by
            unfold StatusAggregator.is_device_type_supported
            rw [hm.supported _ _ hloaded]
            exact if_pos hknown.supported
          rw [if_pos ⟨rfl,hsupported⟩, hd] at he'
          obtain rfl := Option.some.inj he'
          obtain ⟨hqueue,hforward⟩ := consumed_queue d module_ d.status_ deviceId.key.deviceType
          refine ⟨hforward,fun _ => ?_⟩
          rw [hqueue, hcount, if_pos rfl, hpending, hbetween]
          cases d.externalCommandQueue_ with
          | nil => exact .inl rfl
          | cons command commands =>
            right
            simp only [List.tail_cons, List.length_cons]
            omega
      · rw [if_neg fun h => hk h.1.symm] at he'
        refine .inl ⟨e,he',fun _ => ⟨rfl,fun _ => .inr ?_⟩⟩
        rw [hcount, if_neg hk, hpending, hbetween]
        exact le_refl _
    · intro _ _
      rw [heq]
      change s.handler.commandForwardingQueue_ ≠ []
      rw [hfront]
      exact List.cons_ne_nil _ _

omit [BufferType β] in
/-- The event is taken out of the queue after it was acted on. -/
theorem Covered.pushForwarded (hs : s.Covered modules supported forwards) {hand : Option (Hand β)}
    (hacted : s.forwardThread = .acted hand) : (s.pushForwarded hand).Covered modules supported forwards := by
  have hevents : (s.pushForwarded hand).events = s.events := by
    unfold events
    rw [hacted]
    cases hand <;> rfl
  have hbetween : (s.pushForwarded hand).betweenPush = s.betweenPush := by cases hand <;> rfl
  have hentry : (s.pushForwarded hand).handler.entry = s.handler.entry := by cases hand <;> rfl
  apply hs.of
  · intro k e he
    rw [hentry] at he
    refine .inl ⟨e,he,fun _ => ⟨rfl,fun _ => .inr ?_⟩⟩
    simp only [pendingEvents, hevents, hbetween, le_refl]
  · intro other h
    cases hand <;> cases h

theorem Covered.updateCommand (hs : s.Covered modules supported forwards) (command : β)
    (device : DeviceIdentification) (hupdated : s.updated = none) :
    (s.updateCommand moduleLibrary_ command device).Covered modules supported forwards := by
  obtain h | ⟨module_,-,-,heq,hentry⟩ := updateCommand_eq moduleLibrary_ s command device
  · rw [h]
    exact hs
  · have hevents : (s.updateCommand moduleLibrary_ command device).events = s.events := by rw [heq]; rfl
    have hbetween : ∀ k, (s.updateCommand moduleLibrary_ command device).betweenPush k =
        if device.key = k then 1 else 0 := by
      intro k
      rw [heq]
      simp only [betweenPush, Option.any_some, decide_eq_true_eq]
    have hbefore : ∀ k, s.betweenPush k = 0 := by
      intro k
      unfold betweenPush
      rw [hupdated]
      rfl
    apply hs.of
    · intro k e he
      rw [heq] at he
      have he' := (hentry k).symm.trans he
      split at he'
      · rename_i hk
        subst hk
        obtain ⟨d,hd,rfl⟩ := Option.map_eq_some_iff.mp he'
        obtain ⟨-,hlength,hforward⟩ := addExternalCommand_queue d command
        refine .inl ⟨d,hd,fun _ => ⟨hforward,fun _ => .inr ?_⟩⟩
        rw [hbetween, if_pos rfl, hbefore]
        simp only [pendingEvents, hevents]
        omega
      · rename_i hk
        refine .inl ⟨e,he',fun _ => ⟨rfl,fun _ => .inr ?_⟩⟩
        rw [hbetween, if_neg fun h => hk h.symm, hbefore]
        simp only [pendingEvents, hevents, le_refl]
    · intro hand h
      rw [heq] at h ⊢
      exact hs.acted hand h

omit [BufferType β] in
theorem pushEvent_events (hs : s.Covered modules supported forwards) (device : DeviceIdentification) :
    (s.pushEvent moduleLibrary_ device).events = s.events ++
      if (moduleLibrary_.lookup device.module_).any fun module_ =>
        module_.forwardCommandOnReceive device.deviceType = .OK then [device] else [] := by
  unfold events
  change (match s.forwardThread with | .waiting => _ | .acted _ => _) = _
  cases hthread : s.forwardThread with
  | waiting => rfl
  | acted hand => exact List.tail_append_of_ne_nil (hs.acted hand hthread)

omit [BufferType β] in
/-- The event of a push-only device takes the place of the call. -/
theorem Covered.pushEvent (hs : s.Covered modules supported forwards)
    (hm : Steady modules supported forwards moduleLibrary_) {device : DeviceIdentification}
    (hupdated : s.updated = some device) : (s.pushEvent moduleLibrary_ device).Covered modules supported forwards := by
  have hbetween : ∀ k, s.betweenPush k = if device.key = k then 1 else 0 := by
    intro k
    unfold betweenPush
    rw [hupdated]
    simp only [Option.any_some, decide_eq_true_eq]
  have hafter : ∀ k, (s.pushEvent moduleLibrary_ device).betweenPush k = 0 := fun _ => rfl
  have hpending : ∀ k, (s.pushEvent moduleLibrary_ device).pendingEvents k = s.pendingEvents k +
      List.countP (fun device => device.key = k) (if (moduleLibrary_.lookup device.module_).any fun module_ =>
        module_.forwardCommandOnReceive device.deviceType = .OK then [device] else []) := by
    intro k
    unfold pendingEvents
    rw [pushEvent_events hs, List.countP_append]
  apply hs.of
  · intro k e he
    refine .inl ⟨e,he,fun hknown => ⟨rfl,fun hforward => .inr ?_⟩⟩
    rw [hbetween, hafter, hpending]
    by_cases hk : device.key = k
    · subst hk
      obtain ⟨module_,hloaded⟩ := Option.isSome_iff_exists.mp
        (AList.lookup_isSome.mpr (show device.key.module_ ∈ moduleLibrary_.keys from hm.keys ▸ hknown.loaded))
      have hok : module_.forwardCommandOnReceive device.deviceType = .OK :=
        (hm.forwards _ _ hloaded _).mpr (hknown.forward ▸ hforward)
      have hforwards : ((moduleLibrary_.lookup device.module_).any fun module_ =>
          module_.forwardCommandOnReceive device.deviceType = .OK) = true := by
        have hloaded' : moduleLibrary_.lookup device.module_ = some module_ := hloaded
        rw [hloaded', Option.any_some, hok]
        rfl
      rw [if_pos hforwards, if_pos rfl]
      simp only [List.countP_singleton, decide_true, if_true]
      omega
    · rw [if_neg hk]
      omega
  · intro hand h
    have hacted := hs.acted hand h
    exact List.append_ne_nil_of_left_ne_nil hacted _

theorem Covered.step (hs : s.Covered modules supported forwards) {call : ModuleLibrary β × ThreadAction β}
    (hm : Steady modules supported forwards call.1) (ht : s.threadStep call = some t) :
    t.Covered modules supported forwards := by
  obtain ⟨moduleLibrary_,a⟩ := call
  cases a with
  | messages =>
    simp only [threadStep, handleMessages] at ht
    split at ht
    · split at ht
      · cases ht
        exact hs.frame (fun _ => .inl rfl) rfl rfl rfl
      · rename_i status device rc _ _ hnone
        obtain ⟨module_,-,rfl⟩ := Option.map_eq_some_iff.mp ht
        exact hs.takeCommand status device hnone
    · rename_i hthread
      obtain ⟨handler,hhandler,rfl⟩ := Option.map_eq_some_iff.mp ht
      exact hs.keeps hm (ModuleHandler.handleMessages_keeps hhandler hthread)
  | forwards =>
    simp only [threadStep, handleCommandForwards] at ht
    split at ht
    · rename_i hand hacted
      cases ht
      exact hs.pushForwarded hacted
    · rename_i hwaiting
      split at ht
      · cases ht
      · rename_i deviceId rest hfront
        exact hs.takeForwarded hm hwaiting hfront ht
  | command command device =>
    simp only [threadStep, handleCommands] at ht
    split at ht
    · rename_i hupdated
      cases ht
      exact hs.updateCommand command device hupdated
    · cases ht
  | event =>
    obtain ⟨device,hupdated,rfl⟩ := Option.map_eq_some_iff.mp ht
    exact hs.pushEvent hm hupdated
  | force device =>
    obtain ⟨module_,hloaded,rfl⟩ := Option.map_eq_some_iff.mp ht
    exact hs.keeps hm (s.handler.keeps_operate hloaded (.force_aggregation_on_device device) rfl)
  | receive message =>
    cases ht
    exact hs.frame (fun _ => .inl rfl) rfl rfl rfl
  | tick number deviceId =>
    obtain ⟨module_,hloaded,rfl⟩ := Option.map_eq_some_iff.mp ht
    exact hs.keeps hm (s.handler.keeps_operate hloaded (.timeouted_force_aggregation deviceId) rfl)
  | erase number i =>
    obtain ⟨aggregator,hrun,rfl⟩ := Option.map_eq_some_iff.mp ht
    exact hs.frame (fun k => s.handler.entry_runPosted k hrun) rfl rfl rfl
  | sent =>
    cases ht
    exact hs.frame (fun _ => .inl rfl) rfl rfl rfl
  | listened =>
    cases ht
    exact hs.frame (fun _ => .inl rfl) rfl rfl rfl

end Steps

/-! ## Every run -/

/-- In every state of a run the queued commands of a registered push-only device are at most as
many as its forward events that are not acted on, and one more while `handleCommand` is about to
push another one. When there is none of these, no command is left. -/
theorem exec_commands_covered [BufferType β] {as : List (ModuleLibrary β × ThreadAction β)}
    (hm : ∀ call ∈ as, Steady modules supported forwards call.1) (he : exec threadStep init as = some s)
    {k : DeviceKey} {d : StatusAggregatorDeviceState β} (hd : s.handler.entry k = some d)
    (hpush : d.forwardCommandImmediately_ = true) :
    d.externalCommandQueue_.length ≤ s.pendingEvents k + s.betweenPush k ∧
      (s.pendingEvents k = 0 → s.betweenPush k = 0 → d.externalCommandQueue_ = []) := by
  have hs : s.Covered modules supported forwards :=
    exec_guarded_invariant Covered.init (fun _ _ _ hs ha ht => hs.step ha ht)
      (guarded_of_forall_mem fun call hcall _ => hm call hcall) he
  have hcovered := hs.covered k d hd hpush
  refine ⟨hcovered,?_⟩
  intro hpending hbetween
  apply List.eq_nil_of_length_eq_zero
  omega

theorem pushLibrary_steady : Steady [1] (fun _ _ => true) (fun _ _ => true) pushLibrary := by
  constructor
  · rfl
  · exact pushLibrary_supports
  · intro number module_ h device_type
    rw [pushLibrary_lookup h]
    exact ⟨fun _ => rfl,fun _ => rfl⟩

/-- The event of the first command waits, and that of the second one is about to be pushed. -/
def secondCommand : List (ModuleLibrary (List UInt8) × ThreadAction (List UInt8)) :=
  cameraStatus [1] 9 ++ cameraCommand [10] ++ [(pushLibrary,.command [11] StatusAggregator.camera)]

theorem exec_commands_covered_secondCommand :
    ∃ s d, exec threadStep init secondCommand = some s ∧
      s.handler.entry StatusAggregator.camera.key = some d ∧ d.externalCommandQueue_ = [[10],[11]] ∧
      d.externalCommandQueue_.length ≤
        s.pendingEvents StatusAggregator.camera.key + s.betweenPush StatusAggregator.camera.key := by
  have hm : ∀ call ∈ secondCommand, Steady [1] (fun _ _ => true) (fun _ _ => true) call.1 := by
    have hlibrary : ∀ call ∈ secondCommand, call.1 = pushLibrary := by
      simp [secondCommand, cameraStatus, cameraCommand]
    intro call hcall
    rw [hlibrary call hcall]
    exact pushLibrary_steady
  exact ⟨_,_,rfl,rfl,rfl,(exec_commands_covered hm rfl rfl rfl).1⟩

/-- The module of the camera, while it says of no type that it is supported. -/
def refusingLibrary : ModuleLibrary (List UInt8) :=
  AList.singleton 1 { StatusAggregator.relay with
    isDeviceTypeSupported := fun _ => .NOT_OK
    forwardCommandOnReceive := fun _ => .OK }

/-- A command is accepted; when its event is acted on, the type of the camera is not supported. -/
def refusedEvent : List (ModuleLibrary (List UInt8) × ThreadAction (List UInt8)) :=
  cameraStatus [1] 9 ++ cameraCommand [10] ++ [(refusingLibrary,.forwards),(refusingLibrary,.forwards)]

/-- The event is popped all the same, and the command it was for stays in the queue. -/
theorem refusedEvent_leaves_command :
    ¬∀ (as : List (ModuleLibrary (List UInt8) × ThreadAction (List UInt8))) s k d,
      (∀ call ∈ as, call.1.keys = [1] ∧ ∀ number module_, call.1.lookup number = some module_ → ∀ device_type,
        (module_.isDeviceTypeSupported device_type = .OK ∨ module_.isDeviceTypeSupported device_type = .NOT_OK) ∧
          module_.forwardCommandOnReceive device_type = .OK) →
      exec threadStep init as = some s → s.handler.entry k = some d → d.forwardCommandImmediately_ = true →
      d.externalCommandQueue_.length ≤ s.pendingEvents k + s.betweenPush k := by
  intro hall
  have hlibrary : ∀ call ∈ refusedEvent, call.1 = pushLibrary ∨ call.1 = refusingLibrary := by
    simp [refusedEvent, cameraStatus, cameraCommand]
  have hanswers : ∀ call ∈ refusedEvent, call.1.keys = [1] ∧ ∀ number module_,
      call.1.lookup number = some module_ → ∀ device_type,
        (module_.isDeviceTypeSupported device_type = .OK ∨ module_.isDeviceTypeSupported device_type = .NOT_OK) ∧
          module_.forwardCommandOnReceive device_type = .OK := by
    intro call hcall
    obtain h | h := hlibrary call hcall <;> rw [h]
    · refine ⟨rfl,?_⟩
      intro number module_ hm device_type
      rw [pushLibrary_lookup hm]
      exact ⟨.inl rfl,rfl⟩
    · refine ⟨rfl,?_⟩
      intro number module_ hm device_type
      rw [singleton_lookup hm]
      exact ⟨.inr rfl,rfl⟩
  have hleft := hall refusedEvent _ StatusAggregator.camera.key _ hanswers rfl rfl rfl
  revert hleft
  decide +kernel

end HandlerThreads

end ModuleGateway.Modules
