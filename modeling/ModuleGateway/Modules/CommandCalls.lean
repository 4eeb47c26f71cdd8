import ModuleGateway.Modules.LibraryHandlers
import ModuleGateway.Modules.RegisteredDevices

/-! # The calls that take a command

`get_command` looks its device up without a check, in a section of its own after the status was
added, and an erasure may come between the two. `get_command_for_forwarding` checks the device in
the section that looks it up. Either hands the command to `generateCommand`, which may throw.
-/
namespace ModuleGateway.Modules
open Structures Execution

variable {β : Type}

/-- The codes `getCommandUnlocked` documents. -/
def Documented : Except ReturnCode β → Prop
  | .ok _ => True
  | .error code => code = .DEVICE_NOT_SUPPORTED ∨ code = .NO_MESSAGE_AVAILABLE ∨ code = .COMMAND_INVALID

namespace StatusAggregator
variable (module_ : ModuleLibraryHandler β)

/-- `generateCommand` throws for the command that the entry gives away. -/
def generateCommandThrows (status : β) (device_type : UInt32) (d : StatusAggregatorDeviceState β) : Bool :=
  d.consumeCommand.1.any fun currentCommand =>
    (module_.generateCommand status d.status_ currentCommand device_type).1 = .BufferNotAllocated

theorem consumeCommand_status (d : StatusAggregatorDeviceState β) : d.consumeCommand.2.status_ = d.status_ := by
  unfold StatusAggregatorDeviceState.consumeCommand
  split
  · rfl
  · split <;> rfl

theorem not_documented_BufferNotAllocated :
    ¬Documented (.error .BufferNotAllocated : Except ReturnCode β) := by
  rintro (h | h | h) <;> cases h

/-- For a registered device the look-up succeeds, and only `generateCommand` can throw. -/
theorem getCommandUnlocked_of_lookup {s : StatusAggregator β} {device : DeviceKey}
    {d : StatusAggregatorDeviceState β} (hd : s.devices.lookup device = some d) (status : β) :
    ∃ r, s.getCommandUnlocked module_ status device = some r ∧
      (r.1 = .error .BufferNotAllocated ∨ Documented r.1) ∧
      (r.1 = .error .BufferNotAllocated ↔ is_device_type_supported module_ device.deviceType ≠ .NOT_OK ∧
        generateCommandThrows module_ status device.deviceType d = true) := by
  have hstatus := consumeCommand_status d
  unfold getCommandUnlocked generateCommandThrows
  rw [hd]
  by_cases hsupported : is_device_type_supported module_ device.deviceType = .NOT_OK
  · rw [if_pos hsupported]
    exact ⟨_,rfl,.inr (.inl rfl),nofun,fun h => absurd hsupported h.1⟩
  · rw [if_neg hsupported]
    dsimp only
    generalize d.consumeCommand = consumed at hstatus ⊢
    obtain ⟨current,d'⟩ := consumed
    cases current with
    | none => exact ⟨_,rfl,.inr (.inr (.inl rfl)),nofun,fun h => nomatch h.2⟩
    | some current =>
      simp only [Option.any_some] at hstatus ⊢
      rw [hstatus]
      rcases module_.generateCommand status d.status_ current device.deviceType with ⟨code,generated⟩
      cases code <;> simp [hsupported, Documented, ReturnCode.failedAs]

/-- `get_command_for_forwarding` only looks up a device that it has found registered. -/
theorem get_command_for_forwarding_returns (s : StatusAggregator β) (device : DeviceIdentification) :
    ∃ r, s.get_command_for_forwarding module_ device = some r ∧
      (r.1 = .error .BufferNotAllocated ∨ r.1 = .error .DEVICE_NOT_REGISTERED ∨ Documented r.1) ∧
      (r.1 = .error .BufferNotAllocated ↔ is_device_type_supported module_ device.deviceType = .OK ∧
        ∃ d, s.devices.lookup device.key = some d ∧
          generateCommandThrows module_ d.status_ device.deviceType d = true) := by
  unfold get_command_for_forwarding
  cases hd : s.devices.lookup device.key with
  | none =>
    rw [if_pos ((isDeviceValidUnlocked_eq_NOT_OK_iff module_ s device.key).mpr (.inr hd))]
    exact ⟨_,rfl,.inr (.inl rfl),nofun,by rintro ⟨-,d,⟨⟩,-⟩⟩
  | some d =>
    have hvalid := isDeviceValidUnlocked_of_isSome module_ s device.key (by rw [hd]; rfl)
    by_cases hok : is_device_type_supported module_ device.key.deviceType = .OK
    · have hno : is_device_type_supported module_ device.key.deviceType ≠ .NOT_OK := by
        rw [hok]
        nofun
      rw [if_neg fun h => hvalid.mp h hok]
      obtain ⟨r,hr,hcases,hthrows⟩ := getCommandUnlocked_of_lookup module_ hd d.status_
      refine ⟨r,hr,hcases.imp_right .inr,hthrows.trans ?_⟩
      constructor
      · exact fun h => ⟨hok,d,rfl,h.2⟩
      · rintro ⟨-,_,⟨⟩,h⟩
        exact ⟨hno,h⟩
    · rw [if_pos (hvalid.mpr hok)]
      exact ⟨_,rfl,.inr (.inl rfl),nofun,fun h => absurd h.1 hok⟩

end StatusAggregator

/-! ## The device between the two sections of `handleStatus` -/

namespace ModuleHandler
variable {moduleLibrary_ : ModuleLibrary β} {s t : ModuleHandler β}

/-- Where the thread is about to fetch a command, the device is registered. -/
def Held (s : ModuleHandler β) : Prop := ∀ status device rc, s.thread = .commanding status device rc → s.Present device

theorem held_of_thread (h : ∀ status device rc, s.thread ≠ .commanding status device rc) : s.Held :=
  fun status device rc hthread => absurd hthread (h status device rc)

variable [BufferType β]

/-- `handleStatus` goes on to fetch a command only for a device it has registered. -/
theorem handleStatus_held (s : ModuleHandler β) (status : DeviceStatus β) :
    (s.handleStatus moduleLibrary_ status).Held := by
  intro status' device rc hthread
  obtain h | ⟨module_,r,aggregator,hm,hadd,⟨code,rfl,-,h⟩ | ⟨rfl,h⟩ | ⟨n,rfl,h⟩⟩ :=
    s.handleStatus_cases moduleLibrary_ status
  · rw [h] at hthread
    cases hthread
  · rw [h] at hthread
    cases hthread
  · rw [h] at hthread
    cases hthread
  · rw [h] at hthread ⊢
    obtain ⟨-,rfl,-⟩ := (MessageThread.commanding.injEq ..).mp hthread
    obtain ⟨haccepts,-⟩ := StatusAggregator.accepts_iff.mp ⟨n,congrArg Prod.fst hadd⟩
    have hregistered := haccepts.registered status.statusdata
    rw [← StatusAggregator.operate_lookup] at hregistered
    have hagg : aggregator = (s.statusAggregators status.device.module_).operate module_
        (.add_status_to_aggregator status.statusdata status.device) := (congrArg Prod.snd hadd).symm
    simpa [Present, setAggregator, goto, hagg] using hregistered

theorem handleMessage_held (h : s.handleMessage moduleLibrary_ = some t) : t.Held := by
  obtain ⟨-,-,-,rfl | ⟨-,-,rfl⟩ | ⟨device,-,rfl⟩ | ⟨status,-,rfl⟩⟩ := handleMessage_cases h
  · exact held_of_thread nofun
  · exact held_of_thread nofun
  · exact held_of_thread nofun
  · exact handleStatus_held s status

/-- The message thread is between the two sections only right after the first of them. -/
theorem handleMessages_held (h : s.handleMessages moduleLibrary_ = some t) : t.Held := by
  rw [handleMessages] at h
  split at h
  case h_5 => exact handleMessage_held h
  all_goals
    refine held_of_thread fun status' device' rc' => ?_
  case h_1 => obtain rfl := Option.some.inj h; simp
  case h_2 =>
    obtain rfl := Option.some.inj h
    unfold checkModule
    split
    · split <;> simp
    · dsimp only
      split <;> simp
  case h_3 hthread =>
    obtain ⟨module_,-,rfl⟩ := Option.map_eq_some_iff.mp h
    unfold collectStatus
    split
    · simp
    · split
      · simp [hthread]
      · simp
  case h_4 =>
    obtain rfl := Option.some.inj h
    simp only [countTimeouts]
    split <;> simp
  case h_6 =>
    obtain ⟨module_,-,rfl⟩ := Option.map_eq_some_iff.mp h
    rw [retrieveCommand]
    split <;> simp
  case h_7 => obtain rfl := Option.some.inj h; simp
  case h_8 => obtain ⟨module_,-,rfl⟩ := Option.map_eq_some_iff.mp h; simp
  case h_9 =>
    obtain ⟨module_,-,rfl⟩ := Option.map_eq_some_iff.mp h
    rw [forceStatus]
    split <;> simp
  case h_10 => obtain ⟨module_,-,rfl⟩ := Option.map_eq_some_iff.mp h; simp
  case h_11 => obtain ⟨module_,-,rfl⟩ := Option.map_eq_some_iff.mp h; simp [removeDevice]
  case h_12 => obtain rfl := Option.some.inj h; simp
  case h_13 => simp at h

end ModuleHandler

/-! ## Every run -/

namespace HandlerThreads
variable [BufferType β] {s t : HandlerThreads β} {call : ModuleLibrary β × ThreadAction β}

/-- The step calls `get_command` for a device of the module. -/
structure CallsGetCommand (s : HandlerThreads β) (call : ModuleLibrary β × ThreadAction β) (status : β)
    (device : DeviceIdentification) (module_ : ModuleLibraryHandler β) : Prop where
  action : call.2 = .messages
  thread : ∃ rc, s.handler.thread = .commanding status device rc
  hand : s.statusHand = none
  loaded : call.1.lookup device.module_ = some module_

/-- The step calls `get_command_for_forwarding`. -/
structure CallsForForwarding (s : HandlerThreads β) (call : ModuleLibrary β × ThreadAction β)
    (deviceId : DeviceIdentification) (module_ : ModuleLibraryHandler β) : Prop where
  action : call.2 = .forwards
  thread : s.forwardThread = .waiting
  event : s.handler.commandForwardingQueue_.head? = some deviceId
  loaded : call.1.lookup deviceId.module_ = some module_

/-- When the message thread goes on to `get_command`, the device is registered. -/
def AsksRegistered (s : HandlerThreads β) : Prop := s.statusHand = none → s.handler.Held

/-- A step that calls `getCommandUnlocked` gets one of its documented codes. -/
structure CommandSafe (s : HandlerThreads β) (call : ModuleLibrary β × ThreadAction β) : Prop where
  status : ∀ status device module_, s.CallsGetCommand call status device module_ →
    ∃ r, (s.handler.statusAggregators device.module_).get_command module_ status device = some r ∧ Documented r.1
  forward : ∀ deviceId module_, s.CallsForForwarding call deviceId module_ →
    ∃ r, (s.handler.statusAggregators deviceId.module_).get_command_for_forwarding module_ deviceId = some r ∧
      (r.1 = .error .DEVICE_NOT_REGISTERED ∨ Documented r.1)

/-- No erasure of a device runs between the two sections of its `handleStatus`. -/
def NoErasureBetween (s : HandlerThreads β) : ThreadAction β → Prop
  | .erase number i => s.statusHand = none → ∀ status device rc, s.handler.thread = .commanding status device rc →
      device.module_ = number → (s.handler.statusAggregators number).posted[i]? ≠ some device.key
  | _ => True

/-- `generateCommand` does not throw for a command that the step hands to it. -/
structure NoThrow (s : HandlerThreads β) (call : ModuleLibrary β × ThreadAction β) : Prop where
  status : ∀ status device module_ d, s.CallsGetCommand call status device module_ →
    s.handler.entry device.key = some d → module_.isDeviceTypeSupported device.deviceType ≠ .NOT_OK →
      ¬StatusAggregator.generateCommandThrows module_ status device.deviceType d = true
  forward : ∀ deviceId module_ d, s.CallsForForwarding call deviceId module_ →
    s.handler.entry deviceId.key = some d → module_.isDeviceTypeSupported deviceId.deviceType = .OK →
      ¬StatusAggregator.generateCommandThrows module_ d.status_ deviceId.deviceType d = true

omit [BufferType β] in
theorem commandSafe_iff (hs : s.AsksRegistered) : s.CommandSafe call ↔ s.NoThrow call := by
  constructor
  · intro h
    constructor
    · intro status device module_ d hcalls hd hsupported hthrows
      obtain ⟨r,hr,hdocumented⟩ := h.status status device module_ hcalls
      obtain ⟨r',hr',-,hiff⟩ := StatusAggregator.getCommandUnlocked_of_lookup module_ hd status
      obtain rfl : r = r' := Option.some.inj (hr.symm.trans hr')
      rw [hiff.mpr ⟨hsupported,hthrows⟩] at hdocumented
      exact StatusAggregator.not_documented_BufferNotAllocated hdocumented
    · intro deviceId module_ d hcalls hd hsupported hthrows
      obtain ⟨r,hr,hdocumented⟩ := h.forward deviceId module_ hcalls
      obtain ⟨r',hr',-,hiff⟩ := StatusAggregator.get_command_for_forwarding_returns module_
        (s.handler.statusAggregators deviceId.module_) deviceId
      obtain rfl : r = r' := Option.some.inj (hr.symm.trans hr')
      rw [hiff.mpr ⟨hsupported,d,hd,hthrows⟩] at hdocumented
      obtain hregistered | hdocumented := hdocumented
      · cases hregistered
      · exact StatusAggregator.not_documented_BufferNotAllocated hdocumented
  · intro h
    constructor
    · intro status device module_ hcalls
      obtain ⟨rc,hthread⟩ := hcalls.thread
      obtain ⟨d,hd⟩ := Option.isSome_iff_exists.mp (hs hcalls.hand status device rc hthread)
      obtain ⟨r,hr,hcases,hiff⟩ := StatusAggregator.getCommandUnlocked_of_lookup module_ hd status
      refine ⟨r,hr,hcases.resolve_left ?_⟩
      intro hthrown
      obtain ⟨hsupported,hthrows⟩ := hiff.mp hthrown
      exact h.status status device module_ d hcalls hd hsupported hthrows
    · intro deviceId module_ hcalls
      obtain ⟨r,hr,hcases,hiff⟩ := StatusAggregator.get_command_for_forwarding_returns module_
        (s.handler.statusAggregators deviceId.module_) deviceId
      refine ⟨r,hr,hcases.resolve_left ?_⟩
      intro hthrown
      obtain ⟨hsupported,d,hd,hthrows⟩ := hiff.mp hthrown
      exact h.forward deviceId module_ d hcalls hd hsupported hthrows

/-! ### A step -/

omit [BufferType β] in
/-- The other sections leave the message thread where it is, and the device registered. -/
theorem AsksRegistered.beside (hs : s.AsksRegistered) (hthread : t.handler.thread = s.handler.thread)
    (hhand : t.statusHand = s.statusHand)
    (hpresent : ∀ status device rc, s.handler.thread = .commanding status device rc → s.statusHand = none →
      s.handler.Present device → t.handler.Present device) : t.AsksRegistered := by
  intro hnone status device rc hat
  rw [hhand] at hnone
  rw [hthread] at hat
  exact hpresent status device rc hat hnone (hs hnone status device rc hat)

theorem messages_asksRegistered {moduleLibrary_ : ModuleLibrary β} (ht : s.handleMessages moduleLibrary_ = some t) :
    t.AsksRegistered := by
  unfold handleMessages at ht
  split at ht
  · rename_i status device rc hthread
    split at ht
    · cases ht
      exact fun _ => ModuleHandler.held_of_thread nofun
    · rename_i hnone
      obtain ⟨module_,-,rfl⟩ := Option.map_eq_some_iff.mp ht
      obtain ⟨hand,thread,heq,⟨taken,rfl,-,-⟩ | ⟨rfl,rfl | rfl⟩⟩ := takeCommand_eq module_ s status device hnone <;>
        rw [heq]
      · rintro ⟨⟩
      · exact fun _ => ModuleHandler.held_of_thread nofun
      · exact fun _ => ModuleHandler.held_of_thread nofun
  · obtain ⟨handler,hhandler,rfl⟩ := Option.map_eq_some_iff.mp ht
    exact fun _ => ModuleHandler.handleMessages_held hhandler

theorem AsksRegistered.forwards (hs : s.AsksRegistered) {moduleLibrary_ : ModuleLibrary β}
    (ht : s.handleCommandForwards moduleLibrary_ = some t) : t.AsksRegistered := by
  unfold handleCommandForwards at ht
  split at ht
  · rename_i hand hforward
    cases ht
    cases hand with
    | none => exact hs.beside rfl rfl fun _ _ _ _ _ hp => hp
    | some hand => exact hs.beside rfl rfl fun _ _ _ _ _ hp => hp
  · split at ht
    · cases ht
    · obtain ⟨-,rfl⟩ | ⟨module_,hand,-,rfl,-⟩ := takeForwarded_eq ht
      · exact hs.beside rfl rfl fun _ _ _ _ _ hp => hp
      · exact hs.beside rfl rfl fun _ _ _ _ _ hp => ModuleHandler.present_operate hp _ module_ _

theorem AsksRegistered.updateCommand (hs : s.AsksRegistered) (moduleLibrary_ : ModuleLibrary β) (command : β)
    (device : DeviceIdentification) : (s.updateCommand moduleLibrary_ command device).AsksRegistered := by
  obtain h | ⟨module_,-,-,h,-⟩ := updateCommand_eq moduleLibrary_ s command device <;> rw [h]
  · exact hs
  · exact hs.beside rfl rfl fun _ _ _ _ _ hp => ModuleHandler.present_operate hp _ module_ _

omit [BufferType β] in
theorem AsksRegistered.erase (hs : s.AsksRegistered) {number : ℤ} {i : ℕ}
    (hbetween : s.NoErasureBetween (.erase number i)) {aggregator : StatusAggregator β}
    (hrun : (s.handler.statusAggregators number).runPosted i = some aggregator) :
    (s.withHandler (s.handler.setAggregator number aggregator)).AsksRegistered := by
  obtain ⟨key,hi,rfl⟩ := Option.map_eq_some_iff.mp hrun
  refine hs.beside rfl rfl ?_
  intro status device rc hthread hnone hp
  refine ModuleHandler.present_setAggregator hp ?_
  rintro rfl
  have hne : device.key ≠ key := by
    rintro rfl
    exact hbetween hnone status device rc hthread rfl hi
  rw [AList.lookup_erase_ne hne]
  exact hp

/-- Only an erasure can take the device away between the two sections. -/
theorem AsksRegistered.step (hs : s.AsksRegistered) (hbetween : s.NoErasureBetween call.2)
    (ht : s.threadStep call = some t) : t.AsksRegistered := by
  obtain ⟨moduleLibrary_,a⟩ := call
  cases a with
  | messages => exact messages_asksRegistered ht
  | forwards => exact hs.forwards ht
  | command command device =>
    simp only [threadStep, handleCommands] at ht
    split at ht
    · cases ht
      exact hs.updateCommand moduleLibrary_ command device
    · cases ht
  | event =>
    obtain ⟨device,-,rfl⟩ := Option.map_eq_some_iff.mp ht
    exact hs.beside rfl rfl fun _ _ _ _ _ hp => hp
  | force device =>
    obtain ⟨module_,-,rfl⟩ := Option.map_eq_some_iff.mp ht
    exact hs.beside rfl rfl fun _ _ _ _ _ hp =>
      ModuleHandler.present_operate hp device.module_ module_ (.force_aggregation_on_device device)
  | receive message =>
    cases ht
    exact hs.beside rfl rfl fun _ _ _ _ _ hp => hp
  | tick number deviceId =>
    obtain ⟨module_,-,rfl⟩ := Option.map_eq_some_iff.mp ht
    exact hs.beside rfl rfl fun _ _ _ _ _ hp =>
      ModuleHandler.present_operate hp number module_ (.timeouted_force_aggregation deviceId)
  | erase number i =>
    obtain ⟨aggregator,hrun,rfl⟩ := Option.map_eq_some_iff.mp ht
    exact hs.erase hbetween hrun
  | sent =>
    cases ht
    exact hs.beside rfl rfl fun _ _ _ _ _ hp => hp
  | listened =>
    cases ht
    exact hs.beside rfl rfl fun _ _ _ _ _ hp => hp

/-- An erasure that does come in between takes the device away. -/
theorem erase_not_asksRegistered (moduleLibrary_ : ModuleLibrary β) {number : ℤ} {i : ℕ}
    (hbetween : ¬s.NoErasureBetween (.erase number i)) :
    ∃ t, s.threadStep (moduleLibrary_,.erase number i) = some t ∧ ¬t.AsksRegistered := by
  simp only [NoErasureBetween, not_forall, not_not] at hbetween
  obtain ⟨hnone,status,device,rc,hthread,rfl,hi⟩ := hbetween
  refine ⟨_,by simp only [threadStep, StatusAggregator.runPosted, hi]; rfl,?_⟩
  intro hasks
  have hpresent := hasks hnone status device rc hthread
  simp [withHandler, ModuleHandler.Present, ModuleHandler.setAggregator] at hpresent

omit [BufferType β] in
theorem init_asksRegistered : (init : HandlerThreads β).AsksRegistered := fun _ => ModuleHandler.held_of_thread nofun

/-! ### A run -/

/-- `getCommandUnlocked` is called for registered devices only and returns one of its documented codes, in
every state of a run, if and only if no erasure of a device runs between `add_status_to_aggregator` and
`get_command` of its status and `generateCommand` does not throw. -/
theorem exec_commandSafe_iff (calls : List (ModuleLibrary β × ThreadAction β)) :
    (∀ bs cs s, calls = bs ++ cs → exec threadStep init bs = some s →
        s.AsksRegistered ∧ ∀ call ∈ cs.head?, s.CommandSafe call) ↔
      Guarded threadStep (fun s call => s.NoErasureBetween call.2 ∧ s.NoThrow call) init calls := by
  constructor
  · intro hall
    rw [guarded_iff_forall_split]
    intro bs call cs s hcalls hs
    obtain ⟨hasks,hsafe⟩ := hall bs (call :: cs) s hcalls hs
    refine ⟨?_,(commandSafe_iff hasks).mp (hsafe call rfl)⟩
    obtain ⟨moduleLibrary_,a⟩ := call
    cases a with
    | erase number i =>
      by_contra hbetween
      obtain ⟨t,ht,hno⟩ := erase_not_asksRegistered moduleLibrary_ hbetween
      have hafter := hall (bs ++ [(moduleLibrary_,.erase number i)]) cs t
        (by rw [hcalls, List.append_assoc]; rfl) (exec_concat_eq_some.mpr ⟨s,hs,ht⟩)
      exact hno hafter.1
    | _ => trivial
  · rintro hg bs cs s rfl hs
    obtain ⟨hbefore,hafter⟩ := guarded_append hg hs
    have hasks : s.AsksRegistered :=
      exec_guarded_invariant init_asksRegistered (fun _ _ _ hs ha ht => hs.step ha.1 ht) hbefore hs
    refine ⟨hasks,?_⟩
    intro call hcall
    obtain ⟨rest,rfl⟩ := List.head?_eq_some_iff.mp hcall
    exact (commandSafe_iff hasks).mpr hafter.1.2

/-! ### Both ways to go wrong -/

/-- The device sends a status, disconnects, and sends a status again; the erasure of its
disconnect runs when the new status has been added. -/
def erasedBetween : List (ModuleLibrary (List UInt8) × ThreadAction (List UInt8)) :=
  let camera := StatusAggregator.camera
  [(relayLibrary,.receive (.message false (.deviceStatus ⟨camera,[1]⟩))),
      (relayLibrary,.receive (.disconnect camera)),
      (relayLibrary,.receive (.message false (.deviceStatus ⟨camera,[2]⟩)))] ++
    List.replicate 21 (relayLibrary,.messages) ++ [(relayLibrary,.erase 1 0)]

/-- A library whose `generate_command` returns `OK` with a null pointer. -/
def nullCommand : ModuleFunctions :=
  { pusher with
    generate_command := fun _ _ _ _ => (.OK,.null 0)
    generate_first_command := fun _ => (.OK,.bytes [0])
    forward_command_on_receive := none }

def nullLibrary : ModuleLibrary RawBuffer := AList.singleton 1 (localHandler nullCommand)

/-- The first status of the camera has been added. -/
def statusAdded : List (ModuleLibrary RawBuffer × ThreadAction RawBuffer) :=
  (nullLibrary,.receive (.message false (.deviceStatus ⟨StatusAggregator.camera,.bytes [1]⟩))) ::
    List.replicate 4 (nullLibrary,.messages)

/-- After the erasure the look-up throws, and for a null pointer `generateCommand` does; either ends the
message thread. -/
theorem exec_not_commandSafe :
    (∃ s t, exec threadStep init erasedBetween = some s ∧ ¬s.AsksRegistered ∧
        s.threadStep (relayLibrary,.messages) = some t ∧ t.handler.thread = .terminated) ∧
      ∃ s t, exec threadStep init statusAdded = some s ∧ ¬s.CommandSafe (nullLibrary,.messages) ∧
        s.threadStep (nullLibrary,.messages) = some t ∧ t.handler.thread = .terminated := by
  constructor
  · refine ⟨_,_,rfl,?_,rfl,rfl⟩
    intro h
    exact Bool.false_ne_true (h rfl [2] StatusAggregator.camera 0 rfl)
  · refine ⟨_,_,rfl,?_,rfl,rfl⟩
    intro h
    obtain ⟨r,hr,hdocumented⟩ := h.status (.bytes [1]) StatusAggregator.camera _ ⟨rfl,⟨1,rfl⟩,rfl,rfl⟩
    cases hr
    exact StatusAggregator.not_documented_BufferNotAllocated hdocumented

/-! ## The message thread lives on -/

end HandlerThreads

/-- No call of the module that fills a buffer for a status aggregator throws. -/
structure NeverThrows (module_ : ModuleLibraryHandler β) : Prop where
  generateCommand : ∀ new_status current_status current_command device_type,
    (module_.generateCommand new_status current_status current_command device_type).1 ≠ .BufferNotAllocated
  aggregateStatus : ∀ current_status new_status device_type,
    (module_.aggregateStatus current_status new_status device_type).1 ≠ .BufferNotAllocated
  generateFirstCommand : ∀ device_type, (module_.generateFirstCommand device_type).1 ≠ .BufferNotAllocated

namespace NeverThrows
variable {module_ : ModuleLibraryHandler β} (h : NeverThrows module_)
include h

theorem generateCommandThrows (status : β) (device_type : UInt32) (d : StatusAggregatorDeviceState β) :
    ¬StatusAggregator.generateCommandThrows module_ status device_type d = true := by
  unfold StatusAggregator.generateCommandThrows
  rw [Option.any_eq_true]
  rintro ⟨command,-,hthrows⟩
  exact h.generateCommand _ _ _ _ (of_decide_eq_true hthrows)

theorem add_status_to_aggregator (s : StatusAggregator β) (status : β) (device : DeviceIdentification) :
    (s.add_status_to_aggregator module_ status device).1 ≠ .error .BufferNotAllocated := by
  unfold StatusAggregator.add_status_to_aggregator
  dsimp only
  split
  · nofun
  · split
    · have hfirst := h.generateFirstCommand device.deviceType
      generalize module_.generateFirstCommand device.deviceType = result at hfirst ⊢
      obtain ⟨code,command⟩ := result
      cases code <;> simp_all [ReturnCode.failedAs]
    · rename_i d _
      have hthrows : ¬StatusAggregator.aggregateStatusThrows module_ d status device.deviceType = true :=
        fun hthrows => h.aggregateStatus _ _ _ (of_decide_eq_true hthrows)
      rw [if_neg hthrows]
      nofun

end NeverThrows

namespace HandlerThreads
variable [BufferType β] {s t : HandlerThreads β} {moduleLibrary_ : ModuleLibrary β}

def NeverThrow (moduleLibrary_ : ModuleLibrary β) : Prop :=
  ∀ number module_, moduleLibrary_.lookup number = some module_ → NeverThrows module_

end HandlerThreads

/-- Only a module that throws can end the thread outside `get_command`. -/
theorem ModuleHandler.handleMessages_lives [BufferType β] {moduleLibrary_ : ModuleLibrary β} {s t : ModuleHandler β}
    (hquiet : HandlerThreads.NeverThrow moduleLibrary_)
    (hcommanding : ∀ status device rc, s.thread ≠ .commanding status device rc)
    (h : s.handleMessages moduleLibrary_ = some t) : t.thread ≠ .terminated := by
  unfold handleMessages at h
  split at h <;> rename_i hthread
  · cases h
    nofun
  · cases h
    unfold checkModule
    split
    · split <;> nofun
    · dsimp only
      split <;> nofun
  · obtain ⟨module_,-,rfl⟩ := Option.map_eq_some_iff.mp h
    unfold collectStatus
    split
    · nofun
    · split
      · rw [pushExternal_thread, setAggregator_thread, hthread]
        nofun
      · nofun
  · cases h
    unfold countTimeouts
    dsimp only
    split <;> nofun
  · obtain ⟨-,-,-,rfl | ⟨-,-,rfl⟩ | ⟨device,-,rfl⟩ | ⟨status,-,rfl⟩⟩ := handleMessage_cases h
    · nofun
    · nofun
    · nofun
    · obtain h | ⟨module_,r,_,hm,hadd,⟨_,-,-,h⟩ | ⟨rfl,-⟩ | ⟨_,-,h⟩⟩ := s.handleStatus_cases moduleLibrary_ status
      · rw [h]
        nofun
      · rw [h]
        nofun
      · have hno := (hquiet _ module_ hm).add_status_to_aggregator (s.statusAggregators status.device.module_)
          status.statusdata status.device
        rw [hadd] at hno
        exact absurd rfl hno
      · rw [h]
        nofun
  · exact absurd hthread (hcommanding _ _ _)
  · cases h
    nofun
  · obtain ⟨module_,-,rfl⟩ := Option.map_eq_some_iff.mp h
    nofun
  · obtain ⟨module_,-,rfl⟩ := Option.map_eq_some_iff.mp h
    unfold forceStatus
    split <;> nofun
  · obtain ⟨module_,-,rfl⟩ := Option.map_eq_some_iff.mp h
    nofun
  · obtain ⟨module_,-,rfl⟩ := Option.map_eq_some_iff.mp h
    nofun
  · cases h
    nofun
  · cases h

namespace HandlerThreads
variable [BufferType β] {s t : HandlerThreads β} {moduleLibrary_ : ModuleLibrary β}

/-- The message thread has not ended, and the device whose command it is about to get is registered. -/
structure Lives (s : HandlerThreads β) : Prop where
  thread : s.handler.thread ≠ .terminated
  asks : s.AsksRegistered

omit [BufferType β] in
theorem Lives.init : (init : HandlerThreads β).Lives := ⟨nofun,init_asksRegistered⟩

/-- The look-up finds the device, and nothing throws. -/
theorem Lives.messages (hs : s.Lives) (hquiet : NeverThrow moduleLibrary_)
    (ht : s.handleMessages moduleLibrary_ = some t) : t.handler.thread ≠ .terminated := by
  unfold handleMessages at ht
  split at ht
  · rename_i status device rc hthread
    split at ht
    · cases ht
      nofun
    · rename_i hnone
      obtain ⟨module_,hm,rfl⟩ := Option.map_eq_some_iff.mp ht
      obtain ⟨d,hd⟩ := Option.isSome_iff_exists.mp (hs.asks hnone status device rc hthread)
      obtain ⟨⟨r,aggregator⟩,hr,-,hthrown⟩ := StatusAggregator.getCommandUnlocked_of_lookup module_ hd status
      have hno : r ≠ .error .BufferNotAllocated :=
        fun hthrow => (hquiet _ module_ hm).generateCommandThrows _ _ d (hthrown.mp hthrow).2
      have hcommand : (s.handler.statusAggregators device.module_).get_command module_ status device =
        some (r,aggregator) := hr
      unfold takeCommand
      simp only [hcommand]
      cases r with
      | ok command => exact hs.thread
      | error code => cases code <;> first | exact hs.thread | exact absurd rfl hno | nofun
  · rename_i hcommanding
    obtain ⟨handler,hhandler,rfl⟩ := Option.map_eq_some_iff.mp ht
    exact ModuleHandler.handleMessages_lives hquiet hcommanding hhandler

/-- While no erasure comes between the two sections of `handleStatus` and no module throws. -/
theorem Lives.step (hs : s.Lives) {a : ThreadAction β} (hbetween : s.NoErasureBetween a)
    (hquiet : NeverThrow moduleLibrary_) (ht : s.threadStep (moduleLibrary_,a) = some t) : t.Lives := by
  refine ⟨?_,hs.asks.step hbetween ht⟩
  by_cases hmessages : a = .messages
  · subst hmessages
    exact hs.messages hquiet ht
  · obtain ⟨-,hthread,-⟩ := other_change hmessages ht
    rw [hthread]
    exact hs.thread

end HandlerThreads

end ModuleGateway.Modules
