import ModuleGateway.Modules.Commands
import ModuleGateway.Modules.ModuleHandler

/-! # The threads of the Module Handler

The Module Handler with the sections that the other threads can come between: a command is taken
under the lock of the aggregator and pushed after it was released, and `handleCommand` of the
External Client first adds the command and then its forward event. What a module answers may
change from call to call, so every action comes with the modules as they are at that moment.
`accepted` keeps the commands that were accepted for a device, `pushed` the numbers of those that
messages were generated from; no function looks at them.
-/
namespace ModuleGateway.Modules
open Structures Execution

variable {β : Type}

/-- A command that was taken and is not pushed yet, with the number of the external command it
was generated from. -/
structure Hand (β : Type) where
  device : DeviceIdentification
  command : β
  number : Option ℕ

/-- Where the forwarding thread is: before `get_command_for_forwarding` of the event at the front,
or past it with the command it got, if any. -/
inductive ForwardThread (β : Type) where
  | waiting
  | acted (hand : Option (Hand β))

/-- `statusHand` is the command of `handleStatus` between `get_command` and its push, `updated` the
device of `handleCommand` past `update_command`. -/
structure HandlerThreads (β : Type) where
  handler : ModuleHandler β
  statusHand : Option (Hand β)
  forwardThread : ForwardThread β
  updated : Option DeviceIdentification
  accepted : DeviceKey → List β
  pushed : List (DeviceKey × ℕ)

namespace ModuleHandler

/-- The entry of an identity in the aggregator of its module. -/
def entry (s : ModuleHandler β) (k : DeviceKey) : Option (StatusAggregatorDeviceState β) :=
  (s.statusAggregators k.module_).devices.lookup k

def externalCommandQueue (s : ModuleHandler β) (k : DeviceKey) : List β :=
  (s.entry k).elim [] StatusAggregatorDeviceState.externalCommandQueue_

def aggregatedMessages (s : ModuleHandler β) (k : DeviceKey) : List β :=
  (s.entry k).elim [] StatusAggregatorDeviceState.aggregatedMessages_

end ModuleHandler

namespace HandlerThreads

def init : HandlerThreads β := ⟨.init,none,.waiting,none,fun _ => [],[]⟩

/-- How many of the accepted commands are no longer in the queue, which holds the last ones. -/
def taken (s : HandlerThreads β) (k : DeviceKey) : ℕ :=
  (s.accepted k).length - (s.handler.externalCommandQueue k).length

/-- The number of the command at the front of the queue. -/
def nextNumber (s : HandlerThreads β) (k : DeviceKey) : Option ℕ :=
  if (s.handler.externalCommandQueue k).isEmpty then none else some (s.taken k)

def withHandler (s : HandlerThreads β) (handler : ModuleHandler β) : HandlerThreads β :=
  { s with handler := handler }

def push (s : HandlerThreads β) (hand : Hand β) : HandlerThreads β :=
  { s with
    handler := s.handler.pushInternal (.message (.deviceCommand ⟨hand.device,hand.command⟩))
    pushed := s.pushed ++ hand.number.toList.map (Prod.mk hand.device.key) }

/-! ## The message thread -/

/-- `handleStatus` up to the end of `get_command`. -/
def takeCommand [BufferType β] (module_ : ModuleLibraryHandler β) (s : HandlerThreads β) (status : β)
    (device : DeviceIdentification) : HandlerThreads β :=
  match (s.handler.statusAggregators device.module_).get_command module_ status device with
  | none => s.withHandler (s.handler.goto .terminated)
  | some (.ok command,aggregator) =>
    { s with
      handler := s.handler.setAggregator device.module_ aggregator
      statusHand := some ⟨device,command,s.nextNumber device.key⟩ }
  | some (.error .NO_MESSAGE_AVAILABLE,aggregator) =>
    { s with
      handler := s.handler.setAggregator device.module_ aggregator
      statusHand := some ⟨device,BufferType.unallocated,none⟩ }
  | some (.error .BufferNotAllocated,aggregator) =>
    s.withHandler ((s.handler.setAggregator device.module_ aggregator).goto .terminated)
  | some (.error _,aggregator) =>
    s.withHandler ((s.handler.setAggregator device.module_ aggregator).goto .popping)

/-- The push of the command, or the empty one. -/
def pushCommand (s : HandlerThreads β) (hand : Hand β) (rc : ℕ) : HandlerThreads β :=
  let s := s.push hand
  { s with statusHand := none, handler := s.handler.goto (.sending hand.device rc) }

def handleMessages [BufferType β] (moduleLibrary_ : ModuleLibrary β) (s : HandlerThreads β) :
    Option (HandlerThreads β) :=
  match s.handler.thread with
  | .commanding status device rc =>
    match s.statusHand with
    | some hand => some (s.pushCommand hand rc)
    | none => (moduleLibrary_.lookup device.module_).map fun module_ => takeCommand module_ s status device
  | _ => (s.handler.handleMessages moduleLibrary_).map s.withHandler

/-! ## The forwarding thread -/

/-- `handleCommandForward` up to the end of `get_command_for_forwarding`. -/
def takeForwarded (moduleLibrary_ : ModuleLibrary β) (s : HandlerThreads β) (deviceId : DeviceIdentification) :
    Option (HandlerThreads β) :=
  match moduleLibrary_.lookup deviceId.module_ with
  | none => some { s with forwardThread := .acted none }
  | some module_ =>
    match (s.handler.statusAggregators deviceId.module_).get_command_for_forwarding module_ deviceId with
    | none => none
    | some (.ok command,aggregator) =>
      some { s with
        handler := s.handler.setAggregator deviceId.module_ aggregator
        forwardThread := .acted (some ⟨deviceId,command,s.nextNumber deviceId.key⟩) }
    | some (.error .BufferNotAllocated,_) => none
    | some (.error _,aggregator) =>
      some { s with
        handler := s.handler.setAggregator deviceId.module_ aggregator
        forwardThread := .acted none }

/-- The push of the command that was got, and the `pop` of the event. -/
def pushForwarded (s : HandlerThreads β) (hand : Option (Hand β)) : HandlerThreads β :=
  let s := hand.elim s s.push
  { s with
    handler := { s.handler with commandForwardingQueue_ := s.handler.commandForwardingQueue_.tail }
    forwardThread := .waiting }

def handleCommandForwards (moduleLibrary_ : ModuleLibrary β) (s : HandlerThreads β) : Option (HandlerThreads β) :=
  match s.forwardThread with
  | .acted hand => some (s.pushForwarded hand)
  | .waiting =>
    match s.handler.commandForwardingQueue_ with
    | [] => none
    | deviceId :: _ => s.takeForwarded moduleLibrary_ deviceId

/-! ## Commands of the External Client -/

/-- `ExternalClient::handleCommand` up to the end of `update_command`. -/
def updateCommand [BufferType β] (moduleLibrary_ : ModuleLibrary β) (s : HandlerThreads β) (command : β)
    (device : DeviceIdentification) : HandlerThreads β :=
  match moduleLibrary_.lookup device.module_ with
  | none => s
  | some module_ =>
    if isAllocated command then
      match (s.handler.statusAggregators device.module_).update_command module_ command device with
      | (.OK,aggregator) =>
        { s with
          handler := s.handler.setAggregator device.module_ aggregator
          updated := some device
          accepted := Function.update s.accepted device.key (s.accepted device.key ++ [command]) }
      | (_,aggregator) => s.withHandler (s.handler.setAggregator device.module_ aggregator)
    else s

/-- The rest of `handleCommand`: whether the command is forwarded, and the push of its event. -/
def pushEvent (moduleLibrary_ : ModuleLibrary β) (s : HandlerThreads β) (device : DeviceIdentification) :
    HandlerThreads β :=
  let forwards : Bool := (moduleLibrary_.lookup device.module_).any fun module_ =>
    module_.forwardCommandOnReceive device.deviceType = .OK
  { s with
    updated := none
    handler := { s.handler with
      commandForwardingQueue_ := s.handler.commandForwardingQueue_ ++ if forwards then [device] else [] } }

/-- The thread of the External Client that handles the commands one after the other. -/
def handleCommands [BufferType β] (moduleLibrary_ : ModuleLibrary β) (s : HandlerThreads β) (command : β)
    (device : DeviceIdentification) : Option (HandlerThreads β) :=
  match s.updated with
  | none => some (s.updateCommand moduleLibrary_ command device)
  | some _ => none

/-! ## Runs -/

/-- `command` begins `handleCommand`, `event` ends it; `force` is `force_aggregation_on_device` of
another thread, and `sent` and `listened` say that the other side took a message. -/
inductive ThreadAction (β : Type) where
  | messages
  | forwards
  | command (command : β) (device : DeviceIdentification)
  | event
  | force (device : DeviceIdentification)
  | receive (message : InternalClientMessage β)
  | tick (number : ℤ) (deviceId : DeviceKey)
  | erase (number : ℤ) (i : ℕ)
  | sent
  | listened

/-- At every call `isDeviceTypeSupported` returns `OK` or `NOT_OK`, and the same for a type. -/
def Supports (supported : ℤ → UInt32 → Bool) (moduleLibrary_ : ModuleLibrary β) : Prop :=
  ∀ number module_, moduleLibrary_.lookup number = some module_ → ∀ device_type,
    module_.isDeviceTypeSupported device_type = if supported number device_type then .OK else .NOT_OK

/-- Each action meets the modules as they are at that moment. -/
def threadStep [BufferType β] (s : HandlerThreads β) (call : ModuleLibrary β × ThreadAction β) :
    Option (HandlerThreads β) :=
  match call.2 with
  | .messages => s.handleMessages call.1
  | .forwards => s.handleCommandForwards call.1
  | .command command device => s.handleCommands call.1 command device
  | .event => s.updated.map fun device => s.pushEvent call.1 device
  | .force device =>
    (call.1.lookup device.module_).map fun module_ =>
      s.withHandler (s.handler.setAggregator device.module_
        ((s.handler.statusAggregators device.module_).force_aggregation_on_device module_ device).2)
  | .receive message =>
    some (s.withHandler { s.handler with fromInternalQueue_ := s.handler.fromInternalQueue_ ++ [message] })
  | .tick number deviceId =>
    (call.1.lookup number).map fun module_ =>
      s.withHandler (s.handler.setAggregator number
        ((s.handler.statusAggregators number).timeouted_force_aggregation module_ deviceId).2)
  | .erase number i =>
    ((s.handler.statusAggregators number).runPosted i).map fun aggregator =>
      s.withHandler (s.handler.setAggregator number aggregator)
  | .sent => some (s.withHandler { s.handler with toExternalQueue_ := s.handler.toExternalQueue_.tail })
  | .listened => some (s.withHandler { s.handler with toInternalQueue_ := s.handler.toInternalQueue_.tail })

/-! ## The sections put together -/

section Sections
variable [BufferType β] (moduleLibrary_ : ModuleLibrary β) (module_ : ModuleLibraryHandler β) (s : HandlerThreads β)

/-- Without anybody in between, the two sections are what `handleStatus` does after its status was added. -/
theorem takeCommand_pushCommand (status : β) (device : DeviceIdentification) (rc : ℕ) (h : s.statusHand = none) :
    ((takeCommand module_ s status device).statusHand.elim (takeCommand module_ s status device) fun hand =>
        (takeCommand module_ s status device).pushCommand hand rc).handler =
      ModuleHandler.retrieveCommand module_ s.handler status device rc := by
  unfold takeCommand ModuleHandler.retrieveCommand
  cases (s.handler.statusAggregators device.module_).get_command module_ status device with
  | none => simp only [withHandler, h, Option.elim_none]
  | some r =>
    obtain ⟨r,aggregator⟩ := r
    cases r with
    | ok command => rfl
    | error code => cases code <;> first | rfl | simp only [withHandler, h, Option.elim_none]

omit [BufferType β] in
/-- The event at the front of the queue, handled without anybody in between. -/
theorem takeForwarded_pushForwarded (deviceId : DeviceIdentification) :
    (s.takeForwarded moduleLibrary_ deviceId).bind (fun t => (t.handleCommandForwards moduleLibrary_).map handler) =
      (s.handler.handleCommandForward moduleLibrary_ deviceId).map fun t =>
        { t with commandForwardingQueue_ := t.commandForwardingQueue_.tail } := by
  unfold takeForwarded ModuleHandler.handleCommandForward
  cases moduleLibrary_.lookup deviceId.module_ with
  | none => rfl
  | some module_ =>
    dsimp only
    cases (s.handler.statusAggregators deviceId.module_).get_command_for_forwarding module_ deviceId with
    | none => rfl
    | some r =>
      obtain ⟨r,aggregator⟩ := r
      cases r with
      | ok command => rfl
      | error code => cases code <;> rfl

omit [BufferType β] in
/-- A round of the forwarding thread without anybody in between. -/
theorem handleCommandForwards_sections (h : s.forwardThread = .waiting) :
    (s.handleCommandForwards moduleLibrary_).bind (fun t => (t.handleCommandForwards moduleLibrary_).map handler) =
      s.handler.handleCommandForwards moduleLibrary_ := by
  cases hqueue : s.handler.commandForwardingQueue_ with
  | nil => simp only [handleCommandForwards, ModuleHandler.handleCommandForwards, h, hqueue, Option.bind_none]
  | cons deviceId rest =>
    have hfirst : s.handleCommandForwards moduleLibrary_ = s.takeForwarded moduleLibrary_ deviceId := by
      simp only [handleCommandForwards, h, hqueue]
    rw [hfirst, takeForwarded_pushForwarded]
    simp only [ModuleHandler.handleCommandForwards, hqueue]
    refine Option.map_congr fun t ht => ?_
    rw [ModuleHandler.handleCommandForward_queue ht, hqueue, List.tail_cons]

/-- A command that comes in, handled without anybody in between. -/
theorem updateCommand_pushEvent (command : β) (device : DeviceIdentification) (h : s.updated = none) :
    ((s.updateCommand moduleLibrary_ command device).updated.elim (s.updateCommand moduleLibrary_ command device)
        ((s.updateCommand moduleLibrary_ command device).pushEvent moduleLibrary_)).handler =
      s.handler.handleCommand moduleLibrary_ command device := by
  unfold updateCommand ModuleHandler.handleCommand
  cases hm : moduleLibrary_.lookup device.module_ with
  | none => simp only [h, Option.elim_none]
  | some module_ =>
    dsimp only
    split
    · generalize (s.handler.statusAggregators device.module_).update_command module_ command device = r
      obtain ⟨code,aggregator⟩ := r
      cases code with
      | OK =>
        simp only [Option.elim_some, pushEvent, hm, Option.any_some, true_and]
        split <;> simp_all [ModuleHandler.setAggregator]
      | _ => simp only [withHandler, h, Option.elim_none, false_and, if_false, reduceCtorEq]
    · simp only [h, Option.elim_none]

end Sections

/-! ## The entries of the devices -/

end HandlerThreads

namespace ModuleHandler
variable (s : ModuleHandler β) (k : DeviceKey)

@[simp] theorem entry_goto (thread : MessageThread β) : (s.goto thread).entry k = s.entry k := rfl

theorem entry_setAggregator (number : ℤ) (aggregator : StatusAggregator β) :
    (s.setAggregator number aggregator).entry k =
      if k.module_ = number then aggregator.devices.lookup k else s.entry k := by
  unfold entry
  by_cases hn : k.module_ = number
  · subst hn
    simp only [setAggregator, Function.update_self, if_true]
  · simp only [setAggregator, Function.update_of_ne hn, if_neg hn]

/-- An operation changes the entry of an identity of its module as a function of that entry. -/
theorem entry_operate [BufferType β] (number : ℤ) (module_ : ModuleLibraryHandler β) (op : Operation β) :
    (s.setAggregator number ((s.statusAggregators number).operate module_ op)).entry k =
      if k.module_ = number then StatusAggregator.effect module_ op k (s.entry k) else s.entry k := by
  rw [entry_setAggregator]
  split
  · rename_i hn
    subst hn
    exact StatusAggregator.operate_lookup _ op k
  · rfl

/-- A posted erasure takes away the entry of its device. -/
theorem entry_runPosted {number : ℤ} {i : ℕ} {aggregator : StatusAggregator β}
    (h : (s.statusAggregators number).runPosted i = some aggregator) :
    (s.setAggregator number aggregator).entry k = s.entry k ∨
      (s.setAggregator number aggregator).entry k = none := by
  obtain ⟨key,-,rfl⟩ := Option.map_eq_some_iff.mp h
  rw [entry_setAggregator]
  split
  · rename_i hn
    subst hn
    by_cases hk : k = key
    · subst hk
      exact .inr (AList.lookup_erase _ _)
    · exact .inl (AList.lookup_erase_ne hk)
  · exact .inl rfl

end ModuleHandler

/-! ## Steps that use up no command -/

/-- The queue of external commands and the flag of an entry are left alone; a device that
registers starts with an empty queue. -/
inductive KeepsCommands (moduleLibrary_ : ModuleLibrary β) (k : DeviceKey) :
    Option (StatusAggregatorDeviceState β) → Option (StatusAggregatorDeviceState β) → Prop
  | absent : KeepsCommands moduleLibrary_ k none none
  | kept {d e : StatusAggregatorDeviceState β} (queue : e.externalCommandQueue_ = d.externalCommandQueue_)
      (forward : e.forwardCommandImmediately_ = d.forwardCommandImmediately_) :
      KeepsCommands moduleLibrary_ k (some d) (some e)
  | registered {module_ : ModuleLibraryHandler β} {e : StatusAggregatorDeviceState β}
      (loaded : moduleLibrary_.lookup k.module_ = some module_)
      (supported : module_.isDeviceTypeSupported k.deviceType ≠ .NOT_OK) (queue : e.externalCommandQueue_ = [])
      (forward : e.forwardCommandImmediately_ = decide (module_.forwardCommandOnReceive k.deviceType = .OK)) :
      KeepsCommands moduleLibrary_ k none (some e)

/-- The operations that neither bring nor use up a command. -/
def Operation.keepsCommands : Operation β → Bool
  | .update_command _ _ | .get_command _ _ | .get_command_for_forwarding _ => false
  | _ => true

namespace KeepsCommands
variable {moduleLibrary_ : ModuleLibrary β} {k : DeviceKey}

theorem refl (entry : Option (StatusAggregatorDeviceState β)) : KeepsCommands moduleLibrary_ k entry entry := by
  cases entry with
  | none => exact .absent
  | some d => exact .kept rfl rfl

theorem map {f : StatusAggregatorDeviceState β → StatusAggregatorDeviceState β}
    (queue : ∀ d, (f d).externalCommandQueue_ = d.externalCommandQueue_)
    (forward : ∀ d, (f d).forwardCommandImmediately_ = d.forwardCommandImmediately_)
    (entry : Option (StatusAggregatorDeviceState β)) : KeepsCommands moduleLibrary_ k entry (entry.map f) := by
  cases entry with
  | none => exact .absent
  | some d => exact .kept (queue d) (forward d)

theorem aggregated (module_ : ModuleLibraryHandler β) (status : β) (device_type : UInt32)
    (d : StatusAggregatorDeviceState β) :
    KeepsCommands moduleLibrary_ k (some d) (some (StatusAggregator.aggregated module_ status device_type d)) := by
  obtain h | h | h := StatusAggregator.aggregated_cases module_ status device_type d <;> rw [h] <;>
    exact .kept rfl rfl

theorem effect [BufferType β] {module_ : ModuleLibraryHandler β} (hm : moduleLibrary_.lookup k.module_ = some module_)
    {op : Operation β} (hop : op.keepsCommands = true) (entry : Option (StatusAggregatorDeviceState β)) :
    KeepsCommands moduleLibrary_ k entry (StatusAggregator.effect module_ op k entry) := by
  cases op with
  | update_command command device => cases hop
  | get_command status device => cases hop
  | get_command_for_forwarding device => cases hop
  | unsetTimeoutedMessageReady => exact refl entry
  | add_status_to_aggregator status device =>
    unfold StatusAggregator.effect
    dsimp only
    split
    · rename_i hk
      obtain ⟨rfl,hsupported⟩ := hk
      cases entry with
      | some d => exact aggregated module_ status _ d
      | none =>
        dsimp only
        unfold StatusAggregator.registered
        rcases module_.generateFirstCommand device.deviceType with ⟨code,command⟩
        cases code with
        | OK =>
          apply registered hm hsupported
          · split <;> rfl
          · split <;> rfl
        | _ => exact .absent
    · exact refl entry
  | _ =>
    unfold StatusAggregator.effect
    dsimp only
    split
    · apply map <;> exact fun _ => rfl
    · exact refl entry

end KeepsCommands

theorem StatusAggregator.remove_device_devices [BufferType β] (module_ : ModuleLibraryHandler β)
    (s : StatusAggregator β) (device : DeviceIdentification) :
    (s.remove_device module_ device).2.devices = (s.operate module_ (.clear_device device)).devices := by
  unfold remove_device
  split
  · rename_i hinvalid
    simp only [operate, clear_device, clearDeviceUnlocked_eq, if_pos hinvalid]
  · rfl

namespace ModuleHandler
variable {moduleLibrary_ : ModuleLibrary β} {s t : ModuleHandler β}

/-- The forward events and the commands of every device are left alone. -/
structure Keeps (moduleLibrary_ : ModuleLibrary β) (s t : ModuleHandler β) : Prop where
  events : t.commandForwardingQueue_ = s.commandForwardingQueue_
  entries : ∀ k, KeepsCommands moduleLibrary_ k (s.entry k) (t.entry k)

theorem Keeps.frame (hevents : t.commandForwardingQueue_ = s.commandForwardingQueue_)
    (hentries : ∀ k, t.entry k = s.entry k) : Keeps moduleLibrary_ s t := by
  refine ⟨hevents,?_⟩
  intro k
  rw [hentries]
  exact .refl _

theorem keeps_operate [BufferType β] (s : ModuleHandler β) {number : ℤ} {module_ : ModuleLibraryHandler β}
    (hm : moduleLibrary_.lookup number = some module_) (op : Operation β) (hop : op.keepsCommands = true) :
    Keeps moduleLibrary_ s (s.setAggregator number ((s.statusAggregators number).operate module_ op)) := by
  refine ⟨rfl,?_⟩
  intro k
  rw [entry_operate]
  split
  · rename_i hn
    subst hn
    exact .effect hm hop _
  · exact .refl _

/-- A step that ends with the same entries and events keeps what the last one kept. -/
theorem Keeps.then {u : ModuleHandler β} (h : Keeps moduleLibrary_ s t)
    (hevents : u.commandForwardingQueue_ = t.commandForwardingQueue_) (hentries : ∀ k, u.entry k = t.entry k) :
    Keeps moduleLibrary_ s u := by
  refine ⟨hevents.trans h.events,?_⟩
  intro k
  rw [hentries]
  exact h.entries k

theorem Keeps.externalCommandQueue (h : Keeps moduleLibrary_ s t) (k : DeviceKey) :
    t.externalCommandQueue k = s.externalCommandQueue k := by
  have hentries := h.entries k
  unfold ModuleHandler.externalCommandQueue
  generalize s.entry k = d at hentries ⊢
  generalize t.entry k = e at hentries ⊢
  cases hentries with
  | absent => rfl
  | kept queue _ => exact queue
  | registered _ _ queue _ => exact queue

theorem handleStatus_keeps [BufferType β] (s : ModuleHandler β) (status : DeviceStatus β) :
    Keeps moduleLibrary_ s (s.handleStatus moduleLibrary_ status) := by
  obtain h | ⟨module_,r,aggregator,hm,hr,h⟩ := s.handleStatus_cases moduleLibrary_ status
  · rw [h]
    exact .frame rfl fun _ => rfl
  · have hadd := s.keeps_operate hm (.add_status_to_aggregator status.statusdata status.device) rfl
    simp only [StatusAggregator.operate, hr] at hadd
    obtain ⟨code,-,-,h⟩ | ⟨-,h⟩ | ⟨rc,-,h⟩ := h <;> rw [h] <;> exact hadd.then rfl fun _ => rfl

theorem handleMessage_keeps [BufferType β] (h : s.handleMessage moduleLibrary_ = some t) :
    Keeps moduleLibrary_ s t := by
  obtain ⟨-,-,-,rfl | ⟨-,-,rfl⟩ | ⟨device,-,rfl⟩ | ⟨status,-,rfl⟩⟩ := handleMessage_cases h
  · exact .frame rfl fun _ => rfl
  · exact .frame rfl fun _ => rfl
  · exact .frame rfl fun _ => rfl
  · exact handleStatus_keeps s status

/-- Outside `get_command` the message thread uses up no command. -/
theorem handleMessages_keeps [BufferType β] (h : s.handleMessages moduleLibrary_ = some t)
    (hthread : ∀ status device rc, s.thread ≠ .commanding status device rc) : Keeps moduleLibrary_ s t := by
  unfold handleMessages at h
  split at h
  · cases h
    exact .frame rfl fun _ => rfl
  · cases h
    unfold checkModule
    split
    · exact .frame rfl fun _ => rfl
    · dsimp only
      split <;> exact .frame rfl fun _ => rfl
  · rename_i modules message number devices _
    obtain ⟨module_,hm,rfl⟩ := Option.map_eq_some_iff.mp h
    unfold collectStatus
    split
    · have hunset := s.keeps_operate hm .unsetTimeoutedMessageReady rfl
      exact hunset.then rfl fun _ => rfl
    · rename_i device devices _
      have hget := s.keeps_operate hm (.get_aggregated_status device) rfl
      split <;> rename_i hr <;> simp only [StatusAggregator.operate, hr] at hget <;>
        exact hget.then rfl fun _ => rfl
  · cases h
    unfold countTimeouts
    dsimp only
    split <;> exact .frame rfl fun _ => rfl
  · exact handleMessage_keeps h
  · rename_i status device rc hcommanding
    exact absurd hcommanding (hthread status device rc)
  · cases h
    exact .frame rfl fun _ => rfl
  · rename_i device rc _
    obtain ⟨module_,hm,rfl⟩ := Option.map_eq_some_iff.mp h
    have hget := s.keeps_operate hm (.get_aggregated_status device) rfl
    exact hget.then rfl fun _ => rfl
  · rename_i device _
    obtain ⟨module_,hm,rfl⟩ := Option.map_eq_some_iff.mp h
    have hforce := s.keeps_operate hm (.force_aggregation_on_device device) rfl
    unfold forceStatus
    split <;> rename_i hr <;> simp only [StatusAggregator.operate, hr] at hforce <;>
      exact hforce.then rfl fun _ => rfl
  · rename_i device _
    obtain ⟨module_,hm,rfl⟩ := Option.map_eq_some_iff.mp h
    have hget := s.keeps_operate hm (.get_aggregated_status device) rfl
    exact hget.then rfl fun _ => rfl
  · rename_i device _
    obtain ⟨module_,hm,rfl⟩ := Option.map_eq_some_iff.mp h
    have hclear := s.keeps_operate hm (.clear_device device) rfl
    refine hclear.then rfl ?_
    intro k
    simp only [removeDevice, entry_goto, entry_setAggregator, StatusAggregator.remove_device_devices]
  · cases h
    exact .frame rfl fun _ => rfl
  · cases h

end ModuleHandler

/-! ## Steps that bring or use up a command -/

section Commands
variable (d : StatusAggregatorDeviceState β)

/-- The front of the queue is used up, and the command given instead becomes the default one. -/
theorem consumed_eq (module_ : ModuleLibraryHandler β) (status : β) (device_type : UInt32) :
    ∃ command, StatusAggregator.consumed module_ status device_type d =
      { d with defaultCommand_ := command, externalCommandQueue_ := d.externalCommandQueue_.tail } := by
  unfold StatusAggregator.consumed StatusAggregatorDeviceState.consumeCommand
  cases d with
  | mk deviceId messages status_ defaultCommand queue forward =>
    cases queue with
    | nil =>
      cases forward with
      | true => exact ⟨_,rfl⟩
      | false =>
        simp only [Bool.false_eq_true, if_false]
        rcases module_.generateCommand status status_ defaultCommand device_type with ⟨code,generated⟩
        cases code <;> exact ⟨_,rfl⟩
    | cons command rest =>
      dsimp only
      rcases module_.generateCommand status status_ command device_type with ⟨code,generated⟩
      cases code <;> exact ⟨_,rfl⟩

theorem consumed_queue (module_ : ModuleLibraryHandler β) (status : β) (device_type : UInt32) :
    (StatusAggregator.consumed module_ status device_type d).externalCommandQueue_ = d.externalCommandQueue_.tail ∧
      (StatusAggregator.consumed module_ status device_type d).forwardCommandImmediately_ =
        d.forwardCommandImmediately_ := by
  obtain ⟨command,h⟩ := consumed_eq d module_ status device_type
  rw [h]
  exact ⟨rfl,rfl⟩

theorem addExternalCommand_queue (command : β) :
    (d.addExternalCommand command).2.externalCommandQueue_ <:+ d.externalCommandQueue_ ++ [command] ∧
      (d.addExternalCommand command).2.externalCommandQueue_.length ≤ d.externalCommandQueue_.length + 1 ∧
      (d.addExternalCommand command).2.forwardCommandImmediately_ = d.forwardCommandImmediately_ := by
  unfold StatusAggregatorDeviceState.addExternalCommand
  dsimp only
  split
  · refine ⟨List.tail_suffix _,?_,rfl⟩
    simp only [List.length_tail, List.length_append, List.length_singleton]
    omega
  · refine ⟨List.suffix_refl _,?_,rfl⟩
    simp only [List.length_append, List.length_singleton, le_refl]

end Commands

namespace ModuleHandler
variable [BufferType β] (s : ModuleHandler β) (module_ : ModuleLibraryHandler β) (device : DeviceIdentification)
  (k : DeviceKey)

omit [BufferType β] in
/-- Whoever takes a command takes it from the front of the queue. -/
theorem externalCommandQueue_of_entry {s t : ModuleHandler β} {k key : DeviceKey} {p : Prop} [Decidable p]
    {f : StatusAggregatorDeviceState β → StatusAggregatorDeviceState β}
    (hentry : t.entry k = if k = key ∧ p then (s.entry k).map f else s.entry k)
    (hf : ∀ d, (f d).externalCommandQueue_ = d.externalCommandQueue_.tail) :
    t.externalCommandQueue k =
      if k = key ∧ p then (s.externalCommandQueue k).tail else s.externalCommandQueue k := by
  unfold ModuleHandler.externalCommandQueue
  rw [hentry]
  split
  · cases s.entry k with
    | none => rfl
    | some d => exact hf d
  · rfl

/-- An operation for one device, by what it does to the entry of that device. -/
theorem entry_operate_device (op : Operation β) {p : Prop} [Decidable p]
    {f : StatusAggregatorDeviceState β → StatusAggregatorDeviceState β}
    (heffect : StatusAggregator.effect module_ op k (s.entry k) =
      if k = device.key ∧ p then (s.entry k).map f else s.entry k) :
    (s.setAggregator device.module_ ((s.statusAggregators device.module_).operate module_ op)).entry k =
      if k = device.key ∧ p then (s.entry k).map f else s.entry k := by
  rw [entry_operate, heffect]
  by_cases hk : k = device.key
  · subst hk
    exact if_pos rfl
  · have hother : ¬(k = device.key ∧ p) := fun h => hk h.1
    rw [if_neg hother, ite_self]

theorem entry_get_command (status : β) :
    (s.setAggregator device.module_
        ((s.statusAggregators device.module_).operate module_ (.get_command status device))).entry k =
      if k = device.key ∧ StatusAggregator.is_device_type_supported module_ device.deviceType ≠ .NOT_OK then
        (s.entry k).map (StatusAggregator.consumed module_ status k.deviceType)
      else s.entry k := by
  rw [s.entry_operate_device module_ device k (.get_command status device) rfl]
  by_cases hk : k = device.key
  · subst hk
    rfl
  · rw [if_neg fun h => hk h.1, if_neg fun h => hk h.1]

theorem entry_get_command_for_forwarding :
    (s.setAggregator device.module_
        ((s.statusAggregators device.module_).operate module_ (.get_command_for_forwarding device))).entry k =
      if k = device.key ∧ StatusAggregator.is_device_type_supported module_ device.deviceType = .OK then
        (s.entry k).map fun d => StatusAggregator.consumed module_ d.status_ k.deviceType d
      else s.entry k := by
  rw [s.entry_operate_device module_ device k (.get_command_for_forwarding device) rfl]
  by_cases hk : k = device.key
  · subst hk
    rfl
  · rw [if_neg fun h => hk h.1, if_neg fun h => hk h.1]

end ModuleHandler

namespace HandlerThreads
variable [BufferType β] {moduleLibrary_ : ModuleLibrary β} {s t : HandlerThreads β}

/-- What a thread is left with when it has taken a command of the device: the number is that of the
front of the queue, and only of a command that the device gave away. -/
structure TakenFrom (s : HandlerThreads β) (device : DeviceIdentification) (p : Prop) (hand : Hand β) : Prop where
  owner : hand.device = device
  number : ∀ n, hand.number = some n → p ∧ s.nextNumber device.key = some n

/-- Everything `takeCommand` can do. -/
theorem takeCommand_eq (module_ : ModuleLibraryHandler β) (s : HandlerThreads β) (status : β)
    (device : DeviceIdentification) (h : s.statusHand = none) :
    ∃ hand thread, takeCommand module_ s status device =
        { s with
          handler := (s.handler.setAggregator device.module_
            ((s.handler.statusAggregators device.module_).operate module_ (.get_command status device))).goto thread
          statusHand := hand } ∧
      ((∃ taken, hand = some taken ∧ thread = s.handler.thread ∧
          s.TakenFrom device (StatusAggregator.is_device_type_supported module_ device.deviceType ≠ .NOT_OK) taken) ∨
        hand = none ∧ (thread = .popping ∨ thread = .terminated)) := by
  have hunsupported : StatusAggregator.is_device_type_supported module_ device.deviceType = .NOT_OK →
      (s.handler.statusAggregators device.module_).get_command module_ status device =
        some (.error .DEVICE_NOT_SUPPORTED,s.handler.statusAggregators device.module_) := by
    intro hno
    unfold StatusAggregator.get_command StatusAggregator.getCommandUnlocked
    exact if_pos hno
  unfold takeCommand
  simp only [StatusAggregator.operate]
  cases hr : (s.handler.statusAggregators device.module_).get_command module_ status device with
  | none =>
    refine ⟨none,.terminated,?_,.inr ⟨rfl,.inr rfl⟩⟩
    simp only [Option.elim_none, withHandler, ModuleHandler.setAggregator, Function.update_eq_self, h]
  | some r =>
    obtain ⟨r,aggregator⟩ := r
    cases r with
    | ok command =>
      refine ⟨_,s.handler.thread,rfl,.inl ⟨_,rfl,rfl,rfl,?_⟩⟩
      intro n hn
      refine ⟨?_,hn⟩
      intro hno
      rw [hunsupported hno] at hr
      cases hr
    | error code =>
      cases code with
      | NO_MESSAGE_AVAILABLE =>
        refine ⟨_,s.handler.thread,rfl,.inl ⟨_,rfl,rfl,rfl,?_⟩⟩
        intro n hn
        cases hn
      | BufferNotAllocated =>
        exact ⟨none,.terminated,by simp only [withHandler, h, Option.elim_some],.inr ⟨rfl,.inr rfl⟩⟩
      | _ => exact ⟨none,.popping,by simp only [withHandler, h, Option.elim_some],.inr ⟨rfl,.inl rfl⟩⟩

/-- Everything `takeForwarded` can do. -/
theorem takeForwarded_eq {deviceId : DeviceIdentification} (h : s.takeForwarded moduleLibrary_ deviceId = some t) :
    (moduleLibrary_.lookup deviceId.module_ = none ∧ t = { s with forwardThread := .acted none }) ∨
      ∃ module_ hand, moduleLibrary_.lookup deviceId.module_ = some module_ ∧
        t = { s with
          handler := s.handler.setAggregator deviceId.module_
            ((s.handler.statusAggregators deviceId.module_).operate module_ (.get_command_for_forwarding deviceId))
          forwardThread := .acted hand } ∧
        ∀ taken, hand = some taken →
          s.TakenFrom deviceId (StatusAggregator.is_device_type_supported module_ deviceId.deviceType = .OK) taken := by
  unfold takeForwarded at h
  cases hm : moduleLibrary_.lookup deviceId.module_ with
  | none =>
    rw [hm] at h
    cases h
    exact .inl ⟨rfl,rfl⟩
  | some module_ =>
    rw [hm] at h
    dsimp only at h
    have hunsupported : StatusAggregator.is_device_type_supported module_ deviceId.deviceType ≠ .OK →
        (s.handler.statusAggregators deviceId.module_).get_command_for_forwarding module_ deviceId =
          some (.error .DEVICE_NOT_REGISTERED,s.handler.statusAggregators deviceId.module_) := by
      intro hno
      unfold StatusAggregator.get_command_for_forwarding
      exact if_pos ((StatusAggregator.isDeviceValidUnlocked_eq_NOT_OK_iff module_ _ _).mpr (.inl hno))
    right
    simp only [StatusAggregator.operate]
    cases hr : (s.handler.statusAggregators deviceId.module_).get_command_for_forwarding module_ deviceId with
    | none =>
      rw [hr] at h
      cases h
    | some r =>
      obtain ⟨r,aggregator⟩ := r
      rw [hr] at h
      cases r with
      | ok command =>
        cases h
        refine ⟨module_,some ⟨deviceId,command,s.nextNumber deviceId.key⟩,rfl,by simp only [hr, Option.elim_some],?_⟩
        intro taken htaken
        cases htaken
        refine ⟨rfl,?_⟩
        intro n hn
        refine ⟨?_,hn⟩
        by_contra hno
        rw [hunsupported hno] at hr
        cases hr
      | error code =>
        refine ⟨module_,none,rfl,?_,by rintro _ ⟨⟩⟩
        simp only [hr, Option.elim_some]
        cases code <;> first | exact (Option.some.inj h).symm | cases h

/-- Everything `updateCommand` can do: nothing, or a registered device accepts the command. -/
theorem updateCommand_eq (moduleLibrary_ : ModuleLibrary β) (s : HandlerThreads β) (command : β)
    (device : DeviceIdentification) :
    s.updateCommand moduleLibrary_ command device = s ∨
      ∃ module_, moduleLibrary_.lookup device.module_ = some module_ ∧
        (s.handler.entry device.key).isSome ∧
        s.updateCommand moduleLibrary_ command device =
          { s with
            handler := s.handler.setAggregator device.module_
              ((s.handler.statusAggregators device.module_).operate module_ (.update_command command device))
            updated := some device
            accepted := Function.update s.accepted device.key (s.accepted device.key ++ [command]) } ∧
        ∀ k, (s.handler.setAggregator device.module_
            ((s.handler.statusAggregators device.module_).operate module_ (.update_command command device))).entry k =
          if k = device.key then (s.handler.entry k).map fun d => (d.addExternalCommand command).2
          else s.handler.entry k := by
  unfold updateCommand
  cases hm : moduleLibrary_.lookup device.module_ with
  | none => exact .inl rfl
  | some module_ =>
    dsimp only
    split
    · rename_i hallocated
      rcases hr : (s.handler.statusAggregators device.module_).update_command module_ command device with
        ⟨code,aggregator⟩
      have hrejected := StatusAggregator.update_command_rejected module_
        (s.handler.statusAggregators device.module_) command device
      rw [hr] at hrejected
      cases code with
      | OK =>
        right
        have haggregator : (s.handler.statusAggregators device.module_).operate module_
            (.update_command command device) = aggregator := congrArg Prod.snd hr
        obtain ⟨hsupported,hregistered,hvalid⟩ :
            StatusAggregator.is_device_type_supported module_ device.deviceType ≠ .NOT_OK ∧
              device.key ∈ (s.handler.statusAggregators device.module_).devices ∧
              module_.commandDataValid command device.deviceType ≠ .NOT_OK := by
          unfold StatusAggregator.update_command at hr
          split at hr
          · cases hr
          · split at hr
            · cases hr
            · split at hr
              · cases hr
              · simp_all
        refine ⟨module_,rfl,AList.lookup_isSome.mpr hregistered,?_,?_⟩
        · rw [haggregator]
        · intro k
          rw [s.handler.entry_operate_device module_ device k (.update_command command device) rfl]
          by_cases hk : k = device.key
          · subst hk
            rw [if_pos ⟨rfl,hsupported,hallocated,hvalid⟩, if_pos rfl]
          · rw [if_neg fun h => hk h.1, if_neg hk]
      | _ =>
        left
        have hsame : aggregator = s.handler.statusAggregators device.module_ := hrejected (by rintro ⟨⟩)
        simp only [hsame, withHandler, ModuleHandler.setAggregator, Function.update_eq_self]
    · exact .inl rfl

/-! ## A camera -/

def relayLibrary : ModuleLibrary (List UInt8) := AList.singleton 1 StatusAggregator.relay

/-- The relay, with `forwardCommandOnReceive`. -/
def pushLibrary : ModuleLibrary (List UInt8) :=
  AList.singleton 1 { StatusAggregator.relay with forwardCommandOnReceive := fun _ => .OK }

omit [BufferType β] in
theorem singleton_lookup {own module_ : ModuleLibraryHandler β} {number : ℤ}
    (h : AList.lookup number (AList.singleton 1 own : ModuleLibrary β) = some module_) : module_ = own := by
  by_cases hn : number = 1
  · subst hn
    exact (Option.some.inj h).symm
  · have hnone : AList.lookup number (AList.singleton 1 own : ModuleLibrary β) = none :=
      List.dlookup_cons_ne [] _ hn
    rw [hnone] at h
    cases h

theorem pushLibrary_lookup {number : ℤ} {module_ : ModuleLibraryHandler (List UInt8)}
    (h : pushLibrary.lookup number = some module_) :
    module_ = { StatusAggregator.relay with forwardCommandOnReceive := fun _ => .OK } := singleton_lookup h

theorem pushLibrary_supports : Supports (fun _ _ => true) pushLibrary := by
  intro number module_ h device_type
  rw [pushLibrary_lookup h]
  rfl

/-- A status of the camera comes in and the message thread makes some steps. -/
def cameraStatus (status : List UInt8) (steps : ℕ) : List (ModuleLibrary (List UInt8) × ThreadAction (List UInt8)) :=
  (pushLibrary,.receive (.message false (.deviceStatus ⟨StatusAggregator.camera,status⟩))) ::
    List.replicate steps (pushLibrary,.messages)

/-- A command for the camera comes in. -/
def cameraCommand (command : List UInt8) : List (ModuleLibrary (List UInt8) × ThreadAction (List UInt8)) :=
  [(pushLibrary,.command command StatusAggregator.camera),(pushLibrary,.event)]

end HandlerThreads

end ModuleGateway.Modules
