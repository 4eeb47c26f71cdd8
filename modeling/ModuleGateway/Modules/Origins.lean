import ModuleGateway.Modules.RegisteredDevices

/-! # Where statuses and commands come from

The Module Handler keeps what belongs to a device under its identity. `Origins` says which
bytes may count as a status or as a command of an identity. When the functions of the modules
lead from such bytes to such bytes only, and only such bytes come in, then everything the Module
Handler stores for a device, and everything it pushes for it, is of that kind.
-/
namespace ModuleGateway.Modules
open Structures Execution

variable {β : Type}

structure Origins (β : Type) where
  status : DeviceKey → β → Prop
  command : DeviceKey → β → Prop

namespace Origins
variable (o : Origins β)

/-- A command that is pushed for a device, or the empty one of a device without a fresh command. -/
def Given [BufferType β] (k : DeviceKey) (command : β) : Prop :=
  command = BufferType.unallocated ∨ o.command k command

/-- The functions of the module of a device lead from its statuses and commands to such again. -/
structure Closed [BufferType β] (moduleLibrary_ : ModuleLibrary β) : Prop where
  unallocated : ∀ k, o.status k BufferType.unallocated
  aggregateStatus : ∀ k module_ current status aggregated, moduleLibrary_.lookup k.module_ = some module_ →
    o.status k current → o.status k status →
      module_.aggregateStatus current status k.deviceType = (.OK,aggregated) → o.status k aggregated
  generateFirstCommand : ∀ k module_ command, moduleLibrary_.lookup k.module_ = some module_ →
    module_.generateFirstCommand k.deviceType = (.OK,command) → o.command k command
  generateCommand : ∀ k module_ status current command generated,
    moduleLibrary_.lookup k.module_ = some module_ → o.status k status → o.status k current →
      o.command k command → module_.generateCommand status current command k.deviceType = (.OK,generated) →
        o.command k generated

/-- Everything in the entry of a device is one of its own. -/
structure Entry (k : DeviceKey) (d : StatusAggregatorDeviceState β) : Prop where
  status : o.status k d.status_
  aggregated : ∀ status ∈ d.aggregatedMessages_, o.status k status
  default : o.command k d.defaultCommand_
  external : ∀ command ∈ d.externalCommandQueue_, o.command k command

def Aggregator (s : StatusAggregator β) : Prop := ∀ k d, s.devices.lookup k = some d → o.Entry k d

/-- What is handed to an operation is one of its device, and the device is of the module. -/
def Operation (number : ℤ) : Operation β → Prop
  | .add_status_to_aggregator status device => device.module_ = number ∧ o.status device.key status
  | .update_command command device => o.command device.key command
  | .get_command status device => device.module_ = number ∧ o.status device.key status
  | .get_command_for_forwarding device => device.module_ = number
  | _ => True

variable {o} {k : DeviceKey} {d : StatusAggregatorDeviceState β}

/-! ## One entry -/

namespace Entry

theorem push (h : o.Entry k d) {status : β} (hstatus : o.status k status) : o.Entry k (d.push status) := by
  refine ⟨h.status,?_,h.default,h.external⟩
  intro m hm
  rcases List.mem_append.mp hm with hm | hm
  · exact h.aggregated m hm
  · rwa [List.mem_singleton.mp hm]

theorem setStatus (h : o.Entry k d) {status : β} (hstatus : o.status k status) : o.Entry k (d.setStatus status) :=
  ⟨hstatus,h.aggregated,h.default,h.external⟩

theorem clear (h : o.Entry k d) : o.Entry k d.clear := ⟨h.status,by rintro _ ⟨⟩,h.default,h.external⟩

theorem addExternalCommand (h : o.Entry k d) {command : β} (hcommand : o.command k command) :
    o.Entry k (d.addExternalCommand command).2 := by
  have hqueue : ∀ c ∈ d.externalCommandQueue_ ++ [command], o.command k c := by
    intro c hc
    rcases List.mem_append.mp hc with hc | hc
    · exact h.external c hc
    · rwa [List.mem_singleton.mp hc]
  unfold StatusAggregatorDeviceState.addExternalCommand
  dsimp only
  split
  · exact ⟨h.status,h.aggregated,h.default,fun c hc => hqueue c (List.mem_of_mem_tail hc)⟩
  · exact ⟨h.status,h.aggregated,h.default,hqueue⟩

/-- The command that is used up is one of the device, and the entry stays as it should be. -/
theorem consumeCommand (h : o.Entry k d) : (∀ command, d.consumeCommand.1 = some command → o.command k command) ∧
    o.Entry k d.consumeCommand.2 := by
  unfold StatusAggregatorDeviceState.consumeCommand
  split
  · rename_i command rest hqueue
    have hcommand : o.command k command := h.external command (by rw [hqueue]; exact List.mem_cons_self)
    refine ⟨?_,h.status,h.aggregated,hcommand,?_⟩
    · rintro _ ⟨⟩
      exact hcommand
    · intro c hc
      exact h.external c (by rw [hqueue]; exact List.mem_cons_of_mem command hc)
  · split
    · exact ⟨by rintro _ ⟨⟩,h⟩
    · refine ⟨?_,h⟩
      rintro _ ⟨⟩
      exact h.default

variable [BufferType β] {moduleLibrary_ : ModuleLibrary β} {module_ : ModuleLibraryHandler β}

theorem aggregateStatus (h : o.Entry k d) (hclosed : o.Closed moduleLibrary_)
    (hm : moduleLibrary_.lookup k.module_ = some module_) {status : β} (hstatus : o.status k status) :
    o.status k (StatusAggregator.aggregateStatus module_ d status k.deviceType) := by
  unfold StatusAggregator.aggregateStatus
  split
  · exact hclosed.aggregateStatus k module_ _ _ _ hm h.status hstatus ‹_›
  · exact h.status

theorem aggregated_status (h : o.Entry k d) (hclosed : o.Closed moduleLibrary_)
    (hm : moduleLibrary_.lookup k.module_ = some module_) {status : β} (hstatus : o.status k status) :
    o.Entry k (StatusAggregator.aggregated module_ status k.deviceType d) := by
  have haggregated := h.aggregateStatus hclosed hm hstatus
  obtain heq | heq | heq := StatusAggregator.aggregated_cases module_ status k.deviceType d <;> rw [heq]
  · exact h
  · exact (h.setStatus haggregated).push haggregated
  · exact h.setStatus haggregated

theorem consumed (h : o.Entry k d) (hclosed : o.Closed moduleLibrary_)
    (hm : moduleLibrary_.lookup k.module_ = some module_) {status : β} (hstatus : o.status k status) :
    o.Entry k (StatusAggregator.consumed module_ status k.deviceType d) := by
  obtain ⟨hcommand,hentry⟩ := h.consumeCommand
  unfold StatusAggregator.consumed
  split
  · rename_i d' hd
    rwa [hd] at hentry
  · rename_i command d' hd
    rw [hd] at hcommand hentry
    split
    · refine ⟨hentry.status,hentry.aggregated,?_,hentry.external⟩
      exact hclosed.generateCommand k module_ _ _ _ _ hm hstatus hentry.status (hcommand command rfl) ‹_›
    · exact hentry

theorem registered (hclosed : o.Closed moduleLibrary_) {device : DeviceIdentification}
    (hm : moduleLibrary_.lookup device.key.module_ = some module_) {status : β}
    (hstatus : o.status device.key status)
    (hd : StatusAggregator.registered module_ status device = some d) : o.Entry device.key d := by
  unfold StatusAggregator.registered at hd
  split at hd
  · rename_i command hfirst
    have hentry : o.Entry device.key (StatusAggregator.emplaced module_ device command status) :=
      ⟨hstatus,by rintro _ ⟨⟩,hclosed.generateFirstCommand _ module_ _ hm hfirst,by rintro _ ⟨⟩⟩
    obtain rfl := Option.some.inj hd
    split
    · exact hentry.push hstatus
    · exact hentry
  · cases hd

end Entry

/-! ## The aggregators -/

section Aggregators
variable [BufferType β] {moduleLibrary_ : ModuleLibrary β} {module_ : ModuleLibraryHandler β} {number : ℤ}
  {s : StatusAggregator β}

theorem Entry.effect (hclosed : o.Closed moduleLibrary_) (hm : moduleLibrary_.lookup number = some module_)
    {op : Modules.Operation β} (hop : o.Operation number op) {entry : Option (StatusAggregatorDeviceState β)}
    (hentry : ∀ d, entry = some d → o.Entry k d) (hd : StatusAggregator.effect module_ op k entry = some d) :
    o.Entry k d := by
  have hmap : ∀ {p : Prop} [Decidable p] {f : StatusAggregatorDeviceState β → StatusAggregatorDeviceState β},
      (∀ e, p → o.Entry k e → o.Entry k (f e)) → (if p then entry.map f else entry) = some d → o.Entry k d := by
    intro p _ f hf hd
    split at hd
    · rename_i hp
      obtain ⟨e,he,rfl⟩ := Option.map_eq_some_iff.mp hd
      exact hf e hp (hentry e he)
    · exact hentry d hd
  cases op with
  | clear_device device => exact hmap (fun e _ he => he.clear) hd
  | clear_all_devices => exact hmap (fun e _ he => he.clear) hd
  | add_status_to_aggregator status device =>
    obtain ⟨rfl,hstatus⟩ := hop
    simp only [StatusAggregator.effect] at hd
    split at hd
    · rename_i hk
      obtain ⟨rfl,-⟩ := hk
      cases hentry' : entry with
      | none =>
        rw [hentry'] at hd
        exact .registered hclosed hm hstatus hd
      | some e =>
        rw [hentry'] at hd
        obtain rfl := Option.some.inj hd
        exact (hentry e hentry').aggregated_status hclosed hm hstatus
    · exact hentry d hd
  | get_aggregated_status device =>
    refine hmap (fun e _ he => ?_) hd
    exact ⟨he.status,fun m hmem => he.aggregated m (List.mem_of_mem_tail hmem),he.default,he.external⟩
  | force_aggregation_on_device device => exact hmap (fun e _ he => he.push he.status) hd
  | timeouted_force_aggregation deviceId => exact hmap (fun e _ he => he.push he.status) hd
  | update_command command device =>
    refine hmap (fun e hk he => he.addExternalCommand ?_) hd
    obtain ⟨rfl,-⟩ := hk
    exact hop
  | get_command status device =>
    obtain ⟨rfl,hstatus⟩ := hop
    refine hmap (fun e hk he => ?_) hd
    obtain ⟨rfl,-⟩ := hk
    exact he.consumed hclosed hm hstatus
  | get_command_for_forwarding device =>
    obtain rfl : device.module_ = number := hop
    refine hmap (fun e hk he => ?_) hd
    obtain ⟨rfl,-⟩ := hk
    exact he.consumed hclosed hm he.status
  | unsetTimeoutedMessageReady => exact hentry d hd

theorem Aggregator.operate (hs : o.Aggregator s) (hclosed : o.Closed moduleLibrary_)
    (hm : moduleLibrary_.lookup number = some module_) {a : Modules.Operation β} (ha : o.Operation number a) :
    o.Aggregator (s.operate module_ a) := by
  intro k d hd
  rw [StatusAggregator.operate_lookup] at hd
  exact .effect hclosed hm ha (fun e he => hs k e he) hd

omit [BufferType β] in
theorem Aggregator.runPosted (hs : o.Aggregator s) {i : ℕ} {t : StatusAggregator β} (ht : s.runPosted i = some t) :
    o.Aggregator t := by
  obtain ⟨key,-,rfl⟩ := Option.map_eq_some_iff.mp ht
  intro k d hd
  by_cases hk : k = key
  · subst hk
    rw [AList.lookup_erase] at hd
    cases hd
  · rw [AList.lookup_erase_ne hk] at hd
    exact hs k d hd

theorem Aggregator.remove_device (hs : o.Aggregator s) (hclosed : o.Closed moduleLibrary_)
    (hm : moduleLibrary_.lookup number = some module_) (device : DeviceIdentification) :
    o.Aggregator (s.remove_device module_ device).2 := by
  intro k d hd
  rw [StatusAggregator.remove_device_devices] at hd
  exact hs.operate hclosed hm (a := .clear_device device) trivial k d hd

omit [BufferType β] in
/-- A status that is got was queued for the device. -/
theorem Aggregator.get_aggregated_status (hs : o.Aggregator s) {device : DeviceIdentification} {status : β}
    (h : (s.get_aggregated_status module_ device).1 = .ok status) : o.status device.key status := by
  unfold StatusAggregator.get_aggregated_status at h
  split at h
  · cases h
  · cases hd : s.devices.lookup device.key with
    | none => simp [hd] at h
    | some d =>
      cases hmessages : d.aggregatedMessages_ with
      | nil => simp [hd, hmessages] at h
      | cons front rest =>
        simp only [hd, hmessages, Option.elim_some, Except.ok.injEq] at h
        subst h
        exact (hs _ d hd).aggregated front (by rw [hmessages]; exact List.mem_cons_self)

theorem Aggregator.getCommandUnlocked (hs : o.Aggregator s) (hclosed : o.Closed moduleLibrary_)
    (hm : moduleLibrary_.lookup k.module_ = some module_) {status command : β} {t : StatusAggregator β}
    (hstatus : o.status k status) (h : s.getCommandUnlocked module_ status k = some (.ok command,t)) :
    o.command k command := by
  unfold StatusAggregator.getCommandUnlocked at h
  split at h
  · cases h
  · split at h
    · cases h
    · rename_i d hd
      obtain ⟨hcommand,hentry⟩ := (hs k d hd).consumeCommand
      split at h
      · cases h
      · rename_i current d' hconsumed
        rw [hconsumed] at hcommand hentry
        split at h
        · rename_i generated hgenerated
          cases h
          exact hclosed.generateCommand k module_ _ _ _ _ hm hstatus hentry.status (hcommand current rfl) hgenerated
        · cases h

theorem Aggregator.get_command_for_forwarding (hs : o.Aggregator s) (hclosed : o.Closed moduleLibrary_)
    {device : DeviceIdentification} (hm : moduleLibrary_.lookup device.module_ = some module_) {command : β}
    {t : StatusAggregator β} (h : s.get_command_for_forwarding module_ device = some (.ok command,t)) :
    o.command device.key command := by
  unfold StatusAggregator.get_command_for_forwarding at h
  split at h
  · cases h
  · split at h
    · cases h
    · rename_i d hd
      exact hs.getCommandUnlocked hclosed hm (hs _ d hd).status h

end Aggregators

end Origins

/-! ## The least origins -/

section Least
variable [BufferType β] (moduleLibrary_ : ModuleLibrary β) (received : DeviceStatus β → Prop)
  (accepted : DeviceCommand β → Prop)

/-- A status of an identity: none, one that was received for it, or what `aggregateStatus` made of
two of them. -/
inductive StatusOf (k : DeviceKey) : β → Prop
  | unallocated : StatusOf k BufferType.unallocated
  | received (status : DeviceStatus β) (arrived : received status) (owner : status.device.key = k) :
      StatusOf k status.statusdata
  | aggregated {module_ : ModuleLibraryHandler β} {currentStatus status aggregatedStatus : β}
      (loaded : moduleLibrary_.lookup k.module_ = some module_) (current : StatusOf k currentStatus)
      (new : StatusOf k status)
      (aggregateStatus : module_.aggregateStatus currentStatus status k.deviceType = (.OK,aggregatedStatus)) :
      StatusOf k aggregatedStatus

/-- A command of an identity: its first one, one that was accepted for it, or what `generateCommand`
made of one with statuses of the identity. -/
inductive CommandOf (k : DeviceKey) : β → Prop
  | first {module_ : ModuleLibraryHandler β} {command : β} (loaded : moduleLibrary_.lookup k.module_ = some module_)
      (generateFirstCommand : module_.generateFirstCommand k.deviceType = (.OK,command)) : CommandOf k command
  | accepted (command : DeviceCommand β) (arrived : accepted command) (owner : command.device.key = k) :
      CommandOf k command.commanddata
  | generated {module_ : ModuleLibraryHandler β} {status currentStatus currentCommand command : β}
      (loaded : moduleLibrary_.lookup k.module_ = some module_)
      (new : StatusOf moduleLibrary_ received k status) (current : StatusOf moduleLibrary_ received k currentStatus)
      (used : CommandOf k currentCommand)
      (generateCommand : module_.generateCommand status currentStatus currentCommand k.deviceType = (.OK,command)) :
      CommandOf k command

/-- They are closed under the functions of the modules. -/
theorem originsOf_closed :
    (Origins.mk (StatusOf moduleLibrary_ received) (CommandOf moduleLibrary_ received accepted)).Closed
      moduleLibrary_ where
  unallocated _ := .unallocated
  aggregateStatus _ _ _ _ _ hm hcurrent hstatus h := .aggregated hm hcurrent hstatus h
  generateFirstCommand _ _ _ hm h := .first hm h
  generateCommand _ _ _ _ _ _ hm hstatus hcurrent hcommand h := .generated hm hstatus hcurrent hcommand h

end Least

/-! ## The threads -/

namespace ModuleHandler
variable [BufferType β] {o : Origins β} {moduleLibrary_ : ModuleLibrary β} {s t : ModuleHandler β}

/-- Everything that is stored, queued or about to be used for a device is one of its own. -/
structure From (o : Origins β) (s : ModuleHandler β) : Prop where
  aggregators : ∀ number, o.Aggregator (s.statusAggregators number)
  incoming : ∀ status, .message false (.deviceStatus status) ∈ s.fromInternalQueue_ →
    o.status status.device.key status.statusdata
  outgoing : ∀ message ∈ s.toExternalQueue_,
    o.status message.devicestatus.device.key message.devicestatus.statusdata
  replies : ∀ command, .message (.deviceCommand command) ∈ s.toInternalQueue_ →
    o.Given command.device.key command.commanddata
  thread : ∀ status device rc, s.thread = .commanding status device rc → o.status device.key status

namespace From

theorem init : (init : ModuleHandler β).From o where
  aggregators number k d hd := by cases hd
  incoming _ hmem := by cases hmem
  outgoing _ hmem := by cases hmem
  replies _ hmem := by cases hmem
  thread _ _ _ hthread := by cases hthread

theorem goto (hs : s.From o) {thread : MessageThread β}
    (h : ∀ status device rc, thread = .commanding status device rc → o.status device.key status) :
    (s.goto thread).From o := ⟨hs.aggregators,hs.incoming,hs.outgoing,hs.replies,h⟩

theorem setAggregator (hs : s.From o) {number : ℤ} {aggregator : StatusAggregator β}
    (h : o.Aggregator aggregator) : (s.setAggregator number aggregator).From o := by
  refine ⟨?_,hs.incoming,hs.outgoing,hs.replies,hs.thread⟩
  intro number'
  by_cases hn : number' = number
  · subst hn
    simpa only [ModuleHandler.setAggregator, Function.update_self] using h
  · simpa only [ModuleHandler.setAggregator, Function.update_of_ne hn] using hs.aggregators number'

theorem pushInternal (hs : s.From o) {message : ModuleHandlerMessage β}
    (h : ∀ command, message = .message (.deviceCommand command) → o.Given command.device.key command.commanddata) :
    (s.pushInternal message).From o := by
  refine ⟨hs.aggregators,hs.incoming,hs.outgoing,?_,hs.thread⟩
  intro command hmem
  rcases List.mem_append.mp hmem with hmem | hmem
  · exact hs.replies command hmem
  · exact h command (List.mem_singleton.mp hmem).symm

theorem pushExternal (hs : s.From o) {message : InternalClientMessage β}
    (h : o.status message.devicestatus.device.key message.devicestatus.statusdata) :
    (s.pushExternal message).From o := by
  refine ⟨hs.aggregators,hs.incoming,?_,hs.replies,hs.thread⟩
  intro message' hmem
  rcases List.mem_append.mp hmem with hmem | hmem
  · exact hs.outgoing message' hmem
  · rwa [List.mem_singleton.mp hmem]

theorem operate (hs : s.From o) (hclosed : o.Closed moduleLibrary_) {number : ℤ} {module_ : ModuleLibraryHandler β}
    (hm : moduleLibrary_.lookup number = some module_) {a : Operation β} (ha : o.Operation number a) :
    (s.setAggregator number ((s.statusAggregators number).operate module_ a)).From o :=
  hs.setAggregator ((hs.aggregators number).operate hclosed hm ha)

theorem sendAggregatedStatus (hs : s.From o) (hclosed : o.Closed moduleLibrary_)
    {module_ : ModuleLibraryHandler β} {device : DeviceIdentification}
    (hm : moduleLibrary_.lookup device.module_ = some module_) (disconnected : Bool) :
    (ModuleHandler.sendAggregatedStatus module_ s device disconnected).From o := by
  refine (hs.operate hclosed hm (a := .get_aggregated_status device) trivial).pushExternal ?_
  dsimp only [InternalClientMessage.devicestatus]
  split
  · rename_i status hget
    exact (hs.aggregators _).get_aggregated_status hget
  · exact hclosed.unallocated _

theorem collectStatus (hs : s.From o) (hclosed : o.Closed moduleLibrary_) {module_ : ModuleLibraryHandler β}
    {number : ℤ} (hm : moduleLibrary_.lookup number = some module_) (modules : List ℤ) (message : Bool)
    (devices : List DeviceIdentification) :
    (ModuleHandler.collectStatus module_ s modules message number devices).From o := by
  unfold ModuleHandler.collectStatus
  split
  · exact (hs.operate hclosed hm (a := .unsetTimeoutedMessageReady) trivial).goto (by rintro _ _ _ ⟨⟩)
  · rename_i device devices
    have hoperate := hs.operate hclosed hm (a := .get_aggregated_status device) trivial
    have hstatus : ∀ status, ((s.statusAggregators number).get_aggregated_status module_ device).1 = .ok status →
        o.status device.key status := fun _ => (hs.aggregators number).get_aggregated_status
    simp only [StatusAggregator.operate] at hoperate
    split <;> rename_i hget <;> rw [hget] at hoperate hstatus
    · exact hoperate.pushExternal (hstatus _ rfl)
    · exact hoperate.goto (by rintro _ _ _ ⟨⟩)

theorem forceStatus (hs : s.From o) (hclosed : o.Closed moduleLibrary_) {module_ : ModuleLibraryHandler β}
    {device : DeviceIdentification} (hm : moduleLibrary_.lookup device.module_ = some module_) :
    (ModuleHandler.forceStatus module_ s device).From o := by
  have hoperate := hs.operate hclosed hm (a := .force_aggregation_on_device device) trivial
  simp only [StatusAggregator.operate] at hoperate
  unfold ModuleHandler.forceStatus
  split <;> rename_i hforce <;> rw [hforce] at hoperate <;> exact hoperate.goto (by rintro _ _ _ ⟨⟩)

/-- A status is added and then kept for `get_command`. -/
theorem handleStatus (hs : s.From o) (hclosed : o.Closed moduleLibrary_) {status : DeviceStatus β}
    (hstatus : o.status status.device.key status.statusdata) : (s.handleStatus moduleLibrary_ status).From o := by
  obtain h | ⟨module_,r,aggregator,hm,hadd,h⟩ := s.handleStatus_cases moduleLibrary_ status
  · rw [h]
    exact hs.goto (by rintro _ _ _ ⟨⟩)
  · have hoperate := hs.operate hclosed hm (a := .add_status_to_aggregator status.statusdata status.device)
      ⟨rfl,hstatus⟩
    simp only [StatusAggregator.operate, hadd] at hoperate
    obtain ⟨code,-,-,h⟩ | ⟨-,h⟩ | ⟨rc,-,h⟩ := h <;> rw [h]
    · exact hoperate.goto (by rintro _ _ _ ⟨⟩)
    · exact hoperate.goto (by rintro _ _ _ ⟨⟩)
    · refine hoperate.goto ?_
      rintro _ _ _ ⟨⟩
      exact hstatus

theorem handleMessage (hs : s.From o) (hclosed : o.Closed moduleLibrary_)
    (h : s.handleMessage moduleLibrary_ = some t) : t.From o := by
  obtain ⟨message,rest,hqueue,rfl | ⟨-,-,rfl⟩ | ⟨device,-,rfl⟩ | ⟨status,rfl,rfl⟩⟩ := handleMessage_cases h
  · exact hs.goto (by rintro _ _ _ ⟨⟩)
  · exact hs.goto (by rintro _ _ _ ⟨⟩)
  · exact (hs.pushInternal (by rintro _ ⟨⟩)).goto (by rintro _ _ _ ⟨⟩)
  · exact hs.handleStatus hclosed (hs.incoming status (by rw [hqueue]; exact List.mem_cons_self))

/-- The message thread outside `get_command`. -/
theorem handleMessages (hs : s.From o) (hclosed : o.Closed moduleLibrary_)
    (h : s.handleMessages moduleLibrary_ = some t)
    (hcommanding : ∀ status device rc, s.thread ≠ .commanding status device rc) : t.From o := by
  unfold ModuleHandler.handleMessages at h
  split at h <;> rename_i hthread
  · cases h
    exact hs.goto (by rintro _ _ _ ⟨⟩)
  · rename_i modules message
    cases h
    unfold checkModule
    split
    · cases message <;> exact hs.goto (by rintro _ _ _ ⟨⟩)
    · dsimp only
      split <;> exact hs.goto (by rintro _ _ _ ⟨⟩)
  · obtain ⟨module_,hm,rfl⟩ := Option.map_eq_some_iff.mp h
    exact hs.collectStatus hclosed hm _ _ _
  · cases h
    unfold countTimeouts
    dsimp only
    split
    · exact (hs.goto (by rintro _ _ _ ⟨⟩)).pushInternal (by rintro _ ⟨⟩)
    · exact hs.goto (by rintro _ _ _ ⟨⟩)
  · exact hs.handleMessage hclosed h
  · exact absurd hthread (hcommanding _ _ _)
  · cases h
    exact hs.goto (by rintro _ _ _ ⟨⟩)
  · obtain ⟨module_,hm,rfl⟩ := Option.map_eq_some_iff.mp h
    exact (hs.sendAggregatedStatus hclosed hm false).goto (by rintro _ _ _ ⟨⟩)
  · obtain ⟨module_,hm,rfl⟩ := Option.map_eq_some_iff.mp h
    exact hs.forceStatus hclosed hm
  · obtain ⟨module_,hm,rfl⟩ := Option.map_eq_some_iff.mp h
    exact (hs.sendAggregatedStatus hclosed hm true).goto (by rintro _ _ _ ⟨⟩)
  · obtain ⟨module_,hm,rfl⟩ := Option.map_eq_some_iff.mp h
    exact (hs.setAggregator ((hs.aggregators _).remove_device hclosed hm _)).goto (by rintro _ _ _ ⟨⟩)
  · cases h
    refine ⟨hs.aggregators,?_,hs.outgoing,hs.replies,by rintro _ _ _ ⟨⟩⟩
    exact fun status hmem => hs.incoming status (List.mem_of_mem_tail hmem)
  · cases h

end From

end ModuleHandler

namespace HandlerThreads
variable [BufferType β] {o : Origins β} {moduleLibrary_ : ModuleLibrary β} {s t : HandlerThreads β}

structure From (o : Origins β) (s : HandlerThreads β) : Prop where
  handler : s.handler.From o
  statusHand : ∀ hand, s.statusHand = some hand → o.Given hand.device.key hand.command
  forwardHand : ∀ hand, s.forwardThread = .acted (some hand) → o.Given hand.device.key hand.command

/-- What comes in from the other threads. -/
def ThreadAction.From (o : Origins β) : ThreadAction β → Prop
  | .command commandData device => o.command device.key commandData
  | .receive message => ∀ status, message = .message false (.deviceStatus status) →
      o.status status.device.key status.statusdata
  | _ => True

namespace From

theorem init : (init : HandlerThreads β).From o := ⟨.init,by rintro _ ⟨⟩,by rintro _ ⟨⟩⟩

theorem withHandler (hs : s.From o) {handler : ModuleHandler β} (h : handler.From o) :
    (s.withHandler handler).From o := ⟨h,hs.statusHand,hs.forwardHand⟩

theorem push (hs : s.From o) {hand : Hand β} (h : o.Given hand.device.key hand.command) : (s.push hand).From o := by
  refine ⟨hs.handler.pushInternal ?_,hs.statusHand,hs.forwardHand⟩
  rintro _ ⟨⟩
  exact h

theorem takeCommand (hs : s.From o) (hclosed : o.Closed moduleLibrary_) {module_ : ModuleLibraryHandler β}
    {device : DeviceIdentification} (hm : moduleLibrary_.lookup device.module_ = some module_) {status : β}
    (hstatus : o.status device.key status) : (HandlerThreads.takeCommand module_ s status device).From o := by
  have hoperate := hs.handler.operate hclosed hm (a := .get_command status device) ⟨rfl,hstatus⟩
  have hcommand : ∀ command t, (s.handler.statusAggregators device.module_).getCommandUnlocked module_ status
      device.key = some (.ok command,t) → o.command device.key command :=
    fun _ _ => (hs.handler.aggregators device.module_).getCommandUnlocked hclosed hm hstatus
  unfold HandlerThreads.takeCommand
  simp only [StatusAggregator.operate] at hoperate
  unfold StatusAggregator.get_command at hoperate ⊢
  split <;> rename_i hget <;> rw [hget] at hoperate hcommand
  · exact hs.withHandler (hs.handler.goto (by rintro _ _ _ ⟨⟩))
  · refine ⟨hoperate,?_,hs.forwardHand⟩
    rintro _ ⟨⟩
    exact .inr (hcommand _ _ rfl)
  · refine ⟨hoperate,?_,hs.forwardHand⟩
    rintro _ ⟨⟩
    exact .inl rfl
  · exact hs.withHandler (hoperate.goto (by rintro _ _ _ ⟨⟩))
  · exact hs.withHandler (hoperate.goto (by rintro _ _ _ ⟨⟩))

theorem handleMessages (hs : s.From o) (hclosed : o.Closed moduleLibrary_)
    (ht : s.handleMessages moduleLibrary_ = some t) : t.From o := by
  unfold HandlerThreads.handleMessages at ht
  split at ht
  · rename_i status device rc hthread
    split at ht
    · rename_i hand hhand
      cases ht
      have hpush := hs.push (hs.statusHand hand hhand)
      exact ⟨hpush.handler.goto (by rintro _ _ _ ⟨⟩),by rintro _ ⟨⟩,hpush.forwardHand⟩
    · obtain ⟨module_,hm,rfl⟩ := Option.map_eq_some_iff.mp ht
      exact hs.takeCommand hclosed hm (hs.handler.thread _ _ _ hthread)
  · rename_i hcommanding
    obtain ⟨handler,hhandler,rfl⟩ := Option.map_eq_some_iff.mp ht
    exact hs.withHandler (hs.handler.handleMessages hclosed hhandler hcommanding)

theorem handleCommandForwards (hs : s.From o) (hclosed : o.Closed moduleLibrary_)
    (ht : s.handleCommandForwards moduleLibrary_ = some t) : t.From o := by
  unfold HandlerThreads.handleCommandForwards at ht
  split at ht
  · rename_i hand hacted
    cases ht
    have hpush : (hand.elim s s.push).From o := by
      cases hand with
      | none => exact hs
      | some hand => exact hs.push (hs.forwardHand hand hacted)
    have hhandler := hpush.handler
    exact ⟨⟨hhandler.aggregators,hhandler.incoming,hhandler.outgoing,hhandler.replies,hhandler.thread⟩,
      hpush.statusHand,by rintro _ ⟨⟩⟩
  · split at ht
    · cases ht
    · rename_i deviceId rest _
      unfold takeForwarded at ht
      split at ht
      · cases ht
        exact ⟨hs.handler,hs.statusHand,by rintro _ ⟨⟩⟩
      · rename_i module_ hm
        have hoperate := hs.handler.operate hclosed hm (a := .get_command_for_forwarding deviceId) rfl
        have hcommand : ∀ command t, (s.handler.statusAggregators deviceId.module_).get_command_for_forwarding
            module_ deviceId = some (.ok command,t) → o.command deviceId.key command :=
          fun _ _ => (hs.handler.aggregators deviceId.module_).get_command_for_forwarding hclosed hm
        simp only [StatusAggregator.operate] at hoperate
        split at ht <;> rename_i hget <;> cases ht <;> rw [hget] at hoperate hcommand
        · refine ⟨hoperate,hs.statusHand,?_⟩
          rintro _ ⟨⟩
          exact .inr (hcommand _ _ rfl)
        · exact ⟨hoperate,hs.statusHand,by rintro _ ⟨⟩⟩

theorem updateCommand (hs : s.From o) (hclosed : o.Closed moduleLibrary_) {command : β}
    {device : DeviceIdentification} (hcommand : o.command device.key command) :
    (s.updateCommand moduleLibrary_ command device).From o := by
  obtain h | ⟨module_,hm,-,h,-⟩ := updateCommand_eq moduleLibrary_ s command device
  · rwa [h]
  · rw [h]
    exact ⟨hs.handler.operate hclosed hm (a := .update_command command device) hcommand,hs.statusHand,hs.forwardHand⟩

/-- Every step of the threads keeps what is stored and pushed as it should be. -/
theorem threadStep (hs : s.From o) (hclosed : o.Closed moduleLibrary_) {a : ThreadAction β} (ha : a.From o)
    (ht : s.threadStep (moduleLibrary_,a) = some t) : t.From o := by
  cases a with
  | messages => exact hs.handleMessages hclosed ht
  | forwards => exact hs.handleCommandForwards hclosed ht
  | command command device =>
    simp only [HandlerThreads.threadStep, handleCommands] at ht
    split at ht
    · cases ht
      exact hs.updateCommand hclosed ha
    · cases ht
  | event =>
    obtain ⟨device,-,rfl⟩ := Option.map_eq_some_iff.mp ht
    have h := hs.handler
    exact ⟨⟨h.aggregators,h.incoming,h.outgoing,h.replies,h.thread⟩,hs.statusHand,hs.forwardHand⟩
  | force device =>
    obtain ⟨module_,hm,rfl⟩ := Option.map_eq_some_iff.mp ht
    exact hs.withHandler (hs.handler.operate hclosed hm (a := .force_aggregation_on_device device) trivial)
  | receive message =>
    cases ht
    have h := hs.handler
    refine hs.withHandler ⟨h.aggregators,?_,h.outgoing,h.replies,h.thread⟩
    intro status hmem
    rcases List.mem_append.mp hmem with hmem | hmem
    · exact h.incoming status hmem
    · exact ha status (List.mem_singleton.mp hmem).symm
  | tick number deviceId =>
    obtain ⟨module_,hm,rfl⟩ := Option.map_eq_some_iff.mp ht
    exact hs.withHandler (hs.handler.operate hclosed hm (a := .timeouted_force_aggregation deviceId) trivial)
  | erase number i =>
    obtain ⟨aggregator,hrun,rfl⟩ := Option.map_eq_some_iff.mp ht
    exact hs.withHandler (hs.handler.setAggregator ((hs.handler.aggregators number).runPosted hrun))
  | sent =>
    cases ht
    have h := hs.handler
    exact hs.withHandler
      ⟨h.aggregators,h.incoming,fun m hm => h.outgoing m (List.mem_of_mem_tail hm),h.replies,h.thread⟩
  | listened =>
    cases ht
    have h := hs.handler
    exact hs.withHandler
      ⟨h.aggregators,h.incoming,h.outgoing,fun c hc => h.replies c (List.mem_of_mem_tail hc),h.thread⟩

end From

end HandlerThreads

end ModuleGateway.Modules
