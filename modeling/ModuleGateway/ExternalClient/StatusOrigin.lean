import ModuleGateway.ExternalClient.ExternalConnection
import Mathlib.Data.List.Flatten
import Mathlib.Data.List.Nodup

/-! # Which statuses a buffer comes from

The connection runs on any kind of buffer, so it runs on buffers that remember the
statuses that went into them. Every status of a run gets the number of the action it
comes in with; `aggregateError` of the module joins what its two buffers remember.
Forgetting the numbers gives back the run of the connection on plain buffers.
-/
namespace ModuleGateway.ExternalClient
open Structures ExternalConnection

variable {β γ : Type}

/-- The status that came in for a device with the action of this number. -/
structure Origin where
  key : DeviceKey
  number : ℕ
deriving DecidableEq

/-- A buffer with the statuses it comes from. -/
structure Traced (γ : Type) where
  buffer : γ
  origins : List Origin

instance [BufferType γ] : BufferType (Traced γ) where
  unallocated := ⟨BufferType.unallocated,[]⟩
  isAllocated b := isAllocated b.buffer
  isAllocated_unallocated := BufferType.isAllocated_unallocated

/-- The module on traced buffers. -/
def traced (module_ : ModuleLibraryHandler γ) : ModuleLibraryHandler (Traced γ) where
  isDeviceTypeSupported := module_.isDeviceTypeSupported
  sendStatusCondition current new := module_.sendStatusCondition current.buffer new.buffer
  generateCommand newStatus currentStatus currentCommand device_type :=
    let r := module_.generateCommand newStatus.buffer currentStatus.buffer currentCommand.buffer device_type
    (r.1,⟨r.2,[]⟩)
  aggregateStatus current new device_type :=
    let r := module_.aggregateStatus current.buffer new.buffer device_type
    (r.1,⟨r.2,current.origins ++ new.origins⟩)
  aggregateError currentError status device_type :=
    let r := module_.aggregateError currentError.buffer status.buffer device_type
    (r.1,⟨r.2,currentError.origins ++ status.origins⟩)
  generateFirstCommand device_type :=
    let r := module_.generateFirstCommand device_type
    (r.1,⟨r.2,[]⟩)
  statusDataValid status := module_.statusDataValid status.buffer
  commandDataValid command := module_.commandDataValid command.buffer
  forwardCommandOnReceive := module_.forwardCommandOnReceive

def tracedModules (modules : Modules γ) : Modules (Traced γ) := fun number => (modules number).map traced

theorem tracedModules_of_none {modules : Modules γ} {number : ℤ} (h : modules number = none) :
    tracedModules modules number = none := congrArg (Option.map traced) h

theorem tracedModules_of_some {modules : Modules γ} {number : ℤ} {module_ : ModuleLibraryHandler γ}
    (h : modules number = some module_) : tracedModules modules number = some (traced module_) :=
  congrArg (Option.map traced) h

/-! ## Numbered runs -/

/-- The status that comes in as the action of number `n`. -/
def numberStatus (n : ℕ) (status : DeviceStatus γ) : DeviceStatus (Traced γ) :=
  ⟨status.device,status.statusdata,[⟨status.device.key,n⟩]⟩

/-- Commands of the server are no statuses. -/
def numberMessage : ServerMessage γ → ServerMessage (Traced γ)
  | .connectResponse sessionId alreadyLogged => .connectResponse sessionId alreadyLogged
  | .statusResponse sessionId ok messageCounter => .statusResponse sessionId ok messageCounter
  | .command sessionId messageCounter deviceCommand =>
    .command sessionId messageCounter ⟨deviceCommand.device,deviceCommand.commanddata,[]⟩

def numberAnswer (answer : Answer γ) : Answer (Traced γ) :=
  ⟨answer.opened,answer.sessionId,answer.sent,answer.received.map numberMessage⟩

def numberAction (n : ℕ) : ConnectionAction γ → ConnectionAction (Traced γ)
  | .connect devices => .connect devices
  | .thread answer => .thread (numberAnswer answer)
  | .sendStatus status deviceState sent => .sendStatus (numberStatus n status) deviceState sent
  | .take status => .take (numberStatus n status)
  | .fill => .fill
  | .receive message => .receive (numberMessage message)
  | .deinitializeConnection completeDisconnect => .deinitializeConnection completeDisconnect

/-- The connection on traced buffers, and the number of the next action. -/
abbrev NumberedConnection (γ : Type) := ExternalConnection (Traced γ) × ℕ

def NumberedConnection.init : NumberedConnection γ := (.init,0)

def numberedStep [BufferType γ] (modules : Modules γ) (s : NumberedConnection γ) (a : ConnectionAction γ) :
    Option (NumberedConnection γ) :=
  (s.1.connectionStep (tracedModules modules) (numberAction s.2 a)).map fun t => (t,s.2 + 1)

/-! ## The entries of the error aggregators -/

def entryIn (errorAggregators : ℤ → ErrorAggregator β) (k : DeviceKey) : Option (DeviceState β) :=
  (errorAggregators k.module_).devices_ k

/-- The statuses in the error message of a device. -/
def errorOrigins (errorAggregators : ℤ → ErrorAggregator (Traced γ)) (k : DeviceKey) : List Origin :=
  (entryIn errorAggregators k).elim [] fun deviceState => deviceState.errorMessage.origins

/-- The status that is held as the last one of a device. -/
def lastOrigins (errorAggregators : ℤ → ErrorAggregator (Traced γ)) (k : DeviceKey) : List Origin :=
  (entryIn errorAggregators k).elim [] fun deviceState => deviceState.lastStatus.origins

section Entries
variable [BufferType β] [BufferType γ]

theorem addStatusToErrorAggregator_of_some {modules : Modules β}
    (errorAggregators : ℤ → ErrorAggregator β) {status : DeviceStatus β} {module_ : ModuleLibraryHandler β}
    (hmodule : modules status.device.module_ = some module_) :
    addStatusToErrorAggregator modules errorAggregators status =
      Function.update errorAggregators status.device.module_
        ((errorAggregators status.device.module_).add_status_to_error_aggregator module_
          status.statusdata status.device).2 := by
  simp only [addStatusToErrorAggregator, hmodule]

/-- Adding a status changes the entry of its device only, and that as `add` does. -/
theorem addStatusToErrorAggregator_entry (modules : Modules β) (errorAggregators : ℤ → ErrorAggregator β)
    (status : DeviceStatus β) (k : DeviceKey) :
    entryIn (addStatusToErrorAggregator modules errorAggregators status) k =
        entryIn errorAggregators k ∨
      k = status.device.key ∧ ∃ module_, modules k.module_ = some module_ ∧
        entryIn (addStatusToErrorAggregator modules errorAggregators status) k =
          some (((entryIn errorAggregators k).getD DeviceState.blank).add module_ status.statusdata
            k.deviceType).2 := by
  cases hmodule : modules status.device.module_ with
  | none =>
    left
    simp only [addStatusToErrorAggregator, hmodule]
  | some module_ =>
    have hdef := addStatusToErrorAggregator_of_some errorAggregators hmodule
    by_cases hnumber : k.module_ = status.device.module_
    · rw [hdef, entryIn, hnumber, Function.update_self,
        ErrorAggregator.add_status_to_error_aggregator_devices_, entryIn, hnumber]
      split
      next h => exact .inr ⟨h.1,module_,hmodule,rfl⟩
      next => exact .inl rfl
    · rw [hdef, entryIn, Function.update_of_ne hnumber]
      exact .inl rfl

theorem addStatusToErrorAggregator_entry_of_ne (modules : Modules β)
    (errorAggregators : ℤ → ErrorAggregator β) {status : DeviceStatus β} {k : DeviceKey}
    (h : status.device.key ≠ k) :
    entryIn (addStatusToErrorAggregator modules errorAggregators status) k = entryIn errorAggregators k :=
  (addStatusToErrorAggregator_entry modules errorAggregators status k).resolve_right
    fun ⟨hk,_⟩ => h hk.symm

theorem addStatusToErrorAggregator_entry_self {modules : Modules β}
    (errorAggregators : ℤ → ErrorAggregator β) {status : DeviceStatus β} {module_ : ModuleLibraryHandler β}
    (hmodule : modules status.device.module_ = some module_)
    (hsupported : module_.isDeviceTypeSupported status.device.deviceType ≠ .NOT_OK) :
    entryIn (addStatusToErrorAggregator modules errorAggregators status) status.device.key =
      some (((entryIn errorAggregators status.device.key).getD DeviceState.blank).add module_
        status.statusdata status.device.deviceType).2 := by
  rw [addStatusToErrorAggregator_of_some errorAggregators hmodule, entryIn]
  change (Function.update errorAggregators status.device.module_ _ status.device.module_).devices_ _ = _
  rw [Function.update_self, ErrorAggregator.add_status_to_error_aggregator_devices_,
    if_pos ⟨rfl,hsupported⟩]
  rfl

/-- Adding statuses of other devices leaves an entry alone. -/
theorem foldl_entry_of_ne (modules : Modules β) {l : List (Status β)} {k : DeviceKey}
    (h : ∀ status ∈ l, status.deviceStatus.device.key ≠ k) (errorAggregators : ℤ → ErrorAggregator β) :
    entryIn (l.foldl (fun errorAggregators notAckedStatus =>
      addStatusToErrorAggregator modules errorAggregators notAckedStatus.deviceStatus) errorAggregators) k =
        entryIn errorAggregators k := by
  induction l generalizing errorAggregators with
  | nil => rfl
  | cons status l ih =>
    exact (ih (fun status' hmem => h status' (List.mem_cons_of_mem _ hmem)) _).trans
      (addStatusToErrorAggregator_entry_of_ne modules errorAggregators (h status List.mem_cons_self))

/-- The entry of the device has the status as its last one; other entries change only where a
response was awaited. -/
theorem fillErrorAggregator_entry {modules : Modules β} (s : ExternalConnection β) {status : DeviceStatus β}
    {module_ : ModuleLibraryHandler β} (hmodule : modules status.device.module_ = some module_)
    (hsupported : module_.isDeviceTypeSupported status.device.deviceType ≠ .NOT_OK) :
    let t := s.fillErrorAggregator modules status
    t.sentMessagesHandler_.notAckedStatuses_ = [] ∧
      (∃ deviceState, entryIn t.errorAggregators_ status.device.key = some deviceState ∧
        deviceState.lastStatus = status.statusdata) ∧
      ∀ k, (∀ notAcked ∈ s.sentMessagesHandler_.notAckedStatuses_, notAcked.deviceStatus.device.key ≠ k) →
        entryIn t.errorAggregators_ k = if k = status.device.key then
            some (((entryIn s.errorAggregators_ k).getD DeviceState.blank).add module_ status.statusdata
              status.device.deviceType).2
          else entryIn s.errorAggregators_ k := by
  have hdef : s.fillErrorAggregator modules status =
      { s.fillErrorAggregatorWithNotAckedStatuses modules with
        errorAggregators_ := addStatusToErrorAggregator modules
          (s.fillErrorAggregatorWithNotAckedStatuses modules).errorAggregators_ status } := by
    rw [fillErrorAggregator, hmodule]
  have hself := addStatusToErrorAggregator_entry_self
    (s.fillErrorAggregatorWithNotAckedStatuses modules).errorAggregators_ hmodule hsupported
  rw [hdef]
  refine ⟨rfl,⟨_,hself,DeviceState.add_lastStatus _ _ _ _⟩,fun k hk => ?_⟩
  have hrest : entryIn (s.fillErrorAggregatorWithNotAckedStatuses modules).errorAggregators_ k =
      entryIn s.errorAggregators_ k := foldl_entry_of_ne modules hk s.errorAggregators_
  split
  next h =>
    rw [h] at hrest ⊢
    rw [← hrest]
    exact hself
  next h => exact (addStatusToErrorAggregator_entry_of_ne modules _ (Ne.symm h)).trans hrest

/-- A status that is sent, or fails to be, may change the entry of its own device, and of devices
a response is awaited for. -/
theorem sendStatus_entry_of_ne (modules : Modules β) (s : ExternalConnection β) (status : DeviceStatus β)
    {k : DeviceKey} (h : status.device.key ≠ k)
    (hnotAcked : ∀ notAcked ∈ s.sentMessagesHandler_.notAckedStatuses_,
      notAcked.deviceStatus.device.key ≠ k)
    (deviceState : StatusDeviceState) (errorMessage : β) (sent : Bool) :
    entryIn (s.sendStatus modules status deviceState errorMessage sent).errorAggregators_ k =
        entryIn s.errorAggregators_ k ∧
      ∀ notAcked ∈ (s.sendStatus modules status deviceState errorMessage sent).sentMessagesHandler_.notAckedStatuses_,
        notAcked.deviceStatus.device.key ≠ k := by
  rw [ExternalConnection.sendStatus]
  split
  · exact ⟨rfl,hnotAcked⟩
  · have hadded : entryIn (if s.isRegistered status.device then s.errorAggregators_
        else addStatusToErrorAggregator modules s.errorAggregators_ status) k = entryIn s.errorAggregators_ k := by
      split
      · rfl
      · exact addStatusToErrorAggregator_entry_of_ne modules s.errorAggregators_ h
    have hnew : ∀ notAcked ∈ ((s.switched status.device deviceState).2.addNotAckedStatus
        (s.createStatus status deviceState errorMessage)).notAckedStatuses_,
        notAcked.deviceStatus.device.key ≠ k := by
      intro notAcked hmem
      rw [SentMessagesHandler.addNotAckedStatus, (s.switched_frame status.device deviceState).1] at hmem
      rcases List.mem_append.mp hmem with hmem | hmem
      · exact hnotAcked notAcked hmem
      · rw [List.mem_singleton.mp hmem]
        exact h
    cases sent with
    | true => exact ⟨hadded,hnew⟩
    | false => exact ⟨(foldl_entry_of_ne modules hnew _).trans hadded,fun _ hmem => absurd hmem List.not_mem_nil⟩

omit [BufferType γ] in
/-- What the module joins is folded in, or nothing is; the last status is kept either way. -/
theorem add_traced_origins (module_ : ModuleLibraryHandler γ) (deviceState : DeviceState (Traced γ))
    (status : Traced γ) (device_type : UInt32) :
    let t := (deviceState.add (traced module_) status device_type).2
    (t.errorMessage.origins = deviceState.errorMessage.origins ∨
      t.errorMessage.origins = deviceState.errorMessage.origins ++ status.origins) ∧ t.lastStatus = status := by
  refine ⟨?_,deviceState.add_lastStatus _ _ _⟩
  simp only [DeviceState.add, traced]
  cases (module_.aggregateError deviceState.errorMessage.buffer status.buffer device_type).1 <;>
    first | exact .inr rfl | exact .inl rfl

theorem addStatus_origins (modules : Modules γ) (errorAggregators : ℤ → ErrorAggregator (Traced γ))
    (status : DeviceStatus (Traced γ)) (k : DeviceKey) :
    let t := addStatusToErrorAggregator (tracedModules modules) errorAggregators status
    (errorOrigins t k = errorOrigins errorAggregators k ∧ lastOrigins t k = lastOrigins errorAggregators k) ∨
      k = status.device.key ∧ lastOrigins t k = status.statusdata.origins ∧
        (errorOrigins t k = errorOrigins errorAggregators k ∨
          errorOrigins t k = errorOrigins errorAggregators k ++ status.statusdata.origins) := by
  intro t
  rcases addStatusToErrorAggregator_entry (tracedModules modules) errorAggregators status k with h |
    ⟨hk,module_,hmodule,h⟩
  · exact .inl ⟨congrArg (fun e => Option.elim e [] _) h,congrArg (fun e => Option.elim e [] _) h⟩
  · refine .inr ⟨hk,?_⟩
    obtain ⟨plain,-,rfl⟩ := Option.map_eq_some_iff.mp hmodule
    obtain ⟨herror,hlast⟩ := add_traced_origins plain ((entryIn errorAggregators k).getD DeviceState.blank)
      status.statusdata k.deviceType
    have hblank : ((entryIn errorAggregators k).getD DeviceState.blank).errorMessage.origins =
        errorOrigins errorAggregators k := by
      rw [errorOrigins]
      cases entryIn errorAggregators k <;> rfl
    have herror' : errorOrigins t k = (((entryIn errorAggregators k).getD DeviceState.blank).add (traced plain)
        status.statusdata k.deviceType).2.errorMessage.origins := congrArg (fun e => Option.elim e [] _) h
    have hlast' : lastOrigins t k = (((entryIn errorAggregators k).getD DeviceState.blank).add (traced plain)
        status.statusdata k.deviceType).2.lastStatus.origins := congrArg (fun e => Option.elim e [] _) h
    rw [herror', hlast', hlast, ← hblank]
    exact ⟨rfl,herror⟩

theorem clearErrorAggregators_origins (s : ExternalConnection (Traced γ)) (k : DeviceKey) :
    errorOrigins s.clearErrorAggregators.errorAggregators_ k = [] ∧
      lastOrigins s.clearErrorAggregators.errorAggregators_ k = [] := by
  have hclear : entryIn s.clearErrorAggregators.errorAggregators_ k =
      (entryIn s.errorAggregators_ k).map fun _ => DeviceState.blank := rfl
  rw [errorOrigins, lastOrigins, hclear]
  cases entryIn s.errorAggregators_ k <;> exact ⟨rfl,rfl⟩

/-- Adding the statuses of a list, one after the other, appends to an error message only
statuses of the list that are of its device. -/
def FoldsIn (statuses : List (DeviceStatus (Traced γ))) (s t : ℤ → ErrorAggregator (Traced γ)) : Prop :=
  ∀ k, (∃ new, errorOrigins t k = errorOrigins s k ++ new ∧
      new.Sublist ((statuses.filter (·.device.key = k)).flatMap (·.statusdata.origins))) ∧
    (lastOrigins t k = lastOrigins s k ∨
      ∃ status ∈ statuses, status.device.key = k ∧ lastOrigins t k = status.statusdata.origins)

omit [BufferType γ] in
theorem FoldsIn.nil (s : ℤ → ErrorAggregator (Traced γ)) : FoldsIn [] s s :=
  fun _ => ⟨⟨[],(List.append_nil _).symm,List.Sublist.refl _⟩,.inl rfl⟩

theorem FoldsIn.add {statuses : List (DeviceStatus (Traced γ))} {s t : ℤ → ErrorAggregator (Traced γ)}
    (h : FoldsIn statuses s t) (modules : Modules γ) (status : DeviceStatus (Traced γ)) :
    FoldsIn (statuses ++ [status]) s (addStatusToErrorAggregator (tracedModules modules) t status) := by
  intro k
  obtain ⟨⟨new,herror,hnew⟩,hlast⟩ := h k
  have hweaker : new.Sublist (((statuses ++ [status]).filter (·.device.key = k)).flatMap
      (·.statusdata.origins)) := by
    rw [List.filter_append, List.flatMap_append]
    exact hnew.trans (List.sublist_append_left _ _)
  have hold : lastOrigins t k = lastOrigins s k ∨
      ∃ status' ∈ statuses ++ [status], status'.device.key = k ∧
        lastOrigins t k = status'.statusdata.origins :=
    hlast.imp_right fun ⟨status',hmem,h⟩ => ⟨status',List.mem_append_left _ hmem,h⟩
  rcases addStatus_origins modules t status k with ⟨he,hl⟩ | ⟨rfl,hl,he⟩
  · rw [he, hl]
    exact ⟨⟨new,herror,hweaker⟩,hold⟩
  · refine ⟨?_,.inr ⟨status,List.mem_append_right _ (List.mem_singleton_self _),rfl,hl⟩⟩
    rcases he with he | he
    · exact ⟨new,he.trans herror,hweaker⟩
    · refine ⟨new ++ status.statusdata.origins,by rw [he, herror, List.append_assoc],?_⟩
      rw [List.filter_append, List.flatMap_append]
      refine hnew.append ?_
      rw [List.filter_cons_of_pos (by simp)]
      simp

theorem FoldsIn.addAll {statuses : List (DeviceStatus (Traced γ))} {s t : ℤ → ErrorAggregator (Traced γ)}
    (h : FoldsIn statuses s t) (modules : Modules γ) (l : List (Status (Traced γ))) :
    FoldsIn (statuses ++ l.map (·.deviceStatus)) s (l.foldl (fun errorAggregators notAckedStatus =>
      addStatusToErrorAggregator (tracedModules modules) errorAggregators notAckedStatus.deviceStatus) t) := by
  induction l generalizing statuses t with
  | nil =>
    rw [List.map_nil, List.append_nil]
    exact h
  | cons notAckedStatus l ih =>
    have hrest := ih (h.add modules notAckedStatus.deviceStatus)
    rwa [List.append_assoc] at hrest

end Entries

end ModuleGateway.ExternalClient
