import ModuleGateway.Library.DropOldest
import ModuleGateway.Modules.DeferredErasure

/-! # Which command a device gets

The commands of the external server against a queue that keeps the last
`max_external_commands` of those that were accepted. When nothing is left in it, a device
that only gets pushed commands gets none, and any other one gets what the last call
made of its command. The module may answer differently at every call.
-/
namespace ModuleGateway.Modules
open Structures

variable {β : Type}

/-- The calls that bring a command of the external server and that use one up. -/
inductive CommandCall (β : Type) where
  | update_command (command : β) (device : DeviceIdentification)
  | get_command (status : β) (device : DeviceIdentification)
  | get_command_for_forwarding (device : DeviceIdentification)

namespace CommandCall

def device : CommandCall β → DeviceIdentification
  | .update_command _ device => device
  | .get_command _ device => device
  | .get_command_for_forwarding device => device

def operation : CommandCall β → Operation β
  | .update_command command device => .update_command command device
  | .get_command status device => .get_command status device
  | .get_command_for_forwarding device => .get_command_for_forwarding device

end CommandCall

/-- What a call returns; `retrieved none` is a look-up that throws. -/
inductive CommandResult (β : Type) where
  | updated (code : ReturnCode)
  | retrieved (result : Option (Except ReturnCode β))

namespace StatusAggregator
variable [BufferType β]

def commandResult (module_ : ModuleLibraryHandler β) (s : StatusAggregator β) : CommandCall β → CommandResult β
  | .update_command command device => .updated (s.update_command module_ command device).1
  | .get_command status device => .retrieved ((s.get_command module_ status device).map Prod.fst)
  | .get_command_for_forwarding device =>
    .retrieved ((s.get_command_for_forwarding module_ device).map Prod.fst)

/-- Each call meets the module as it is at that moment. -/
def runCalls (s : StatusAggregator β) (calls : List (ModuleLibraryHandler β × CommandCall β)) :
    StatusAggregator β :=
  calls.foldl (fun s call => s.operate call.1 call.2.operation) s

end StatusAggregator

/-! ## The reference -/

/-- The commands of one device. `outcome` is the last command that was generated, or the last
one that was taken if nothing could be generated from it. -/
structure CommandReference (β : Type) where
  external : DropOldest β max_external_commands
  outcome : Option β
  firstCommand : β
  pushOnly : Bool

namespace CommandReference
variable (r : CommandReference β)

/-- A device with its first command. -/
def registered (firstCommand : β) (pushOnly : Bool) : CommandReference β :=
  ⟨.empty,none,firstCommand,pushOnly⟩

/-- The command that is handed to `generateCommand`, if any. -/
def next : Option β :=
  match r.external.pending with
  | command :: _ => some command
  | [] => if r.pushOnly then none else some (r.outcome.getD r.firstCommand)

def accept (command : β) : CommandReference β := { r with external := r.external.put command }

def retrieve (generateCommand : β → ReturnCode × β) : CommandReference β :=
  match r.next with
  | none => r
  | some command =>
    { r with
      external := r.external.take
      outcome :=
        match generateCommand command with
        | (.OK,generated) => some generated
        | _ => r.external.pending.head?.or r.outcome }

def retrieved (generateCommand : β → ReturnCode × β) : Except ReturnCode β :=
  match r.next with
  | none => .error .NO_MESSAGE_AVAILABLE
  | some command =>
    match generateCommand command with
    | (.OK,generated) => .ok generated
    | (code,_) => .error (code.failedAs .COMMAND_INVALID)

variable [BufferType β]

/-- The reference after a call for its device, which has status `current_status`. -/
def after (module_ : ModuleLibraryHandler β) (current_status : β) : CommandCall β → CommandReference β
  | .update_command command device =>
    if module_.isDeviceTypeSupported device.deviceType ≠ .NOT_OK ∧ isAllocated command ∧
        module_.commandDataValid command device.deviceType ≠ .NOT_OK then r.accept command
    else r
  | .get_command status device =>
    if module_.isDeviceTypeSupported device.deviceType ≠ .NOT_OK then
      r.retrieve fun command => module_.generateCommand status current_status command device.deviceType
    else r
  | .get_command_for_forwarding device =>
    if module_.isDeviceTypeSupported device.deviceType = .OK then
      r.retrieve fun command => module_.generateCommand current_status current_status command device.deviceType
    else r

/-- What that call returns. -/
def result (module_ : ModuleLibraryHandler β) (current_status : β) : CommandCall β → CommandResult β
  | .update_command command device =>
    .updated
      (if module_.isDeviceTypeSupported device.deviceType = .NOT_OK then .DEVICE_NOT_SUPPORTED
      else if !isAllocated command || module_.commandDataValid command device.deviceType = .NOT_OK then
        .COMMAND_INVALID
      else .OK)
  | .get_command status device =>
    .retrieved (some
      (if module_.isDeviceTypeSupported device.deviceType = .NOT_OK then .error .DEVICE_NOT_SUPPORTED
      else r.retrieved fun command =>
        module_.generateCommand status current_status command device.deviceType))
  | .get_command_for_forwarding device =>
    .retrieved (some
      (if module_.isDeviceTypeSupported device.deviceType = .OK then
        r.retrieved fun command =>
          module_.generateCommand current_status current_status command device.deviceType
      else .error .DEVICE_NOT_REGISTERED))

/-- The reference of identity `k` after calls for any devices. -/
def run (k : DeviceKey) (current_status : β) (calls : List (ModuleLibraryHandler β × CommandCall β)) :
    CommandReference β :=
  calls.foldl (fun r call => if call.2.device.key = k then r.after call.1 current_status call.2 else r) r

end CommandReference

/-! ## The device state follows the reference -/

/-- The queue holds what is pending, and the default command is the fallback. -/
structure Mirrors (d : StatusAggregatorDeviceState β) (r : CommandReference β) : Prop where
  queue : d.externalCommandQueue_ = r.external.pending
  default : d.defaultCommand_ = r.outcome.getD r.firstCommand
  forward : d.forwardCommandImmediately_ = r.pushOnly

section Mirrors
variable {d : StatusAggregatorDeviceState β} {r : CommandReference β}

theorem Mirrors.accept (h : Mirrors d r) (command : β) :
    Mirrors (d.addExternalCommand command).2 (r.accept command) := by
  have hput := r.external.pending_put command
  rw [← h.queue] at hput
  unfold StatusAggregatorDeviceState.addExternalCommand
  dsimp only
  split
  · rename_i hfull
    rw [if_pos hfull] at hput
    exact ⟨hput.symm,h.default,h.forward⟩
  · rename_i hroom
    rw [if_neg hroom] at hput
    exact ⟨hput.symm,h.default,h.forward⟩

/-- `consumeCommand` takes what the reference takes. -/
theorem Mirrors.consumeCommand (h : Mirrors d r) : d.consumeCommand.1 = r.next ∧
    d.consumeCommand.2.status_ = d.status_ ∧
    d.consumeCommand.2.externalCommandQueue_ = r.external.take.pending ∧
    d.consumeCommand.2.defaultCommand_ = (r.external.pending.head?.or r.outcome).getD r.firstCommand ∧
    d.consumeCommand.2.forwardCommandImmediately_ = r.pushOnly := by
  obtain ⟨hqueue,hdefault,hforward⟩ := h
  rw [StatusAggregatorDeviceState.consumeCommand, CommandReference.next, DropOldest.pending_take, ← hqueue]
  cases hq : d.externalCommandQueue_ with
  | nil =>
    dsimp only
    rw [← hdefault]
    by_cases hpush : r.pushOnly = true
    · rw [if_pos (hforward.trans hpush), if_pos hpush]
      exact ⟨rfl,rfl,hq,hdefault,hforward⟩
    · rw [if_neg fun h => hpush (hforward.symm.trans h), if_neg hpush]
      exact ⟨rfl,rfl,hq,hdefault,hforward⟩
  | cons command rest => exact ⟨rfl,rfl,rfl,rfl,hforward⟩

theorem CommandReference.pending_of_next_none (h : r.next = none) : r.external.pending = [] := by
  unfold next at h
  split at h
  · exact nomatch h
  · assumption

theorem Mirrors.consumed (h : Mirrors d r) (module_ : ModuleLibraryHandler β) (status : β) (device_type : UInt32) :
    Mirrors (StatusAggregator.consumed module_ status device_type d)
        (r.retrieve fun command => module_.generateCommand status d.status_ command device_type) ∧
      (StatusAggregator.consumed module_ status device_type d).status_ = d.status_ := by
  obtain ⟨hnext,hstatus,hqueue,hdefault,hforward⟩ := h.consumeCommand
  unfold StatusAggregator.consumed CommandReference.retrieve
  generalize d.consumeCommand = consumed at hnext hstatus hqueue hdefault hforward ⊢
  obtain ⟨command,d'⟩ := consumed
  dsimp only at hnext hstatus hqueue hdefault hforward
  subst hnext
  cases hnext : r.next with
  | none =>
    have hempty := CommandReference.pending_of_next_none hnext
    rw [hempty, List.head?_nil, Option.none_or] at hdefault
    rw [DropOldest.pending_take, hempty, List.tail_nil] at hqueue
    exact ⟨⟨hqueue.trans hempty.symm,hdefault,hforward⟩,hstatus⟩
  | some command =>
    dsimp only
    rw [hstatus]
    rcases module_.generateCommand status d.status_ command device_type with ⟨code,generated⟩
    cases code with
    | OK => exact ⟨⟨hqueue,rfl,hforward⟩,hstatus⟩
    | _ => exact ⟨⟨hqueue,hdefault,hforward⟩,hstatus⟩

/-- What `getCommandUnlocked` returns for the entry it finds. -/
theorem Mirrors.retrieved (h : Mirrors d r) {module_ : ModuleLibraryHandler β} {s : StatusAggregator β}
    {device : DeviceKey} (hd : s.devices.lookup device = some d) (status : β)
    (hsupported : module_.isDeviceTypeSupported device.deviceType ≠ .NOT_OK) :
    (s.getCommandUnlocked module_ status device).map Prod.fst =
      some (r.retrieved fun command => module_.generateCommand status d.status_ command device.deviceType) := by
  obtain ⟨hnext,hstatus,-,-,-⟩ := h.consumeCommand
  have hsupported' : StatusAggregator.is_device_type_supported module_ device.deviceType ≠ .NOT_OK := hsupported
  unfold StatusAggregator.getCommandUnlocked CommandReference.retrieved
  rw [if_neg hsupported', hd]
  dsimp only
  generalize d.consumeCommand = consumed at hnext hstatus ⊢
  obtain ⟨command,d'⟩ := consumed
  dsimp only at hnext hstatus
  subst hnext
  cases hnext : r.next with
  | none => rfl
  | some command =>
    dsimp only
    rw [hstatus]
    rcases module_.generateCommand status d.status_ command device.deviceType with ⟨code,generated⟩
    cases code <;> rfl

end Mirrors

/-! ## Every sequence of calls -/

namespace StatusAggregator
variable [BufferType β] {s : StatusAggregator β} {k : DeviceKey} {d : StatusAggregatorDeviceState β}
  {r : CommandReference β}

/-- One call, for this device or for another one. -/
theorem operate_mirrors (hd : s.devices.lookup k = some d) (h : Mirrors d r)
    (module_ : ModuleLibraryHandler β) (call : CommandCall β) :
    ∃ e, (s.operate module_ call.operation).devices.lookup k = some e ∧ e.status_ = d.status_ ∧
      Mirrors e (if call.device.key = k then r.after module_ d.status_ call else r) := by
  by_cases hk : call.device.key = k
  · subst hk
    rw [if_pos rfl, operate_lookup, hd]
    cases call with
    | update_command command device =>
      simp only [CommandCall.operation, CommandCall.device, effect, is_device_type_supported,
        DeviceIdentification.key, CommandReference.after, true_and]
      split
      · refine ⟨_,rfl,?_,?_⟩
        · unfold StatusAggregatorDeviceState.addExternalCommand
          dsimp only
          split <;> rfl
        · exact h.accept command
      · exact ⟨d,rfl,rfl,h⟩
    | get_command status device =>
      simp only [CommandCall.operation, CommandCall.device, effect, is_device_type_supported,
        DeviceIdentification.key, CommandReference.after, true_and]
      split
      · obtain ⟨hmirrors,hstatus⟩ := h.consumed module_ status device.deviceType
        exact ⟨_,rfl,hstatus,hmirrors⟩
      · exact ⟨d,rfl,rfl,h⟩
    | get_command_for_forwarding device =>
      simp only [CommandCall.operation, CommandCall.device, effect, is_device_type_supported,
        DeviceIdentification.key, CommandReference.after, true_and]
      split
      · obtain ⟨hmirrors,hstatus⟩ := h.consumed module_ d.status_ device.deviceType
        exact ⟨_,rfl,hstatus,hmirrors⟩
      · exact ⟨d,rfl,rfl,h⟩
  · rw [if_neg hk]
    refine ⟨d,?_,rfl,h⟩
    have hother (p : Prop) : ¬(k = call.device.key ∧ p) := fun hp => hk hp.1.symm
    rw [operate_lookup, hd]
    cases call with
    | update_command command device => exact if_neg (hother _)
    | get_command status device => exact if_neg (hother _)
    | get_command_for_forwarding device => exact if_neg (hother _)

theorem commandResult_eq {module_ : ModuleLibraryHandler β} {call : CommandCall β}
    (hd : s.devices.lookup call.device.key = some d) (h : Mirrors d r) :
    s.commandResult module_ call = r.result module_ d.status_ call := by
  have hmem : call.device.key ∈ s.devices := AList.lookup_isSome.mp (by rw [hd]; rfl)
  cases call with
  | update_command command device =>
    have hmem' : ¬device.key ∉ s.devices := not_not_intro hmem
    simp only [commandResult, CommandReference.result, update_command, if_neg hmem']
    congr 1
    by_cases hsupported : module_.isDeviceTypeSupported device.deviceType = .NOT_OK
    · rw [if_pos hsupported]
      exact congrArg Prod.fst (if_pos hsupported)
    · have hsupported' : ¬is_device_type_supported module_ device.deviceType = .NOT_OK := hsupported
      rw [if_neg hsupported, if_neg hsupported']
      split <;> rfl
  | get_command status device =>
    have hd' : s.devices.lookup device.key = some d := hd
    simp only [commandResult, CommandReference.result, get_command]
    by_cases hsupported : module_.isDeviceTypeSupported device.deviceType = .NOT_OK
    · have hsupported' : is_device_type_supported module_ device.key.deviceType = .NOT_OK := hsupported
      rw [if_pos hsupported, getCommandUnlocked, if_pos hsupported']
      rfl
    · rw [if_neg hsupported, h.retrieved hd' status hsupported]
      rfl
  | get_command_for_forwarding device =>
    have hd' : s.devices.lookup device.key = some d := hd
    simp only [commandResult, CommandReference.result, get_command_for_forwarding]
    have hvalid := isDeviceValidUnlocked_of_isSome module_ s device.key (AList.lookup_isSome.mpr hmem)
    by_cases hsupported : module_.isDeviceTypeSupported device.deviceType = .OK
    · have hsupported' : module_.isDeviceTypeSupported device.deviceType ≠ .NOT_OK := by
        rw [hsupported]
        exact ReturnCode.noConfusion
      rw [if_pos hsupported, if_neg fun hno => hvalid.mp hno hsupported, hd']
      dsimp only
      rw [h.retrieved hd' d.status_ hsupported']
      rfl
    · rw [if_neg hsupported, if_pos (hvalid.mpr hsupported)]
      rfl

/-- A rejected command changes nothing. -/
theorem update_command_rejected (module_ : ModuleLibraryHandler β) (s : StatusAggregator β) (command : β)
    (device : DeviceIdentification) (h : (s.update_command module_ command device).1 ≠ .OK) :
    (s.update_command module_ command device).2 = s := by
  unfold update_command at h ⊢
  split
  · rfl
  · split
    · rfl
    · split
      · rfl
      · simp_all

theorem runCalls_mirrors (hd : s.devices.lookup k = some d) (h : Mirrors d r)
    (calls : List (ModuleLibraryHandler β × CommandCall β)) :
    ∃ e, (s.runCalls calls).devices.lookup k = some e ∧ e.status_ = d.status_ ∧
      Mirrors e (r.run k d.status_ calls) := by
  induction calls generalizing s d r with
  | nil => exact ⟨d,hd,rfl,h⟩
  | cons call calls ih =>
    obtain ⟨e,he,hstatus,hmirrors⟩ := operate_mirrors hd h call.1 call.2
    obtain ⟨e',he',hstatus',hmirrors'⟩ := ih he hmirrors
    rw [hstatus] at hstatus' hmirrors'
    exact ⟨e',he',hstatus',hmirrors'⟩

/-- From the registration of a device on, every call for it returns what the reference returns,
its queue holds what the reference has pending, at most `max_external_commands` commands, and a
call of `update_command` that does not return `OK` changes nothing. -/
theorem runCalls_commands {device : DeviceIdentification} {firstCommand status : β} {pushOnly : Bool}
    {aggregatedMessages : List β}
    (hd : s.devices.lookup device.key = some ⟨device,aggregatedMessages,status,firstCommand,[],pushOnly⟩)
    (calls : List (ModuleLibraryHandler β × CommandCall β)) :
    (∀ bs module_ call cs, calls = bs ++ (module_,call) :: cs → call.device.key = device.key →
        (s.runCalls bs).commandResult module_ call =
          ((CommandReference.registered firstCommand pushOnly).run device.key status bs).result module_ status call) ∧
      (∃ e, (s.runCalls calls).devices.lookup device.key = some e ∧
        e.externalCommandQueue_ =
          ((CommandReference.registered firstCommand pushOnly).run device.key status calls).external.pending ∧
        e.externalCommandQueue_.length ≤ max_external_commands) ∧
      ∀ bs module_ command e cs, calls = bs ++ (module_,.update_command command e) :: cs →
        ((s.runCalls bs).update_command module_ command e).1 ≠ .OK →
        s.runCalls (bs ++ [(module_,.update_command command e)]) = s.runCalls bs := by
  have hstart : Mirrors ⟨device,aggregatedMessages,status,firstCommand,[],pushOnly⟩
      (CommandReference.registered firstCommand pushOnly) := ⟨rfl,rfl,rfl⟩
  refine ⟨fun bs module_ call cs _ hkey => ?_,?_,fun bs module_ command e cs _ hrejected => ?_⟩
  · obtain ⟨e,he,hstatus,hmirrors⟩ := runCalls_mirrors hd hstart bs
    rw [← hkey] at he
    rw [commandResult_eq he hmirrors, hstatus]
  · obtain ⟨e,he,-,hmirrors⟩ := runCalls_mirrors hd hstart calls
    refine ⟨e,he,hmirrors.queue,?_⟩
    rw [hmirrors.queue]
    exact DropOldest.length_pending_le _
  · rw [runCalls, List.foldl_append]
    exact update_command_rejected module_ _ command e hrejected

/-- The camera after its first status. -/
def cameraRegistered : StatusAggregator (List UInt8) := (init.add_status_to_aggregator relay [7] camera).2

/-- Four commands are accepted, the second one is used up by a status. -/
def fourCommands : List (ModuleLibraryHandler (List UInt8) × CommandCall (List UInt8)) :=
  [(relay,.update_command [1] camera),(relay,.update_command [2] camera),(relay,.update_command [3] camera),
    (relay,.update_command [4] camera),(relay,.get_command [7] camera)]

theorem runCalls_commands_camera :
    ∃ e, (cameraRegistered.runCalls fourCommands).devices.lookup camera.key = some e ∧
      e.externalCommandQueue_ = [[3],[4]] ∧ e.externalCommandQueue_.length ≤ max_external_commands := by
  have hd : cameraRegistered.devices.lookup camera.key = some ⟨camera,[[7]],[7],[0],[],false⟩ := rfl
  obtain ⟨-,⟨e,he,hqueue,hlength⟩,-⟩ := runCalls_commands hd fourCommands
  exact ⟨e,he,hqueue,hlength⟩

end StatusAggregator

end ModuleGateway.Modules
