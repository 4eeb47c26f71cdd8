import ModuleGateway.Modules.IsolatedAggregator

/-! # The flag of the timeouts

`timeouted_force_aggregation` sets `timeoutedMessageReady_` before it takes `devicesMutex_`, and
`checkTimeoutedMessages` takes the flag back after it visited the devices one by one. Both are cut here
at the accesses of the flag and at the sections under the mutex, for the aggregator of one module.
-/
namespace ModuleGateway.Modules
open Structures Execution

variable {β : Type}

namespace StatusAggregator

/-- `timeoutedMessageReady_.store(true)`. -/
def setTimeoutedMessageReady (s : StatusAggregator β) : StatusAggregator β :=
  { s with timeoutedMessageReady_ := true }

/-- `timeouted_force_aggregation` under `devicesMutex_`. -/
def forceTimeouted (module_ : ModuleLibraryHandler β) (s : StatusAggregator β) (deviceId : DeviceKey) :
    Except ReturnCode ℕ × StatusAggregator β :=
  let s := { s with
    deviceTimeouts_ := Function.update s.deviceTimeouts_ deviceId (s.deviceTimeouts_ deviceId + 1) }
  s.forceAggregationOnDeviceUnlocked module_ deviceId

/-- A tick that nothing comes into. -/
theorem timeouted_force_aggregation_eq (module_ : ModuleLibraryHandler β) (s : StatusAggregator β)
    (deviceId : DeviceKey) : s.timeouted_force_aggregation module_ deviceId =
      s.setTimeoutedMessageReady.forceTimeouted module_ deviceId := rfl

/-- The aggregated statuses of an identity. -/
def queued (s : StatusAggregator β) (k : DeviceKey) : List β :=
  (s.devices.lookup k).elim [] StatusAggregatorDeviceState.aggregatedMessages_

end StatusAggregator

/-- Where `checkTimeoutedMessages` is. -/
inductive CheckPhase where
  | idle
  | listing
  | collecting (devices : List DeviceIdentification)
  | counting (device : DeviceIdentification) (devices : List DeviceIdentification)
deriving DecidableEq

/-- The aggregator of a module, the ticks that have set the flag and not entered their section, and
the check. -/
structure TimeoutCheck (β : Type) where
  statusAggregator : StatusAggregator β
  ticking : List DeviceKey
  phase : CheckPhase
  toExternalQueue_ : List (InternalClientMessage β)
  toInternalQueue_ : List (ModuleHandlerMessage β)

/-- A tick sets the flag, the `i`-th tick on its way enters its section, the check makes a step, or
another call of the aggregator comes. -/
inductive TimeoutAction (β : Type) where
  | tick (deviceId : DeviceKey)
  | force (i : ℕ)
  | check
  | other (call : AggregatorAction β)

/-- The calls that the actions of ticks and checks stand for. -/
def AggregatorAction.accessesFlag : AggregatorAction β → Bool
  | .operate (.timeouted_force_aggregation _) | .operate .unsetTimeoutedMessageReady => true
  | _ => false

namespace TimeoutCheck

def init : TimeoutCheck β := ⟨.init,[],.idle,[],[]⟩

def goto (s : TimeoutCheck β) (phase : CheckPhase) : TimeoutCheck β := { s with phase := phase }

/-- One step of `checkTimeoutedMessages`. -/
def checkTimeoutedMessages (module_ : ModuleLibraryHandler β) (s : TimeoutCheck β) : TimeoutCheck β :=
  match s.phase with
  | .idle => if s.statusAggregator.getTimeoutedMessageReady then s.goto .listing else s
  | .listing => s.goto (.collecting s.statusAggregator.get_unique_devices)
  | .collecting [] =>
    { s with statusAggregator := s.statusAggregator.unsetTimeoutedMessageReady, phase := .idle }
  | .collecting (device :: devices) =>
    match s.statusAggregator.get_aggregated_status module_ device with
    | (.ok status,aggregator) =>
      { s with
        statusAggregator := aggregator
        toExternalQueue_ := s.toExternalQueue_ ++ [.message false (.deviceStatus ⟨device,status⟩)] }
    | (.error _,aggregator) => { s with statusAggregator := aggregator, phase := .counting device devices }
  | .counting device devices =>
    { s with
      phase := .collecting devices
      toInternalQueue_ :=
        if s.statusAggregator.getDeviceTimeoutCount device ≥ status_aggregation_timeout_max_count then
          s.toInternalQueue_ ++ [.disconnect device]
        else s.toInternalQueue_ }

variable [BufferType β] (module_ : ModuleLibraryHandler β)

def step (s : TimeoutCheck β) : TimeoutAction β → Option (TimeoutCheck β)
  | .tick deviceId =>
    some { s with
      statusAggregator := s.statusAggregator.setTimeoutedMessageReady
      ticking := s.ticking ++ [deviceId] }
  | .force i =>
    s.ticking[i]?.map fun deviceId =>
      { s with
        statusAggregator := (s.statusAggregator.forceTimeouted module_ deviceId).2
        ticking := s.ticking.eraseIdx i }
  | .check => some (s.checkTimeoutedMessages module_)
  | .other call =>
    if call.accessesFlag then none
    else (s.statusAggregator.step module_ call).map fun aggregator => { s with statusAggregator := aggregator }

/-- The module may answer differently at every step. -/
def callStep (s : TimeoutCheck β) (call : ModuleLibraryHandler β × TimeoutAction β) : Option (TimeoutCheck β) :=
  s.step call.1 call.2

/-! ## Which statuses a tick has queued -/

omit [BufferType β] in
/-- For every identity and every status in its queue, whether a tick has queued it. -/
def seeOrigins (s : TimeoutCheck β) (call : ModuleLibraryHandler β × TimeoutAction β) (t : TimeoutCheck β)
    (origins : DeviceKey → List Bool) : DeviceKey → List Bool := fun k =>
  let before := (s.statusAggregator.queued k).length
  let after := (t.statusAggregator.queued k).length
  let byTick := match call.2 with
    | .force _ => true
    | _ => false
  (origins k).drop (before - after) ++ if before < after then [byTick] else []

/-- When the check takes the flag back, no status of a tick is left and no tick is on its way. -/
def FlagSettled (s : TimeoutCheck β × (DeviceKey → List Bool)) (call : ModuleLibraryHandler β × TimeoutAction β) :
    Prop :=
  match call.2, s.1.phase with
  | .check, .collecting [] => s.1.ticking = [] ∧ ∀ k, true ∉ s.2 k
  | _, _ => True

end TimeoutCheck

/-! ## One call of the aggregator -/

namespace StatusAggregator
variable {module_ : ModuleLibraryHandler β} {s t : StatusAggregator β} {k : DeviceKey}

/-- Every entry is filed under the identity of its device. -/
def Filed (s : StatusAggregator β) : Prop := ∀ k d, s.devices.lookup k = some d → d.deviceId.key = k

theorem queued_congr (h : t.devices.lookup k = s.devices.lookup k) : t.queued k = s.queued k := by
  unfold queued
  rw [h]

theorem forceTimeouted_lookup (deviceId : DeviceKey) : (s.forceTimeouted module_ deviceId).2.devices.lookup k =
    if k = deviceId ∧ is_device_type_supported module_ k.deviceType = .OK then
      (s.devices.lookup k).map fun d => d.push d.status_
    else s.devices.lookup k := forceAggregationOnDeviceUnlocked_lookup module_ _ deviceId k

/-- Only a device of a supported type gets a status from its timer. -/
theorem forceTimeouted_queued (deviceId : DeviceKey) :
    ((s.forceTimeouted module_ deviceId).2.queued k).length ≤ (s.queued k).length + 1 ∧
      ((s.queued k).length < ((s.forceTimeouted module_ deviceId).2.queued k).length →
        is_device_type_supported module_ k.deviceType = .OK) := by
  unfold queued
  rw [forceTimeouted_lookup]
  split
  · rename_i hk
    refine ⟨?_,fun _ => hk.2⟩
    cases s.devices.lookup k with
    | none => exact Nat.zero_le 1
    | some d => simp [StatusAggregatorDeviceState.push]
  · exact ⟨Nat.le_succ _,fun h => absurd h (Nat.lt_irrefl _)⟩

theorem forceTimeouted_filed (h : s.Filed) (deviceId : DeviceKey) : (s.forceTimeouted module_ deviceId).2.Filed := by
  intro k e he
  rw [forceTimeouted_lookup] at he
  split at he
  · obtain ⟨d,hd,rfl⟩ := Option.map_eq_some_iff.mp he
    exact h k d hd
  · exact h k e he

theorem effect_length [BufferType β] (op : Operation β) (entry : Option (StatusAggregatorDeviceState β)) :
    ((effect module_ op k entry).elim [] StatusAggregatorDeviceState.aggregatedMessages_).length ≤
      (entry.elim [] StatusAggregatorDeviceState.aggregatedMessages_).length + 1 := by
  have hmap : ∀ {p : Prop} [Decidable p] (f : StatusAggregatorDeviceState β → StatusAggregatorDeviceState β),
      (∀ d, (f d).aggregatedMessages_.length ≤ d.aggregatedMessages_.length + 1) →
      ((if p then entry.map f else entry).elim [] StatusAggregatorDeviceState.aggregatedMessages_).length ≤
        (entry.elim [] StatusAggregatorDeviceState.aggregatedMessages_).length + 1 := by
    intro p _ f hf
    split
    · cases entry with
      | none => exact Nat.zero_le 1
      | some d => exact hf d
    · exact Nat.le_succ _
  cases op with
  | clear_device device => exact hmap _ fun d => Nat.zero_le _
  | clear_all_devices => exact hmap _ fun d => Nat.zero_le _
  | add_status_to_aggregator status device =>
    simp only [effect]
    split
    · cases entry with
      | none =>
        simp only [registered]
        split
        · simp only [Option.elim_some]
          split <;> simp [emplaced, StatusAggregatorDeviceState.push]
        · exact Nat.zero_le 1
      | some d =>
        simp only [Option.elim_some]
        obtain h | h | h := aggregated_cases module_ status k.deviceType d <;> rw [h] <;>
          simp [aggregateSetSendStatus, aggregateSetStatus, StatusAggregatorDeviceState.push,
            StatusAggregatorDeviceState.setStatus]
    · exact Nat.le_succ _
  | get_aggregated_status device =>
    refine hmap _ fun d => ?_
    rw [List.length_tail]
    omega
  | force_aggregation_on_device device =>
    exact hmap _ fun d => by simp [StatusAggregatorDeviceState.push]
  | timeouted_force_aggregation deviceId =>
    exact hmap _ fun d => by simp [StatusAggregatorDeviceState.push]
  | update_command command device =>
    exact hmap _ fun d => by rw [(addExternalCommand_aggregatedMessages command d).1]; exact Nat.le_succ _
  | get_command status device =>
    exact hmap _ fun d => by rw [(consumed_aggregatedMessages module_ status _ d).1]; exact Nat.le_succ _
  | get_command_for_forwarding device =>
    exact hmap _ fun d => by rw [(consumed_aggregatedMessages module_ _ _ d).1]; exact Nat.le_succ _
  | unsetTimeoutedMessageReady => exact Nat.le_succ _

/-- A call queues one status at most, and leaves the flag to the ticks and the check. -/
theorem step_length [BufferType β] {call : AggregatorAction β} (ht : s.step module_ call = some t) :
    (t.queued k).length ≤ (s.queued k).length + 1 := by
  unfold queued
  cases call with
  | operate op =>
    obtain rfl := Option.some.inj ht
    rw [operate_lookup]
    exact effect_length op _
  | remove_device device =>
    obtain rfl := Option.some.inj ht
    unfold remove_device
    split
    · exact Nat.le_succ _
    · dsimp only
      rw [clearDeviceUnlocked_lookup]
      split
      · cases s.devices.lookup k <;> simp [StatusAggregatorDeviceState.clear]
      · exact Nat.le_succ _
  | runPosted i =>
    obtain ⟨device,-,rfl⟩ := Option.map_eq_some_iff.mp ht
    by_cases hk : k = device
    · subst hk
      dsimp only
      rw [AList.lookup_erase]
      exact Nat.zero_le _
    · dsimp only
      rw [AList.lookup_erase_ne hk]
      exact Nat.le_succ _

theorem step_filed [BufferType β] {call : AggregatorAction β} (h : s.Filed) (ht : s.step module_ call = some t) :
    t.Filed := by
  intro k e he
  cases call with
  | operate op =>
    obtain rfl := Option.some.inj ht
    rw [operate_lookup] at he
    exact effect_deviceId module_ he fun d hd => h k d hd
  | remove_device device =>
    obtain rfl := Option.some.inj ht
    unfold remove_device at he
    split at he
    · exact h k e he
    · dsimp only at he
      rw [clearDeviceUnlocked_lookup] at he
      split at he
      · obtain ⟨d,hd,rfl⟩ := Option.map_eq_some_iff.mp he
        exact h k d hd
      · exact h k e he
  | runPosted i =>
    obtain ⟨device,-,rfl⟩ := Option.map_eq_some_iff.mp ht
    by_cases hk : k = device
    · subst hk
      dsimp only at he
      rw [AList.lookup_erase] at he
      cases he
    · dsimp only at he
      rw [AList.lookup_erase_ne hk] at he
      exact h k e he

theorem step_ready [BufferType β] {call : AggregatorAction β} (hcall : ¬call.accessesFlag = true)
    (ht : s.step module_ call = some t) : t.timeoutedMessageReady_ = s.timeoutedMessageReady_ := by
  cases call with
  | operate op =>
    obtain rfl := Option.some.inj ht
    rw [(s.operate_clock op).2]
    cases op with
    | timeouted_force_aggregation deviceId => exact absurd rfl hcall
    | unsetTimeoutedMessageReady => exact absurd rfl hcall
    | _ => rfl
  | remove_device device =>
    obtain rfl := Option.some.inj ht
    unfold remove_device
    split
    · rfl
    · exact (s.clearDeviceUnlocked_clock device.key).2
  | runPosted i =>
    obtain ⟨device,-,rfl⟩ := Option.map_eq_some_iff.mp ht
    rfl

end StatusAggregator

/-! ## The flag is set while a status of a tick waits -/

namespace TimeoutCheck
variable [BufferType β] {module_ : ModuleLibraryHandler β} {s t : TimeoutCheck β} {origins : DeviceKey → List Bool}
  {k : DeviceKey} {a : TimeoutAction β} {served : UInt32 → Prop}

/-- The observation describes the queues, and without the flag there is nothing to deliver. Ticks queue
statuses of the types that are `served`. -/
structure Tracked (served : UInt32 → Prop) (s : TimeoutCheck β) (origins : DeviceKey → List Bool) : Prop where
  length : ∀ k, (origins k).length = (s.statusAggregator.queued k).length
  supported : ∀ k, true ∈ origins k → served k.deviceType
  filed : s.statusAggregator.Filed
  flag : s.statusAggregator.timeoutedMessageReady_ = true ∨ s.ticking = [] ∧ ∀ k, true ∉ origins k

omit [BufferType β] in
theorem Tracked.init (served : UInt32 → Prop) : Tracked served (.init : TimeoutCheck β) fun _ => [] where
  length _ := rfl
  supported _ h := nomatch h
  filed _ _ h := nomatch h
  flag := .inr ⟨rfl,fun _ h => nomatch h⟩

omit [BufferType β] in
theorem seeOrigins_length (hlength : ∀ k, (origins k).length = (s.statusAggregator.queued k).length)
    (h : (t.statusAggregator.queued k).length ≤ (s.statusAggregator.queued k).length + 1) :
    (seeOrigins s (module_,a) t origins k).length = (t.statusAggregator.queued k).length := by
  have hk := hlength k
  simp only [seeOrigins, List.length_append, List.length_drop]
  split <;> simp only [List.length_singleton, List.length_nil] <;> omega

omit [BufferType β] in
/-- A status of a tick was there before, or a tick has queued it now. -/
theorem of_mem_seeOrigins (h : true ∈ seeOrigins s (module_,a) t origins k) : true ∈ origins k ∨
    (∃ i, a = .force i) ∧ (s.statusAggregator.queued k).length < (t.statusAggregator.queued k).length := by
  simp only [seeOrigins, List.mem_append] at h
  rcases h with h | h
  · exact .inl (List.mem_of_mem_drop h)
  · split at h
    · rename_i hlt
      refine .inr ⟨?_,hlt⟩
      cases a with
      | force i => exact ⟨i,rfl⟩
      | _ => simp at h
    · cases h

omit [BufferType β] in
theorem seeOrigins_of_queued (h : ∀ k, t.statusAggregator.queued k = s.statusAggregator.queued k) :
    seeOrigins s (module_,a) t origins = origins := by
  funext k
  simp [seeOrigins, h k]

/-- A step that no tick makes and that leaves the flag. -/
theorem Tracked.call (hs : Tracked served s origins) (ha : ∀ i, a ≠ .force i) {call : AggregatorAction β}
    (hcall : ¬call.accessesFlag = true) (hstep : s.statusAggregator.step module_ call = some t.statusAggregator)
    (hticking : t.ticking = s.ticking) : Tracked served t (seeOrigins s (module_,a) t origins) := by
  have hbefore : ∀ k, true ∈ seeOrigins s (module_,a) t origins k → true ∈ origins k := by
    intro k h
    rcases of_mem_seeOrigins h with h | ⟨⟨i,hi⟩,-⟩
    · exact h
    · exact absurd hi (ha i)
  refine ⟨?_,?_,?_,?_⟩
  · exact fun k => seeOrigins_length hs.length (StatusAggregator.step_length hstep)
  · exact fun k h => hs.supported k (hbefore k h)
  · exact StatusAggregator.step_filed hs.filed hstep
  · rw [StatusAggregator.step_ready hcall hstep, hticking]
    rcases hs.flag with h | ⟨hnone,hclean⟩
    · exact .inl h
    · exact .inr ⟨hnone,fun k h => hclean k (hbefore k h)⟩

theorem Tracked.check (hs : Tracked served s origins) (hsettled : FlagSettled (s,origins) (module_,.check)) :
    Tracked served (s.checkTimeoutedMessages module_)
      (seeOrigins s (module_,.check) (s.checkTimeoutedMessages module_) origins) := by
  have hno : ∀ i, (.check : TimeoutAction β) ≠ .force i := fun i h => nomatch h
  -- a step that leaves the aggregator is the call of nothing
  have hsame : (s.checkTimeoutedMessages module_).statusAggregator = s.statusAggregator →
      (s.checkTimeoutedMessages module_).ticking = s.ticking →
      Tracked served (s.checkTimeoutedMessages module_)
        (seeOrigins s (module_,.check) (s.checkTimeoutedMessages module_) origins) := by
    intro haggregator hticking
    rw [seeOrigins_of_queued fun k => by rw [haggregator]]
    refine ⟨?_,hs.supported,?_,?_⟩
    · rw [haggregator]
      exact hs.length
    · rw [haggregator]
      exact hs.filed
    · rw [haggregator, hticking]
      exact hs.flag
  unfold FlagSettled at hsettled
  cases hphase : s.phase with
  | idle =>
    refine hsame ?_ ?_ <;>
    · unfold checkTimeoutedMessages
      rw [hphase]
      dsimp only
      split <;> rfl
  | listing => refine hsame ?_ ?_ <;> simp only [checkTimeoutedMessages, hphase] <;> rfl
  | counting device devices => refine hsame ?_ ?_ <;> simp only [checkTimeoutedMessages, hphase]
  | collecting devices =>
    cases devices with
    | nil =>
      dsimp only at hsettled
      rw [hphase] at hsettled
      have hcheck : s.checkTimeoutedMessages module_ =
          { s with statusAggregator := s.statusAggregator.unsetTimeoutedMessageReady, phase := .idle } := by
        simp only [checkTimeoutedMessages, hphase]
      have hqueued : ∀ k, (s.checkTimeoutedMessages module_).statusAggregator.queued k =
          s.statusAggregator.queued k := by
        intro k
        rw [hcheck]
        rfl
      rw [seeOrigins_of_queued hqueued, hcheck]
      exact ⟨hs.length,hs.supported,hs.filed,.inr hsettled⟩
    | cons device devices =>
      have hop : ¬(AggregatorAction.operate (.get_aggregated_status device) : AggregatorAction β).accessesFlag =
          true := Bool.false_ne_true
      have hoperate : s.statusAggregator.step module_ (.operate (.get_aggregated_status device)) =
          some (s.statusAggregator.get_aggregated_status module_ device).2 := rfl
      refine hs.call hno hop ?_ ?_
      all_goals
        unfold checkTimeoutedMessages
        rw [hphase]
        dsimp only
      · rw [hoperate]
        rcases s.statusAggregator.get_aggregated_status module_ device with ⟨result,aggregator⟩
        cases result <;> rfl
      · rcases s.statusAggregator.get_aggregated_status module_ device with ⟨result,aggregator⟩
        cases result <;> rfl

theorem Tracked.step (hs : Tracked served s origins) (hsettled : FlagSettled (s,origins) (module_,a))
    (hserved : ∀ device_type, StatusAggregator.is_device_type_supported module_ device_type = .OK → served device_type)
    (ht : s.step module_ a = some t) : Tracked served t (seeOrigins s (module_,a) t origins) := by
  cases a with
  | tick deviceId =>
    obtain rfl := Option.some.inj ht
    have hsame : seeOrigins s (module_,.tick deviceId)
        { s with
          statusAggregator := s.statusAggregator.setTimeoutedMessageReady
          ticking := s.ticking ++ [deviceId] } origins = origins := seeOrigins_of_queued fun _ => rfl
    rw [hsame]
    exact ⟨hs.length,hs.supported,hs.filed,.inl rfl⟩
  | force i =>
    obtain ⟨deviceId,hi,rfl⟩ := Option.map_eq_some_iff.mp ht
    refine ⟨?_,?_,?_,.inl ?_⟩
    · exact fun k => seeOrigins_length hs.length (StatusAggregator.forceTimeouted_queued deviceId).1
    · intro k h
      rcases of_mem_seeOrigins h with h | ⟨-,hlt⟩
      · exact hs.supported k h
      · exact hserved _ ((StatusAggregator.forceTimeouted_queued deviceId).2 hlt)
    · exact StatusAggregator.forceTimeouted_filed hs.filed deviceId
    · -- the tick on its way has set the flag
      have hflag : s.statusAggregator.timeoutedMessageReady_ = true := by
        rcases hs.flag with h | ⟨hnone,-⟩
        · exact h
        · rw [hnone] at hi
          cases hi
      exact (StatusAggregator.forceAggregationOnDeviceUnlocked_clock _ deviceId).2.trans hflag
  | check =>
    obtain rfl := Option.some.inj ht
    exact hs.check hsettled
  | other call =>
    unfold TimeoutCheck.step at ht
    dsimp only at ht
    split at ht
    · cases ht
    · rename_i hcall
      obtain ⟨aggregator,hstep,rfl⟩ := Option.map_eq_some_iff.mp ht
      exact hs.call (fun i h => nomatch h) hcall hstep rfl

/-! ## A check that nothing comes into -/

/-- Steps of the check only. -/
def ChecksInto (module_ : ModuleLibraryHandler β) (s t : TimeoutCheck β) : Prop :=
  ∃ n, exec callStep s (List.replicate n (module_,.check)) = some t

theorem ChecksInto.trans {u : TimeoutCheck β} (h : ChecksInto module_ s t) (h' : ChecksInto module_ t u) :
    ChecksInto module_ s u := by
  obtain ⟨m,hm⟩ := h
  obtain ⟨n,hn⟩ := h'
  refine ⟨m + n,?_⟩
  rw [List.replicate_add]
  exact exec_append_eq_some.mpr ⟨t,hm,hn⟩

theorem checksInto_check (module_ : ModuleLibraryHandler β) (s : TimeoutCheck β) :
    ChecksInto module_ s (s.checkTimeoutedMessages module_) := ⟨1,rfl⟩

/-- The message of an aggregated status. -/
def statusMessage (device : DeviceIdentification) (status : β) : InternalClientMessage β :=
  .message false (.deviceStatus ⟨device,status⟩)

/-- One device is emptied into `toExternalQueue_`, the others keep their statuses. -/
theorem collect_device (module_ : ModuleLibraryHandler β) {device : DeviceIdentification}
    {devices : List DeviceIdentification}
    (hphase : s.phase = .collecting (device :: devices)) :
    ∃ t, ChecksInto module_ s t ∧ t.phase = .collecting devices ∧
      (∀ k, k ≠ device.key → t.statusAggregator.queued k = s.statusAggregator.queued k) ∧
      ∃ pushed, t.toExternalQueue_ = s.toExternalQueue_ ++ pushed ∧
        (StatusAggregator.is_device_type_supported module_ device.deviceType = .OK →
          t.statusAggregator.queued device.key = [] ∧
            pushed = (s.statusAggregator.queued device.key).map (statusMessage device)) := by
  generalize hqueue : s.statusAggregator.queued device.key = queue
  induction queue generalizing s with
  | nil =>
    rcases StatusAggregator.get_aggregated_status_cases module_ s.statusAggregator device with
      ⟨⟨code,hget⟩,-⟩ | ⟨status,aggregator,-,-,rest,hrest⟩
    · have hcheck : s.checkTimeoutedMessages module_ = { s with phase := .counting device devices } := by
        simp only [checkTimeoutedMessages, hphase, hget]
      refine ⟨_,(checksInto_check module_ s).trans (checksInto_check module_ _),?_,?_,[],?_,fun _ => ⟨?_,rfl⟩⟩
      all_goals
        rw [hcheck]
        simp only [checkTimeoutedMessages, List.append_nil]
      · exact fun _ _ => trivial
      · exact hqueue
    · exact absurd (hqueue.symm.trans hrest) (by simp)
  | cons status rest ih =>
    rcases StatusAggregator.get_aggregated_status_cases module_ s.statusAggregator device with
      ⟨⟨code,hget⟩,hempty⟩ | ⟨status',aggregator,hget,hsupported,rest',hrest⟩
    · -- the type is not supported, so the device is passed over
      have hcheck : s.checkTimeoutedMessages module_ = { s with phase := .counting device devices } := by
        simp only [checkTimeoutedMessages, hphase, hget]
      refine ⟨_,(checksInto_check module_ s).trans (checksInto_check module_ _),?_,?_,[],?_,fun hsupported => ?_⟩
      · rw [hcheck]
        simp only [checkTimeoutedMessages]
      · rw [hcheck]
        exact fun _ _ => rfl
      · rw [hcheck]
        simp only [checkTimeoutedMessages, List.append_nil]
      · exact absurd (hqueue.symm.trans (hempty hsupported)) (by simp)
    · obtain ⟨rfl,rfl⟩ := List.cons.inj (hqueue.symm.trans hrest)
      have hcheck : s.checkTimeoutedMessages module_ = { s with
          statusAggregator := aggregator
          toExternalQueue_ := s.toExternalQueue_ ++ [statusMessage device status] } := by
        simp only [checkTimeoutedMessages, hphase, hget]
        rfl
      have hlookup : ∀ k, aggregator.devices.lookup k =
          StatusAggregator.effect module_ (.get_aggregated_status device) k
            (s.statusAggregator.devices.lookup k) := by
        intro k
        have h : (s.statusAggregator.get_aggregated_status module_ device).2.devices.lookup k =
            StatusAggregator.effect module_ (.get_aggregated_status device) k
              (s.statusAggregator.devices.lookup k) := s.statusAggregator.get_aggregated_status_lookup device k
        rw [hget] at h
        exact h
      have htail : (s.checkTimeoutedMessages module_).statusAggregator.queued device.key = rest := by
        have hsupported' : StatusAggregator.is_device_type_supported module_ device.key.deviceType = .OK := hsupported
        rw [hcheck]
        unfold StatusAggregator.queued at hqueue ⊢
        rw [hlookup]
        simp only [StatusAggregator.effect, hsupported', and_self, if_true]
        cases hd : s.statusAggregator.devices.lookup device.key with
        | none =>
          rw [hd] at hqueue
          cases hqueue
        | some d =>
          rw [hd] at hqueue
          exact congrArg List.tail hqueue
      obtain ⟨t,hreach,ht,hother,pushed,hpushed,hall⟩ := ih (by rw [hcheck]; exact hphase) htail
      refine ⟨t,(checksInto_check module_ s).trans hreach,ht,?_,statusMessage device status :: pushed,?_,?_⟩
      · intro k hk
        rw [hother k hk, hcheck]
        refine StatusAggregator.queued_congr ?_
        rw [hlookup]
        exact StatusAggregator.effect_of_ne rfl hk _
      · rw [hpushed, hcheck, List.append_assoc]
        rfl
      · intro h
        obtain ⟨hnone,hsame⟩ := hall h
        exact ⟨hnone,by rw [hsame]; rfl⟩

/-- The loop over the devices. -/
theorem collect_devices {devices : List DeviceIdentification} (hphase : s.phase = .collecting devices)
    (hsupported : StatusAggregator.is_device_type_supported module_ k.deviceType = .OK) :
    ∃ t pushed, ChecksInto module_ s t ∧ t.phase = .idle ∧ t.toExternalQueue_ = s.toExternalQueue_ ++ pushed ∧
      (s.statusAggregator.queued k = [] → t.statusAggregator.queued k = []) ∧
      ((∃ device ∈ devices, device.key = k) → t.statusAggregator.queued k = [] ∧
        ∀ status ∈ s.statusAggregator.queued k, ∃ device, device.key = k ∧ statusMessage device status ∈ pushed) := by
  induction devices generalizing s with
  | nil =>
    have hcheck : s.checkTimeoutedMessages module_ =
        { s with statusAggregator := s.statusAggregator.unsetTimeoutedMessageReady, phase := .idle } := by
      simp only [checkTimeoutedMessages, hphase]
    refine ⟨_,[],checksInto_check module_ s,?_,?_,?_,fun ⟨_,h,_⟩ => nomatch h⟩
    all_goals rw [hcheck]
    · exact (List.append_nil _).symm
    · exact id
  | cons device devices ih =>
    obtain ⟨u,hu,hphase',hother,drained,hdrained,hall⟩ := collect_device module_ hphase
    obtain ⟨t,pushed,ht,hidle,hpushed,hempty,hrest⟩ := ih hphase'
    refine ⟨t,drained ++ pushed,hu.trans ht,hidle,?_,?_,?_⟩
    · rw [hpushed, hdrained, List.append_assoc]
    · intro hnone
      by_cases hk : k = device.key
      · subst hk
        exact hempty (hall hsupported).1
      · exact hempty ((hother k hk).trans hnone)
    · rintro ⟨d,hd,hkey⟩
      by_cases hk : k = device.key
      · subst hk
        obtain ⟨hnone,hsame⟩ := hall hsupported
        refine ⟨hempty hnone,fun status hstatus => ⟨device,rfl,?_⟩⟩
        rw [hsame]
        exact List.mem_append_left _ (List.mem_map.mpr ⟨status,hstatus,rfl⟩)
      · have hmem : d ∈ devices := by
          rcases List.mem_cons.mp hd with rfl | h
          · exact absurd hkey.symm hk
          · exact h
        obtain ⟨hnone,hstatuses⟩ := hrest ⟨d,hmem,hkey⟩
        rw [hother k hk] at hstatuses
        refine ⟨hnone,fun status hstatus => ?_⟩
        obtain ⟨e,he,hin⟩ := hstatuses status hstatus
        exact ⟨e,he,List.mem_append_right _ hin⟩

/-- A check that starts with the flag set empties the queue of every device that can be checked. -/
theorem check_delivers (hs : Tracked served s origins) (hidle : s.phase = .idle)
    (hflag : s.statusAggregator.timeoutedMessageReady_ = true)
    (hsupported : StatusAggregator.is_device_type_supported module_ k.deviceType = .OK) {status : β}
    (hstatus : status ∈ s.statusAggregator.queued k) :
    ∃ t pushed, ChecksInto module_ s t ∧ t.phase = .idle ∧ t.toExternalQueue_ = s.toExternalQueue_ ++ pushed ∧
      t.statusAggregator.queued k = [] ∧ ∃ device, device.key = k ∧ statusMessage device status ∈ pushed := by
  have hlisting : s.checkTimeoutedMessages module_ = s.goto .listing := by
    simp only [checkTimeoutedMessages, hidle, StatusAggregator.getTimeoutedMessageReady, hflag, if_true]
  have hcollecting : (s.goto .listing).checkTimeoutedMessages module_ =
      s.goto (.collecting s.statusAggregator.get_unique_devices) := rfl
  have hstart : ChecksInto module_ s (s.goto (.collecting s.statusAggregator.get_unique_devices)) := by
    have h := checksInto_check module_ s
    rw [hlisting] at h
    rw [← hcollecting]
    exact h.trans (checksInto_check module_ _)
  have hlisted : ∃ device ∈ s.statusAggregator.get_unique_devices, device.key = k := by
    unfold StatusAggregator.queued at hstatus
    cases hd : s.statusAggregator.devices.lookup k with
    | none =>
      rw [hd] at hstatus
      cases hstatus
    | some d =>
      have hentry : (⟨k,d⟩ : (_ : DeviceKey) × StatusAggregatorDeviceState β) ∈ s.statusAggregator.devices.entries :=
        AList.mem_lookup_iff.mp hd
      exact ⟨d.deviceId,List.mem_map.mpr ⟨_,hentry,rfl⟩,hs.filed k d hd⟩
  obtain ⟨t,pushed,ht,hphase,hpushed,-,hall⟩ :=
    collect_devices (s := s.goto (.collecting s.statusAggregator.get_unique_devices)) rfl hsupported
  obtain ⟨hempty,hdelivered⟩ := hall hlisted
  exact ⟨t,pushed,hstart.trans ht,hphase,hpushed,hempty,hdelivered status hstatus⟩

/-- The types that the module said to support at one of the calls. -/
def Served (calls : List (ModuleLibraryHandler β × TimeoutAction β)) (device_type : UInt32) : Prop :=
  ∃ call ∈ calls, StatusAggregator.is_device_type_supported call.1 device_type = .OK

theorem exec_tracked {calls : List (ModuleLibraryHandler β × TimeoutAction β)} {s : TimeoutCheck β}
    (hg : Guarded (watched callStep seeOrigins) FlagSettled (init,fun _ => []) calls)
    (he : exec callStep init calls = some s) :
    Tracked (Served calls) s (observe callStep seeOrigins init (fun _ => []) calls) := by
  refine exec_guarded_invariant (I := fun p => Tracked (Served calls) p.1 p.2) (Tracked.init _) ?_
    (hg.and_mem fun call hcall => hcall) (exec_watched he)
  intro p call q hs ha ht
  obtain ⟨hsettled,hcall⟩ := ha
  obtain ⟨hstep,hsee⟩ := watched_eq_some.mp ht
  rw [hsee]
  exact hs.step hsettled (fun _ hsupported => ⟨call,hcall,hsupported⟩) hstep

/-- If every check takes the flag back when it is settled, then a status of a tick that waits while no
check is in progress has its flag set and a type that the module supported, and the next check delivers
it when the module supports the type still. -/
theorem exec_timeouts_delivered {calls : List (ModuleLibraryHandler β × TimeoutAction β)} {s : TimeoutCheck β}
    (hg : Guarded (watched callStep seeOrigins) FlagSettled (init,fun _ => []) calls)
    (he : exec callStep init calls = some s) (hidle : s.phase = .idle)
    {k : DeviceKey} {i : ℕ} {status : β} (hwaits : (s.statusAggregator.queued k)[i]? = some status)
    (htick : (observe callStep seeOrigins init (fun _ => []) calls k)[i]? = some true) :
    s.statusAggregator.getTimeoutedMessageReady = true ∧ Served calls k.deviceType ∧
      ∀ module_ : ModuleLibraryHandler β, StatusAggregator.is_device_type_supported module_ k.deviceType = .OK →
        ∃ t pushed, ChecksInto module_ s t ∧ t.phase = .idle ∧ t.toExternalQueue_ = s.toExternalQueue_ ++ pushed ∧
          t.statusAggregator.queued k = [] ∧ ∃ device, device.key = k ∧ statusMessage device status ∈ pushed := by
  have htracked := exec_tracked hg he
  have hmem := List.mem_of_getElem? htick
  have hflag : s.statusAggregator.timeoutedMessageReady_ = true := by
    rcases htracked.flag with h | ⟨-,hnone⟩
    · exact h
    · exact absurd hmem (hnone k)
  refine ⟨hflag,htracked.supported k hmem,?_⟩
  intro module_ hsupported
  exact check_delivers htracked hidle hflag hsupported (List.mem_of_getElem? hwaits)

/-! ## A tick behind the scan -/

def relayed (a : TimeoutAction (List UInt8)) : ModuleLibraryHandler (List UInt8) × TimeoutAction (List UInt8) :=
  (StatusAggregator.relay,a)

/-- The camera reports, its timer ticks, and the check visits it. -/
def visited : List (ModuleLibraryHandler (List UInt8) × TimeoutAction (List UInt8)) :=
  [relayed (.other (.operate (.add_status_to_aggregator [1] StatusAggregator.camera))),
    relayed (.tick StatusAggregator.camera.key),relayed (.force 0)] ++ List.replicate 6 (relayed .check)

/-- The timer of the camera ticks. -/
def ticked : List (ModuleLibraryHandler (List UInt8) × TimeoutAction (List UInt8)) :=
  [relayed (.tick StatusAggregator.camera.key),relayed (.force 0)]

theorem tickBehindScan_loses_flag :
    ¬∀ (calls : List (ModuleLibraryHandler (List UInt8) × TimeoutAction (List UInt8))) s,
      exec callStep init calls = some s → s.phase = .idle → s.ticking = [] →
      ∀ k (i : ℕ) status, (s.statusAggregator.queued k)[i]? = some status →
        (observe callStep seeOrigins init (fun _ => []) calls k)[i]? = some true →
        s.statusAggregator.getTimeoutedMessageReady = true := by
  intro hall
  have h := hall (visited ++ ticked ++ [relayed .check]) _ rfl rfl rfl StatusAggregator.camera.key 0 [1] rfl rfl
  exact absurd h (by decide)

/-- After the check has visited the camera nothing is left that a tick has queued. -/
theorem visited_settled {s : TimeoutCheck (List UInt8)} (he : exec callStep init visited = some s)
    (hg : Guarded (watched callStep seeOrigins) FlagSettled (init,fun _ => []) visited) :
    ∀ k, true ∉ observe callStep seeOrigins init (fun _ => []) visited k := by
  have hkeys : s.statusAggregator.devices.keys = [StatusAggregator.camera.key] := by
    obtain rfl := Option.some.inj he
    rfl
  have hcamera : s.statusAggregator.queued StatusAggregator.camera.key = [] := by
    obtain rfl := Option.some.inj he
    rfl
  intro k htick
  have hqueued : s.statusAggregator.queued k = [] := by
    by_cases hk : k = StatusAggregator.camera.key
    · rw [hk, hcamera]
    · unfold StatusAggregator.queued
      rw [AList.lookup_eq_none.mpr (by rw [AList.mem_keys, hkeys]; exact fun h => hk (List.mem_singleton.mp h))]
      rfl
  have hlength := (exec_tracked hg he).length k
  rw [hqueued] at hlength
  rw [List.eq_nil_of_length_eq_zero hlength] at htick
  cases htick

/-- The flag is taken back after the first status of the timer was sent; the second one waits for the next
check. -/
theorem exec_timeouts_delivered_afterwards :
    ∃ s t, exec callStep init (visited ++ [relayed .check] ++ ticked) = some s ∧
      s.statusAggregator.getTimeoutedMessageReady = true ∧ ChecksInto StatusAggregator.relay s t ∧
      t.statusAggregator.queued StatusAggregator.camera.key = [] := by
  have hvisited : Guarded (watched callStep seeOrigins) FlagSettled (init,fun _ => []) visited := by
    iterate 9 refine .cons trivial rfl ?_
    trivial
  have hg : Guarded (watched callStep seeOrigins) FlagSettled (init,fun _ => [])
      (visited ++ [relayed .check] ++ ticked) := by
    iterate 9 refine .cons trivial rfl ?_
    exact .cons ⟨rfl,visited_settled rfl hvisited⟩ rfl (.cons trivial rfl (.cons trivial rfl trivial))
  obtain ⟨hflag,-,hdelivers⟩ := exec_timeouts_delivered (k := StatusAggregator.camera.key) (i := 0) hg rfl rfl
    rfl rfl
  obtain ⟨t,-,ht,-,-,hempty,-⟩ := hdelivers StatusAggregator.relay rfl
  exact ⟨_,t,rfl,hflag,ht,hempty⟩

end TimeoutCheck

end ModuleGateway.Modules
