import ModuleGateway.Library.Inevitable
import ModuleGateway.Modules.CommandCalls
import ModuleGateway.Modules.IsolatedHandler
import Mathlib.Data.Prod.Lex

/-! # The progress of the message thread

Every step of the message thread that is not part of an idle round lowers a rank: the flags that
the round does not come to, the flagged modules and devices that are still to be collected, the
messages, and what is left to do for the one at the front. A round that found no message leads
back to `waiting`, which is why `waiting` ranks between the two kinds of rounds.
-/
namespace ModuleGateway.Modules
open Structures Execution

variable {β : Type}

namespace MessageThread

/-- The modules that the round still comes to. -/
def toCheck : MessageThread β → List ℤ
  | .checking modules _ | .collecting modules _ _ _ | .counting modules _ _ _ _ => modules
  | _ => []

/-- The module whose devices are collected. -/
def collected : MessageThread β → Option ℤ
  | .collecting _ _ number _ | .counting _ _ number _ _ => some number
  | _ => none

def devicesLeft : MessageThread β → ℕ
  | .collecting _ _ _ devices => 2*devices.length+1
  | .counting _ _ _ _ devices => 2*devices.length+2
  | _ => 0

def stage : MessageThread β → ℕ
  | .checking _ message | .collecting _ message _ _ | .counting _ message _ _ _ => if message then 7 else 9
  | .waiting => 8
  | .handling => 6
  | .commanding _ _ _ => 5
  | .sending _ _ => 4
  | .forcing _ => 3
  | .disconnecting _ => 2
  | .removing _ => 1
  | .popping | .terminated => 0

/-- The modules to check, or the statuses to send. -/
def inner : MessageThread β → ℕ
  | .checking modules _ | .collecting modules _ _ _ | .counting modules _ _ _ _ => modules.length
  | .sending _ rc => rc
  | _ => 0

/-- The round comes to the module, or is at it. -/
def ComesTo (thread : MessageThread β) (number : ℤ) : Prop :=
  number ∈ thread.toCheck ∨ thread.collected = some number

instance (thread : MessageThread β) (number : ℤ) : Decidable (thread.ComesTo number) :=
  inferInstanceAs (Decidable (_ ∨ _))

/-- The thread is in a round of `checkTimeoutedMessages`. -/
def checks : MessageThread β → Bool
  | .checking _ _ | .collecting _ _ _ _ | .counting _ _ _ _ _ => true
  | _ => false

section ComesTo
variable {modules : List ℤ} {message : Bool} {module_ number : ℤ} {device : DeviceIdentification}
  {devices : List DeviceIdentification}

@[simp] theorem comesTo_checking : (checking modules message : MessageThread β).ComesTo number ↔ number ∈ modules := by
  simp [ComesTo, toCheck, collected]

@[simp] theorem comesTo_collecting : (collecting modules message module_ devices : MessageThread β).ComesTo number ↔
    number ∈ modules ∨ module_ = number := by
  simp [ComesTo, toCheck, collected]

@[simp] theorem comesTo_counting :
    (counting modules message module_ device devices : MessageThread β).ComesTo number ↔
      number ∈ modules ∨ module_ = number := by
  simp [ComesTo, toCheck, collected]

end ComesTo

theorem not_comesTo {thread : MessageThread β} (h : thread.checks = false) (number : ℤ) : ¬thread.ComesTo number := by
  cases thread <;> simp [checks, ComesTo, toCheck, collected] at h ⊢

theorem devicesLeft_eq_zero {thread : MessageThread β} (h : thread.checks = false) : thread.devicesLeft = 0 := by
  cases thread <;> first | rfl | cases h

end MessageThread

/-- A request to disconnect a device. -/
def isRequest : ModuleHandlerMessage β → Bool
  | .disconnect _ => true
  | .message _ => false

namespace StatusAggregator
variable (s : StatusAggregator β) (device : DeviceIdentification)

theorem operate_ready [BufferType β] (module_ : ModuleLibraryHandler β) (op : Operation β) :
    (s.operate module_ op).timeoutedMessageReady_ = op.ready s.timeoutedMessageReady_ := (s.operate_clock op).2

theorem remove_device_ready (module_ : ModuleLibraryHandler β) :
    (s.remove_device module_ device).2.timeoutedMessageReady_ = s.timeoutedMessageReady_ := by
  unfold remove_device
  split
  · rfl
  · exact (s.clearDeviceUnlocked_clock device.key).2

/-- A status that is got is taken away from the device. -/
theorem get_aggregated_status_shorter {module_ : ModuleLibraryHandler β} {status : β} {aggregator : StatusAggregator β}
    (h : s.get_aggregated_status module_ device = (.ok status,aggregator)) :
    ((aggregator.devices.lookup device.key).elim 0 fun d => d.aggregatedMessages_.length) <
      (s.devices.lookup device.key).elim 0 fun d => d.aggregatedMessages_.length := by
  unfold get_aggregated_status at h
  split at h
  · cases h
  · split at h
    · cases h
    · rename_i generated rest hmessages
      cases h
      rw [modifyAt_lookup, if_pos rfl]
      cases hd : s.devices.lookup device.key with
      | none =>
        rw [hd] at hmessages
        cases hmessages
      | some d =>
        rw [hd, Option.elim_some] at hmessages
        simp [hmessages]

end StatusAggregator

namespace ModuleHandler

def ready (s : ModuleHandler β) (number : ℤ) : Bool := (s.statusAggregators number).getTimeoutedMessageReady

/-- The flags that the round does not come to. -/
def overlooked (modules : List ℤ) (s : ModuleHandler β) : ℕ :=
  modules.countP fun number => s.ready number = true ∧ ¬s.thread.ComesTo number

/-- The flagged modules that the round comes to. -/
def flagged (s : ModuleHandler β) : ℕ :=
  2*s.thread.toCheck.countP s.ready + s.thread.collected.elim 0 fun _ => 1

def rounds (modules : List ℤ) (s : ModuleHandler β) : ℕ ×ₗ ℕ ×ₗ ℕ :=
  toLex (s.overlooked modules,toLex (s.flagged,s.thread.devicesLeft))

/-- The statuses of the device that is collected. -/
def messagesLeft (s : ModuleHandler β) : ℕ :=
  match s.thread with
  | .collecting _ _ number (device :: _) =>
    ((s.statusAggregators number).devices.lookup device.key).elim 0 fun d => d.aggregatedMessages_.length
  | _ => 0

def labour (s : ModuleHandler β) : ℕ ×ₗ ℕ ×ₗ ℕ := toLex (s.thread.stage,toLex (s.thread.inner,s.messagesLeft))

/-- The thread has nothing to do until a message comes in or a timer expires. -/
structure Idle (modules : List ℤ) (s : ModuleHandler β) : Prop where
  thread : s.thread = .waiting
  messages : s.fromInternalQueue_ = []
  ready : ∀ number ∈ modules, s.ready number = false

/-- A step of the message thread collects, is done with the message at the front, or works on for it. -/
inductive Proceeds (modules : List ℤ) (s t : ModuleHandler β) : Prop
  | collects (queue : t.fromInternalQueue_ = s.fromInternalQueue_) (rounds : t.rounds modules < s.rounds modules)
  | pops (queue : t.fromInternalQueue_.length < s.fromInternalQueue_.length)
      (rounds : t.rounds modules = s.rounds modules)
      (requests : t.toInternalQueue_.countP isRequest = s.toInternalQueue_.countP isRequest)
  | works (queue : t.fromInternalQueue_ = s.fromInternalQueue_) (rounds : t.rounds modules = s.rounds modules)
      (requests : t.toInternalQueue_.countP isRequest = s.toInternalQueue_.countP isRequest)
      (labour : t.labour < s.labour)

section Proceeds
variable {modules : List ℤ} {moduleLibrary_ : ModuleLibrary β} {s t : ModuleHandler β}

@[simp] theorem goto_ready (s : ModuleHandler β) (thread : MessageThread β) : (s.goto thread).ready = s.ready := rfl

theorem ready_setAggregator {number : ℤ} {aggregator : StatusAggregator β}
    (h : aggregator.timeoutedMessageReady_ = (s.statusAggregators number).timeoutedMessageReady_) :
    (s.setAggregator number aggregator).ready = s.ready := by
  funext n
  unfold ready StatusAggregator.getTimeoutedMessageReady
  by_cases hn : n = number
  · subst hn
    simp only [setAggregator, Function.update_self]
    exact h
  · simp only [setAggregator, Function.update_of_ne hn]

theorem ready_setAggregator_of_ne {number n : ℤ} {aggregator : StatusAggregator β} (h : n ≠ number) :
    (s.setAggregator number aggregator).ready n = s.ready n := by
  unfold ready
  simp only [setAggregator, Function.update_of_ne h]

theorem overlooked_congr (h : ∀ number, (t.ready number = true ∧ ¬t.thread.ComesTo number) ↔
    (s.ready number = true ∧ ¬s.thread.ComesTo number)) : t.overlooked modules = s.overlooked modules := by
  unfold overlooked
  apply List.countP_congr
  intro number _
  simp only [decide_eq_true_eq]
  exact h number

theorem flagged_eq_zero (h : s.thread.checks = false) : s.flagged = 0 := by
  unfold flagged
  cases hthread : s.thread <;> rw [hthread] at h <;> first | rfl | cases h

/-- Outside of the rounds only the flags count. -/
theorem rounds_eq (hready : t.ready = s.ready) (hs : s.thread.checks = false) (ht : t.thread.checks = false) :
    t.rounds modules = s.rounds modules := by
  have hoverlooked : t.overlooked modules = s.overlooked modules := by
    apply overlooked_congr
    intro number
    simp [hready, MessageThread.not_comesTo hs, MessageThread.not_comesTo ht]
  unfold rounds
  rw [hoverlooked, flagged_eq_zero hs, flagged_eq_zero ht, MessageThread.devicesLeft_eq_zero hs,
    MessageThread.devicesLeft_eq_zero ht]

/-- Where the thread stays, only the flags count as well. -/
theorem rounds_congr (hready : t.ready = s.ready) (hthread : t.thread = s.thread) :
    t.rounds modules = s.rounds modules := by
  unfold rounds overlooked flagged
  simp only [hready, hthread]

/-- The thread goes on with the message at the front. -/
theorem Proceeds.stage {thread : MessageThread β} (hthread : s.thread = thread)
    (hqueue : t.fromInternalQueue_ = s.fromInternalQueue_) (hready : t.ready = s.ready)
    (hrequests : t.toInternalQueue_.countP isRequest = s.toInternalQueue_.countP isRequest)
    (hs : thread.checks = false) (ht : t.thread.checks = false) (h : t.thread.stage < thread.stage) :
    Proceeds modules s t := by
  subst hthread
  apply Proceeds.works hqueue (rounds_eq hready hs ht) hrequests
  simp only [labour, Prod.Lex.toLex_lt_toLex]
  exact .inl h

theorem countP_pushInternal (s : ModuleHandler β) {message : ModuleHandlerMessage β} (h : isRequest message = false) :
    (s.pushInternal message).toInternalQueue_.countP isRequest = s.toInternalQueue_.countP isRequest := by
  unfold pushInternal
  simp [h]

theorem handleStatus_proceeds [BufferType β] (hthread : s.thread = .handling) (status : DeviceStatus β) :
    Proceeds modules s (s.handleStatus moduleLibrary_ status) := by
  obtain h | ⟨module_,r,aggregator,hm,hr,h⟩ := s.handleStatus_cases moduleLibrary_ status
  · rw [h]
    exact .stage hthread rfl rfl rfl rfl rfl (by decide : 0 < 6)
  · have hready : (s.setAggregator status.device.module_ aggregator).ready = s.ready := by
      apply ready_setAggregator
      have hclock := (s.statusAggregators status.device.module_).operate_ready module_
        (.add_status_to_aggregator status.statusdata status.device)
      simpa only [StatusAggregator.operate, hr, Operation.ready] using hclock
    obtain ⟨code,-,-,h⟩ | ⟨-,h⟩ | ⟨rc,-,h⟩ := h <;> rw [h]
    · exact .stage hthread rfl hready rfl rfl rfl (by decide : 0 < 6)
    · exact .stage hthread rfl hready rfl rfl rfl (by decide : 0 < 6)
    · exact .stage hthread rfl hready rfl rfl rfl (by decide : 5 < 6)

theorem handleMessage_proceeds [BufferType β] (hthread : s.thread = .handling)
    (h : s.handleMessage moduleLibrary_ = some t) : Proceeds modules s t := by
  obtain ⟨-,-,-,rfl | ⟨-,-,rfl⟩ | ⟨device,-,rfl⟩ | ⟨status,-,rfl⟩⟩ := handleMessage_cases h
  · exact .stage hthread rfl rfl rfl rfl rfl (by decide : 0 < 6)
  · exact .stage hthread rfl rfl rfl rfl rfl (by decide : 3 < 6)
  · exact .stage hthread rfl rfl (s.countP_pushInternal rfl) rfl rfl (by decide : 0 < 6)
  · exact handleStatus_proceeds hthread status

/-- The next module of the round. -/
theorem checkModule_proceeds {checked : List ℤ} {message : Bool} (hthread : s.thread = .checking checked message) :
    Proceeds modules s (s.checkModule checked message) := by
  unfold checkModule
  cases checked with
  | nil =>
    dsimp only
    have hrounds : ∀ thread : MessageThread β, thread.checks = false →
        (s.goto thread).rounds modules = s.rounds modules := by
      intro thread hthread'
      have hoverlooked : (s.goto thread).overlooked modules = s.overlooked modules := by
        apply overlooked_congr
        intro number
        simp [MessageThread.not_comesTo hthread', hthread]
      unfold rounds
      rw [hoverlooked, flagged_eq_zero hthread', goto_thread, MessageThread.devicesLeft_eq_zero hthread']
      unfold flagged
      rw [hthread]
      rfl
    cases message with
    | true =>
      refine .works rfl (hrounds _ rfl) rfl ?_
      simp [labour, hthread, Prod.Lex.toLex_lt_toLex, MessageThread.stage]
    | false =>
      refine .works rfl (hrounds _ rfl) rfl ?_
      simp [labour, hthread, Prod.Lex.toLex_lt_toLex, MessageThread.stage]
  | cons number checked =>
    dsimp only
    split
    · rename_i hflag
      refine .collects rfl ?_
      have hoverlooked : (s.goto (.collecting checked message number
          (s.statusAggregators number).get_unique_devices)).overlooked modules = s.overlooked modules := by
        apply overlooked_congr
        intro n
        simp [hthread, or_comm, eq_comm (a := n)]
      simp only [rounds, hoverlooked, Prod.Lex.toLex_lt_toLex]
      refine .inr ⟨trivial,.inl ?_⟩
      simp only [flagged, goto_thread, goto_ready, hthread, MessageThread.toCheck, MessageThread.collected, Option.elim]
      rw [List.countP_cons_of_pos (p := s.ready) hflag]
      omega
    · rename_i hflag
      have hnot : s.ready number ≠ true := hflag
      refine .works rfl ?_ rfl ?_
      · have hoverlooked : (s.goto (.checking checked message)).overlooked modules = s.overlooked modules := by
          apply overlooked_congr
          intro n
          by_cases hn : n = number
          · subst hn
            exact ⟨fun h => absurd h.1 hnot,fun h => absurd h.1 hnot⟩
          · simp [hthread, hn]
        unfold rounds
        rw [hoverlooked]
        unfold flagged
        rw [goto_thread, goto_ready, hthread]
        simp only [MessageThread.toCheck, MessageThread.collected]
        rw [List.countP_cons_of_neg hnot]
        rfl
      · simp [labour, hthread, Prod.Lex.toLex_lt_toLex, MessageThread.stage, MessageThread.inner]

/-- A status of the device, the next device, or the end of the module. -/
theorem collectStatus_proceeds {module_ : ModuleLibraryHandler β} [BufferType β] {checked : List ℤ} {message : Bool}
    {number : ℤ} {devices : List DeviceIdentification}
    (hthread : s.thread = .collecting checked message number devices) :
    Proceeds modules s (collectStatus module_ s checked message number devices) := by
  unfold collectStatus
  cases devices with
  | nil =>
    dsimp only
    generalize hunset : (s.setAggregator number (s.statusAggregators number).unsetTimeoutedMessageReady).goto
      (.checking checked message) = u
    have hnumber : u.ready number = false := by
      rw [← hunset]
      simp [ready, setAggregator, goto, StatusAggregator.getTimeoutedMessageReady,
        StatusAggregator.unsetTimeoutedMessageReady]
    have hother : ∀ n, n ≠ number → u.ready n = s.ready n := by
      intro n hn
      rw [← hunset, goto_ready]
      exact ready_setAggregator_of_ne hn
    have hu : u.thread = .checking checked message := by rw [← hunset]; rfl
    have hoverlooked : u.overlooked modules = s.overlooked modules := by
      apply overlooked_congr
      intro n
      by_cases hn : n = number
      · subst hn
        simp [hnumber, hthread]
      · simp [hu, hthread, hother n hn, eq_comm (a := number), hn]
    refine .collects (by rw [← hunset]; rfl) ?_
    simp only [rounds, hoverlooked, Prod.Lex.toLex_lt_toLex]
    refine .inr ⟨trivial,.inl ?_⟩
    have hle : checked.countP u.ready ≤ checked.countP s.ready := by
      apply List.countP_mono_left
      intro n _ hn
      by_cases hne : n = number
      · subst hne
        rw [hnumber] at hn
        cases hn
      · rwa [hother n hne] at hn
    simp only [flagged, hu, hthread, MessageThread.toCheck, MessageThread.collected, Option.elim]
    omega
  | cons device devices =>
    dsimp only
    have hclock := (s.statusAggregators number).operate_ready module_ (.get_aggregated_status device)
    simp only [StatusAggregator.operate, Operation.ready] at hclock
    split <;> rename_i r aggregator hr <;> rw [hr] at hclock
    · have hready := ready_setAggregator hclock
      have hshorter := (s.statusAggregators number).get_aggregated_status_shorter device hr
      refine .works rfl ?_ rfl ?_
      · have hoverlooked : ((s.setAggregator number aggregator).pushExternal
            (.message false (.deviceStatus ⟨device,r⟩))).overlooked modules = s.overlooked modules := by
          apply overlooked_congr
          intro n
          exact iff_of_eq (congrArg (fun flag : Bool => flag = true ∧ ¬s.thread.ComesTo n) (congrFun hready n))
        unfold rounds
        rw [hoverlooked]
        unfold flagged
        exact congrArg (fun f : ℤ → Bool => toLex (s.overlooked modules,toLex
          (2*s.thread.toCheck.countP f + s.thread.collected.elim 0 fun _ => 1,s.thread.devicesLeft))) hready
      · simp only [labour, messagesLeft, pushExternal_thread, setAggregator_thread, hthread,
          Prod.Lex.toLex_lt_toLex]
        refine .inr ⟨trivial,.inr ⟨trivial,?_⟩⟩
        simp only [pushExternal, setAggregator, Function.update_self]
        exact hshorter
    · have hready := ready_setAggregator hclock
      refine .collects rfl ?_
      have hoverlooked : ((s.setAggregator number aggregator).goto
          (.counting checked message number device devices)).overlooked modules = s.overlooked modules := by
        apply overlooked_congr
        intro n
        simp [hready, hthread]
      simp only [rounds, hoverlooked, Prod.Lex.toLex_lt_toLex]
      refine .inr ⟨trivial,.inr ⟨?_,?_⟩⟩
      · simp only [flagged, goto_ready, goto_thread, hready, hthread, MessageThread.toCheck, MessageThread.collected]
      · simp only [goto_thread, hthread, MessageThread.devicesLeft, List.length_cons]
        omega

theorem countTimeouts_proceeds {checked : List ℤ} {message : Bool} {number : ℤ} {device : DeviceIdentification}
    {devices : List DeviceIdentification} (hthread : s.thread = .counting checked message number device devices) :
    Proceeds modules s (s.countTimeouts checked message number device devices) := by
  have hnext : ∀ u : ModuleHandler β, u.ready = s.ready → u.thread = .collecting checked message number devices →
      u.rounds modules < s.rounds modules := by
    intro u hready hu
    have hoverlooked : u.overlooked modules = s.overlooked modules := by
      apply overlooked_congr
      intro n
      simp [hready, hu, hthread]
    simp only [rounds, hoverlooked, Prod.Lex.toLex_lt_toLex]
    refine .inr ⟨trivial,.inr ⟨?_,?_⟩⟩
    · simp only [flagged, hready, hu, hthread, MessageThread.toCheck, MessageThread.collected]
    · simp only [hu, hthread, MessageThread.devicesLeft]
      omega
  unfold countTimeouts
  dsimp only
  split
  · exact .collects rfl (hnext _ rfl rfl)
  · exact .collects rfl (hnext _ rfl rfl)

/-- A round begins. -/
theorem waiting_proceeds (hthread : s.thread = .waiting) (hidle : ¬s.Idle modules) :
    Proceeds modules s (s.goto (.checking modules (!s.fromInternalQueue_.isEmpty))) := by
  generalize hu : s.goto (.checking modules (!s.fromInternalQueue_.isEmpty)) = u
  have hready : u.ready = s.ready := by rw [← hu]; rfl
  have hthread' : u.thread = .checking modules (!s.fromInternalQueue_.isEmpty) := by rw [← hu]; rfl
  have hnone : u.overlooked modules = 0 := by
    apply List.countP_eq_zero.mpr
    intro n hn
    simp [hthread', hn]
  have hchecks : s.thread.checks = false := by rw [hthread]; rfl
  by_cases hflag : ∃ number ∈ modules, s.ready number = true
  · obtain ⟨number,hmem,hnumber⟩ := hflag
    have hpos : 0 < s.overlooked modules := by
      apply List.countP_pos_iff.mpr
      exact ⟨number,hmem,by simp [hnumber, MessageThread.not_comesTo hchecks]⟩
    refine .collects (by rw [← hu]; rfl) ?_
    simp only [rounds, hnone, Prod.Lex.toLex_lt_toLex]
    exact .inl hpos
  · have hall : ∀ number ∈ modules, s.ready number = false := by simpa using hflag
    have hmessages : s.fromInternalQueue_ ≠ [] := fun hqueue => hidle ⟨hthread,hqueue,hall⟩
    have hzero : s.overlooked modules = 0 := by
      apply List.countP_eq_zero.mpr
      intro n hn
      simp [hall n hn]
    have hunflagged : modules.countP s.ready = 0 := by
      apply List.countP_eq_zero.mpr
      intro n hn
      rw [hall n hn]
      nofun
    refine .works (by rw [← hu]; rfl) ?_ (by rw [← hu]; rfl) ?_
    · unfold rounds
      rw [hnone, hzero, flagged_eq_zero hchecks, MessageThread.devicesLeft_eq_zero hchecks]
      unfold flagged
      rw [hready, hthread']
      simp only [MessageThread.toCheck, MessageThread.collected, MessageThread.devicesLeft, hunflagged]
      rfl
    · simp only [labour, Prod.Lex.toLex_lt_toLex]
      left
      rw [hthread, hthread']
      simp [MessageThread.stage, hmessages]

theorem sendAggregatedStatus_ready [BufferType β] (module_ : ModuleLibraryHandler β) (device : DeviceIdentification)
    (disconnected : Bool) : (sendAggregatedStatus module_ s device disconnected).ready = s.ready := by
  have hclock := (s.statusAggregators device.module_).operate_ready module_ (.get_aggregated_status device)
  exact ready_setAggregator hclock

theorem forceStatus_proceeds [BufferType β] {module_ : ModuleLibraryHandler β} {device : DeviceIdentification}
    (hthread : s.thread = .forcing device) : Proceeds modules s (forceStatus module_ s device) := by
  have hclock := (s.statusAggregators device.module_).operate_ready module_ (.force_aggregation_on_device device)
  simp only [StatusAggregator.operate, Operation.ready] at hclock
  unfold forceStatus
  split <;> rename_i hr <;> rw [hr] at hclock
  · exact .stage hthread rfl (ready_setAggregator hclock) rfl rfl rfl (by decide : 2 < 3)
  · exact .stage hthread rfl (ready_setAggregator hclock) rfl rfl rfl (by decide : 0 < 3)

/-- The steps but those that get a command. -/
theorem handleMessages_proceeds [BufferType β] (hidle : ¬s.Idle moduleLibrary_.keys) (hplaced : s.Placed)
    (hcommanding : ∀ status device rc, s.thread ≠ .commanding status device rc)
    (h : s.handleMessages moduleLibrary_ = some t) : Proceeds moduleLibrary_.keys s t := by
  unfold handleMessages at h
  split at h <;> rename_i hthread
  · cases h
    exact waiting_proceeds hthread hidle
  · cases h
    exact checkModule_proceeds hthread
  · obtain ⟨module_,-,rfl⟩ := Option.map_eq_some_iff.mp h
    exact collectStatus_proceeds hthread
  · cases h
    exact countTimeouts_proceeds hthread
  · exact handleMessage_proceeds hthread h
  · exact absurd hthread (hcommanding _ _ _)
  · cases h
    exact .stage hthread rfl rfl rfl rfl rfl (by decide : 0 < 4)
  · rename_i device rc
    obtain ⟨module_,-,rfl⟩ := Option.map_eq_some_iff.mp h
    refine .works rfl (rounds_eq (sendAggregatedStatus_ready module_ device false) (by rw [hthread]; rfl) rfl) rfl ?_
    simp only [labour, goto_thread, hthread, Prod.Lex.toLex_lt_toLex, MessageThread.inner]
    exact .inr ⟨rfl,.inl (Nat.lt_succ_self rc)⟩
  · obtain ⟨module_,-,rfl⟩ := Option.map_eq_some_iff.mp h
    exact forceStatus_proceeds hthread
  · rename_i device
    obtain ⟨module_,-,rfl⟩ := Option.map_eq_some_iff.mp h
    exact .stage hthread rfl (sendAggregatedStatus_ready module_ device true) rfl rfl rfl (by decide : 1 < 2)
  · rename_i device
    obtain ⟨module_,-,rfl⟩ := Option.map_eq_some_iff.mp h
    have hready := ready_setAggregator (s := s)
      ((s.statusAggregators device.module_).remove_device_ready device module_)
    exact .stage hthread rfl hready rfl rfl rfl (by decide : 0 < 1)
  · cases h
    refine .pops ?_ (rounds_eq rfl (by rw [hthread]; rfl) rfl) rfl
    have hne := hplaced.message (by rw [hthread]; rfl)
    cases hqueue : s.fromInternalQueue_ with
    | nil => exact absurd hqueue hne
    | cons message rest =>
      simp [goto]
  · cases h

/-! ## The thread is not stuck -/

/-- The modules that the thread comes to are loaded. -/
structure Loaded (modules : List ℤ) (s : ModuleHandler β) : Prop where
  comes : ∀ number, s.thread.ComesTo number → number ∈ modules
  device : ∀ device, s.thread.device = some device → device.module_ ∈ modules

theorem Loaded.of_not_checks (h : s.thread.checks = false)
    (hdevice : ∀ device, s.thread.device = some device → device.module_ ∈ modules) : s.Loaded modules :=
  ⟨fun number hnumber => absurd hnumber (MessageThread.not_comesTo h number),hdevice⟩

theorem Loaded.of_eq (hs : s.Loaded modules) (h : t.thread = s.thread) : t.Loaded modules := by
  constructor
  · rw [h]
    exact hs.comes
  · rw [h]
    exact hs.device

theorem isSome_lookup {number : ℤ} (h : number ∈ moduleLibrary_.keys) :
    ∃ module_, moduleLibrary_.lookup number = some module_ :=
  Option.isSome_iff_exists.mp (AList.lookup_isSome.mpr h)

theorem mem_keys_of_lookup {number : ℤ} {module_ : ModuleLibraryHandler β}
    (h : moduleLibrary_.lookup number = some module_) : number ∈ moduleLibrary_.keys :=
  AList.lookup_isSome.mp (Option.isSome_of_eq_some h)

theorem Loaded.handleMessages [BufferType β] (hs : s.Loaded moduleLibrary_.keys)
    (hcommanding : ∀ status device rc, s.thread ≠ .commanding status device rc)
    (h : s.handleMessages moduleLibrary_ = some t) : t.Loaded moduleLibrary_.keys := by
  have hthreadLoaded : t.ThreadLoaded moduleLibrary_ := by
    have hbefore : s.ThreadLoaded moduleLibrary_ := by
      intro device hdevice
      exact AList.lookup_isSome.mpr (hs.device device hdevice)
    exact hbefore.handleMessages h hcommanding
  refine ⟨?_,fun device hdevice => AList.lookup_isSome.mp (hthreadLoaded device hdevice)⟩
  have hdone : t.thread.checks = false → ∀ number, t.thread.ComesTo number → number ∈ moduleLibrary_.keys :=
    fun hchecks number hnumber => absurd hnumber (MessageThread.not_comesTo hchecks number)
  have hcomes := hs.comes
  unfold ModuleHandler.handleMessages at h
  split at h <;> rename_i hthread <;> rw [hthread] at hcomes
  · cases h
    simp
  · cases h
    unfold checkModule
    split
    · split <;> exact fun number hnumber => absurd hnumber (MessageThread.not_comesTo rfl number)
    · dsimp only
      split
      · simpa [or_comm, eq_comm] using hcomes
      · intro number hnumber
        exact hcomes number (by simpa using .inr (by simpa using hnumber))
  · obtain ⟨module_,-,rfl⟩ := Option.map_eq_some_iff.mp h
    unfold collectStatus
    split
    · intro number hnumber
      exact hcomes number (by simpa using .inl (by simpa using hnumber))
    · split
      · rw [pushExternal_thread, setAggregator_thread, hthread]
        exact hcomes
      · simpa using hcomes
  · cases h
    unfold countTimeouts
    dsimp only
    split <;> simpa using hcomes
  · obtain ⟨hhandles,-⟩ := handleMessage_handles h
    apply hdone
    obtain hhandles | hended := hhandles
    · cases hthread' : t.thread <;> rw [hthread'] at hhandles <;> first | rfl | cases hhandles
    · rw [hended]
      rfl
  · exact absurd hthread (hcommanding _ _ _)
  · cases h
    exact hdone rfl
  · obtain ⟨module_,-,rfl⟩ := Option.map_eq_some_iff.mp h
    exact hdone rfl
  · obtain ⟨module_,-,rfl⟩ := Option.map_eq_some_iff.mp h
    apply hdone
    unfold forceStatus
    split <;> rfl
  · obtain ⟨module_,-,rfl⟩ := Option.map_eq_some_iff.mp h
    exact hdone rfl
  · obtain ⟨module_,-,rfl⟩ := Option.map_eq_some_iff.mp h
    exact hdone rfl
  · cases h
    exact hdone rfl
  · cases h

/-- The thread that is not terminated has a next step. -/
theorem exists_handleMessages [BufferType β] (hs : s.Loaded moduleLibrary_.keys) (hplaced : s.Placed)
    (hlive : s.thread ≠ .terminated) : ∃ t, s.handleMessages moduleLibrary_ = some t := by
  have hdevice : ∀ device, s.thread.device = some device →
      ∃ module_, moduleLibrary_.lookup device.module_ = some module_ :=
    fun device hd => isSome_lookup (hs.device device hd)
  have hcomes := hs.comes
  have hmessage := hplaced.message
  unfold handleMessages
  cases hthread : s.thread with
  | waiting => exact ⟨_,rfl⟩
  | checking checked message => exact ⟨_,rfl⟩
  | collecting checked message number devices =>
    obtain ⟨module_,hm⟩ := isSome_lookup (hcomes number (by simp [hthread]))
    simp only [hm]
    exact ⟨_,rfl⟩
  | counting checked message number device devices => exact ⟨_,rfl⟩
  | handling =>
    dsimp only
    unfold handleMessage
    cases hqueue : s.fromInternalQueue_ with
    | nil => exact absurd hqueue (hmessage (by rw [hthread]; rfl))
    | cons message rest =>
      dsimp only
      split
      · exact ⟨_,rfl⟩
      · split <;> exact ⟨_,rfl⟩
  | commanding status device rc =>
    obtain ⟨module_,hm⟩ := hdevice device (by rw [hthread]; rfl)
    simp only [hm]
    exact ⟨_,rfl⟩
  | sending device rc =>
    cases rc with
    | zero => exact ⟨_,rfl⟩
    | succ rc =>
      obtain ⟨module_,hm⟩ := hdevice device (by rw [hthread]; rfl)
      simp only [hm]
      exact ⟨_,rfl⟩
  | forcing device =>
    obtain ⟨module_,hm⟩ := hdevice device (by rw [hthread]; rfl)
    simp only [hm]
    exact ⟨_,rfl⟩
  | disconnecting device =>
    obtain ⟨module_,hm⟩ := hdevice device (by rw [hthread]; rfl)
    simp only [hm]
    exact ⟨_,rfl⟩
  | removing device =>
    obtain ⟨module_,hm⟩ := hdevice device (by rw [hthread]; rfl)
    simp only [hm]
    exact ⟨_,rfl⟩
  | popping => exact ⟨_,rfl⟩
  | terminated => exact absurd hthread hlive

end Proceeds

end ModuleHandler

namespace HandlerThreads
variable {modules : List ℤ} {moduleLibrary_ : ModuleLibrary β} {s t : HandlerThreads β}

/-- What is left to do for the message at the front; `get_command` is before the push of the command. -/
def labour (s : HandlerThreads β) : (ℕ ×ₗ ℕ ×ₗ ℕ) ×ₗ ℕ :=
  toLex (s.handler.labour,if s.statusHand.isNone then 1 else 0)

/-- The sections that the forwarding thread and `handleCommand` of the External Client still take. -/
def forwarding (s : HandlerThreads β) : ℕ :=
  (if s.updated.isSome then 3 else 0) + 2*s.handler.commandForwardingQueue_.length +
    match s.forwardThread with
    | .waiting => 1
    | .acted _ => 0

/-- The same as for the handler, with the command that the thread holds. -/
inductive Proceeds (modules : List ℤ) (s t : HandlerThreads β) : Prop
  | collects (rounds : t.handler.rounds modules < s.handler.rounds modules)
  | pops (queue : t.handler.fromInternalQueue_.length < s.handler.fromInternalQueue_.length)
      (rounds : t.handler.rounds modules = s.handler.rounds modules)
      (requests : t.handler.toInternalQueue_.countP isRequest = s.handler.toInternalQueue_.countP isRequest)
  | works (queue : t.handler.fromInternalQueue_ = s.handler.fromInternalQueue_)
      (rounds : t.handler.rounds modules = s.handler.rounds modules)
      (requests : t.handler.toInternalQueue_.countP isRequest = s.handler.toInternalQueue_.countP isRequest)
      (forwarding : t.forwarding = s.forwarding) (labour : t.labour < s.labour)

variable [BufferType β]

theorem takeCommand_proceeds {module_ : ModuleLibraryHandler β} {status : β} {device : DeviceIdentification} {rc : ℕ}
    (hthread : s.handler.thread = .commanding status device rc) (hnone : s.statusHand = none) :
    Proceeds modules s (takeCommand module_ s status device) := by
  have hclock := (s.handler.statusAggregators device.module_).operate_ready module_ (.get_command status device)
  have hready := ModuleHandler.ready_setAggregator (s := s.handler) hclock
  obtain ⟨hand,thread,heq,hcases⟩ := takeCommand_eq module_ s status device hnone
  rw [heq]
  have hchecks : s.handler.thread.checks = false := by rw [hthread]; rfl
  obtain ⟨taken,rfl,rfl,-⟩ | ⟨rfl,hthread'⟩ := hcases
  · refine .works rfl (ModuleHandler.rounds_eq hready hchecks hchecks) rfl rfl ?_
    simp only [labour, ModuleHandler.labour, ModuleHandler.messagesLeft, ModuleHandler.goto_thread, hthread, hnone,
      Prod.Lex.toLex_lt_toLex]
    exact .inr ⟨trivial,Nat.zero_lt_one⟩
  · refine .works rfl (ModuleHandler.rounds_eq hready hchecks ?_) rfl rfl ?_
    · obtain rfl | rfl := hthread' <;> rfl
    · simp only [labour, ModuleHandler.labour, ModuleHandler.goto_thread, hthread, Prod.Lex.toLex_lt_toLex]
      refine .inl (.inl ?_)
      obtain rfl | rfl := hthread'
      · exact (by decide : 0 < 5)
      · exact (by decide : 0 < 5)

/-- Every step of the message thread that is not part of an idle round. -/
theorem handleMessages_proceeds (hs : s.Coherent) (hidle : ¬s.handler.Idle moduleLibrary_.keys)
    (ht : s.handleMessages moduleLibrary_ = some t) : Proceeds moduleLibrary_.keys s t := by
  unfold handleMessages at ht
  split at ht
  · rename_i status device rc hthread
    split at ht
    · rename_i hand hhand
      cases ht
      refine .works rfl (ModuleHandler.rounds_eq rfl (by rw [hthread]; rfl) rfl)
        (s.handler.countP_pushInternal rfl) rfl ?_
      simp only [labour, ModuleHandler.labour, hthread, Prod.Lex.toLex_lt_toLex]
      exact .inl (.inl (by decide : 4 < 5))
    · rename_i hnone
      obtain ⟨module_,-,rfl⟩ := Option.map_eq_some_iff.mp ht
      exact takeCommand_proceeds hthread hnone
  · rename_i hcommanding
    obtain ⟨handler,hhandler,rfl⟩ := Option.map_eq_some_iff.mp ht
    have hevents := (ModuleHandler.handleMessages_keeps hhandler hcommanding).events
    cases ModuleHandler.handleMessages_proceeds hidle hs.placed hcommanding hhandler with
    | collects queue rounds => exact .collects rounds
    | pops queue rounds requests => exact .pops queue rounds requests
    | works queue rounds requests hlabour =>
      refine .works queue rounds requests ?_ ?_
      · unfold forwarding
        rw [← hevents]
        rfl
      · simp only [labour, Prod.Lex.toLex_lt_toLex]
        exact .inl hlabour

theorem exists_handleMessages (hs : s.Coherent) (hloaded : s.handler.Loaded moduleLibrary_.keys)
    (hlive : s.handler.thread ≠ .terminated) : ∃ t, s.handleMessages moduleLibrary_ = some t := by
  unfold handleMessages
  cases hthread : s.handler.thread with
  | commanding status device rc =>
    dsimp only
    cases s.statusHand with
    | some hand => exact ⟨_,rfl⟩
    | none =>
      obtain ⟨module_,hm⟩ := ModuleHandler.isSome_lookup (hloaded.device device (by rw [hthread]; rfl))
      exact ⟨_,Option.map_eq_some_iff.mpr ⟨module_,hm,rfl⟩⟩
  | _ =>
    obtain ⟨handler,hhandler⟩ := s.handler.exists_handleMessages hloaded hs.placed hlive
    exact ⟨_,Option.map_eq_some_iff.mpr ⟨handler,hhandler,rfl⟩⟩

theorem messages_loaded (hs : s.handler.Loaded moduleLibrary_.keys) (hplace : s.HandInPlace)
    (ht : s.handleMessages moduleLibrary_ = some t) : t.handler.Loaded moduleLibrary_.keys := by
  unfold handleMessages at ht
  split at ht
  · rename_i status device rc hthread
    have hmodule := hs.device device (by rw [hthread]; rfl)
    split at ht
    · rename_i hand hhand
      cases ht
      obtain ⟨status',rc',hat⟩ := hplace hand hhand
      refine .of_not_checks rfl ?_
      rintro _ ⟨⟩
      exact hs.device hand.device (by rw [hat]; rfl)
    · rename_i hnone
      obtain ⟨module_,-,rfl⟩ := Option.map_eq_some_iff.mp ht
      obtain ⟨hand,thread,heq,⟨-,-,rfl,-⟩ | ⟨-,rfl | rfl⟩⟩ := takeCommand_eq module_ s status device hnone <;>
        rw [heq]
      · exact hs.of_eq rfl
      · exact .of_not_checks rfl nofun
      · exact .of_not_checks rfl nofun
  · rename_i hcommanding
    obtain ⟨handler,hhandler,rfl⟩ := Option.map_eq_some_iff.mp ht
    exact hs.handleMessages hcommanding hhandler

theorem threadStep_loaded {a : ThreadAction β} (hs : s.handler.Loaded moduleLibrary_.keys) (hplace : s.HandInPlace)
    (ht : s.threadStep (moduleLibrary_,a) = some t) : t.handler.Loaded moduleLibrary_.keys := by
  by_cases hmessages : a = .messages
  · subst hmessages
    exact messages_loaded hs hplace ht
  · obtain ⟨-,hthread,-⟩ := other_change hmessages ht
    exact hs.of_eq hthread

/-! ## The forwarding thread, the events and the erasures -/

omit [BufferType β] in
theorem takeForwarded_exists (s : HandlerThreads β) (hquiet : NeverThrow moduleLibrary_)
    (deviceId : DeviceIdentification) : ∃ t, s.takeForwarded moduleLibrary_ deviceId = some t := by
  unfold takeForwarded
  cases hm : moduleLibrary_.lookup deviceId.module_ with
  | none => exact ⟨_,rfl⟩
  | some module_ =>
    obtain ⟨⟨r,aggregator⟩,hr,-,hthrown⟩ := StatusAggregator.get_command_for_forwarding_returns module_
      (s.handler.statusAggregators deviceId.module_) deviceId
    have hno : r ≠ .error .BufferNotAllocated := by
      intro hthrow
      obtain ⟨-,d,-,hthrows⟩ := hthrown.mp hthrow
      exact (hquiet _ module_ hm).generateCommandThrows _ _ d hthrows
    simp only [hr]
    cases r with
    | ok command => exact ⟨_,rfl⟩
    | error code => cases code <;> first | exact ⟨_,rfl⟩ | exact absurd rfl hno

/-- A section of another thread leaves the message thread and what it works on alone. -/
structure Beside (modules : List ℤ) (s t : HandlerThreads β) : Prop where
  queue : t.handler.fromInternalQueue_ = s.handler.fromInternalQueue_
  rounds : t.handler.rounds modules = s.handler.rounds modules
  requests : t.handler.toInternalQueue_.countP isRequest = s.handler.toInternalQueue_.countP isRequest

omit [BufferType β] in
theorem countP_push (s : HandlerThreads β) (hand : Hand β) :
    (s.push hand).handler.toInternalQueue_.countP isRequest = s.handler.toInternalQueue_.countP isRequest :=
  s.handler.countP_pushInternal rfl

theorem forwards_beside (hs : s.Coherent) (ht : s.handleCommandForwards moduleLibrary_ = some t) :
    Beside modules s t ∧ t.forwarding < s.forwarding := by
  unfold handleCommandForwards at ht
  split at ht
  · rename_i hand hforward
    cases ht
    obtain ⟨device,hfront,-⟩ := hs.event hand hforward
    obtain ⟨rest,hqueue⟩ : ∃ rest, s.handler.commandForwardingQueue_ = device :: rest :=
      List.head?_eq_some_iff.mp hfront
    cases hand with
    | none =>
      refine ⟨⟨rfl,rfl,rfl⟩,?_⟩
      simp only [forwarding, pushForwarded, Option.elim_none, hforward, hqueue, List.tail_cons, List.length_cons]
      omega
    | some hand =>
      refine ⟨⟨rfl,rfl,s.countP_push hand⟩,?_⟩
      simp only [forwarding, pushForwarded, Option.elim_some, push, ModuleHandler.pushInternal, hforward, hqueue,
        List.tail_cons, List.length_cons]
      omega
  · rename_i hforward
    split at ht
    · cases ht
    · rename_i deviceId rest hqueue
      have hless : ∀ (u : HandlerThreads β) (hand : Option (Hand β)), u.updated = s.updated →
          u.handler.commandForwardingQueue_ = s.handler.commandForwardingQueue_ → u.forwardThread = .acted hand →
          u.forwarding < s.forwarding := by
        intro u hand hupdated hevents hacted
        simp only [forwarding, hupdated, hevents, hacted, hforward]
        omega
      obtain ⟨-,rfl⟩ | ⟨module_,hand,-,rfl,-⟩ := takeForwarded_eq ht
      · exact ⟨⟨rfl,rfl,rfl⟩,hless _ none rfl rfl rfl⟩
      · have hclock := (s.handler.statusAggregators deviceId.module_).operate_ready module_
          (.get_command_for_forwarding deviceId)
        refine ⟨⟨rfl,?_,rfl⟩,hless _ hand rfl rfl rfl⟩
        exact ModuleHandler.rounds_congr (ModuleHandler.ready_setAggregator hclock) rfl

omit [BufferType β] in
theorem pushEvent_beside (modules : List ℤ) {device : DeviceIdentification} (hupdated : s.updated = some device) :
    Beside modules s (s.pushEvent moduleLibrary_ device) ∧
      (s.pushEvent moduleLibrary_ device).forwarding < s.forwarding := by
  obtain ⟨events,hevents,hlength⟩ : ∃ events, (s.pushEvent moduleLibrary_ device).handler.commandForwardingQueue_ =
      s.handler.commandForwardingQueue_ ++ events ∧ events.length ≤ 1 := by
    refine ⟨_,rfl,?_⟩
    split <;> simp
  have hnone : (s.pushEvent moduleLibrary_ device).updated = none := rfl
  have hthread : (s.pushEvent moduleLibrary_ device).forwardThread = s.forwardThread := rfl
  refine ⟨⟨rfl,rfl,rfl⟩,?_⟩
  simp only [forwarding, hevents, hnone, hthread, hupdated, List.length_append, Option.isSome_none, Option.isSome_some,
    if_true, Bool.false_eq_true, if_false]
  omega

omit [BufferType β] in
/-- An erasure can only take statuses away from the thread. -/
theorem runPosted_beside (modules : List ℤ) {number : ℤ} {i : ℕ} {aggregator : StatusAggregator β}
    (hrun : (s.handler.statusAggregators number).runPosted i = some aggregator) :
    Beside modules s (s.withHandler (s.handler.setAggregator number aggregator)) ∧
      (s.withHandler (s.handler.setAggregator number aggregator)).labour ≤ s.labour := by
  obtain ⟨device,-,rfl⟩ := Option.map_eq_some_iff.mp hrun
  refine ⟨⟨rfl,ModuleHandler.rounds_congr (ModuleHandler.ready_setAggregator rfl) rfl,rfl⟩,?_⟩
  generalize haggregator : ({ s.handler.statusAggregators number with
    devices := (s.handler.statusAggregators number).devices.erase device
    posted := (s.handler.statusAggregators number).posted.eraseIdx i } : StatusAggregator β) = aggregator
  have hmessages : (s.handler.setAggregator number aggregator).messagesLeft ≤ s.handler.messagesLeft := by
    unfold ModuleHandler.messagesLeft
    rw [ModuleHandler.setAggregator_thread]
    split
    · rename_i n collected _ _
      by_cases hn : n = number
      · subst hn
        simp only [ModuleHandler.setAggregator, Function.update_self]
        rw [← haggregator]
        by_cases hdevice : collected.key = device
        · subst hdevice
          rw [AList.lookup_erase]
          exact Nat.zero_le _
        · rw [AList.lookup_erase_ne hdevice]
      · simp only [ModuleHandler.setAggregator, Function.update_of_ne hn]
        exact Nat.le_refl _
    · exact Nat.le_refl _
  simp only [labour, ModuleHandler.labour, withHandler, ModuleHandler.setAggregator_thread, Prod.Lex.toLex_le_toLex,
    Prod.Lex.toLex_lt_toLex]
  obtain hlt | heq := Nat.lt_or_eq_of_le hmessages
  · exact .inl (.inr ⟨trivial,.inr ⟨trivial,hlt⟩⟩)
  · rw [heq]
    exact .inr ⟨rfl,Nat.le_refl _⟩

end HandlerThreads

end ModuleGateway.Modules
