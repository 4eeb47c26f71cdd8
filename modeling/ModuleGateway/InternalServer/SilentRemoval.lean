import ModuleGateway.InternalServer.Settling
import ModuleGateway.Modules.SilentDevices

/-! # The end of a silent device

When the timer of a device has fired twice without a status, the message thread comes to its module, lists the
device and asks for its disconnection; the listener takes the request and closes the connection. One of these is
still to come until the identity is free, so that nothing is left of the device at rest.
-/
namespace ModuleGateway.InternalServer
open Structures Execution Modules

variable {β : Type}

/-! ## The connection of the device -/

/-- The actions by which nobody takes an identity. -/
inductive SystemAction.Settles : SystemAction β → Prop
  | listen : Settles .listen
  | responded (c : ConnId) : Settles (.responded c)
  | timeout (c : ConnId) : Settles (.timeout c)
  | cleanup (c : ConnId) : Settles (.cleanup c)

/-- An identity that is free stays free. -/
theorem System.holder_none {s t : System β} {k : DeviceKey} (hs : s.server.Registry) (h : s.server.holder k = none)
    {a : SystemAction β} (ha : a.Settles) (ht : s.systemStep a = some t) : t.server.holder k = none := by
  have hentry : s.server.entry k = none := by
    rw [Server.entry, h]
    rfl
  have hholder {t : Server β} (ht : t.entry k = none) : t.holder k = none := by
    simpa only [Server.entry, Option.map_eq_none_iff] using ht
  cases ha with
  | listen =>
    simp only [System.systemStep] at ht
    split at ht
    · cases ht
    · rename_i deviceId _ _
      cases ht
      apply hholder
      rw [(hs.handleDisconnect deviceId).2 k, hentry, ite_self]
    · rename_i message _ _
      cases ht
      obtain ⟨hlist,hconnection⟩ := validateResponse_registry s.server message
      exact (holder_congr hlist (fun x => (hconnection x).1) k).trans h
  | responded c =>
    obtain ⟨-,rfl⟩ := Option.ite_some_none_eq_some.mp ht
    exact h
  | timeout c =>
    obtain ⟨-,rfl⟩ := Option.ite_some_none_eq_some.mp ht
    exact h
  | cleanup c =>
    obtain ⟨-,rfl⟩ := Option.ite_some_none_eq_some.mp ht
    apply hholder
    show (s.server.removeConnFromMap c).entry k = none
    rw [hs.entry_removeConnFromMap, hentry, ite_self]

/-- The listener takes the request, or it stays in the queue. -/
theorem System.asked_or_free {s t : System β} {k : DeviceKey} (hs : s.server.Registry)
    {device : DeviceIdentification} (hmem : .disconnect device ∈ s.toInternalQueue_) (hkey : device.key = k)
    {a : SystemAction β} (ha : a.Settles) (ht : s.systemStep a = some t) :
    .disconnect device ∈ t.toInternalQueue_ ∨ t.server.holder k = none := by
  cases ha with
  | listen =>
    simp only [System.systemStep] at ht
    split at ht <;> rename_i hqueue
    · cases ht
    · cases ht
      rw [hqueue] at hmem
      rcases List.mem_cons.mp hmem with hfront | hlater
      · cases hfront
        right
        have hentry : (s.server.handleDisconnect device).entry k = none := by
          rw [(hs.handleDisconnect device).2 k, if_pos hkey]
        simpa only [Server.entry, Option.map_eq_none_iff] using hentry
      · exact .inl hlater
    · cases ht
      rw [hqueue] at hmem
      rcases List.mem_cons.mp hmem with hfront | hlater
      · cases hfront
      · exact .inl hlater
  | responded c =>
    obtain ⟨-,rfl⟩ := Option.ite_some_none_eq_some.mp ht
    exact .inl hmem
  | timeout c =>
    obtain ⟨-,rfl⟩ := Option.ite_some_none_eq_some.mp ht
    exact .inl hmem
  | cleanup c =>
    obtain ⟨-,rfl⟩ := Option.ite_some_none_eq_some.mp ht
    exact .inl hmem

namespace Gateway
variable {s t : Gateway β} {k : DeviceKey}

/-- The silent device will be asked to disconnect, or it is asked, or its identity is free. -/
inductive Chased (s : Gateway β) (k : DeviceKey) : Prop
  | overdue (h : s.threads.handler.Overdue k)
  | asked (device : DeviceIdentification) (mem : .disconnect device ∈ s.system.toInternalQueue_)
      (key : device.key = k)
  | free (h : s.system.server.holder k = none)

theorem settles_server {modules : List ℤ} {a : SystemAction β} (ha : s.settles modules (.server a)) : a.Settles := by
  cases a with
  | listen => exact .listen
  | responded c => exact .responded c
  | timeout c => exact .timeout c
  | cleanup c => exact .cleanup c
  | _ => cases ha

theorem Chased.served (hs : s.Chased k) (hregistry : s.system.server.Registry) {a : SystemAction β} (ha : a.Settles)
    {system : System β} (ht : s.system.systemStep a = some system) : (s.served system).Chased k := by
  cases hs with
  | overdue h =>
    apply Chased.overdue
    exact HandlerThreads.overdue_beside h rfl rfl fun hsilent => hsilent.of_same rfl
  | free h => exact .free (System.holder_none hregistry h ha ht)
  | asked device mem key =>
    exact (System.asked_or_free hregistry mem key ha ht).elim (fun hmem => .asked device hmem key) fun hfree =>
      .free hfree

variable [BufferType β]

theorem Chased.handled (hs : s.Chased k) (hsound : s.Sound) {library : ModuleLibrary β}
    (hloaded : k.module_ ∈ library.keys) {a : HandlerThreads.ThreadAction β}
    (ha : s.settles library.keys (.handler library a)) {threads : HandlerThreads β}
    (ht : s.threads.threadStep (library,a) = some threads) : (s.handled threads).Chased k := by
  have hoverdue (h : threads.handler.Overdue k) : (s.handled threads).Chased k :=
    .overdue (HandlerThreads.overdue_beside h rfl rfl fun hsilent => hsilent.of_same rfl)
  cases hs with
  | free h => exact .free h
  | asked device mem key => exact .asked device (List.mem_append_left _ mem) key
  | overdue h =>
    cases a with
    | messages =>
      rcases HandlerThreads.messages_overdue h hloaded hsound.coherent.inPlace ht with h | ⟨device,hkey,hasks⟩
      · exact hoverdue h
      · refine .asked device ?_ hkey
        apply List.mem_append_right
        rw [hasks]
        exact List.mem_append_right _ (List.mem_singleton_self _)
    | forwards => exact hoverdue (HandlerThreads.forwards_overdue h ht)
    | event =>
      obtain ⟨device,-,rfl⟩ := Option.map_eq_some_iff.mp ht
      exact hoverdue (HandlerThreads.overdue_beside h rfl rfl fun hsilent => hsilent.of_same rfl)
    | erase number i =>
      obtain ⟨aggregator,hrun,rfl⟩ := Option.map_eq_some_iff.mp ht
      exact hoverdue (HandlerThreads.erase_overdue h hrun)
    | _ => cases ha

theorem Chased.settles (hs : s.Chased k) (hsound : s.Sound) {modules : List ℤ} (hloaded : k.module_ ∈ modules)
    {a : GatewayAction β} (ha : s.settles modules a) (ht : s.gatewayStep a = some t) : t.Chased k := by
  cases a with
  | server a =>
    obtain ⟨-,system,hstep,rfl⟩ := gatewayStep_server ht
    exact hs.served hsound.steady.registry (settles_server ha) hstep
  | handler library a =>
    obtain ⟨-,threads,hstep,rfl⟩ := gatewayStep_handler ht
    obtain rfl : library.keys = modules := by
      cases a with
      | messages => exact ha.1
      | forwards | event | erase => exact ha
      | _ => cases ha
    exact hs.handled hsound hloaded ha hstep

omit [BufferType β] in
/-- At rest the request has been made and taken. -/
theorem Chased.free_of_atRest {modules : List ℤ} (hs : s.Chased k) (hloaded : k.module_ ∈ modules)
    (hrest : s.AtRest modules) : s.system.server.holder k = none := by
  cases hs with
  | free h => exact h
  | asked device mem key =>
    rw [hrest.quiet.toInternalQueue_] at mem
    cases mem
  | overdue h =>
    cases h with
    | before thread silent =>
      have hready := silent.ready
      rw [hrest.idle.ready _ hloaded] at hready
      cases hready
    | listed devices thread mem many =>
      rw [hrest.idle.thread] at thread
      cases thread

/-- A registered device whose timer has expired twice since its last status, while the message thread waits: once
nothing comes in from outside, the gateway comes to rest without the device, whose connection is closed, in whatever
order its threads go on. -/
theorem exec_silent_removed (moduleLibrary_ : ModuleLibrary β) {supported : ℤ → UInt32 → Bool}
    {as : List (GatewayAction β)}
    (hm : ∀ library a, GatewayAction.handler library a ∈ as →
      library.keys = moduleLibrary_.keys ∧ HandlerThreads.Supports supported library)
    (hg : Guarded gatewayStep (fun s a => statusConnected moduleLibrary_.keys supported s a = true) init as)
    (he : exec gatewayStep init as = some s) (hwaiting : s.threads.handler.thread = .waiting)
    (hloaded : k.module_ ∈ moduleLibrary_.keys) (hsilent : s.threads.handler.Silent k) :
    Inevitable gatewayStep (fun t a => t.settles moduleLibrary_.keys a ∧ t.NoErasureBetween a ∧
        ∀ library action, a = .handler library action → Dependable supported library)
      (fun t => t.AtRest moduleLibrary_.keys ∧ k ∉ (t.threads.handler.statusAggregators k.module_).devices ∧
        t.system.server.holder k = none) s := by
  obtain ⟨library,hkeys,hdependable⟩ := exists_dependable supported moduleLibrary_
  rw [← hkeys] at hm hg hloaded ⊢
  obtain ⟨conns,hs⟩ := exec_working (fun library a h => (hm library a h).1) he
  have hlives : s.threads.Lives := by
    refine ⟨?_,fun _ => ModuleHandler.held_of_thread ?_⟩ <;> rw [hwaiting] <;> nofun
  have hmatched := exec_matched hm hg he
  have hchased : s.Chased k := .overdue (.before (.inl hwaiting) hsilent)
  have hsettles := (hs.settles_connected hdependable hlives hmatched).and_invariant
    (I := fun s => s.Working library.keys conns ∧ s.Chased k) ⟨hs,hchased⟩
    fun s a t hI ha ht => ⟨(hI.1.settles ha.1 ht).1,hI.2.settles hI.1.sound hloaded ha.1 ht⟩
  apply hsettles.mono
  rintro t ⟨⟨hrest,hconnected⟩,-,hchased⟩
  have hfree := hchased.free_of_atRest hloaded hrest
  refine ⟨hrest,?_,hfree⟩
  intro hregistered
  obtain ⟨c,hc,hkey⟩ := hconnected k.module_ k hregistered
  exact Server.holder_eq_none_iff.mp hfree c hc hkey

theorem exec_silent_removed_silentCamera : ∃ s, exec gatewayStep init silentCamera = some s ∧
    Inevitable gatewayStep (fun t a => t.settles [1] a ∧ t.NoErasureBetween a ∧
        ∀ library action, a = .handler library action → Dependable (fun _ _ => true) library)
      (fun t => t.AtRest [1] ∧ camera.key ∉ (t.threads.handler.statusAggregators 1).devices ∧
        t.system.server.holder camera.key = none) s := by
  have hg : Guarded gatewayStep (fun s a => statusConnected [1] (fun _ _ => true) s a = true) init silentCamera := by
    decide +kernel
  refine ⟨_,rfl,exec_silent_removed HandlerThreads.pushLibrary
    (fun library a h => ⟨(silentCamera_library library a h).1,(silentCamera_library library a h).2.supports⟩) hg rfl rfl
    (List.mem_singleton_self _) ⟨rfl,?_,?_,Nat.le_refl _⟩⟩
  · exact AList.lookup_isSome.mp rfl
  · exact List.not_mem_nil

end Gateway
end ModuleGateway.InternalServer
