import ModuleGateway.InternalServer.ConnectTrace
import ModuleGateway.InternalServer.Replies
import ModuleGateway.Modules.PendingRemovals

/-! # Devices without a connection

Whenever an entry leaves `connectedDevices_`, a disconnect of its identity goes into
`fromInternalQueue_`, behind every status that was pushed while the entry was there. A status that is
pushed for an identity without an entry has no disconnect behind it, and its device stays registered.
-/
namespace ModuleGateway.InternalServer
open Structures Execution Modules

variable {β : Type}

namespace Server

/-- What is pushed tells the Module Handler about every entry that goes, among the identities that it
may register. -/
def Announces (p : DeviceKey → Bool) (s t : Server β) : Prop :=
  ∃ messages, t.fromInternalQueue_ = s.fromInternalQueue_ ++ messages ∧
    ∀ k b, p k = true → (b = true → (s.holder k).isSome) → messages.foldl (leaves k) b = true → (t.holder k).isSome

variable {p : DeviceKey → Bool}

/-- Nothing is pushed and no entry goes. -/
theorem Announces.of_same {s t : Server β} (hqueue : t.fromInternalQueue_ = s.fromInternalQueue_)
    (hholder : ∀ k, t.holder k = s.holder k) : Announces p s t := by
  refine ⟨[],hqueue.trans (List.append_nil _).symm,?_⟩
  intro k b hp hb h
  rw [hholder]
  exact hb h

theorem Announces.trans {s t u : Server β} (hst : Announces p s t) (htu : Announces p t u) : Announces p s u := by
  obtain ⟨first,hfirst,hst⟩ := hst
  obtain ⟨second,hsecond,htu⟩ := htu
  refine ⟨first ++ second,?_,?_⟩
  · rw [hsecond, hfirst, List.append_assoc]
  · intro k b hp hb h
    rw [List.foldl_append] at h
    exact htu k _ hp (hst k b hp hb) h

theorem announces_removeConnFromMap {s : Server β} (hs : s.Registry) (c : ConnId) :
    Announces p s (s.removeConnFromMap c) := by
  have hqueue := (s.removeConnFromMap_registry c).2.1
  have hholder := hs.holder_removeConnFromMap c
  cases hr : s.removedBy c with
  | none =>
    rw [hr] at hqueue
    refine .of_same (hqueue.trans (List.append_nil _)) ?_
    intro k
    rw [hholder, hr]
    refine if_neg ?_
    rintro ⟨⟨⟩,-⟩
  | some e =>
    rw [hr] at hqueue
    refine ⟨_,hqueue,?_⟩
    intro k b hp hb h
    rw [hholder, hr]
    cases hd : (s.connection c).deviceId with
    | none =>
      rw [hd] at h
      rw [keyOf, hd, if_neg (by rintro ⟨-,⟨⟩⟩)]
      exact hb h
    | some deviceId =>
      rw [hd] at h
      obtain ⟨hbefore,hne⟩ := Bool.and_eq_true_iff.mp h
      rw [keyOf, hd, if_neg]
      · exact hb hbefore
      · rintro ⟨-,heq⟩
        exact bne_iff_ne.mp hne (Option.some.inj heq)

theorem announces_connectNewDevice {s : Server β} (hs : s.Registry) {c : ConnId} {deviceId : DeviceIdentification}
    (hc : c ∉ s.connectedDevices_) (hnone : s.holder deviceId.key = none) :
    Announces p s (s.connectNewDevice c deviceId) := by
  refine ⟨[.message false (.deviceConnect deviceId)],rfl,?_⟩
  intro k b hp hb h
  rw [hs.holder_connectNewDevice hc hnone]
  split
  · rfl
  · exact hb h

theorem announces_sendResponse (s : Server β) (c : ConnId) (message : Structures.InternalServer β) :
    Announces p s (s.sendResponse c message) := by
  obtain ⟨hconnection,hlist,hqueue⟩ := s.sendResponse_registry c message
  exact .of_same hqueue (System.holder_congr hlist fun x => by rw [hconnection])

theorem announces_handleConnection {s : Server β} (hs : s.Registry) {c : ConnId}
    (hready : (s.connection c).ready = false) (hc : c ∉ s.connectedDevices_) (deviceId : DeviceIdentification) :
    Announces p s (s.handleConnection c deviceId).2 := by
  rw [handleConnection_eq hready]
  cases hentry : s.entry deviceId.key with
  | none => exact announces_connectNewDevice hs hc (entry_eq_none_iff.mp hentry)
  | some found =>
    obtain ⟨e,priority⟩ := found
    dsimp only
    split
    · exact announces_sendResponse s c _
    · split
      · exact announces_sendResponse s c _
      · obtain ⟨e',hholder,hsame⟩ := Option.map_eq_some_iff.mp hentry
        obtain rfl : e' = e := congrArg Prod.fst hsame
        refine (announces_removeConnFromMap hs e').trans ?_
        exact announces_connectNewDevice (hs.removeConnFromMap e') (Registry.not_mem_removeConnFromMap hc e')
          (hs.holder_replaced hholder)

theorem announces_handleDisconnect {s : Server β} (hs : s.Registry) (deviceId : DeviceIdentification) :
    Announces p s (s.handleDisconnect deviceId) := by
  rw [System.handleDisconnect_eq]
  split
  · exact .of_same rfl fun _ => rfl
  · exact announces_removeConnFromMap hs _

theorem announces_validateResponse (s : Server β) (message : Structures.InternalServer β) :
    Announces p s (s.validateResponse message) := by
  obtain ⟨hlist,hconn⟩ := System.validateResponse_registry s message
  exact .of_same (s.validateResponse_queue message) (System.holder_congr hlist fun x => (hconn x).1)

theorem announces_handleStatus {s : Server β} {c : ConnId} {status : DeviceStatus β}
    (h : (s.connection c).ready = true → p status.device.key = true → (s.holder status.device.key).isSome) :
    Announces p s (s.handleStatus c status).2 := by
  have hholder := System.holder_congr (System.handleStatus_registry s c status).1
    fun x => ((System.handleStatus_registry s c status).2 x).1
  by_cases hready : (s.connection c).ready = true
  · refine ⟨[.message false (.deviceStatus status)],?_,?_⟩
    · rw [handleStatus, if_pos hready]
      rfl
    · intro k b hp hb hleaves
      rw [hholder]
      obtain hbefore | hkey := Bool.or_eq_true_iff.mp hleaves
      · exact hb hbefore
      · obtain rfl := beq_iff_eq.mp hkey
        exact h hready hp
  · refine .of_same ?_ hholder
    rw [handleStatus, if_neg hready]

end Server

namespace System
variable {s t : System β}

/-- A status is pushed only when the identity that it names has an entry, if the Module Handler may
register it. -/
def statusConnected (p : DeviceKey → Bool) (s : System β) : SystemAction β → Bool
  | .status c status => !(s.server.connection c).ready || !p status.device.key ||
    (s.server.holder status.device.key).isSome
  | _ => true

theorem announces_systemStep {p : DeviceKey → Bool} {a : SystemAction β} (hs : s.Steady)
    (ha : s.statusConnected p a = true) (ht : s.systemStep a = some t) : s.server.Announces p t.server := by
  have hsame : ∀ server : Server β, server = s.server → s.server.Announces p server := by
    rintro _ rfl
    exact .of_same rfl fun _ => rfl
  cases a with
  | connect c deviceId =>
    obtain ⟨hc,rfl⟩ := Option.ite_some_none_eq_some.mp ht
    cases hready : (s.server.connection c).ready with
    | true => exact hsame _ (congrArg Prod.snd (handleConnection_of_ready hready deviceId))
    | false =>
      have hmem := hs.registry.not_mem (hs.deviceId_eq_none hc hready)
      exact Server.announces_handleConnection hs.registry hready hmem deviceId
  | status c status =>
    obtain ⟨hc,rfl⟩ := Option.ite_some_none_eq_some.mp ht
    refine Server.announces_handleStatus ?_
    intro hready hp
    simpa [statusConnected, hready, hp] using ha
  | fail c =>
    obtain ⟨-,rfl⟩ := Option.ite_some_none_eq_some.mp ht
    exact hsame _ rfl
  | responded c =>
    obtain ⟨-,rfl⟩ := Option.ite_some_none_eq_some.mp ht
    exact hsame _ rfl
  | timeout c =>
    obtain ⟨-,rfl⟩ := Option.ite_some_none_eq_some.mp ht
    exact hsame _ rfl
  | cleanup c =>
    obtain ⟨-,rfl⟩ := Option.ite_some_none_eq_some.mp ht
    exact Server.announces_removeConnFromMap hs.registry c
  | push message =>
    cases ht
    exact hsame _ rfl
  | listen =>
    rw [systemStep] at ht
    split at ht
    · cases ht
    · cases ht
      exact Server.announces_handleDisconnect hs.registry _
    · cases ht
      exact s.server.announces_validateResponse _

end System

/-! ## Both sides -/

namespace Gateway
variable {s t : Gateway β} {modules : List ℤ} {supported : ℤ → UInt32 → Bool}

/-- The identities that the Module Handler may register. -/
def registrable (modules : List ℤ) (supported : ℤ → UInt32 → Bool) (k : DeviceKey) : Bool :=
  ofLibrary modules supported k.module_ k.deviceType

def statusConnected (modules : List ℤ) (supported : ℤ → UInt32 → Bool) (s : Gateway β) : GatewayAction β → Bool
  | .server a => s.system.statusConnected (registrable modules supported) a
  | .handler _ _ => true

/-- The devices that remain have an entry. -/
structure Matched (modules : List ℤ) (supported : ℤ → UInt32 → Bool) (s : Gateway β) : Prop where
  steady : s.system.Steady
  shared : s.threads.handler.fromInternalQueue_ = s.fromInternalQueue_
  front : s.threads.handler.FrontHeld
  place : s.threads.handler.InPlace (ofLibrary modules supported)
  remains : ∀ k, registrable modules supported k = true → s.threads.handler.remains k = true →
    (s.system.server.holder k).isSome

theorem Matched.init : (init : Gateway β).Matched modules supported where
  steady := System.Steady.init
  shared := rfl
  front := nofun
  place := ModuleHandler.InPlace.init
  remains _ _ h := nomatch h

theorem Matched.server (hs : s.Matched modules supported) {a : SystemAction β} {system : System β}
    (ha : s.system.statusConnected (registrable modules supported) a = true)
    (ht : s.system.systemStep a = some system) : (s.served system).Matched modules supported := by
  obtain ⟨messages,hqueue,hannounced⟩ := System.announces_systemStep hs.steady ha ht
  have hhandler : (s.served system).threads.handler =
      { s.threads.handler with fromInternalQueue_ := s.threads.handler.fromInternalQueue_ ++ messages } := by
    rw [hs.shared]
    exact congrArg (fun queue => { s.threads.handler with fromInternalQueue_ := queue }) hqueue
  refine ⟨hs.steady.step ht,rfl,?_,?_,?_⟩
  · rw [hhandler]
    intro hhandled
    exact List.append_ne_nil_of_left_ne_nil (hs.front hhandled) _
  · exact hs.place
  · intro k hk hremains
    rw [hhandler, ModuleHandler.remains_append messages hs.front] at hremains
    exact hannounced k _ hk (hs.remains k hk) hremains

theorem Matched.threadStep [BufferType β] (hs : s.Matched modules supported) {moduleLibrary_ : ModuleLibrary β}
    (hkeys : moduleLibrary_.keys = modules) (hsupports : HandlerThreads.Supports supported moduleLibrary_)
    {a : HandlerThreads.ThreadAction β} (ha : a.ofServer = false) {threads : HandlerThreads β}
    (ht : s.threads.threadStep (moduleLibrary_,a) = some threads) : (s.handled threads).Matched modules supported := by
  have hserved := hs.place.served hkeys hsupports
  have hplace : threads.handler.InPlace (ofLibrary modules supported) := by
    refine (HandlerThreads.threadStep_change ht).inPlace ?_ hs.place
    intro number module_ hm device_type hsupported
    refine ofLibrary_iff.mpr ⟨?_,?_⟩
    · rw [← hkeys]
      exact AList.lookup_isSome.mp (Option.isSome_of_eq_some hm)
    · rw [hsupports number module_ hm] at hsupported
      by_contra hno
      exact hsupported (if_neg hno)
  refine ⟨⟨⟨hs.steady.registry.identified,hs.steady.registry.unique⟩,hs.steady.ready⟩,rfl,?_,hplace,?_⟩
  · have hfront := HandlerThreads.front_threadStep hs.front hserved ha ht
    exact hfront
  · intro k hk hremains
    exact hs.remains k hk (HandlerThreads.remains_threadStep hserved ha ht hremains)

theorem Matched.step [BufferType β] (hs : s.Matched modules supported) {a : GatewayAction β}
    (hm : ∀ moduleLibrary_ action, a = .handler moduleLibrary_ action →
      moduleLibrary_.keys = modules ∧ HandlerThreads.Supports supported moduleLibrary_)
    (ha : s.statusConnected modules supported a = true) (ht : s.gatewayStep a = some t) :
    t.Matched modules supported := by
  cases a with
  | server a =>
    have hsystem : (s.system.systemStep a).map s.served = some t := by
      cases a with
      | push message => cases ht
      | _ => exact ht
    obtain ⟨system,hstep,rfl⟩ := Option.map_eq_some_iff.mp hsystem
    exact hs.server ha hstep
  | handler moduleLibrary_ a =>
    obtain ⟨hkeys,hsupports⟩ := hm moduleLibrary_ a rfl
    rw [gatewayStep] at ht
    split at ht
    · cases ht
    · rename_i ha
      obtain ⟨threads,hthreads,rfl⟩ := Option.map_eq_some_iff.mp ht
      exact hs.threadStep hkeys hsupports (by simpa using ha) hthreads

/-! ## The run -/

/-- Both queues are empty, no posted erasure is pending, and no connection handler is in progress. -/
structure Quiet (s : Gateway β) : Prop where
  fromInternalQueue_ : s.fromInternalQueue_ = []
  toInternalQueue_ : s.system.toInternalQueue_ = []
  posted : ∀ number, (s.threads.handler.statusAggregators number).posted = []
  phase : ∀ c, s.system.phase c = .reading ∨ s.system.phase c = .closed

/-- Every device that is registered in an aggregator has an entry of the same identity. -/
def DevicesConnected (s : Gateway β) : Prop :=
  ∀ number key, key ∈ (s.threads.handler.statusAggregators number).devices →
    ∃ c ∈ s.system.server.connectedDevices_, s.system.server.keyOf c = some key

theorem Matched.devicesConnected (hs : s.Matched modules supported) (hquiet : s.Quiet) : s.DevicesConnected := by
  intro number key hkey
  obtain ⟨d,hd⟩ := Option.isSome_iff_exists.mp (AList.lookup_isSome.mpr hkey)
  obtain ⟨rfl,-,hregistrable⟩ := hs.place number key d hd
  have hqueue : s.threads.handler.fromInternalQueue_ = [] := hs.shared.trans hquiet.fromInternalQueue_
  have hidle : s.threads.handler.thread.handled = false := by
    rw [← Bool.not_eq_true]
    exact fun hhandled => hs.front hhandled hqueue
  have hremains : s.threads.handler.remains key = true := by
    unfold ModuleHandler.remains ModuleHandler.unhandled
    rw [hidle, hqueue, ModuleHandler.kept_iff.mpr, MessageThread.removes_of_not_handled hidle]
    · rfl
    · refine ⟨Option.isSome_of_eq_some hd,?_⟩
      rw [hquiet.posted]
      exact List.not_mem_nil
  obtain ⟨c,hc⟩ := Option.isSome_iff_exists.mp (hs.remains key hregistrable hremains)
  exact ⟨c,Server.holder_mem hc⟩

/-- In a run in which every status that is pushed names an identity that has an entry at that moment,
no device outlives its connection. -/
theorem exec_devicesConnected [BufferType β] {as : List (GatewayAction β)}
    (hm : ∀ moduleLibrary_ a, GatewayAction.handler moduleLibrary_ a ∈ as →
      moduleLibrary_.keys = modules ∧ HandlerThreads.Supports supported moduleLibrary_)
    (hg : Guarded gatewayStep (fun s a => statusConnected modules supported s a = true) init as)
    (he : exec gatewayStep init as = some s) (hquiet : s.Quiet) : s.DevicesConnected := by
  have hmodules : ∀ a ∈ as, ∀ moduleLibrary_ action, a = .handler moduleLibrary_ action →
      moduleLibrary_.keys = modules ∧ HandlerThreads.Supports supported moduleLibrary_ := by
    rintro _ ha moduleLibrary_ action rfl
    exact hm moduleLibrary_ action ha
  have hs : s.Matched modules supported := by
    refine exec_guarded_invariant Matched.init ?_ (hg.and_mem hmodules) he
    rintro s a t hs ⟨hconnected,hmodules⟩ ht
    exact hs.step hmodules hconnected ht
  exact hs.devicesConnected hquiet

/-! ## A camera that goes -/

/-- The reply to its status reaches the camera. -/
def replied : List (GatewayAction (List UInt8)) := firstStatus ++ [.server .listen,.server (.responded 0)]

theorem exec_devicesConnected_camera :
    ∃ s, exec gatewayStep init replied = some s ∧ camera.key ∈ (s.threads.handler.statusAggregators 1).devices ∧
      s.DevicesConnected := by
  have hm : ∀ moduleLibrary_ a, GatewayAction.handler moduleLibrary_ a ∈ replied →
      moduleLibrary_.keys = [1] ∧ HandlerThreads.Supports (fun _ _ => true) moduleLibrary_ := by
    intro moduleLibrary_ a ha
    obtain ⟨rfl,-⟩ : moduleLibrary_ = HandlerThreads.pushLibrary ∧ a = .messages := by
      simpa [replied, firstStatus, messages] using ha
    exact ⟨rfl,HandlerThreads.pushLibrary_supports⟩
  have hg : Guarded gatewayStep (fun s a => statusConnected [1] (fun _ _ => true) s a = true) init replied := by
    decide +kernel
  refine ⟨_,rfl,by decide,exec_devicesConnected hm hg rfl ⟨rfl,rfl,?_,?_⟩⟩
  · rintro ((_ | _ | _) | _) <;> rfl
  · rintro (_ | _) <;> exact .inl rfl

/-- The timer of the camera expires twice, the listener removes its connection, and the removal is
over before the handler pushes the status that it has read. -/
def lateStatus : List (GatewayAction (List UInt8)) :=
  replied ++ List.replicate 2 (.handler HandlerThreads.pushLibrary (.tick 1 camera.key)) ++ messages 8 ++
    [.server .listen] ++ messages 8 ++
    [.handler HandlerThreads.pushLibrary (.erase 1 0),.server (.status 0 ⟨camera,[2]⟩)] ++ messages 9 ++
    [.server .listen,.server (.timeout 0),.server (.cleanup 0)]

def lidar : DeviceIdentification := { camera with deviceType := 3 }

/-- The connection of the camera sends a status of another device, and ends. -/
def otherStatus : List (GatewayAction (List UInt8)) :=
  [.server (.connect 0 camera)] ++ messages 5 ++ [.server .listen,.server (.responded 0)] ++
    [.server (.status 0 ⟨lidar,[1]⟩)] ++ messages 9 ++
    [.server .listen,.server (.timeout 0),.server (.cleanup 0)] ++ messages 5

set_option maxRecDepth 4000 in
/-- Both devices are registered when no connection is left. -/
theorem outlives_connection :
    (∃ s, exec gatewayStep init lateStatus = some s ∧ s.Quiet ∧ ¬s.DevicesConnected) ∧
      ∃ s, exec gatewayStep init otherStatus = some s ∧ s.Quiet ∧ ¬s.DevicesConnected := by
  refine ⟨⟨_,rfl,⟨rfl,rfl,?_,?_⟩,?_⟩,⟨_,rfl,⟨rfl,rfl,?_,?_⟩,?_⟩⟩
  · rintro ((_ | _ | _) | _) <;> rfl
  · rintro (_ | _)
    · exact .inr rfl
    · exact .inl rfl
  · intro h
    obtain ⟨c,hc,-⟩ := h 1 camera.key (by decide)
    cases hc
  · rintro ((_ | _ | _) | _) <;> rfl
  · rintro (_ | _)
    · exact .inr rfl
    · exact .inl rfl
  · intro h
    obtain ⟨c,hc,-⟩ := h 1 lidar.key (by decide)
    cases hc

end Gateway

end ModuleGateway.InternalServer
