import ModuleGateway.Modules.Origins
import ModuleGateway.InternalServer.Replies

/-! # What is written on a socket

The Internal Server finds the connection of a message by identity and priority. Whatever it
writes on a socket is addressed to a device that a connect message on the same socket announced,
and a command on it is one that the Module Handler pushed for that device.
-/
namespace ModuleGateway.InternalServer
open Structures Execution Modules

variable {β : Type} [BufferType β]

namespace Server
variable {o : Origins β} {announced : ConnId → DeviceIdentification → Prop} {s t : Server β}

/-- A connection was announced as the device that a message is addressed to. -/
def Addressed (announced : ConnId → DeviceIdentification → Prop) (c : ConnId)
    (message : Structures.InternalServer β) : Prop :=
  ∃ deviceId, announced c deviceId ∧ deviceId.key = (addressee message).key ∧
    deviceId.priority = (addressee message).priority

/-- The command of a message is one of the device it is for. -/
def Carries (o : Origins β) (message : Structures.InternalServer β) : Prop :=
  ∀ command, message = .deviceCommand command → o.Given command.device.key command.commanddata

structure From (o : Origins β) (announced : ConnId → DeviceIdentification → Prop) (s : Server β) : Prop where
  incoming : ∀ status, .message false (.deviceStatus status) ∈ s.fromInternalQueue_ →
    o.status status.device.key status.statusdata
  identified : ∀ c deviceId, (s.connection c).deviceId = some deviceId → announced c deviceId
  responses : ∀ c message, (c,message) ∈ s.responses → Addressed announced c message ∧ Carries o message

namespace From

theorem init : (init : Server β).From o announced where
  incoming _ hmem := by cases hmem
  identified _ _ h := by cases h
  responses _ _ hmem := by cases hmem

/-- A step that writes nothing and makes nobody a device. -/
theorem frame (hs : s.From o announced)
    (hqueue : ∀ status, .message false (.deviceStatus status) ∈ t.fromInternalQueue_ →
      .message false (.deviceStatus status) ∈ s.fromInternalQueue_)
    (hid : ∀ c, (t.connection c).deviceId = (s.connection c).deviceId) (hresponses : t.responses = s.responses) :
    t.From o announced where
  incoming status hmem := hs.incoming status (hqueue status hmem)
  identified c deviceId h := hs.identified c deviceId ((hid c).symm.trans h)
  responses := by rw [hresponses]; exact hs.responses

theorem setConnection (hs : s.From o announced) (c : ConnId) {f : Connection → Connection}
    (hf : ∀ conn, (f conn).deviceId = conn.deviceId) : (s.setConnection c f).From o announced :=
  hs.frame (fun _ h => h) (fun x => s.setConnection_deviceId c x hf) rfl

theorem sendResponse (hs : s.From o announced) {c : ConnId} {message : Structures.InternalServer β}
    (haddressed : Addressed announced c message) (hcarries : Carries o message) :
    (s.sendResponse c message).From o announced := by
  unfold Server.sendResponse
  split
  · refine ⟨hs.incoming,hs.identified,?_⟩
    intro c' message' hmem
    rcases List.mem_append.mp hmem with hmem | hmem
    · exact hs.responses c' message' hmem
    · cases List.mem_singleton.mp hmem
      exact ⟨haddressed,hcarries⟩
  · exact hs

theorem removeConnFromMap (hs : s.From o announced) (c : ConnId) : (s.removeConnFromMap c).From o announced := by
  obtain ⟨-,hqueue,hresponses⟩ := s.removeConnFromMap_registry c
  refine hs.frame ?_ (s.removeConnFromMap_deviceId c) hresponses
  intro status hmem
  rw [hqueue] at hmem
  rcases List.mem_append.mp hmem with hmem | hmem
  · exact hmem
  · split at hmem
    · cases hmem
    · obtain ⟨deviceId,-,h⟩ := Option.map_eq_some_iff.mp (Option.mem_toList.mp hmem)
      cases h

theorem connectNewDevice (hs : s.From o announced) {c : ConnId} {deviceId : DeviceIdentification}
    (h : announced c deviceId) : (s.connectNewDevice c deviceId).From o announced := by
  refine ⟨?_,?_,hs.responses⟩
  · intro status hmem
    rcases List.mem_append.mp hmem with hmem | hmem
    · exact hs.incoming status hmem
    · cases List.mem_singleton.mp hmem
  · intro x deviceId' hid
    rw [connectNewDevice_connection] at hid
    split at hid
    · rename_i hx
      subst hx
      cases hid
      exact h
    · exact hs.identified x deviceId' hid

theorem handleConnection (hs : s.From o announced) {c : ConnId} {deviceId : DeviceIdentification}
    (h : announced c deviceId) : (s.handleConnection c deviceId).2.From o announced := by
  have hrefused : ∀ responseType, (s.sendResponse c (.deviceConnectResponse responseType deviceId)).From o announced :=
    fun responseType => hs.sendResponse ⟨deviceId,h,rfl,rfl⟩ (by rintro _ ⟨⟩)
  unfold Server.handleConnection
  split
  · exact hs
  · split
    · exact hs.connectNewDevice h
    · split
      · exact hrefused _
      · split
        · exact hrefused _
        · unfold changeConnection
          apply connectNewDevice ?_ h
          split
          · exact hs.removeConnFromMap _
          · exact hs

theorem handleStatus (hs : s.From o announced) (c : ConnId) {status : DeviceStatus β}
    (h : (s.handleStatus c status).1 = true → o.status status.device.key status.statusdata) :
    (s.handleStatus c status).2.From o announced := by
  unfold Server.handleStatus at h ⊢
  split at h
  · rename_i hready
    rw [if_pos hready]
    refine setConnection (s := { s with fromInternalQueue_ := s.fromInternalQueue_ ++ _ })
      ⟨?_,hs.identified,hs.responses⟩ c (f := fun conn => { conn with ready := false }) fun _ => rfl
    intro status' hmem
    rcases List.mem_append.mp hmem with hmem | hmem
    · exact hs.incoming status' hmem
    · cases List.mem_singleton.mp hmem
      exact h rfl
  · rename_i hready
    rwa [if_neg hready]

theorem handleDisconnect (hs : s.From o announced) (deviceId : DeviceIdentification) :
    (s.handleDisconnect deviceId).From o announced := by
  unfold Server.handleDisconnect
  split
  · exact hs.removeConnFromMap _
  · exact hs

/-- The connection that is found has the identity and the priority of the message. -/
theorem validateResponse (hs : s.From o announced) {message : Structures.InternalServer β}
    (hcarries : Carries o message) : (s.validateResponse message).From o announced := by
  unfold Server.validateResponse
  split
  · exact hs
  · rename_i c hfind
    split
    · rename_i hpriority
      refine setConnection (hs.sendResponse ?_ hcarries) c fun _ => rfl
      rw [findConnection_eq_holder] at hfind
      obtain ⟨deviceId,hid,hkey⟩ := Option.map_eq_some_iff.mp (holder_mem hfind).2
      refine ⟨deviceId,hs.identified c deviceId hid,hkey,?_⟩
      rwa [getPriority, hid] at hpriority
    · exact hs

end From

end Server

namespace System
variable {o : Origins β} {announced : ConnId → DeviceIdentification → Prop} {s t : System β}

structure From (o : Origins β) (announced : ConnId → DeviceIdentification → Prop) (s : System β) : Prop where
  server : s.server.From o announced
  replies : ∀ m ∈ s.toInternalQueue_, ∀ message, m = .message message → Server.Carries o message

/-- What comes in from the sockets and from the Module Handler. -/
def ActionFrom (o : Origins β) (announced : ConnId → DeviceIdentification → Prop) (s : System β) :
    SystemAction β → Prop
  | .connect c deviceId => announced c deviceId
  | .status c status => (s.server.handleStatus c status).1 = true → o.status status.device.key status.statusdata
  | .push message => ∀ m, message = .message m → Server.Carries o m
  | _ => True

theorem From.systemStep (hs : s.From o announced) {a : SystemAction β} (ha : s.ActionFrom o announced a)
    (ht : s.systemStep a = some t) : t.From o announced := by
  cases a with
  | connect c deviceId =>
    obtain ⟨-,rfl⟩ := Option.ite_some_none_eq_some.mp ht
    exact ⟨hs.server.handleConnection ha,hs.replies⟩
  | status c status =>
    obtain ⟨-,rfl⟩ := Option.ite_some_none_eq_some.mp ht
    exact ⟨hs.server.handleStatus c ha,hs.replies⟩
  | fail c =>
    obtain ⟨-,rfl⟩ := Option.ite_some_none_eq_some.mp ht
    exact ⟨hs.server,hs.replies⟩
  | responded c =>
    obtain ⟨-,rfl⟩ := Option.ite_some_none_eq_some.mp ht
    exact ⟨hs.server,hs.replies⟩
  | timeout c =>
    obtain ⟨-,rfl⟩ := Option.ite_some_none_eq_some.mp ht
    exact ⟨hs.server,hs.replies⟩
  | cleanup c =>
    obtain ⟨-,rfl⟩ := Option.ite_some_none_eq_some.mp ht
    exact ⟨hs.server.removeConnFromMap c,hs.replies⟩
  | push message =>
    cases ht
    refine ⟨hs.server,?_⟩
    intro m hmem
    rcases List.mem_append.mp hmem with hmem | hmem
    · exact hs.replies m hmem
    · rw [List.mem_singleton.mp hmem]
      exact ha
  | listen =>
    have hrest : ∀ {m rest}, s.toInternalQueue_ = m :: rest →
        ∀ m' ∈ rest, ∀ message, m' = .message message → Server.Carries o message :=
      fun hqueue m' hmem => hs.replies m' (by rw [hqueue]; exact List.mem_cons_of_mem _ hmem)
    simp only [System.systemStep] at ht
    split at ht
    · cases ht
    · rename_i hqueue
      cases ht
      exact ⟨hs.server.handleDisconnect _,hrest hqueue⟩
    · rename_i message rest hqueue
      cases ht
      refine ⟨hs.server.validateResponse ?_,hrest hqueue⟩
      exact hs.replies (.message message) (by rw [hqueue]; exact List.mem_cons_self) message rfl

end System

namespace Gateway
variable {o : Origins β} {announced : ConnId → DeviceIdentification → Prop} {s t : Gateway β}

structure From (o : Origins β) (announced : ConnId → DeviceIdentification → Prop) (s : Gateway β) : Prop where
  system : s.system.From o announced
  threads : s.threads.From o

theorem From.init : (init : Gateway β).From o announced := ⟨⟨.init,by rintro _ ⟨⟩⟩,.init⟩

/-- What comes in, and that the module library is one whose functions keep to the devices. -/
def ActionFrom (o : Origins β) (announced : ConnId → DeviceIdentification → Prop) (s : Gateway β) :
    GatewayAction β → Prop
  | .server a => s.system.ActionFrom o announced a
  | .handler moduleLibrary_ a => o.Closed moduleLibrary_ ∧ a.From o

theorem From.served (hs : s.From o announced) {system : System β} (h : system.From o announced) :
    (s.served system).From o announced := by
  have hhandler := hs.threads.handler
  refine ⟨h,hs.threads.withHandler ?_⟩
  exact ⟨hhandler.aggregators,h.server.incoming,hhandler.outgoing,hhandler.replies,hhandler.thread⟩

theorem From.handled (hs : s.From o announced) {threads : HandlerThreads β} (h : threads.From o) :
    (s.handled threads).From o announced := by
  have hserver := hs.system.server
  have hhandler := h.handler
  refine ⟨⟨⟨hhandler.incoming,hserver.identified,hserver.responses⟩,?_⟩,h.withHandler ?_⟩
  · intro m hmem message hm
    rcases List.mem_append.mp hmem with hmem | hmem
    · exact hs.system.replies m hmem message hm
    · rintro command rfl
      subst hm
      exact hhandler.replies command hmem
  · exact ⟨hhandler.aggregators,hhandler.incoming,hhandler.outgoing,by rintro _ ⟨⟩,hhandler.thread⟩

theorem From.gatewayStep (hs : s.From o announced) {a : GatewayAction β} (ha : s.ActionFrom o announced a)
    (ht : s.gatewayStep a = some t) : t.From o announced := by
  cases a with
  | server a =>
    cases a with
    | push message => cases ht
    | _ =>
      obtain ⟨system,hsystem,rfl⟩ := Option.map_eq_some_iff.mp ht
      exact hs.served (hs.system.systemStep (by exact ha) hsystem)
  | handler moduleLibrary_ a =>
    simp only [Gateway.gatewayStep] at ht
    split at ht
    · cases ht
    · obtain ⟨threads,hthreads,rfl⟩ := Option.map_eq_some_iff.mp ht
      exact hs.handled (hs.threads.threadStep ha.1 ha.2 hthreads)

end Gateway

end ModuleGateway.InternalServer
