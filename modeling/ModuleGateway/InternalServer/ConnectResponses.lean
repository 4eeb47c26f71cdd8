import ModuleGateway.InternalServer.ConnectTrace
import ModuleGateway.InternalServer.Replies

/-! # Whose statuses are taken

`ready` says that a handler may go on, and `handleStatus` and `handleConnection` take it for
connected. It is set by every message that reaches a connection, so by a refusal or by a command
just as by the response that lets the device in.
-/
namespace ModuleGateway.InternalServer
open Structures Execution Modules

variable {β : Type}

/-- The response that lets a device in. -/
def acceptsConnect (deviceId : DeviceIdentification) : Structures.InternalServer β → Bool
  | .deviceConnectResponse .OK device => device.isSame deviceId && device.priority == deviceId.priority
  | _ => false

namespace Server

/-- The connect message of the connection was answered on it with `OK`. -/
def answeredOK (s : Server β) (c : ConnId) : Bool :=
  (s.connection c).deviceId.any fun deviceId =>
    s.responses.any fun response => response.1 == c && acceptsConnect deviceId response.2

/-- Entries can be written to. -/
def Open (s : Server β) : Prop := ∀ c ∈ s.connectedDevices_, (s.connection c).socketOpen = true

def ReadyAnswered (s : Server β) : Prop := ∀ c, (s.connection c).ready = true → s.answeredOK c = true

theorem answeredOK_mono {s t : Server β} {c : ConnId} (h : s.answeredOK c = true)
    (hid : (t.connection c).deviceId = (s.connection c).deviceId) (hresponses : s.responses ⊆ t.responses) :
    t.answeredOK c = true := by
  rw [answeredOK, Option.any_eq_true] at h ⊢
  obtain ⟨deviceId,hdeviceId,hany⟩ := h
  refine ⟨deviceId,hid.trans hdeviceId,?_⟩
  rw [List.any_eq_true] at hany ⊢
  obtain ⟨response,hmem,hresponse⟩ := hany
  exact ⟨response,hresponses hmem,hresponse⟩

/-- Nobody becomes ready, and those who are keep their identification. -/
theorem ReadyAnswered.keeps {s t : Server β} (hs : s.ReadyAnswered)
    (hready : ∀ c, (t.connection c).ready = true → (s.connection c).ready = true ∧
      (t.connection c).deviceId = (s.connection c).deviceId) (hresponses : s.responses ⊆ t.responses) :
    t.ReadyAnswered := by
  intro c hc
  obtain ⟨hbefore,hid⟩ := hready c hc
  exact answeredOK_mono (hs c hbefore) hid hresponses

/-! ## Operations -/

section Operations
variable {s : Server β}

theorem sendResponse_subset (s : Server β) (c : ConnId) (message : Structures.InternalServer β) :
    s.responses ⊆ (s.sendResponse c message).responses := by
  rw [sendResponse]
  split
  · exact List.subset_append_left _ _
  · exact List.Subset.refl _

theorem Open.removeConnFromMap (hs : s.Open) (hregistry : s.Registry) (c : ConnId) :
    (s.removeConnFromMap c).Open := by
  intro x hx
  rw [(s.removeConnFromMap_registry c).1] at hx
  have hmem : x ∈ s.connectedDevices_ := by
    cases hremoved : s.removedBy c with
    | none => rwa [hremoved] at hx
    | some e =>
      rw [hremoved] at hx
      exact List.mem_of_mem_erase hx
  by_cases hxc : x = c
  · -- a connection in the list is the one that its removal takes out
    subst hxc
    rw [hregistry.removedBy_self hmem] at hx
    exact absurd hx (List.Nodup.not_mem_erase hregistry.nodup)
  · rw [removeConnFromMap_connection_of_ne s hxc]
    exact hs x hmem

theorem Open.connectNewDevice (hs : s.Open) {c : ConnId} (hopen : (s.connection c).socketOpen = true)
    (deviceId : DeviceIdentification) : (s.connectNewDevice c deviceId).Open := by
  intro x hx
  rw [connectNewDevice_connection]
  by_cases hxc : x = c
  · subst hxc
    rw [if_pos rfl]
    exact hopen
  · rw [if_neg hxc]
    obtain hmem | hmem := List.mem_append.mp hx
    · exact hs x hmem
    · exact absurd (List.mem_singleton.mp hmem) hxc

theorem Open.congr {t : Server β} (hs : s.Open) (hlist : t.connectedDevices_ = s.connectedDevices_)
    (hsocket : ∀ x, (t.connection x).socketOpen = (s.connection x).socketOpen) : t.Open := by
  intro x hx
  rw [hsocket]
  exact hs x (hlist ▸ hx)

theorem Open.sendResponse (hs : s.Open) (c : ConnId) (message : Structures.InternalServer β) :
    (s.sendResponse c message).Open := by
  obtain ⟨hconnection,hlist,-⟩ := s.sendResponse_registry c message
  exact hs.congr hlist fun x => by rw [hconnection]

theorem Open.handleConnection (hs : s.Open) (hregistry : s.Registry) {c : ConnId}
    (hready : (s.connection c).ready = false) (hopen : (s.connection c).socketOpen = true)
    (hmem : c ∉ s.connectedDevices_) (deviceId : DeviceIdentification) :
    (s.handleConnection c deviceId).2.Open := by
  rw [handleConnection_eq hready]
  cases hentry : s.entry deviceId.key with
  | none => exact hs.connectNewDevice hopen deviceId
  | some found =>
    obtain ⟨e,priority⟩ := found
    dsimp only
    split
    · exact hs.sendResponse c _
    · split
      · exact hs.sendResponse c _
      · have he : e ∈ s.connectedDevices_ := by
          obtain ⟨e',hholder,hsame⟩ := Option.map_eq_some_iff.mp hentry
          obtain ⟨rfl,-⟩ := Prod.mk.inj hsame
          exact (holder_mem hholder).1
        have hne : c ≠ e := by
          rintro rfl
          exact hmem he
        refine (hs.removeConnFromMap hregistry e).connectNewDevice ?_ deviceId
        rwa [removeConnFromMap_connection_of_ne s hne]

theorem handleConnection_subset {c : ConnId} (hready : (s.connection c).ready = false)
    (deviceId : DeviceIdentification) : s.responses ⊆ (s.handleConnection c deviceId).2.responses := by
  rw [handleConnection_eq hready]
  cases s.entry deviceId.key with
  | none => exact List.Subset.refl _
  | some found =>
    obtain ⟨e,priority⟩ := found
    dsimp only
    split
    · exact s.sendResponse_subset c _
    · split
      · exact s.sendResponse_subset c _
      · exact ((s.removeConnFromMap_registry e).2.2 ▸ List.Subset.refl _)

theorem Open.handleDisconnect (hs : s.Open) (hregistry : s.Registry) (deviceId : DeviceIdentification) :
    (s.handleDisconnect deviceId).Open := by
  rw [Server.handleDisconnect]
  split
  · exact hs.removeConnFromMap hregistry _
  · exact hs

theorem handleDisconnect_responses (deviceId : DeviceIdentification) :
    (s.handleDisconnect deviceId).responses = s.responses := by
  rw [Server.handleDisconnect]
  split
  · exact (s.removeConnFromMap_registry _).2.2
  · rfl

theorem handleStatus_responses (c : ConnId) (status : DeviceStatus β) :
    (s.handleStatus c status).2.responses = s.responses := by
  rw [Server.handleStatus]
  split <;> rfl

/-- A status clears the flag of its connection and sets none. -/
theorem handleStatus_ready (c x : ConnId) (status : DeviceStatus β)
    (h : ((s.handleStatus c status).2.connection x).ready = true) : (s.connection x).ready = true := by
  rw [Server.handleStatus] at h
  split at h
  · by_cases hxc : x = c
    · simp only [setConnection, hxc, Function.update_self, Bool.false_eq_true] at h
    · simpa only [setConnection, Function.update_of_ne hxc] using h
  · exact h

end Operations

end Server

namespace System
variable {s t : System β}

/-- The message at the front is a connect response of type `OK`. -/
def frontAccepts (s : System β) : Bool :=
  match s.toInternalQueue_ with
  | .message (.deviceConnectResponse .OK _) :: _ => true
  | _ => false

/-- The first message that reaches a connection is the response that lets its device in. -/
def acceptsFirst (s : System β) : SystemAction β → Bool
  | .listen => s.reached.all fun c => s.server.answeredOK c || s.frontAccepts
  | _ => true

/-- What can be written to, and who is ready. -/
structure Answering (s : System β) : Prop where
  entries : s.server.Open
  unidentified : ∀ c, (s.server.connection c).deviceId = none → s.phase c ≠ .closed →
    (s.server.connection c).socketOpen = true
  ready : s.server.ReadyAnswered

theorem Answering.init : (System.init : System β).Answering where
  entries _ h := nomatch h
  unidentified _ _ _ := rfl
  ready _ h := nomatch h

/-- The connection that the front reaches has its identity and its priority. -/
theorem reached_eq_some {message : Structures.InternalServer β} {rest : List (ModuleHandlerMessage β)}
    (hfront : s.toInternalQueue_ = .message message :: rest) {c : ConnId} (h : s.reached = some c) :
    c ∈ s.server.connectedDevices_ ∧ s.server.keyOf c = some (Server.addressee message).key ∧
      s.server.getPriority c = (Server.addressee message).priority := by
  simp only [reached, hfront, Option.filter_eq_some_iff, decide_eq_true_eq] at h
  rw [Server.findConnection_eq_holder] at h
  obtain ⟨hmem,hkey⟩ := Server.holder_mem h.1
  exact ⟨hmem,hkey,h.2⟩

/-- The listener writes to the connection that it reaches before it sets its flag. -/
theorem Answering.validateResponse (hs : s.Answering) {message : Structures.InternalServer β}
    {rest : List (ModuleHandlerMessage β)}
    (hfront : s.toInternalQueue_ = .message message :: rest) (hfirst : s.acceptsFirst .listen = true) :
    (s.server.validateResponse message).ReadyAnswered := by
  rw [validateResponse_reached hfront]
  cases hreached : s.reached with
  | none => exact hs.ready
  | some c =>
    obtain ⟨hmem,hkey,hpriority⟩ := reached_eq_some hfront hreached
    obtain ⟨hconnection,-,-⟩ := s.server.sendResponse_registry c message
    dsimp only [Option.elim_some]
    intro x hx
    have hid : (((s.server.sendResponse c message).setConnection c fun conn =>
        { conn with ready := true }).connection x).deviceId = (s.server.connection x).deviceId := by
      have hsame := (s.server.sendResponse c message).setConnection_deviceId c x
        (f := fun conn => { conn with ready := true }) fun _ => rfl
      rw [hsame, hconnection]
    by_cases hxc : x = c
    · subst hxc
      have hanswer : s.server.answeredOK x = true ∨ s.frontAccepts = true := by
        simpa [acceptsFirst, hreached] using hfirst
      obtain hanswered | hfrontAccepts := hanswer
      · exact Server.answeredOK_mono hanswered hid (s.server.sendResponse_subset x message)
      · obtain ⟨deviceId,hdeviceId,hsame⟩ := Option.map_eq_some_iff.mp hkey
        have haccepts : acceptsConnect deviceId message = true := by
          simp only [frontAccepts, hfront] at hfrontAccepts
          split at hfrontAccepts
          · rename_i device _ hmessage
            obtain ⟨⟨rfl⟩,-⟩ := hmessage
            have hsamePriority : deviceId.priority = device.priority := by
              rw [Server.getPriority, hdeviceId] at hpriority
              exact hpriority
            have hsameKey : device.isSame deviceId = true := DeviceIdentification.isSame_iff.mpr hsame.symm
            simp only [acceptsConnect, hsameKey, hsamePriority, beq_self_eq_true, Bool.and_self]
          · cases hfrontAccepts
        rw [Server.answeredOK, hid, hdeviceId, Option.any_some, List.any_eq_true]
        refine ⟨(x,message),?_,by simpa using haccepts⟩
        have hwritten : (s.server.sendResponse x message).responses = s.server.responses ++ [(x,message)] := by
          rw [Server.sendResponse, if_pos (hs.entries x hmem)]
        exact hwritten ▸ List.mem_append_right _ (List.mem_singleton_self _)
    · refine Server.answeredOK_mono (hs.ready x ?_) hid (s.server.sendResponse_subset c message)
      simpa only [Server.setConnection, Function.update_of_ne hxc, hconnection] using hx

/-- Only the cleanup of a connection itself meets one without an identification. -/
theorem Answering.handled (hs : s.Answering) {c : ConnId} (hc : s.phase c = .reading) (r : Bool × Server β)
    (hentries : r.2.Open) (hready : r.2.ReadyAnswered)
    (hother : ∀ x, (r.2.connection x).deviceId = none → (s.server.connection x).deviceId = none ∧
      (r.2.connection x).socketOpen = (s.server.connection x).socketOpen) : (s.handled c r).Answering := by
  refine ⟨hentries,fun x hid hphase => ?_,hready⟩
  obtain ⟨hbefore,hsocket⟩ := hother x hid
  refine hsocket.trans (hs.unidentified x hbefore ?_)
  by_cases hxc : x = c
  · rw [hxc, hc]
    exact Phase.noConfusion
  · exact fun h => hphase ((setPhase_phase_of_ne _ hxc _).trans h)

/-- A handler that goes on and is not past its cleanup. -/
theorem Answering.setPhase (hs : s.Answering) {c : ConnId} (p : Phase) (hphase : s.phase c ≠ .closed) :
    (s.setPhase c p).Answering := by
  refine ⟨hs.entries,fun x hid hopen => hs.unidentified x hid ?_,hs.ready⟩
  by_cases hxc : x = c
  · exact hxc ▸ hphase
  · exact fun h => hopen ((setPhase_phase_of_ne s hxc p).trans h)

theorem Answering.handled_connect (hs : s.Answering) (hsteady : s.Steady) {c : ConnId} (hc : s.phase c = .reading)
    (deviceId : DeviceIdentification) : (s.handled c (s.server.handleConnection c deviceId)).Answering := by
  cases hready : (s.server.connection c).ready with
  | true =>
    rw [handleConnection_of_ready hready]
    exact hs.handled hc _ hs.entries hs.ready fun _ hid => ⟨hid,rfl⟩
  | false =>
    have hunidentified := hsteady.deviceId_eq_none hc hready
    have hmem := hsteady.registry.not_mem hunidentified
    have hopen := hs.unidentified c hunidentified (by rw [hc]; exact Phase.noConfusion)
    have hconn := Server.handleConnection_connection hready deviceId
    refine hs.handled hc _ (hs.entries.handleConnection hsteady.registry hready hopen hmem deviceId)
      (hs.ready.keeps (fun x hx => ?_) (Server.handleConnection_subset hready deviceId)) fun x hid => ?_
    · have hbefore : (s.server.connection x).ready = true := (hconn x).2.1.symm.trans hx
      have hxc : x ≠ c := by
        rintro rfl
        exact Bool.noConfusion (hready.symm.trans hbefore)
      exact ⟨hbefore,(hconn x).1.trans (if_neg fun h => hxc h.1)⟩
    · rw [(hconn x).1] at hid
      split at hid
      · cases hid
      · refine ⟨hid,(hconn x).2.2 fun hholder => ?_⟩
        have hsome := hsteady.registry.identified x (Server.holder_mem hholder).1
        rw [hid] at hsome
        exact Bool.false_ne_true hsome

theorem Answering.step {a : SystemAction β} (hs : s.Answering) (hsteady : s.Steady) (ha : s.acceptsFirst a = true)
    (ht : s.systemStep a = some t) : t.Answering := by
  cases a with
  | connect c deviceId =>
    obtain ⟨hc,rfl⟩ := Option.ite_some_none_eq_some.mp ht
    exact hs.handled_connect hsteady hc deviceId
  | status c status =>
    obtain ⟨hc,rfl⟩ := Option.ite_some_none_eq_some.mp ht
    obtain ⟨hlist,hconn⟩ := handleStatus_registry s.server c status
    refine hs.handled hc _ (hs.entries.congr hlist fun x => (hconn x).2.1)
      (hs.ready.keeps (fun x hx => ⟨Server.handleStatus_ready c x status hx,(hconn x).1⟩) ?_)
      fun x hid => ⟨(hconn x).1.symm.trans hid,(hconn x).2.1⟩
    rw [Server.handleStatus_responses]
    exact List.Subset.refl _
  | fail c =>
    obtain ⟨hc,rfl⟩ := Option.ite_some_none_eq_some.mp ht
    exact hs.setPhase _ (by rw [hc]; exact Phase.noConfusion)
  | responded c =>
    obtain ⟨⟨hc,-⟩,rfl⟩ := Option.ite_some_none_eq_some.mp ht
    exact hs.setPhase _ (by rw [hc]; exact Phase.noConfusion)
  | timeout c =>
    obtain ⟨⟨hc,-⟩,rfl⟩ := Option.ite_some_none_eq_some.mp ht
    exact hs.setPhase _ (by rw [hc]; exact Phase.noConfusion)
  | cleanup c =>
    obtain ⟨-,rfl⟩ := Option.ite_some_none_eq_some.mp ht
    have hid := s.server.removeConnFromMap_deviceId c
    refine ⟨hs.entries.removeConnFromMap hsteady.registry c,fun x hx hphase => ?_,?_⟩
    · have hxc : x ≠ c := by
        rintro rfl
        exact hphase (Function.update_self ..)
      have hsame := Server.removeConnFromMap_connection_of_ne s.server hxc
      refine (congrArg Connection.socketOpen hsame).trans (hs.unidentified x ((hid x).symm.trans hx) ?_)
      exact fun h => hphase ((setPhase_phase_of_ne _ hxc _).trans h)
    · refine hs.ready.keeps (fun x hx => ⟨(s.server.removeConnFromMap_ready c x).symm.trans hx,hid x⟩) ?_
      exact (s.server.removeConnFromMap_registry c).2.2 ▸ List.Subset.refl _
  | push message =>
    obtain rfl := Option.some.inj ht
    exact ⟨hs.entries,hs.unidentified,hs.ready⟩
  | listen =>
    rw [systemStep] at ht
    split at ht
    · cases ht
    · rename_i deviceId rest hfront
      obtain rfl := Option.some.inj ht
      have hconn := handleDisconnect_connection s.server deviceId
      refine ⟨hs.entries.handleDisconnect hsteady.registry deviceId,fun x hx hphase => ?_,?_⟩
      · have hid := (hconn x).1.symm.trans hx
        have hholder : s.server.holder deviceId.key ≠ some x := by
          intro hholder
          have hsome := hsteady.registry.identified x (Server.holder_mem hholder).1
          rw [hid] at hsome
          exact Bool.false_ne_true hsome
        exact (congrArg Connection.socketOpen ((hconn x).2.2 hholder)).trans (hs.unidentified x hid hphase)
      · refine hs.ready.keeps (fun x hx => ⟨(hconn x).2.1.symm.trans hx,(hconn x).1⟩) ?_
        rw [Server.handleDisconnect_responses]
        exact List.Subset.refl _
    · rename_i message rest hfront
      obtain rfl := Option.some.inj ht
      obtain ⟨hlist,hconn⟩ := validateResponse_registry s.server message
      refine ⟨hs.entries.congr hlist fun x => (hconn x).2.1,fun x hx hphase => ?_,
        hs.validateResponse hfront ha⟩
      exact (hconn x).2.1.trans (hs.unidentified x ((hconn x).1.symm.trans hx) hphase)

end System

/-! ## Runs of the gateway -/

namespace Gateway
variable {s t : Gateway β}

def acceptsFirst (s : Gateway β) : GatewayAction β → Bool
  | .server a => s.system.acceptsFirst a
  | .handler _ _ => true

/-- A device of a module that is not loaded connects and is refused. -/
def refused : List (GatewayAction (List UInt8)) :=
  [.server (.connect 0 ⟨7,2,"cam","a",5⟩)] ++ messages 5 ++ [.server .listen,.server (.responded 0)]

end Gateway

end ModuleGateway.InternalServer
