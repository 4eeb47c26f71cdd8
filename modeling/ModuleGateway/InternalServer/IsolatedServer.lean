import ModuleGateway.InternalServer.ConnectTrace
import ModuleGateway.InternalServer.Replies
import ModuleGateway.Modules.IsolatedHandler

/-! # The connections of one device

An Internal Server in which only one device connects, next to one to which others connect too. A
message of the Module Handler and a removal find their connection by identity, so the connections of
the device are the same on both sides, and what is written to them.
-/
namespace ModuleGateway.InternalServer
open Structures Execution Modules

variable {β : Type}

namespace Server
variable {s t : Server β} {k : DeviceKey} {seen : ConnId → Prop}

/-- What was written to a connection. -/
def responsesTo (s : Server β) (c : ConnId) : List (Structures.InternalServer β) :=
  (s.responses.filter fun response => response.1 = c).map Prod.snd

/-- `t` has no entry but those of `k`; `seen` are the connections that are the same on both sides. -/
structure Isolates (k : DeviceKey) (seen : ConnId → Prop) (s t : Server β) : Prop where
  named : ∀ c, s.keyOf c = some k → seen c
  mine : ∀ c, seen c → s.keyOf c = none ∨ s.keyOf c = some k
  connection : ∀ c, seen c → t.connection c = s.connection c
  entries : t.connectedDevices_ = s.connectedDevices_.filter fun c => s.keyOf c = some k
  incoming : t.fromInternalQueue_ = s.fromInternalQueue_.filter fun message => subject message = some k
  responses : ∀ c, seen c → t.responsesTo c = s.responsesTo c

namespace Isolates

theorem keyOf (h : s.Isolates k seen t) {c : ConnId} (hc : seen c) : t.keyOf c = s.keyOf c := by
  unfold Server.keyOf
  rw [h.connection c hc]

theorem getPriority (h : s.Isolates k seen t) {c : ConnId} (hc : seen c) : t.getPriority c = s.getPriority c := by
  unfold Server.getPriority
  rw [h.connection c hc]

/-- The entry of the identity is the same. -/
theorem holder (h : s.Isolates k seen t) : t.holder k = s.holder k := by
  have hall : t.connectedDevices_.filter (fun c => t.keyOf c = some k) = t.connectedDevices_ := by
    rw [List.filter_eq_self]
    intro c hc
    rw [h.entries, List.mem_filter, decide_eq_true_eq] at hc
    rw [decide_eq_true_eq, h.keyOf (h.named c hc.2)]
    exact hc.2
  unfold Server.holder
  rw [← List.head?_filter, ← List.head?_filter, hall, h.entries]

theorem findConnection (h : s.Isolates k seen t) {deviceId : DeviceIdentification} (hk : deviceId.key = k) :
    t.findConnection deviceId = s.findConnection deviceId := by
  subst hk
  rw [findConnection_eq_holder, findConnection_eq_holder, h.holder]

/-- Fewer connections are compared. -/
theorem mono (h : s.Isolates k seen t) {seen' : ConnId → Prop} (hseen : ∀ c, seen' c → seen c)
    (hnamed : ∀ c, s.keyOf c = some k → seen' c) : s.Isolates k seen' t :=
  ⟨hnamed,fun c hc => h.mine c (hseen c hc),fun c hc => h.connection c (hseen c hc),h.entries,h.incoming,
    fun c hc => h.responses c (hseen c hc)⟩

/-- A change after which every connection has the identity that it had. -/
theorem change (h : s.Isolates k seen t) {s' t' : Server β} (hkey : s'.keyOf = s.keyOf)
    (hconnection : ∀ c, seen c → t'.connection c = s'.connection c)
    (hentries : t'.connectedDevices_ = s'.connectedDevices_.filter fun c => s.keyOf c = some k)
    (hincoming : t'.fromInternalQueue_ = s'.fromInternalQueue_.filter fun message => subject message = some k)
    (hresponses : ∀ c, seen c → t'.responsesTo c = s'.responsesTo c) : s'.Isolates k seen t' where
  named := by
    rw [hkey]
    exact h.named
  mine := by
    rw [hkey]
    exact h.mine
  connection := hconnection
  entries := by
    rw [hkey]
    exact hentries
  incoming := hincoming
  responses := hresponses

/-! ### Changes of a connection -/

/-- A change of one connection on both sides that keeps its identification. -/
theorem setConnection (h : s.Isolates k seen t) {c : ConnId} (hc : seen c) {f : Connection → Connection}
    (hf : ∀ conn, (f conn).deviceId = conn.deviceId) :
    (s.setConnection c f).Isolates k seen (t.setConnection c f) := by
  refine h.change (setConnection_keyOf s c hf) ?_ h.entries h.incoming h.responses
  intro x hx
  by_cases hxc : x = c
  · subst hxc
    simp only [Server.setConnection, Function.update_self, h.connection x hc]
  · simp only [Server.setConnection, Function.update_of_ne hxc]
    exact h.connection x hx

/-- A change of a connection that is not compared. -/
theorem setConnection_other (h : s.Isolates k seen t) {c : ConnId} (hc : ¬seen c) {f : Connection → Connection}
    (hf : ∀ conn, (f conn).deviceId = conn.deviceId) : (s.setConnection c f).Isolates k seen t := by
  refine h.change (setConnection_keyOf s c hf) ?_ h.entries h.incoming h.responses
  intro x hx
  have hxc : x ≠ c := by
    rintro rfl
    exact hc hx
  simp only [Server.setConnection, Function.update_of_ne hxc]
  exact h.connection x hx

theorem sendResponse (h : s.Isolates k seen t) {c : ConnId} (hc : seen c) (message : Structures.InternalServer β) :
    (s.sendResponse c message).Isolates k seen (t.sendResponse c message) := by
  unfold Server.sendResponse
  rw [h.connection c hc]
  split
  · refine ⟨h.named,h.mine,h.connection,h.entries,h.incoming,?_⟩
    intro x hx
    have hbefore := h.responses x hx
    unfold responsesTo at hbefore ⊢
    dsimp only
    rw [List.filter_append, List.map_append, List.filter_append, List.map_append, hbefore]
  · exact h

theorem sendResponse_other (h : s.Isolates k seen t) {c : ConnId} (hc : ¬seen c)
    (message : Structures.InternalServer β) : (s.sendResponse c message).Isolates k seen t := by
  unfold Server.sendResponse
  split
  · refine ⟨h.named,h.mine,h.connection,h.entries,h.incoming,?_⟩
    intro x hx
    have hxc : c ≠ x := by
      rintro rfl
      exact hc hx
    have hbefore := h.responses x hx
    unfold responsesTo at hbefore ⊢
    dsimp only
    rw [List.filter_append, List.filter_cons_of_neg (by simpa using hxc), List.filter_nil, List.append_nil]
    exact hbefore
  · exact h

/-! ### Removals -/

theorem removedBy (h : s.Isolates k seen t) {c : ConnId} (hk : s.keyOf c = some k) : t.removedBy c = s.removedBy c := by
  have hc := h.named c hk
  unfold Server.removedBy
  rw [h.connection c hc]
  cases hd : (s.connection c).deviceId with
  | none => rfl
  | some deviceId =>
    have hkey : deviceId.key = k := by
      unfold Server.keyOf at hk
      rw [hd] at hk
      exact Option.some.inj hk
    subst hkey
    rw [Option.bind_some, Option.bind_some, h.holder]
    cases hholder : s.holder deviceId.key with
    | none => rfl
    | some e => rw [Option.bind_some, Option.bind_some, h.getPriority (h.named e (holder_mem hholder).2)]

/-- A connection of the device is removed. -/
theorem removeConnFromMap (h : s.Isolates k seen t) {c : ConnId} (hk : s.keyOf c = some k) :
    (s.removeConnFromMap c).Isolates k seen (t.removeConnFromMap c) := by
  have hc := h.named c hk
  obtain ⟨hentries,hqueue,hresponses⟩ := s.removeConnFromMap_registry c
  obtain ⟨hentries',hqueue',hresponses'⟩ := t.removeConnFromMap_registry c
  rw [h.removedBy hk] at hentries' hqueue'
  rw [h.connection c hc] at hqueue'
  refine h.change (funext fun x => s.removeConnFromMap_keyOf c x) ?_ ?_ ?_ ?_
  · intro x hx
    rw [removeConnFromMap_connection, removeConnFromMap_connection]
    by_cases hxc : x = c
    · subst hxc
      rw [Function.update_self, Function.update_self, h.connection x hc]
    · rw [Function.update_of_ne hxc, Function.update_of_ne hxc, h.connection x hx]
  · rw [hentries, hentries', h.entries]
    cases s.removedBy c with
    | none => rfl
    | some e => exact List.erase_filter
  · rw [hqueue, hqueue', h.incoming, List.filter_append]
    congr 1
    cases s.removedBy c with
    | none => rfl
    | some e =>
      cases hd : (s.connection c).deviceId with
      | none => rfl
      | some deviceId =>
        unfold Server.keyOf at hk
        rw [hd] at hk
        refine Eq.symm (List.filter_cons_of_pos ?_)
        exact decide_eq_true hk
  · intro x hx
    have hbefore := h.responses x hx
    unfold responsesTo at hbefore ⊢
    rw [hresponses, hresponses']
    exact hbefore

/-- A connection of another device is removed. -/
theorem removeConnFromMap_other (h : s.Isolates k seen t) {c : ConnId} (hk : s.keyOf c ≠ some k) (hc : ¬seen c) :
    (s.removeConnFromMap c).Isolates k seen t := by
  obtain ⟨hentries,hqueue,hresponses⟩ := s.removeConnFromMap_registry c
  refine h.change (funext fun x => s.removeConnFromMap_keyOf c x) ?_ ?_ ?_ ?_
  · intro x hx
    have hxc : x ≠ c := by
      rintro rfl
      exact hc hx
    rw [removeConnFromMap_connection_of_ne s hxc]
    exact h.connection x hx
  · rw [hentries, h.entries]
    cases hremoved : s.removedBy c with
    | none => rfl
    | some e =>
      have he : s.keyOf e ≠ some k := by
        rw [(removedBy_mem hremoved).2.1]
        exact hk
      dsimp only
      rw [← List.erase_filter, List.erase_of_not_mem]
      intro hmem
      exact he (by simpa using (List.mem_filter.mp hmem).2)
  · rw [hqueue, h.incoming, List.filter_append]
    refine ((List.append_nil _).symm.trans ?_)
    congr 1
    cases s.removedBy c with
    | none => rfl
    | some e =>
      cases hd : (s.connection c).deviceId with
      | none => rfl
      | some deviceId =>
        unfold Server.keyOf at hk
        rw [hd] at hk
        refine Eq.symm (List.filter_cons_of_neg ?_)
        rw [decide_eq_true_eq]
        exact hk
  · intro x hx
    have hbefore := h.responses x hx
    unfold responsesTo at hbefore ⊢
    rw [hresponses]
    exact hbefore

/-- A connection that has the identity of another device. -/
theorem not_seen (h : s.Isolates k seen t) {c : ConnId} {j : DeviceKey} (hj : s.keyOf c = some j) (hne : j ≠ k) :
    ¬seen c := by
  intro hc
  obtain hnone | hmine := h.mine c hc
  · rw [hnone] at hj
    cases hj
  · rw [hmine] at hj
    exact hne (Option.some.inj hj).symm

/-! ### Registrations -/

/-- A connection registers as the device. -/
theorem connectNewDevice (h : s.Isolates k seen t) {c : ConnId} (hc : seen c) (hmem : c ∉ s.connectedDevices_)
    {deviceId : DeviceIdentification} (hk : deviceId.key = k) :
    (s.connectNewDevice c deviceId).Isolates k seen (t.connectNewDevice c deviceId) := by
  have hkey := fun x => s.connectNewDevice_keyOf c x deviceId
  refine ⟨?_,?_,?_,?_,?_,h.responses⟩
  · intro x hx
    rw [hkey] at hx
    split at hx
    · rename_i hxc
      rw [hxc]
      exact hc
    · exact h.named x hx
  · intro x hx
    rw [hkey]
    split
    · exact .inr (congrArg some hk)
    · exact h.mine x hx
  · intro x hx
    rw [connectNewDevice_connection, connectNewDevice_connection, h.connection x hx]
  · have hkept : s.connectedDevices_.filter (fun x => (s.connectNewDevice c deviceId).keyOf x = some k) =
        s.connectedDevices_.filter fun x => s.keyOf x = some k := by
      refine List.filter_congr ?_
      intro x hx
      rw [hkey, if_neg]
      rintro rfl
      exact hmem hx
    have hnew : (s.connectNewDevice c deviceId).keyOf c = some k := by
      rw [hkey, if_pos rfl, hk]
    change t.connectedDevices_ ++ [c] = (s.connectedDevices_ ++ [c]).filter _
    rw [List.filter_append, hkept, h.entries]
    congr 1
    refine Eq.symm (List.filter_cons_of_pos ?_)
    exact decide_eq_true hnew
  · change t.fromInternalQueue_ ++ _ = (s.fromInternalQueue_ ++ _).filter _
    rw [List.filter_append, h.incoming]
    congr 1
    refine Eq.symm (List.filter_cons_of_pos ?_)
    exact decide_eq_true (congrArg some hk)

/-- A connection registers as another device, and is not compared any more. -/
theorem connectNewDevice_other (h : s.Isolates k seen t) {c : ConnId} (hmem : c ∉ s.connectedDevices_)
    {deviceId : DeviceIdentification} (hk : deviceId.key ≠ k) :
    (s.connectNewDevice c deviceId).Isolates k (fun x => seen x ∧ x ≠ c) t := by
  have hkey := fun x => s.connectNewDevice_keyOf c x deviceId
  have hne : ∀ x, (s.connectNewDevice c deviceId).keyOf x = some k → x ≠ c ∧ s.keyOf x = some k := by
    intro x hx
    rw [hkey] at hx
    split at hx
    · exact absurd (Option.some.inj hx) hk
    · rename_i hxc
      exact ⟨hxc,hx⟩
  refine ⟨?_,?_,?_,?_,?_,fun x hx => h.responses x hx.1⟩
  · intro x hx
    exact ⟨h.named x (hne x hx).2,(hne x hx).1⟩
  · intro x hx
    rw [hkey, if_neg hx.2]
    exact h.mine x hx.1
  · intro x hx
    rw [connectNewDevice_connection, if_neg hx.2]
    exact h.connection x hx.1
  · have hkept : s.connectedDevices_.filter (fun x => (s.connectNewDevice c deviceId).keyOf x = some k) =
        s.connectedDevices_.filter fun x => s.keyOf x = some k := by
      refine List.filter_congr ?_
      intro x hx
      rw [hkey, if_neg]
      rintro rfl
      exact hmem hx
    change t.connectedDevices_ = (s.connectedDevices_ ++ [c]).filter _
    rw [List.filter_append, hkept, h.entries]
    refine (List.append_nil _).symm.trans ?_
    congr 1
    refine Eq.symm (List.filter_cons_of_neg ?_)
    rw [decide_eq_true_eq]
    exact fun hc => (hne c hc).1 rfl
  · change t.fromInternalQueue_ = (s.fromInternalQueue_ ++ _).filter _
    rw [List.filter_append, h.incoming]
    refine (List.append_nil _).symm.trans ?_
    congr 1
    refine Eq.symm (List.filter_cons_of_neg ?_)
    rw [decide_eq_true_eq]
    exact fun hsubject => hk (Option.some.inj hsubject)

/-- A connect message of a connection that has the identity, or wants it. -/
theorem handleConnection (h : s.Isolates k seen t) {c : ConnId} (hc : seen c)
    {deviceId : DeviceIdentification} (hmem : (s.connection c).ready = false → c ∉ s.connectedDevices_)
    (hk : (s.connection c).ready = false → deviceId.key = k) :
    (t.handleConnection c deviceId).1 = (s.handleConnection c deviceId).1 ∧
      (s.handleConnection c deviceId).2.Isolates k seen (t.handleConnection c deviceId).2 := by
  unfold Server.handleConnection
  rw [h.connection c hc]
  split
  · exact ⟨rfl,h⟩
  · rename_i hready
    rw [Bool.not_eq_true] at hready
    have hkey := hk hready
    rw [h.findConnection hkey]
    cases hfound : s.findConnection deviceId with
    | none => exact ⟨rfl,h.connectNewDevice hc (hmem hready) hkey⟩
    | some existing =>
      have hexisting : s.keyOf existing = some k := by
        rw [findConnection_eq_holder, hkey] at hfound
        exact (holder_mem hfound).2
      dsimp only
      rw [h.getPriority (h.named existing hexisting)]
      split
      · exact ⟨rfl,h.sendResponse hc _⟩
      · split
        · exact ⟨rfl,h.sendResponse hc _⟩
        · refine ⟨rfl,?_⟩
          unfold Server.changeConnection
          rw [h.findConnection hkey, hfound]
          exact (h.removeConnFromMap hexisting).connectNewDevice hc
            (Registry.not_mem_removeConnFromMap (hmem hready) existing) hkey

/-- A connect message of a connection that has another identity, or wants one. -/
theorem handleConnection_other (h : s.Isolates k seen t) {c : ConnId} (hc : s.keyOf c ≠ some k)
    {deviceId : DeviceIdentification} (hmem : (s.connection c).ready = false → c ∉ s.connectedDevices_)
    (hk : (s.connection c).ready = false → deviceId.key ≠ k) :
    (s.handleConnection c deviceId).2.Isolates k (fun x => seen x ∧ x ≠ c) t := by
  have hleft : s.Isolates k (fun x => seen x ∧ x ≠ c) t := by
    refine h.mono (fun _ hx => hx.1) ?_
    intro x hx
    refine ⟨h.named x hx,?_⟩
    rintro rfl
    exact hc hx
  have hnot : ¬(seen c ∧ c ≠ c) := fun hseen => hseen.2 rfl
  unfold Server.handleConnection
  split
  · exact hleft
  · rename_i hready
    rw [Bool.not_eq_true] at hready
    cases hfound : s.findConnection deviceId with
    | none => exact h.connectNewDevice_other (hmem hready) (hk hready)
    | some existing =>
      have hexisting : s.keyOf existing = some deviceId.key := by
        rw [findConnection_eq_holder] at hfound
        exact (holder_mem hfound).2
      dsimp only
      split
      · exact hleft.sendResponse_other hnot _
      · split
        · exact hleft.sendResponse_other hnot _
        · unfold Server.changeConnection
          rw [hfound]
          have hremoved := h.removeConnFromMap_other (by rw [hexisting]; exact fun he => hk hready (Option.some.inj he))
            (h.not_seen hexisting (hk hready))
          exact hremoved.connectNewDevice_other (Registry.not_mem_removeConnFromMap (hmem hready) existing) (hk hready)

/-! ### Statuses and messages of the Module Handler -/

theorem handleStatus (h : s.Isolates k seen t) {c : ConnId} (hc : seen c) {status : DeviceStatus β}
    (hk : (s.connection c).ready = true → status.device.key = k) :
    (t.handleStatus c status).1 = (s.handleStatus c status).1 ∧
      (s.handleStatus c status).2.Isolates k seen (t.handleStatus c status).2 := by
  unfold Server.handleStatus
  rw [h.connection c hc]
  split
  · rename_i hready
    have hpushed : ({ s with
        fromInternalQueue_ := s.fromInternalQueue_ ++ [.message false (.deviceStatus status)] } : Server β).Isolates k seen
        { t with fromInternalQueue_ := t.fromInternalQueue_ ++ [.message false (.deviceStatus status)] } := by
      refine ⟨h.named,h.mine,h.connection,h.entries,?_,h.responses⟩
      dsimp only
      rw [List.filter_append, h.incoming]
      congr 1
      refine Eq.symm (List.filter_cons_of_pos ?_)
      exact decide_eq_true (congrArg some (hk hready))
    refine ⟨rfl,?_⟩
    dsimp only
    exact hpushed.setConnection hc fun _ => rfl
  · exact ⟨rfl,h⟩

theorem handleStatus_other (h : s.Isolates k seen t) {c : ConnId} (hc : (s.connection c).ready = true → ¬seen c)
    {status : DeviceStatus β} (hk : (s.connection c).ready = true → status.device.key ≠ k) :
    (s.handleStatus c status).2.Isolates k seen t := by
  unfold Server.handleStatus
  split
  · rename_i hready
    have hpushed : ({ s with
        fromInternalQueue_ := s.fromInternalQueue_ ++ [.message false (.deviceStatus status)] } : Server β).Isolates k seen
        t := by
      refine ⟨h.named,h.mine,h.connection,h.entries,?_,h.responses⟩
      dsimp only
      rw [List.filter_append, h.incoming]
      refine (List.append_nil _).symm.trans ?_
      congr 1
      refine Eq.symm (List.filter_cons_of_neg ?_)
      rw [decide_eq_true_eq]
      exact fun hsubject => hk hready (Option.some.inj hsubject)
    dsimp only
    exact hpushed.setConnection_other (hc hready) fun _ => rfl
  · exact h

theorem handleDisconnect (h : s.Isolates k seen t) {deviceId : DeviceIdentification} (hk : deviceId.key = k) :
    (s.handleDisconnect deviceId).Isolates k seen (t.handleDisconnect deviceId) := by
  unfold Server.handleDisconnect
  rw [h.findConnection hk]
  cases hfound : s.findConnection deviceId with
  | none => exact h
  | some c =>
    rw [findConnection_eq_holder, hk] at hfound
    exact h.removeConnFromMap (holder_mem hfound).2

theorem handleDisconnect_other (h : s.Isolates k seen t) {deviceId : DeviceIdentification} (hk : deviceId.key ≠ k) :
    (s.handleDisconnect deviceId).Isolates k seen t := by
  unfold Server.handleDisconnect
  cases hfound : s.findConnection deviceId with
  | none => exact h
  | some c =>
    rw [findConnection_eq_holder] at hfound
    have hkey := (holder_mem hfound).2
    exact h.removeConnFromMap_other (by rw [hkey]; exact fun he => hk (Option.some.inj he)) (h.not_seen hkey hk)

theorem validateResponse (h : s.Isolates k seen t) {message : Structures.InternalServer β}
    (hk : (addressee message).key = k) : (s.validateResponse message).Isolates k seen (t.validateResponse message) := by
  unfold Server.validateResponse
  rw [h.findConnection hk]
  cases hfound : s.findConnection (addressee message) with
  | none => exact h
  | some c =>
    rw [findConnection_eq_holder, hk] at hfound
    have hc := h.named c (holder_mem hfound).2
    dsimp only
    rw [h.getPriority hc]
    split
    · exact (h.sendResponse hc message).setConnection hc fun _ => rfl
    · exact h

theorem validateResponse_other (h : s.Isolates k seen t) {message : Structures.InternalServer β}
    (hk : (addressee message).key ≠ k) : (s.validateResponse message).Isolates k seen t := by
  unfold Server.validateResponse
  cases hfound : s.findConnection (addressee message) with
  | none => exact h
  | some c =>
    rw [findConnection_eq_holder] at hfound
    have hc := h.not_seen (holder_mem hfound).2 hk
    dsimp only
    split
    · exact (h.sendResponse_other hc message).setConnection_other hc fun _ => rfl
    · exact h

/-- A connection that has not the identity is not compared any more. -/
theorem without (h : s.Isolates k seen t) {c : ConnId} (hc : s.keyOf c ≠ some k) :
    s.Isolates k (fun x => seen x ∧ x ≠ c) t := by
  refine h.mono (fun _ hx => hx.1) ?_
  intro x hx
  refine ⟨h.named x hx,?_⟩
  rintro rfl
  exact hc hx

end Isolates

end Server

/-! ## The connections and their handlers -/

/-- The connection whose handler takes the step. -/
def SystemAction.actor : SystemAction β → Option ConnId
  | .connect c _ | .status c _ | .fail c | .responded c | .timeout c | .cleanup c => some c
  | .push _ | .listen => none

namespace System
variable {s t s' : System β} {k : DeviceKey} {a : SystemAction β}

/-- Nothing was sent for a connection without an identification, and its handler does not wait. -/
structure Identified (s : System β) : Prop where
  ready : ∀ c, s.server.keyOf c = none → (s.server.connection c).ready = false
  waiting : ∀ c, s.server.keyOf c = none → s.phase c ≠ .waiting

/-- What a step does to connections that have no identification after it. -/
structure Fresh (s s' : System β) (a : SystemAction β) (c : ConnId) : Prop where
  keyOf : s.server.keyOf c = none
  ready : (s'.server.connection c).ready = (s.server.connection c).ready
  phase : a.actor ≠ some c → s'.phase c = s.phase c
  actor : a.actor = some c → s'.phase c ≠ .reading ∧ s'.phase c ≠ .waiting

theorem Identified.init : (System.init : System β).Identified := ⟨fun _ _ => rfl,fun _ _ => nofun⟩

theorem keyOf_eq_none_iff {server : Server β} {c : ConnId} :
    server.keyOf c = none ↔ (server.connection c).deviceId = none := by
  unfold Server.keyOf
  exact Option.map_eq_none_iff

/-- A handler that moves on, of a connection without an identification or of another one. -/
theorem fresh_setPhase {server : Server β} {c x : ConnId} {p : Phase} (hactor : a.actor = some c)
    (hkey : s.server.keyOf x = none) (hready : (server.connection x).ready = (s.server.connection x).ready)
    (hp : x = c → p ≠ .reading ∧ p ≠ .waiting) : Fresh s ({ s with server := server }.setPhase c p) a x := by
  refine ⟨hkey,hready,?_,?_⟩
  · intro hne
    refine setPhase_phase_of_ne { s with server := server } ?_ p
    rintro rfl
    exact hne hactor
  · intro hx
    obtain rfl : c = x := Option.some.inj (hactor.symm.trans hx)
    have hself : ({ s with server := server }.setPhase c p).phase c = p := Function.update_self ..
    rw [hself]
    exact hp rfl

theorem closing_idle : Phase.closing ≠ .reading ∧ Phase.closing ≠ .waiting := ⟨nofun,nofun⟩

theorem fresh_step (hs : s.Identified) (ht : s.systemStep a = some s') {x : ConnId} (hx : s'.server.keyOf x = none) :
    Fresh s s' a x := by
  cases a with
  | connect c deviceId =>
    obtain ⟨hc,rfl⟩ := Option.ite_some_none_eq_some.mp ht
    have hx' := keyOf_eq_none_iff.mp hx
    change ((s.server.handleConnection c deviceId).2.connection x).deviceId = none at hx'
    cases hready : (s.server.connection c).ready with
    | true =>
      unfold handled
      rw [handleConnection_of_ready hready] at hx' ⊢
      exact fresh_setPhase rfl (keyOf_eq_none_iff.mpr hx') rfl fun _ => closing_idle
    | false =>
      obtain ⟨hid,hsame,-⟩ := Server.handleConnection_connection hready deviceId x
      rw [hx'] at hid
      split at hid
      · cases hid
      · rename_i hnot
        refine fresh_setPhase rfl (keyOf_eq_none_iff.mpr hid.symm) hsame ?_
        rintro rfl
        have hrefused : (s.server.handleConnection x deviceId).1 = false := by
          rw [← Bool.not_eq_true]
          exact fun haccepted => hnot ⟨rfl,haccepted⟩
        rw [hrefused]
        exact closing_idle
  | status c status =>
    obtain ⟨hc,rfl⟩ := Option.ite_some_none_eq_some.mp ht
    obtain ⟨-,hconn⟩ := handleStatus_registry s.server c status
    have hx' := keyOf_eq_none_iff.mp hx
    change ((s.server.handleStatus c status).2.connection x).deviceId = none at hx'
    rw [(hconn x).1] at hx'
    have hnone : s.server.keyOf x = none := keyOf_eq_none_iff.mpr hx'
    by_cases hxc : x = c
    · subst hxc
      have hrefused : s.server.handleStatus x status = (false,s.server) := by
        unfold Server.handleStatus
        rw [hs.ready x hnone]
        exact if_neg Bool.false_ne_true
      unfold handled
      rw [hrefused]
      exact fresh_setPhase rfl hnone rfl fun _ => closing_idle
    · exact fresh_setPhase rfl hnone ((hconn x).2.2 hxc) fun hxc' => absurd hxc' hxc
  | fail c =>
    obtain ⟨-,rfl⟩ := Option.ite_some_none_eq_some.mp ht
    exact fresh_setPhase rfl hx rfl fun _ => closing_idle
  | responded c =>
    obtain ⟨⟨hwaiting,-⟩,rfl⟩ := Option.ite_some_none_eq_some.mp ht
    refine fresh_setPhase rfl hx rfl ?_
    rintro rfl
    exact absurd hwaiting (hs.waiting x hx)
  | timeout c =>
    obtain ⟨-,rfl⟩ := Option.ite_some_none_eq_some.mp ht
    exact fresh_setPhase rfl hx rfl fun _ => closing_idle
  | cleanup c =>
    obtain ⟨-,rfl⟩ := Option.ite_some_none_eq_some.mp ht
    have hnone : s.server.keyOf x = none := (s.server.removeConnFromMap_keyOf c x).symm.trans hx
    exact fresh_setPhase rfl hnone (s.server.removeConnFromMap_ready c x) fun _ => ⟨by rintro ⟨⟩,by rintro ⟨⟩⟩
  | push message =>
    cases ht
    exact ⟨hx,rfl,fun _ => rfl,by rintro ⟨⟩⟩
  | listen =>
    rw [systemStep] at ht
    split at ht
    · cases ht
    · rename_i deviceId _ _
      cases ht
      obtain ⟨hid,hready,-⟩ := handleDisconnect_connection s.server deviceId x
      have hx' := keyOf_eq_none_iff.mp hx
      exact ⟨keyOf_eq_none_iff.mpr (hid.symm.trans hx'),hready,fun _ => rfl,by rintro ⟨⟩⟩
    · rename_i message _ _
      cases ht
      have hid := ((validateResponse_registry s.server message).2 x).1
      have hx' := keyOf_eq_none_iff.mp hx
      have hnone : s.server.keyOf x = none := keyOf_eq_none_iff.mpr (hid.symm.trans hx')
      refine ⟨hnone,?_,fun _ => rfl,by rintro ⟨⟩⟩
      dsimp only
      unfold Server.validateResponse
      cases hfound : s.server.findConnection (Server.addressee message) with
      | none => rfl
      | some c =>
        rw [Server.findConnection_eq_holder] at hfound
        have hxc : x ≠ c := by
          rintro rfl
          rw [(Server.holder_mem hfound).2] at hnone
          cases hnone
        dsimp only
        split
        · simp only [Server.setConnection, Function.update_of_ne hxc]
          rw [(s.server.sendResponse_registry c message).1]
        · rfl

theorem Identified.step (hs : s.Identified) (ht : s.systemStep a = some s') : s'.Identified where
  ready c hc := by
    have hfresh := fresh_step hs ht hc
    rw [hfresh.ready]
    exact hs.ready c hfresh.keyOf
  waiting c hc := by
    have hfresh := fresh_step hs ht hc
    by_cases hactor : a.actor = some c
    · exact (hfresh.actor hactor).2
    · rw [hfresh.phase hactor]
      exact hs.waiting c hfresh.keyOf

/-- An identification is only given by a connect message. -/
theorem keyOf_step (ht : s.systemStep a = some s') {x : ConnId} (hx : ∀ deviceId, a ≠ .connect x deviceId) :
    s'.server.keyOf x = s.server.keyOf x := by
  refine congrArg (Option.map DeviceIdentification.key) ?_
  cases a with
  | connect c deviceId =>
    obtain ⟨-,rfl⟩ := Option.ite_some_none_eq_some.mp ht
    have hxc : x ≠ c := by
      rintro rfl
      exact hx deviceId rfl
    cases hready : (s.server.connection c).ready with
    | true => exact congrArg (fun r => (r.2.connection x).deviceId) (handleConnection_of_ready hready deviceId)
    | false => exact (Server.handleConnection_connection hready deviceId x).1.trans (if_neg fun h => hxc h.1)
  | status c status =>
    obtain ⟨-,rfl⟩ := Option.ite_some_none_eq_some.mp ht
    exact ((handleStatus_registry s.server c status).2 x).1
  | fail c =>
    obtain ⟨-,rfl⟩ := Option.ite_some_none_eq_some.mp ht
    rfl
  | responded c =>
    obtain ⟨-,rfl⟩ := Option.ite_some_none_eq_some.mp ht
    rfl
  | timeout c =>
    obtain ⟨-,rfl⟩ := Option.ite_some_none_eq_some.mp ht
    rfl
  | cleanup c =>
    obtain ⟨-,rfl⟩ := Option.ite_some_none_eq_some.mp ht
    exact s.server.removeConnFromMap_deviceId c x
  | push message =>
    cases ht
    rfl
  | listen =>
    rw [systemStep] at ht
    split at ht
    · cases ht
    · rename_i deviceId _ _
      cases ht
      exact (handleDisconnect_connection s.server deviceId x).1
    · rename_i message _ _
      cases ht
      exact ((validateResponse_registry s.server message).2 x).1

/-- A connection keeps its identity. -/
theorem keyOf_kept (hsteady : s.Steady) (ht : s.systemStep a = some s') {x : ConnId} (hx : s.server.keyOf x = some k) :
    s'.server.keyOf x = some k := by
  by_cases hconnect : ∃ deviceId, a = .connect x deviceId
  · obtain ⟨deviceId,rfl⟩ := hconnect
    obtain ⟨hc,rfl⟩ := Option.ite_some_none_eq_some.mp ht
    have hid : (s.server.connection x).deviceId ≠ none := by
      rw [Ne, ← keyOf_eq_none_iff, hx]
      rintro ⟨⟩
    have hsame := handleConnection_of_ready (hsteady.ready x hc hid) deviceId
    unfold handled
    rw [hsame]
    exact hx
  · rw [keyOf_step ht fun deviceId ha => hconnect ⟨deviceId,ha⟩]
    exact hx

/-! ## One device and all connections -/

/-- The connection has the identity, or may still get it. -/
def Seen (s : System β) (k : DeviceKey) (c : ConnId) : Prop :=
  s.server.keyOf c = some k ∨ s.server.keyOf c = none ∧ s.phase c = .reading

/-- `t` is `s` without the other devices. -/
structure Isolates (k : DeviceKey) (s t : System β) : Prop where
  server : s.server.Isolates k (s.Seen k) t.server
  known : ∀ c, t.server.keyOf c = some k → s.server.keyOf c = some k
  phase : ∀ c, s.Seen k c → t.phase c = s.phase c
  outgoing : t.toInternalQueue_ = s.toInternalQueue_.filter fun message => recipient message = k

/-- The step is one of the device: its connection or one that wants to be it, or a message for it. -/
def concerns (k : DeviceKey) (s : System β) : SystemAction β → Bool
  | .connect c deviceId => s.server.keyOf c = some k || (s.server.keyOf c).isNone && deviceId.key = k
  | .status c _ | .fail c | .responded c | .timeout c | .cleanup c => s.server.keyOf c = some k
  | .push message => recipient message = k
  | .listen => s.toInternalQueue_.head?.any fun message => recipient message = k

/-- A status that is accepted names the device exactly if its connection has the identity. -/
def namesItself (k : DeviceKey) (s : System β) : SystemAction β → Bool
  | .status c status =>
    !(s.server.connection c).ready || decide (s.server.keyOf c = some k) == decide (status.device.key = k)
  | _ => true

theorem Isolates.init : (System.init : System β).Isolates k System.init where
  server := ⟨nofun,fun _ _ => .inl rfl,fun _ _ => rfl,rfl,rfl,fun _ _ => rfl⟩
  known := nofun
  phase _ _ := rfl
  outgoing := rfl

/-- What is still seen after a step was seen before it, and is not of a handler that took the step for
another device. -/
theorem seen_of_seen (hs : s.Identified) (ht : s.systemStep a = some s') {seen : ConnId → Prop} {server : Server β}
    (hserver : s'.server.Isolates k seen server)
    (hseen : ∀ x, s.server.keyOf x = none → s.phase x = .reading → a.actor ≠ some x → seen x) {x : ConnId}
    (hx : s'.Seen k x) : seen x := by
  obtain hkey | ⟨hkey,hphase⟩ := hx
  · exact hserver.named x hkey
  · have hfresh := fresh_step hs ht hkey
    have hactor : a.actor ≠ some x := fun hactor => (hfresh.actor hactor).1 hphase
    exact hseen x hfresh.keyOf ((hfresh.phase hactor).symm.trans hphase) hactor

/-- A step that is taken where there is no other device too. -/
theorem Isolates.next (h : s.Isolates k t) (hs : s.Identified) (ht : s.systemStep a = some s') {t' : System β}
    (hserver : s'.server.Isolates k (s.Seen k) t'.server)
    (hkept : ∀ x, ¬s.Seen k x → t'.server.keyOf x = t.server.keyOf x)
    (hphase : ∀ x, s.Seen k x → t.phase x = s.phase x → t'.phase x = s'.phase x)
    (houtgoing : t'.toInternalQueue_ = s'.toInternalQueue_.filter fun message => recipient message = k) :
    s'.Isolates k t' := by
  have hseen : ∀ x, s'.Seen k x → s.Seen k x :=
    fun x hx => seen_of_seen hs ht hserver (fun x hkey hreading _ => .inr ⟨hkey,hreading⟩) hx
  refine ⟨hserver.mono hseen fun x hx => .inl hx,?_,?_,houtgoing⟩
  · intro x hx
    have hseen' : s.Seen k x := by
      by_contra hunseen
      rw [hkept x hunseen] at hx
      exact hunseen (.inl (h.known x hx))
    rw [← hserver.keyOf hseen']
    exact hx
  · intro x hx
    exact hphase x (hseen x hx) (h.phase x (hseen x hx))

/-- A step of the handler of another connection. -/
theorem Isolates.next_other (h : s.Isolates k t) (hs : s.Identified) (ht : s.systemStep a = some s') {c : ConnId}
    (hactor : a.actor = some c) (hkey : s.server.keyOf c ≠ some k)
    (hserver : s'.server.Isolates k (fun x => s.Seen k x ∧ x ≠ c) t.server)
    (hphase : ∀ x, x ≠ c → s'.phase x = s.phase x) (houtgoing : s'.toInternalQueue_ = s.toInternalQueue_) :
    s'.Isolates k t := by
  have hseen : ∀ x, s'.Seen k x → s.Seen k x ∧ x ≠ c := by
    intro x hx
    refine seen_of_seen hs ht hserver ?_ hx
    intro x hkey hreading hne
    refine ⟨.inr ⟨hkey,hreading⟩,?_⟩
    rintro rfl
    exact hne hactor
  refine ⟨hserver.mono hseen fun x hx => .inl hx,?_,?_,?_⟩
  · intro x hx
    have hx' := h.known x hx
    have hne : x ≠ c := by
      rintro rfl
      exact hkey hx'
    rw [← hserver.keyOf ⟨.inl hx',hne⟩]
    exact hx
  · intro x hx
    obtain ⟨hx',hne⟩ := hseen x hx
    rw [hphase x hne]
    exact h.phase x hx'
  · rw [houtgoing]
    exact h.outgoing

/-- Only connections that are seen get an identification where there is no other device. -/
theorem keyOf_unseen (hconcerns : concerns k s a = true) (ht : s.systemStep a = some s') {t' : System β}
    (ht' : t.systemStep a = some t') {x : ConnId} (hx : ¬s.Seen k x) : t'.server.keyOf x = t.server.keyOf x := by
  refine keyOf_step ht' ?_
  rintro deviceId rfl
  obtain ⟨hc,-⟩ := Option.ite_some_none_eq_some.mp ht
  have hcase : s.server.keyOf x = some k ∨ s.server.keyOf x = none ∧ deviceId.key = k := by
    simpa [concerns] using hconcerns
  exact hx (hcase.imp_right fun hcase => ⟨hcase.1,hc⟩)

theorem recipient_message (message : Structures.InternalServer β) :
    recipient (.message message) = (Server.addressee message).key := by
  cases message <;> rfl

/-- The handlers go on in the same way. -/
theorem setPhase_congr {server server' : Server β} {c x : ConnId} {p : Phase} (h : t.phase x = s.phase x) :
    ({ t with server := server' }.setPhase c p).phase x = ({ s with server := server }.setPhase c p).phase x := by
  by_cases hxc : x = c
  · subst hxc
    unfold setPhase
    dsimp only
    rw [Function.update_self, Function.update_self]
  · rw [setPhase_phase_of_ne _ hxc, setPhase_phase_of_ne _ hxc]
    exact h

theorem Isolates.connect (h : s.Isolates k t) (hs : s.Identified) (hsteady : s.Steady) {c : ConnId}
    {deviceId : DeviceIdentification} (hconcerns : concerns k s (.connect c deviceId) = true)
    (ht : s.systemStep (.connect c deviceId) = some s') :
    ∃ t', t.systemStep (.connect c deviceId) = some t' ∧ s'.Isolates k t' := by
  obtain ⟨hc,hhandled⟩ := Option.ite_some_none_eq_some.mp ht
  have hcase : s.server.keyOf c = some k ∨ s.server.keyOf c = none ∧ deviceId.key = k := by
    simpa [concerns] using hconcerns
  have hnone : (s.server.connection c).ready = false → s.server.keyOf c = none :=
    fun hready => keyOf_eq_none_iff.mpr (hsteady.deviceId_eq_none hc hready)
  have hseen : s.Seen k c := hcase.imp_right fun hcase => ⟨hcase.1,hc⟩
  have hkey : (s.server.connection c).ready = false → deviceId.key = k := by
    intro hready
    obtain hkey | hcase := hcase
    · rw [hnone hready] at hkey
      cases hkey
    · exact hcase.2
  obtain ⟨haccepted,hserver⟩ := h.server.handleConnection hseen
    (fun hready => hsteady.registry.not_mem (keyOf_eq_none_iff.mp (hnone hready))) hkey
  have hstep : t.systemStep (.connect c deviceId) = some (t.handled c (t.server.handleConnection c deviceId)) := by
    rw [systemStep, if_pos ((h.phase c hseen).trans hc)]
  refine ⟨_,hstep,?_⟩
  subst hhandled
  refine h.next hs ht hserver (fun _ => keyOf_unseen hconcerns ht hstep) ?_ h.outgoing
  intro x _ hx
  unfold handled
  rw [haccepted]
  exact setPhase_congr hx

theorem Isolates.status (h : s.Isolates k t) (hs : s.Identified) {c : ConnId} {status : DeviceStatus β}
    (hconcerns : concerns k s (.status c status) = true) (hnames : namesItself k s (.status c status) = true)
    (ht : s.systemStep (.status c status) = some s') :
    ∃ t', t.systemStep (.status c status) = some t' ∧ s'.Isolates k t' := by
  obtain ⟨hc,hhandled⟩ := Option.ite_some_none_eq_some.mp ht
  have hkey : s.server.keyOf c = some k := by simpa [concerns] using hconcerns
  have hseen : s.Seen k c := .inl hkey
  have hown : (s.server.connection c).ready = true → status.device.key = k := by
    intro hready
    simpa [namesItself, hready, hkey] using hnames
  obtain ⟨haccepted,hserver⟩ := h.server.handleStatus hseen hown
  have hstep : t.systemStep (.status c status) = some (t.handled c (t.server.handleStatus c status)) := by
    rw [systemStep, if_pos ((h.phase c hseen).trans hc)]
  refine ⟨_,hstep,?_⟩
  subst hhandled
  refine h.next hs ht hserver (fun _ => keyOf_unseen hconcerns ht hstep) ?_ h.outgoing
  intro x _ hx
  unfold handled
  rw [haccepted]
  exact setPhase_congr hx

/-- The message at the front is for the device. -/
theorem Isolates.listen (h : s.Isolates k t) (hs : s.Identified) (hconcerns : concerns k s .listen = true)
    (ht : s.systemStep .listen = some s') : ∃ t', t.systemStep .listen = some t' ∧ s'.Isolates k t' := by
  have hfront : ∀ message rest, s.toInternalQueue_ = message :: rest → recipient message = k ∧
      t.toInternalQueue_ = message :: rest.filter fun message => recipient message = k := by
    intro message rest hqueue
    have hk : recipient message = k := by simpa [concerns, hqueue] using hconcerns
    refine ⟨hk,?_⟩
    rw [h.outgoing, hqueue]
    refine List.filter_cons_of_pos ?_
    exact decide_eq_true hk
  have hstep := ht
  rw [systemStep] at ht
  split at ht
  · cases ht
  · rename_i deviceId rest hqueue
    obtain ⟨hk,hqueue'⟩ := hfront _ _ hqueue
    cases ht
    have hstep' : t.systemStep .listen = some { t with
        server := t.server.handleDisconnect deviceId
        toInternalQueue_ := rest.filter fun message => recipient message = k } := by
      rw [systemStep, hqueue']
    refine ⟨_,hstep',?_⟩
    exact h.next hs hstep (h.server.handleDisconnect hk) (fun _ => keyOf_unseen hconcerns hstep hstep')
      (fun _ _ hx => hx) rfl
  · rename_i message rest hqueue
    obtain ⟨hk,hqueue'⟩ := hfront _ _ hqueue
    cases ht
    have hstep' : t.systemStep .listen = some { t with
        server := t.server.validateResponse message
        toInternalQueue_ := rest.filter fun message => recipient message = k } := by
      rw [systemStep, hqueue']
    rw [recipient_message] at hk
    refine ⟨_,hstep',?_⟩
    exact h.next hs hstep (h.server.validateResponse hk) (fun _ => keyOf_unseen hconcerns hstep hstep')
      (fun _ _ hx => hx) rfl

/-- What concerns the device happens without the others too. -/
theorem Isolates.step_own (h : s.Isolates k t) (hs : s.Identified) (hsteady : s.Steady)
    (hconcerns : concerns k s a = true) (hnames : namesItself k s a = true) (hpush : ∀ message, a ≠ .push message)
    (ht : s.systemStep a = some s') : ∃ t', t.systemStep a = some t' ∧ s'.Isolates k t' := by
  cases a with
  | connect c deviceId => exact h.connect hs hsteady hconcerns ht
  | status c status => exact h.status hs hconcerns hnames ht
  | fail c =>
    obtain ⟨hc,hmoved⟩ := Option.ite_some_none_eq_some.mp ht
    have hseen : s.Seen k c := .inl (by simpa [concerns] using hconcerns)
    have hstep : t.systemStep (.fail c) = some (t.setPhase c .closing) := by
      rw [systemStep, if_pos ((h.phase c hseen).trans hc)]
    refine ⟨_,hstep,?_⟩
    subst hmoved
    exact h.next hs ht h.server (fun _ => keyOf_unseen hconcerns ht hstep) (fun _ _ hx => setPhase_congr hx) h.outgoing
  | responded c =>
    obtain ⟨⟨hc,hready⟩,hmoved⟩ := Option.ite_some_none_eq_some.mp ht
    have hseen : s.Seen k c := .inl (by simpa [concerns] using hconcerns)
    have hstep : t.systemStep (.responded c) = some (t.setPhase c .reading) := by
      rw [systemStep, if_pos ⟨(h.phase c hseen).trans hc,by rw [h.server.connection c hseen]; exact hready⟩]
    refine ⟨_,hstep,?_⟩
    subst hmoved
    exact h.next hs ht h.server (fun _ => keyOf_unseen hconcerns ht hstep) (fun _ _ hx => setPhase_congr hx) h.outgoing
  | timeout c =>
    obtain ⟨⟨hc,hready⟩,hmoved⟩ : (s.phase c = .waiting ∧ (s.server.connection c).ready = false) ∧
        s.setPhase c _ = s' := by simpa [systemStep] using ht
    have hseen : s.Seen k c := .inl (by simpa [concerns] using hconcerns)
    have hstep : t.systemStep (.timeout c) = some (t.setPhase c .closing) := by
      rw [systemStep, if_pos ⟨(h.phase c hseen).trans hc,by rw [h.server.connection c hseen, hready]; simp⟩]
    refine ⟨_,hstep,?_⟩
    subst hmoved
    exact h.next hs ht h.server (fun _ => keyOf_unseen hconcerns ht hstep) (fun _ _ hx => setPhase_congr hx) h.outgoing
  | cleanup c =>
    obtain ⟨hc,hmoved⟩ := Option.ite_some_none_eq_some.mp ht
    have hkey : s.server.keyOf c = some k := by simpa [concerns] using hconcerns
    have hstep : t.systemStep (.cleanup c) =
        some (({ t with server := t.server.removeConnFromMap c } : System β).setPhase c .closed) := by
      rw [systemStep, if_pos ((h.phase c (.inl hkey)).trans hc)]
    refine ⟨_,hstep,?_⟩
    subst hmoved
    exact h.next hs ht (h.server.removeConnFromMap hkey) (fun _ => keyOf_unseen hconcerns ht hstep)
      (fun _ _ hx => setPhase_congr hx) h.outgoing
  | push message => exact absurd rfl (hpush message)
  | listen => exact h.listen hs hconcerns ht

/-- What does not concern the device changes nothing of it. -/
theorem Isolates.step_other (h : s.Isolates k t) (hs : s.Identified) (hsteady : s.Steady)
    (hconcerns : concerns k s a = false) (hnames : namesItself k s a = true) (hpush : ∀ message, a ≠ .push message)
    (ht : s.systemStep a = some s') : s'.Isolates k t := by
  cases a with
  | connect c deviceId =>
    obtain ⟨hc,hhandled⟩ := Option.ite_some_none_eq_some.mp ht
    obtain ⟨hkey,hcase⟩ : s.server.keyOf c ≠ some k ∧ (s.server.keyOf c = none → deviceId.key ≠ k) := by
      simpa [concerns] using hconcerns
    have hnone : (s.server.connection c).ready = false → s.server.keyOf c = none :=
      fun hready => keyOf_eq_none_iff.mpr (hsteady.deviceId_eq_none hc hready)
    have hserver := h.server.handleConnection_other hkey
      (fun hready => hsteady.registry.not_mem (keyOf_eq_none_iff.mp (hnone hready))) fun hready => hcase (hnone hready)
    subst hhandled
    exact h.next_other hs ht rfl hkey hserver (fun x hx => setPhase_phase_of_ne _ hx _) rfl
  | status c status =>
    obtain ⟨hc,hhandled⟩ := Option.ite_some_none_eq_some.mp ht
    have hkey : s.server.keyOf c ≠ some k := by simpa [concerns] using hconcerns
    have hforeign : (s.server.connection c).ready = true → status.device.key ≠ k := by
      intro hready
      simpa [namesItself, hready, hkey] using hnames
    have hunseen : (s.server.connection c).ready = true → ¬s.Seen k c := by
      rintro hready (hmine | ⟨hnone,-⟩)
      · exact hkey hmine
      · rw [hs.ready c hnone] at hready
        cases hready
    have hkey' : (s.server.handleStatus c status).2.keyOf c ≠ some k := by
      unfold Server.keyOf
      rw [((handleStatus_registry s.server c status).2 c).1]
      exact hkey
    have hserver := (h.server.handleStatus_other hunseen hforeign).without hkey'
    subst hhandled
    exact h.next_other hs ht rfl hkey hserver (fun x hx => setPhase_phase_of_ne _ hx _) rfl
  | fail c =>
    obtain ⟨-,hmoved⟩ := Option.ite_some_none_eq_some.mp ht
    have hkey : s.server.keyOf c ≠ some k := by simpa [concerns] using hconcerns
    subst hmoved
    exact h.next_other hs ht rfl hkey (h.server.without hkey) (fun x hx => setPhase_phase_of_ne _ hx _) rfl
  | responded c =>
    obtain ⟨-,hmoved⟩ := Option.ite_some_none_eq_some.mp ht
    have hkey : s.server.keyOf c ≠ some k := by simpa [concerns] using hconcerns
    subst hmoved
    exact h.next_other hs ht rfl hkey (h.server.without hkey) (fun x hx => setPhase_phase_of_ne _ hx _) rfl
  | timeout c =>
    obtain ⟨-,hmoved⟩ := Option.ite_some_none_eq_some.mp ht
    have hkey : s.server.keyOf c ≠ some k := by simpa [concerns] using hconcerns
    subst hmoved
    exact h.next_other hs ht rfl hkey (h.server.without hkey) (fun x hx => setPhase_phase_of_ne _ hx _) rfl
  | cleanup c =>
    obtain ⟨hc,hmoved⟩ := Option.ite_some_none_eq_some.mp ht
    have hkey : s.server.keyOf c ≠ some k := by simpa [concerns] using hconcerns
    have hunseen : ¬s.Seen k c := by
      rintro (hmine | ⟨-,hreading⟩)
      · exact hkey hmine
      · rw [hc] at hreading
        cases hreading
    have hkey' : (s.server.removeConnFromMap c).keyOf c ≠ some k := by
      rw [Server.removeConnFromMap_keyOf]
      exact hkey
    have hserver := (h.server.removeConnFromMap_other hkey hunseen).without hkey'
    subst hmoved
    exact h.next_other hs ht rfl hkey hserver (fun x hx => setPhase_phase_of_ne _ hx _) rfl
  | push message => exact absurd rfl (hpush message)
  | listen =>
    have hfront : ∀ message rest, s.toInternalQueue_ = message :: rest → recipient message ≠ k ∧
        t.toInternalQueue_ = rest.filter fun message => recipient message = k := by
      intro message rest hqueue
      have hk : recipient message ≠ k := by simpa [concerns, hqueue] using hconcerns
      refine ⟨hk,?_⟩
      rw [h.outgoing, hqueue]
      refine List.filter_cons_of_neg ?_
      simpa using hk
    have hstep := ht
    rw [systemStep] at ht
    split at ht
    · cases ht
    · rename_i deviceId rest hqueue
      obtain ⟨hk,hqueue'⟩ := hfront _ _ hqueue
      cases ht
      exact h.next hs hstep (h.server.handleDisconnect_other hk) (fun _ _ => rfl) (fun _ _ hx => hx) hqueue'
    · rename_i message rest hqueue
      obtain ⟨hk,hqueue'⟩ := hfront _ _ hqueue
      cases ht
      rw [recipient_message] at hk
      exact h.next hs hstep (h.server.validateResponse_other hk) (fun _ _ => rfl) (fun _ _ hx => hx) hqueue'

end System

end ModuleGateway.InternalServer
