import ModuleGateway.Structures.Messages
import Mathlib.Logic.Function.Basic
import Mathlib.Data.List.Nodup

/-! # The connection registry of the Internal Server

The sections that run under `serverMutex_`, as functions on the server's state.
Connection objects are shared pointers, so they live in a heap of their own and
`connectedDevices_` holds references. Writing to a socket appends to `responses`.
-/
namespace ModuleGateway.InternalServer
open Structures

/-- The identity of a `Connection` object. -/
abbrev ConnId := ℕ

/-- `structures::Connection` without its read context. -/
structure Connection where
  socketOpen : Bool
  deviceId : Option DeviceIdentification
  ready : Bool
deriving DecidableEq

/-- A connection that has been accepted and has not sent anything. -/
def Connection.accepted : Connection := ⟨true,none,false⟩

structure Server (β : Type) where
  connection : ConnId → Connection
  connectedDevices_ : List ConnId
  fromInternalQueue_ : List (InternalClientMessage β)
  responses : List (ConnId × Structures.InternalServer β)

variable {β : Type}

namespace Server

def init : Server β := ⟨fun _ => .accepted,[],[],[]⟩

def setConnection (s : Server β) (c : ConnId) (f : Connection → Connection) : Server β :=
  { s with connection := Function.update s.connection c (f (s.connection c)) }

/-- `deviceId.isSame(toCompare->deviceId)` for an entry of the registry. -/
def isSame (s : Server β) (deviceId : DeviceIdentification) (toCompare : ConnId) : Bool :=
  (s.connection toCompare).deviceId.any deviceId.isSame

def findConnection (s : Server β) (deviceId : DeviceIdentification) : Option ConnId :=
  s.connectedDevices_.find? (s.isSame deviceId)

/-- `connection->deviceId->getPriority()`; only asked of connections with an identification. -/
def getPriority (s : Server β) (c : ConnId) : UInt32 :=
  ((s.connection c).deviceId.map DeviceIdentification.priority).getD 0

/-- The message is written when the socket is still open. -/
def sendResponse (s : Server β) (c : ConnId) (message : Structures.InternalServer β) : Server β :=
  if (s.connection c).socketOpen then { s with responses := s.responses ++ [(c,message)] } else s

/-- `socket.shutdown` and `socket.close`. -/
def closeSocket (s : Server β) (c : ConnId) : Server β :=
  s.setConnection c fun conn => { conn with socketOpen := false }

def removeConnFromMap (s : Server β) (c : ConnId) : Server β :=
  let s := s.closeSocket c
  match (s.connection c).deviceId with
  | none => s
  | some deviceId =>
    match s.findConnection deviceId with
    | none => s
    | some it =>
      if s.getPriority it = deviceId.priority then
        { s with
          connectedDevices_ := s.connectedDevices_.eraseP (s.isSame deviceId)
          fromInternalQueue_ := s.fromInternalQueue_ ++ [.disconnect deviceId] }
      else s

def connectNewDevice (s : Server β) (c : ConnId) (deviceId : DeviceIdentification) : Server β :=
  let s := s.setConnection c fun conn => { conn with deviceId := some deviceId }
  { s with
    connectedDevices_ := s.connectedDevices_ ++ [c]
    fromInternalQueue_ := s.fromInternalQueue_ ++ [.message false (.deviceConnect deviceId)] }

def respondWithAlreadyConnected (s : Server β) (c : ConnId) (deviceId : DeviceIdentification) :
    Server β := s.sendResponse c (.deviceConnectResponse .ALREADY_CONNECTED deviceId)

def respondWithHigherPriorityConnected (s : Server β) (c : ConnId)
    (deviceId : DeviceIdentification) : Server β :=
  s.sendResponse c (.deviceConnectResponse .HIGHER_PRIORITY_ALREADY_CONNECTED deviceId)

def changeConnection (s : Server β) (newConnection : ConnId) (deviceId : DeviceIdentification) :
    Server β :=
  let s := match s.findConnection deviceId with
    | some oldConnection => s.removeConnFromMap oldConnection
    | none => s
  s.connectNewDevice newConnection deviceId

/-- `handleConnection` on the device of a connect message; the result and the new state. -/
def handleConnection (s : Server β) (c : ConnId) (deviceId : DeviceIdentification) :
    Bool × Server β :=
  if (s.connection c).ready then (false,s)
  else match s.findConnection deviceId with
    | none => (true,s.connectNewDevice c deviceId)
    | some existing =>
      if deviceId.priority = s.getPriority existing then
        (false,s.respondWithAlreadyConnected c deviceId)
      else if deviceId.priority > s.getPriority existing then
        (false,s.respondWithHigherPriorityConnected c deviceId)
      else (true,s.changeConnection c deviceId)

def handleStatus (s : Server β) (c : ConnId) (status : DeviceStatus β) : Bool × Server β :=
  if (s.connection c).ready then
    let s : Server β := { s with
      fromInternalQueue_ := s.fromInternalQueue_ ++ [.message false (.deviceStatus status)] }
    (true,s.setConnection c fun conn => { conn with ready := false })
  else (false,s)

def handleDisconnect (s : Server β) (deviceId : DeviceIdentification) : Server β :=
  match s.findConnection deviceId with
  | some c => s.removeConnFromMap c
  | none => s

/-- The device a message of the Module Handler is addressed to. -/
def addressee : Structures.InternalServer β → DeviceIdentification
  | .deviceCommand command => command.device
  | .deviceConnectResponse _ device => device

def validateResponse (s : Server β) (message : Structures.InternalServer β) : Server β :=
  match s.findConnection (addressee message) with
  | none => s
  | some c =>
    if s.getPriority c = (addressee message).priority then
      (s.sendResponse c message).setConnection c fun conn => { conn with ready := true }
    else s

/-! ## The registry as a map from identities to connections -/

def keyOf (s : Server β) (c : ConnId) : Option DeviceKey :=
  (s.connection c).deviceId.map DeviceIdentification.key

/-- The entry of an identity. -/
def holder (s : Server β) (k : DeviceKey) : Option ConnId :=
  s.connectedDevices_.find? fun c => s.keyOf c = some k

/-- Every entry has an identification and no two entries have the same. -/
structure Registry (s : Server β) : Prop where
  identified : ∀ c ∈ s.connectedDevices_, (s.connection c).deviceId.isSome
  unique : (s.connectedDevices_.map s.keyOf).Nodup

theorem isSame_eq (s : Server β) (deviceId : DeviceIdentification) :
    s.isSame deviceId = fun c => decide (s.keyOf c = some deviceId.key) := by
  funext c
  rw [isSame, keyOf]
  cases (s.connection c).deviceId with
  | none => rfl
  | some e =>
    rw [Option.any_some, Bool.eq_iff_iff, DeviceIdentification.isSame_iff]
    simp [eq_comm]

theorem findConnection_eq_holder (s : Server β) (deviceId : DeviceIdentification) :
    s.findConnection deviceId = s.holder deviceId.key := by
  rw [findConnection, holder, isSame_eq]

theorem holder_mem {s : Server β} {k : DeviceKey} {c : ConnId} (h : s.holder k = some c) :
    c ∈ s.connectedDevices_ ∧ s.keyOf c = some k :=
  ⟨List.mem_of_find?_eq_some h,by simpa using List.find?_some h⟩

theorem holder_eq_none_iff {s : Server β} {k : DeviceKey} :
    s.holder k = none ↔ ∀ c ∈ s.connectedDevices_, s.keyOf c ≠ some k := by
  simp [holder]

namespace Registry
variable {s : Server β}

theorem holder_eq_some_iff (hs : s.Registry) {k : DeviceKey} {c : ConnId} :
    s.holder k = some c ↔ c ∈ s.connectedDevices_ ∧ s.keyOf c = some k := by
  refine ⟨holder_mem,fun ⟨hc,hk⟩ => ?_⟩
  cases h : s.holder k with
  | none => exact absurd hk (holder_eq_none_iff.mp h c hc)
  | some e =>
    obtain ⟨he,hek⟩ := holder_mem h
    rw [List.inj_on_of_nodup_map hs.unique he hc (hek.trans hk.symm)]

theorem sublist {t : Server β} (hs : s.Registry) (hsub : t.connectedDevices_.Sublist s.connectedDevices_)
    (hid : ∀ c ∈ s.connectedDevices_, (t.connection c).deviceId = (s.connection c).deviceId) :
    t.Registry where
  identified c hc := by
    rw [hid c (hsub.subset hc)]
    exact hs.identified c (hsub.subset hc)
  unique := by
    have hmap : t.connectedDevices_.map t.keyOf = t.connectedDevices_.map s.keyOf :=
      List.map_congr_left fun c hc => by rw [keyOf, keyOf, hid c (hsub.subset hc)]
    rw [hmap]
    exact hs.unique.sublist (hsub.map _)

theorem nodup (hs : s.Registry) : s.connectedDevices_.Nodup := List.Nodup.of_map _ hs.unique

end Registry

theorem setConnection_deviceId (s : Server β) (c x : ConnId) {f : Connection → Connection}
    (hf : ∀ conn, (f conn).deviceId = conn.deviceId) :
    ((s.setConnection c f).connection x).deviceId = (s.connection x).deviceId := by
  rw [setConnection]
  by_cases h : x = c
  · subst h
    simp [hf]
  · simp [Function.update_of_ne h]

theorem setConnection_keyOf (s : Server β) (c : ConnId) {f : Connection → Connection}
    (hf : ∀ conn, (f conn).deviceId = conn.deviceId) : (s.setConnection c f).keyOf = s.keyOf := by
  funext x
  rw [keyOf, keyOf, setConnection_deviceId s c x hf]

@[simp] theorem closeSocket_deviceId (s : Server β) (c x : ConnId) :
    ((s.closeSocket c).connection x).deviceId = (s.connection x).deviceId :=
  setConnection_deviceId s c x fun _ => rfl

@[simp] theorem closeSocket_getPriority (s : Server β) (c x : ConnId) :
    (s.closeSocket c).getPriority x = s.getPriority x := by
  rw [getPriority, getPriority, closeSocket_deviceId]

@[simp] theorem closeSocket_isSame (s : Server β) (c : ConnId) (deviceId : DeviceIdentification) :
    (s.closeSocket c).isSame deviceId = s.isSame deviceId := by
  funext x
  rw [isSame, isSame, closeSocket_deviceId]

@[simp] theorem closeSocket_findConnection (s : Server β) (c : ConnId)
    (deviceId : DeviceIdentification) :
    (s.closeSocket c).findConnection deviceId = s.holder deviceId.key := by
  rw [← findConnection_eq_holder, findConnection, closeSocket_isSame]
  rfl

/-! ## Removal -/

/-- The entry that `removeConnFromMap` takes out when it cleans up after `c`: the first one
of the same identity, provided the priorities agree. -/
def removedBy (s : Server β) (c : ConnId) : Option ConnId :=
  (s.connection c).deviceId.bind fun deviceId =>
    (s.holder deviceId.key).bind fun it =>
      if s.getPriority it = deviceId.priority then some it else none

theorem eraseP_eq_erase {l : List ConnId} {p : ConnId → Bool} {e : ConnId}
    (h : l.find? p = some e) : l.eraseP p = l.erase e := by
  induction l with
  | nil => simp at h
  | cons x l ih =>
    by_cases hx : p x = true
    · rw [List.find?_cons_of_pos hx] at h
      obtain rfl : x = e := Option.some.inj h
      rw [List.eraseP_cons_of_pos hx, List.erase_cons_head]
    · rw [List.find?_cons_of_neg hx] at h
      have hne : x ≠ e := by
        rintro rfl
        exact hx (List.find?_some h)
      rw [List.eraseP_cons_of_neg hx, ih h, List.erase_cons_tail (by simpa using hne)]

theorem removeConnFromMap_connection (s : Server β) (c : ConnId) :
    (s.removeConnFromMap c).connection =
      Function.update s.connection c { s.connection c with socketOpen := false } := by
  unfold removeConnFromMap
  dsimp only
  split
  · rfl
  · split
    · rfl
    · split <;> rfl

theorem removeConnFromMap_connection_of_ne (s : Server β) {c x : ConnId} (h : x ≠ c) :
    (s.removeConnFromMap c).connection x = s.connection x := by
  rw [removeConnFromMap_connection, Function.update_of_ne h]

theorem removeConnFromMap_deviceId (s : Server β) (c x : ConnId) :
    ((s.removeConnFromMap c).connection x).deviceId = (s.connection x).deviceId := by
  by_cases h : x = c
  · subst h
    simp [removeConnFromMap_connection]
  · rw [removeConnFromMap_connection_of_ne s h]

theorem removeConnFromMap_ready (s : Server β) (c x : ConnId) :
    ((s.removeConnFromMap c).connection x).ready = (s.connection x).ready := by
  by_cases h : x = c
  · subst h
    simp [removeConnFromMap_connection]
  · rw [removeConnFromMap_connection_of_ne s h]

@[simp] theorem removeConnFromMap_keyOf (s : Server β) (c x : ConnId) :
    (s.removeConnFromMap c).keyOf x = s.keyOf x := by
  rw [keyOf, keyOf, removeConnFromMap_deviceId]

@[simp] theorem removeConnFromMap_getPriority (s : Server β) (c x : ConnId) :
    (s.removeConnFromMap c).getPriority x = s.getPriority x := by
  rw [getPriority, getPriority, removeConnFromMap_deviceId]

/-- `removeConnFromMap` in terms of the entry it takes out. -/
theorem removeConnFromMap_registry (s : Server β) (c : ConnId) :
    (s.removeConnFromMap c).connectedDevices_ =
        (match s.removedBy c with
          | none => s.connectedDevices_
          | some e => s.connectedDevices_.erase e) ∧
      (s.removeConnFromMap c).fromInternalQueue_ = s.fromInternalQueue_ ++
        (match s.removedBy c with
          | none => []
          | some _ => ((s.connection c).deviceId.map InternalClientMessage.disconnect).toList) ∧
      (s.removeConnFromMap c).responses = s.responses := by
  unfold removeConnFromMap removedBy
  dsimp only
  rw [closeSocket_deviceId]
  cases (s.connection c).deviceId with
  | none => simp [closeSocket, setConnection]
  | some deviceId =>
    simp only [closeSocket_findConnection, closeSocket_isSame, closeSocket_getPriority,
      Option.bind_some]
    cases hh : s.holder deviceId.key with
    | none => simp [closeSocket, setConnection]
    | some e =>
      have herase : s.connectedDevices_.eraseP (s.isSame deviceId) = s.connectedDevices_.erase e := by
        apply eraseP_eq_erase
        rw [isSame_eq]
        exact hh
      by_cases hp : s.getPriority e = deviceId.priority
      · simp [closeSocket, setConnection, hp, herase]
      · simp [closeSocket, setConnection, hp]

theorem removedBy_mem {s : Server β} {c e : ConnId} (h : s.removedBy c = some e) :
    e ∈ s.connectedDevices_ ∧ s.keyOf e = s.keyOf c ∧ s.getPriority e = s.getPriority c := by
  unfold removedBy at h
  obtain ⟨deviceId,hd,hf⟩ := Option.bind_eq_some_iff.mp h
  obtain ⟨it,hh,hi⟩ := Option.bind_eq_some_iff.mp hf
  obtain ⟨hp,rfl⟩ : s.getPriority it = deviceId.priority ∧ it = e := by simpa using hi
  obtain ⟨hm,hk⟩ := holder_mem hh
  refine ⟨hm,?_,?_⟩
  · rw [hk, keyOf, hd]
    rfl
  · rw [hp, getPriority, hd]
    rfl

/-- An entry is its own removal. -/
theorem Registry.removedBy_self {s : Server β} (hs : s.Registry) {c : ConnId}
    (hc : c ∈ s.connectedDevices_) : s.removedBy c = some c := by
  obtain ⟨deviceId,hd⟩ := Option.isSome_iff_exists.mp (hs.identified c hc)
  have hk : s.keyOf c = some deviceId.key := by rw [keyOf, hd]; rfl
  have hp : s.getPriority c = deviceId.priority := by rw [getPriority, hd]; rfl
  rw [removedBy, hd, Option.bind_some, hs.holder_eq_some_iff.mpr ⟨hc,hk⟩, Option.bind_some, if_pos hp]

theorem Registry.removeConnFromMap {s : Server β} (hs : s.Registry) (c : ConnId) :
    (s.removeConnFromMap c).Registry := by
  refine hs.sublist ?_ fun x _ => removeConnFromMap_deviceId s c x
  rw [(removeConnFromMap_registry s c).1]
  split
  · exact List.Sublist.refl _
  · exact List.erase_sublist

theorem Registry.holder_removeConnFromMap {s : Server β} (hs : s.Registry) (c : ConnId)
    (k : DeviceKey) :
    (s.removeConnFromMap c).holder k =
      if (s.removedBy c).isSome ∧ s.keyOf c = some k then none else s.holder k := by
  have ht := hs.removeConnFromMap c
  have hlist := (removeConnFromMap_registry s c).1
  cases hr : s.removedBy c with
  | none =>
    rw [hr] at hlist
    simp only [holder, removeConnFromMap_keyOf, hlist]
    simp
  | some e =>
    rw [hr] at hlist
    obtain ⟨hm,hk,-⟩ := removedBy_mem hr
    simp only [Option.isSome_some, true_and]
    split
    · rename_i hck
      rw [holder_eq_none_iff]
      intro x hx hxk
      rw [hlist, hs.nodup.mem_erase_iff] at hx
      rw [removeConnFromMap_keyOf] at hxk
      exact hx.1 (List.inj_on_of_nodup_map hs.unique hx.2 hm (by rw [hxk, hk, hck]))
    · rename_i hck
      apply Option.ext
      intro x
      rw [ht.holder_eq_some_iff, hs.holder_eq_some_iff, hlist, hs.nodup.mem_erase_iff,
        removeConnFromMap_keyOf]
      constructor
      · exact fun h => ⟨h.1.2,h.2⟩
      · rintro ⟨hx,hxk⟩
        refine ⟨⟨?_,hx⟩,hxk⟩
        rintro rfl
        exact hck (hk ▸ hxk)

/-! ## Registration -/

theorem connectNewDevice_connection (s : Server β) (c x : ConnId)
    (deviceId : DeviceIdentification) : (s.connectNewDevice c deviceId).connection x =
      if x = c then { s.connection x with deviceId := some deviceId } else s.connection x := by
  rw [connectNewDevice, setConnection]
  by_cases h : x = c
  · subst h
    simp
  · simp [h]

theorem connectNewDevice_keyOf (s : Server β) (c x : ConnId) (deviceId : DeviceIdentification) :
    (s.connectNewDevice c deviceId).keyOf x = if x = c then some deviceId.key else s.keyOf x := by
  rw [keyOf, connectNewDevice_connection]
  split <;> rfl

theorem connectNewDevice_getPriority (s : Server β) (c x : ConnId)
    (deviceId : DeviceIdentification) : (s.connectNewDevice c deviceId).getPriority x =
      if x = c then deviceId.priority else s.getPriority x := by
  rw [getPriority, connectNewDevice_connection]
  split <;> rfl

theorem Registry.not_mem {s : Server β} (hs : s.Registry) {c : ConnId}
    (hc : (s.connection c).deviceId = none) : c ∉ s.connectedDevices_ := by
  intro hm
  simpa [hc] using hs.identified c hm

theorem Registry.connectNewDevice {s : Server β} (hs : s.Registry) {c : ConnId}
    {deviceId : DeviceIdentification} (hc : c ∉ s.connectedDevices_)
    (hnone : s.holder deviceId.key = none) : (s.connectNewDevice c deviceId).Registry where
  identified x hx := by
    rcases List.mem_append.mp hx with hx | hx
    · have hne : x ≠ c := fun h => hc (h ▸ hx)
      simpa [Server.connectNewDevice, setConnection, Function.update_of_ne hne]
        using hs.identified x hx
    · obtain rfl := List.mem_singleton.mp hx
      simp [Server.connectNewDevice, setConnection]
  unique := by
    have hmap : s.connectedDevices_.map (s.connectNewDevice c deviceId).keyOf =
        s.connectedDevices_.map s.keyOf := by
      refine List.map_congr_left fun x hx => ?_
      rw [connectNewDevice_keyOf, if_neg (fun h : x = c => hc (h ▸ hx))]
    change ((s.connectedDevices_ ++ [c]).map (s.connectNewDevice c deviceId).keyOf).Nodup
    rw [List.map_append, hmap, List.map_singleton, connectNewDevice_keyOf, if_pos rfl,
      List.nodup_append]
    refine ⟨hs.unique,List.nodup_singleton _,?_⟩
    rintro x hx y hy rfl
    obtain rfl := List.mem_singleton.mp hy
    obtain ⟨e,he,hek⟩ := List.mem_map.mp hx
    exact holder_eq_none_iff.mp hnone e he hek

theorem Registry.holder_connectNewDevice {s : Server β} (hs : s.Registry) {c : ConnId}
    {deviceId : DeviceIdentification} (hc : c ∉ s.connectedDevices_)
    (hnone : s.holder deviceId.key = none) (k : DeviceKey) :
    (s.connectNewDevice c deviceId).holder k =
      if deviceId.key = k then some c else s.holder k := by
  have ht := hs.connectNewDevice hc hnone
  apply Option.ext
  intro x
  have hmem : x ∈ (s.connectNewDevice c deviceId).connectedDevices_ ↔
      x ∈ s.connectedDevices_ ∨ x = c := by simp [Server.connectNewDevice, setConnection]
  rw [ht.holder_eq_some_iff, hmem, connectNewDevice_keyOf]
  by_cases hx : x = c
  · subst hx
    by_cases hk : deviceId.key = k
    · simp [hk]
    · have hno : s.holder k ≠ some x := fun h => hc (holder_mem h).1
      simp [hk, hno]
  · by_cases hk : deviceId.key = k
    · subst hk
      have hno := holder_eq_none_iff.mp hnone x
      simp only [hx, or_false, if_false, if_true, Option.some.injEq]
      exact ⟨fun h => absurd h.2 (hno h.1),fun h => absurd h.symm hx⟩
    · simp only [hx, or_false, if_false, if_neg hk, hs.holder_eq_some_iff]

/-! ## Connect messages and disconnect requests -/

/-- The entry of an identity with its priority. -/
def entry (s : Server β) (k : DeviceKey) : Option (ConnId × UInt32) :=
  (s.holder k).map fun c => (c,s.getPriority c)

theorem entry_eq_none_iff {s : Server β} {k : DeviceKey} : s.entry k = none ↔ s.holder k = none := by
  simp [entry]

theorem sendResponse_registry (s : Server β) (c : ConnId) (message : Structures.InternalServer β) :
    (s.sendResponse c message).connection = s.connection ∧
      (s.sendResponse c message).connectedDevices_ = s.connectedDevices_ ∧
      (s.sendResponse c message).fromInternalQueue_ = s.fromInternalQueue_ := by
  rw [sendResponse]
  split <;> exact ⟨rfl,rfl,rfl⟩

/-- A connect message by the entry it finds. -/
theorem handleConnection_eq {s : Server β} {c : ConnId} (h : (s.connection c).ready = false)
    (deviceId : DeviceIdentification) :
    s.handleConnection c deviceId =
      match s.entry deviceId.key with
      | none => (true,s.connectNewDevice c deviceId)
      | some (e,p) =>
        if deviceId.priority = p then (false,s.respondWithAlreadyConnected c deviceId)
        else if deviceId.priority > p then (false,s.respondWithHigherPriorityConnected c deviceId)
        else (true,(s.removeConnFromMap e).connectNewDevice c deviceId) := by
  rw [handleConnection, findConnection_eq_holder, entry, h]
  cases hh : s.holder deviceId.key with
  | none => rfl
  | some e =>
    simp only [Bool.false_eq_true, if_false, Option.map_some, changeConnection,
      findConnection_eq_holder, hh]

/-- A newcomer below the entry is accepted, and any newcomer when there is none. -/
theorem accepted_iff {s : Server β} {c : ConnId} (h : (s.connection c).ready = false)
    (deviceId : DeviceIdentification) : (s.handleConnection c deviceId).1 = true ↔
      ∀ p ∈ s.entry deviceId.key, deviceId.priority < p.2 := by
  rw [handleConnection_eq h]
  cases hentry : s.entry deviceId.key with
  | none => simp
  | some p =>
    obtain ⟨e,q⟩ := p
    simp only [Option.mem_def, Option.some.injEq, forall_eq']
    split
    · rename_i heq
      simp [heq]
    · split
      · rename_i hgt
        simpa using UInt32.le_of_lt hgt
      · rename_i hne hle
        simpa using UInt32.lt_of_le_of_ne (UInt32.not_lt.mp hle) hne

/-- The identification of the newcomer is all that a connect message writes into
connections, besides closing the socket of the connection it replaces. -/
theorem handleConnection_connection {s : Server β} {c : ConnId}
    (h : (s.connection c).ready = false) (deviceId : DeviceIdentification) (x : ConnId) :
    ((s.handleConnection c deviceId).2.connection x).deviceId =
        (if x = c ∧ (s.handleConnection c deviceId).1 then some deviceId
          else (s.connection x).deviceId) ∧
      ((s.handleConnection c deviceId).2.connection x).ready = (s.connection x).ready ∧
      (s.holder deviceId.key ≠ some x →
        ((s.handleConnection c deviceId).2.connection x).socketOpen = (s.connection x).socketOpen) := by
  rw [handleConnection_eq h]
  cases hh : s.holder deviceId.key with
  | none =>
    simp only [entry, hh, Option.map_none, connectNewDevice_connection]
    by_cases hx : x = c <;> simp [hx]
  | some e =>
    have hsend := fun m => (s.sendResponse_registry c m).1
    simp only [entry, hh, Option.map_some, respondWithAlreadyConnected,
      respondWithHigherPriorityConnected]
    split
    · simp [hsend]
    · split
      · simp [hsend]
      · rw [connectNewDevice_connection]
        refine ⟨?_,?_,fun he => ?_⟩
        · by_cases hx : x = c <;> simp [hx, removeConnFromMap_deviceId]
        · by_cases hx : x = c <;> simp [hx, removeConnFromMap_ready]
        · have hne : x ≠ e := fun hxe => he (congrArg some hxe.symm)
          have hsame := congrArg Connection.socketOpen (removeConnFromMap_connection_of_ne s hne)
          by_cases hx : x = c <;> simpa [hx] using hsame

namespace Registry
variable {s : Server β}

theorem init : (Server.init : Server β).Registry :=
  ⟨fun _ h => absurd h List.not_mem_nil,List.nodup_nil⟩

/-- The entry of an identity is taken out and the identity left free. -/
theorem holder_replaced (hs : s.Registry) {k : DeviceKey} {e : ConnId} (h : s.holder k = some e) :
    (s.removeConnFromMap e).holder k = none := by
  obtain ⟨he,hk⟩ := holder_mem h
  rw [hs.holder_removeConnFromMap, hs.removedBy_self he, if_pos ⟨rfl,hk⟩]

theorem not_mem_removeConnFromMap {c : ConnId} (hc : c ∉ s.connectedDevices_) (e : ConnId) :
    c ∉ (s.removeConnFromMap e).connectedDevices_ := by
  rw [(removeConnFromMap_registry s e).1]
  split
  · exact hc
  · exact fun h => hc (List.mem_of_mem_erase h)

theorem entry_removeConnFromMap (hs : s.Registry) (c : ConnId) (k : DeviceKey) :
    (s.removeConnFromMap c).entry k =
      if (s.removedBy c).isSome ∧ s.keyOf c = some k then none else s.entry k := by
  simp only [entry, hs.holder_removeConnFromMap, removeConnFromMap_getPriority]
  split <;> rfl

theorem entry_connectNewDevice (hs : s.Registry) {c : ConnId} {deviceId : DeviceIdentification}
    (hc : c ∉ s.connectedDevices_) (hnone : s.holder deviceId.key = none) (k : DeviceKey) :
    (s.connectNewDevice c deviceId).entry k =
      if deviceId.key = k then some (c,deviceId.priority) else s.entry k := by
  rw [entry, hs.holder_connectNewDevice hc hnone]
  by_cases hk : deviceId.key = k
  · simp [hk, connectNewDevice_getPriority]
  · rw [if_neg hk, if_neg hk, entry]
    cases hh : s.holder k with
    | none => rfl
    | some x =>
      have hx : x ≠ c := fun h => hc (h ▸ (holder_mem hh).1)
      simp [connectNewDevice_getPriority, hx]

/-- The entry after a connect message: the newcomer when it is accepted. -/
theorem handleConnection (hs : s.Registry) {c : ConnId} (h : (s.connection c).ready = false)
    (hmem : c ∉ s.connectedDevices_) (deviceId : DeviceIdentification) :
    (s.handleConnection c deviceId).2.Registry ∧
      ∀ k, (s.handleConnection c deviceId).2.entry k =
        if deviceId.key = k ∧ (s.handleConnection c deviceId).1 then some (c,deviceId.priority)
        else s.entry k := by
  rw [handleConnection_eq h]
  cases hh : s.holder deviceId.key with
  | none =>
    simp only [entry, hh, Option.map_none]
    refine ⟨hs.connectNewDevice hmem hh,fun k => ?_⟩
    simpa [entry] using hs.entry_connectNewDevice hmem hh k
  | some e =>
    have hres : ∀ m, (s.sendResponse c m).Registry ∧ ∀ k, (s.sendResponse c m).entry k = s.entry k := by
      intro m
      rw [sendResponse]
      split <;> exact ⟨⟨hs.identified,hs.unique⟩,fun _ => rfl⟩
    have hentry : s.entry deviceId.key = some (e,s.getPriority e) := by rw [entry, hh]; rfl
    simp only [hentry]
    split
    · simpa [respondWithAlreadyConnected] using hres _
    · split
      · simpa [respondWithHigherPriorityConnected] using hres _
      · have hfree := hs.holder_replaced hh
        have hmem' := not_mem_removeConnFromMap hmem e
        refine ⟨(hs.removeConnFromMap e).connectNewDevice hmem' hfree,fun k => ?_⟩
        rw [(hs.removeConnFromMap e).entry_connectNewDevice hmem' hfree, hs.entry_removeConnFromMap]
        by_cases hk : deviceId.key = k
        · simp [hk]
        · have hek : s.keyOf e ≠ some k := by
            rw [(holder_mem hh).2]
            exact fun h => hk (Option.some.inj h)
          simp [hk, hek]

theorem handleDisconnect (hs : s.Registry) (deviceId : DeviceIdentification) :
    (s.handleDisconnect deviceId).Registry ∧
      ∀ k, (s.handleDisconnect deviceId).entry k =
        if deviceId.key = k then none else s.entry k := by
  rw [Server.handleDisconnect, findConnection_eq_holder]
  cases hh : s.holder deviceId.key with
  | none =>
    refine ⟨hs,fun k => ?_⟩
    by_cases hk : deviceId.key = k
    · rw [if_pos hk, entry, ← hk, hh]
      rfl
    · exact (if_neg hk).symm
  | some e =>
    obtain ⟨he,hk⟩ := holder_mem hh
    refine ⟨hs.removeConnFromMap e,fun k => ?_⟩
    rw [hs.entry_removeConnFromMap, hs.removedBy_self he, hk]
    simp

end Registry

end Server

end ModuleGateway.InternalServer
