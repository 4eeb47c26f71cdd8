import ModuleGateway.Library.Execution
import ModuleGateway.InternalServer.Server

/-! # Removals and the connections they were raised for

The whole Internal Server: one handler per connection, and the listener that takes
messages of the Module Handler. Removal matches by identity and priority, or by
identity alone, so a cleanup or a request that comes late can meet another
connection of the same device. It cannot when no such leftover exists at the
moment a connection registers, and a request is pushed while the connection it
was raised for holds the identity, or nobody does.
-/
namespace ModuleGateway.InternalServer
open Structures Execution

variable {β : Type}

/-- Where the handler of a connection is: before a message has been read, inside
`handleMessage` for the response, before `removeConnFromMap`, or past it. -/
inductive Phase where
  | reading
  | waiting
  | closing
  | closed
deriving DecidableEq

/-- The server with its handlers and `toInternalQueue_`. -/
structure System (β : Type) where
  server : Server β
  phase : ConnId → Phase
  toInternalQueue_ : List (ModuleHandlerMessage β)

inductive SystemAction (β : Type) where
  | connect (c : ConnId) (deviceId : DeviceIdentification)
  | status (c : ConnId) (status : DeviceStatus β)
  | fail (c : ConnId)
  | responded (c : ConnId)
  | timeout (c : ConnId)
  | cleanup (c : ConnId)
  | push (message : ModuleHandlerMessage β)
  | listen

namespace System

def init : System β := ⟨Server.init,fun _ => .reading,[]⟩

def setPhase (s : System β) (c : ConnId) (p : Phase) : System β :=
  { s with phase := Function.update s.phase c p }

/-- The handler goes on to wait for the response, or to its cleanup when the message was refused. -/
def handled (s : System β) (c : ConnId) (r : Bool × Server β) : System β :=
  { s with server := r.2 }.setPhase c (if r.1 then .waiting else .closing)

def systemStep (s : System β) : SystemAction β → Option (System β)
  | .connect c deviceId =>
    if s.phase c = .reading then some (s.handled c (s.server.handleConnection c deviceId)) else none
  | .status c status =>
    if s.phase c = .reading then some (s.handled c (s.server.handleStatus c status)) else none
  | .fail c => if s.phase c = .reading then some (s.setPhase c .closing) else none
  | .responded c =>
    if s.phase c = .waiting ∧ (s.server.connection c).ready then some (s.setPhase c .reading) else none
  | .timeout c =>
    if s.phase c = .waiting ∧ ¬(s.server.connection c).ready then some (s.setPhase c .closing) else none
  | .cleanup c =>
    if s.phase c = .closing then
      some ({ s with server := s.server.removeConnFromMap c }.setPhase c .closed)
    else none
  | .push message => some { s with toInternalQueue_ := s.toInternalQueue_ ++ [message] }
  | .listen =>
    match s.toInternalQueue_ with
    | [] => none
    | .disconnect deviceId :: rest =>
      some { s with server := s.server.handleDisconnect deviceId, toInternalQueue_ := rest }
    | .message message :: rest =>
      some { s with server := s.server.validateResponse message, toInternalQueue_ := rest }

/-! ## What a removal is raised for -/

/-- A step, where a push comes with the connection whose silence the Module Handler has counted. -/
def raisedStep (s : System β) (call : SystemAction β × Option ConnId) : Option (System β) := s.systemStep call.1

/-- An observer notes for each message of `toInternalQueue_` the connection that it was raised for. -/
def seeRaised (_ : System β) (call : SystemAction β × Option ConnId) (_ : System β)
    (raised : List (Option ConnId)) : List (Option ConnId) :=
  match call.1 with
  | .push _ => raised ++ [call.2]
  | .listen => raised.tail
  | _ => raised

/-- The connection a step may remove: its own for a cleanup, the holder it replaces for a
connect message, and the one the request was raised for when the listener takes it. -/
def raisedFor (s : System β) (raised : List (Option ConnId)) : SystemAction β → Option ConnId
  | .connect _ deviceId => s.server.holder deviceId.key
  | .cleanup c => some c
  | .listen => raised.head?.join
  | _ => none

/-- The connection lost its entry or its socket. -/
def TakenOut (s t : Server β) (x : ConnId) : Prop :=
  (x ∈ s.connectedDevices_ ∧ x ∉ t.connectedDevices_) ∨
    ((s.connection x).socketOpen = true ∧ (t.connection x).socketOpen = false)

/-- A step takes out only the connection it was raised for. -/
def OnlyRaisedFor (s : System β) (raised : List (Option ConnId)) (a : SystemAction β) (t : System β) : Prop :=
  ∀ x, TakenOut s.server t.server x → s.raisedFor raised a = some x

/-- The connect message will be accepted: the connection is not ready and below any entry. -/
def Registers (s : System β) (c : ConnId) (deviceId : DeviceIdentification) : Prop :=
  (s.server.connection c).ready = false ∧ ∀ p ∈ s.server.entry deviceId.key, deviceId.priority < p.2

/-- No other connection of the device left a removal behind: no handler that still has its
cleanup to run registered the same identity with the same priority, and no disconnect
request for the identity waits in the queue. -/
structure NoLeftover (s : System β) (c : ConnId) (deviceId : DeviceIdentification) : Prop where
  cleanup : ∀ x, x ≠ c → s.phase x ≠ .closed → s.server.keyOf x = some deviceId.key →
    s.server.getPriority x ≠ deviceId.priority
  request : ∀ e, .disconnect e ∈ s.toInternalQueue_ → e.key ≠ deviceId.key

/-- Nobody holds the identity of a disconnect request but the connection that it was raised for. -/
def RaisedForHolder (s : System β) (message : ModuleHandlerMessage β) (raised : Option ConnId) : Prop :=
  ∀ deviceId, message = .disconnect deviceId → ∀ x, s.server.holder deviceId.key = some x → raised = some x

/-- A connection registers only when no removal is left over from another one, and a request for the
silence of a connection is not pushed when another one holds the identity already. -/
def CleanRegistration (s : System β × List (Option ConnId)) (call : SystemAction β × Option ConnId) : Prop :=
  match call.1 with
  | .connect c deviceId => s.1.Registers c deviceId → s.1.NoLeftover c deviceId
  | .push message => s.1.RaisedForHolder message call.2
  | _ => True

/-! ## The invariant -/

structure Sound (s : System β) (raised : List (Option ConnId)) : Prop where
  registry : s.server.Registry
  ready : ∀ c, s.phase c = .reading → (s.server.connection c).deviceId ≠ none →
    (s.server.connection c).ready = true
  cleanup : ∀ c k x, s.phase c ≠ .closed → s.server.keyOf c = some k →
    s.server.holder k = some x → c ≠ x → s.server.getPriority c ≠ s.server.getPriority x
  request : List.Forall₂ s.RaisedForHolder s.toInternalQueue_ raised

theorem Sound.init : (System.init : System β).Sound [] where
  registry := Server.Registry.init
  ready _ _ h := absurd rfl h
  cleanup _ _ _ _ h := by simp [System.init, Server.init, Server.keyOf, Connection.accepted] at h
  request := .nil

theorem holder_eq_of_entry {s t : Server β} {k : DeviceKey} (h : t.entry k = s.entry k) :
    t.holder k = s.holder k := by
  have hmap := congrArg (Option.map Prod.fst) h
  simpa [Server.entry, Option.map_map, Function.comp_def] using hmap

/-- A request stays right while entries only go. -/
theorem RaisedForHolder.shrink {s t : System β} {message : ModuleHandlerMessage β} {raised : Option ConnId}
    (h : s.RaisedForHolder message raised)
    (hholder : ∀ k x, t.server.holder k = some x → s.server.holder k = some x) : t.RaisedForHolder message raised :=
  fun deviceId hm x hx => h deviceId hm x (hholder deviceId.key x hx)

/-- Steps that register nobody: entries only go, and handlers do not come back from `closed`. -/
theorem Sound.shrink {s t : System β} {raised raised' : List (Option ConnId)} (hs : s.Sound raised)
    (hregistry : t.server.Registry)
    (hid : ∀ x, (t.server.connection x).deviceId = (s.server.connection x).deviceId)
    (hready : ∀ x, t.phase x = .reading → (t.server.connection x).ready = true ∨
      s.phase x = .reading ∧ (t.server.connection x).ready = (s.server.connection x).ready)
    (hholder : ∀ k x, t.server.holder k = some x → s.server.holder k = some x)
    (hphase : ∀ x, t.phase x ≠ .closed → s.phase x ≠ .closed)
    (hqueue : List.Forall₂ s.RaisedForHolder t.toInternalQueue_ raised') : t.Sound raised' where
  registry := hregistry
  ready c hc hd := by
    rcases hready c hc with h | ⟨hc',h⟩
    · exact h
    · rw [h]
      exact hs.ready c hc' (hid c ▸ hd)
  cleanup c k x hc hk hx hne := by
    have hprio : ∀ y, t.server.getPriority y = s.server.getPriority y := fun y => by
      rw [Server.getPriority, Server.getPriority, hid]
    rw [hprio, hprio]
    refine hs.cleanup c k x (hphase c hc) ?_ (hholder k x hx) hne
    rwa [Server.keyOf, hid] at hk
  request := hqueue.imp fun _ _ h => h.shrink hholder

/-- A step that leaves the server alone and only moves handlers forward. -/
theorem Sound.setPhase {s : System β} {raised : List (Option ConnId)} (hs : s.Sound raised) {c : ConnId} {p : Phase}
    (hready : p = .reading → (s.server.connection c).ready = true)
    (hphase : s.phase c ≠ .closed) : (s.setPhase c p).Sound raised := by
  refine hs.shrink hs.registry (fun _ => rfl) (fun x hx => ?_) (fun _ _ h => h) (fun x hx => ?_)
    hs.request
  · by_cases hxc : x = c
    · subst hxc
      exact .inl (hready (by simpa [System.setPhase] using hx))
    · exact .inr ⟨by simpa [System.setPhase, hxc] using hx,rfl⟩
  · by_cases hxc : x = c
    · exact hxc ▸ hphase
    · simpa [System.setPhase, hxc] using hx

/-- Only an entry of the server, and its socket, can be taken out. -/
theorem not_takenOut {s t : Server β} (hs : s.Registry) {x : ConnId}
    (hholder : ∀ k, s.holder k = some x → t.holder k = some x)
    (hsocket : (t.connection x).socketOpen = (s.connection x).socketOpen) : ¬TakenOut s t x := by
  rintro (⟨hx,hxt⟩ | ⟨hopen,hclosed⟩)
  · obtain ⟨deviceId,hd⟩ := Option.isSome_iff_exists.mp (hs.identified x hx)
    have hk : s.keyOf x = some deviceId.key := by rw [Server.keyOf, hd]; rfl
    exact hxt (Server.holder_mem (hholder _ (hs.holder_eq_some_iff.mpr ⟨hx,hk⟩))).1
  · rw [hsocket, hopen] at hclosed
    exact Bool.noConfusion hclosed

/-! ## Connect messages -/

section Connect
variable {s : System β} {raised : List (Option ConnId)} {c : ConnId} (deviceId : DeviceIdentification)

theorem Sound.not_mem (hs : s.Sound raised) (hc : s.phase c = .reading)
    (hready : (s.server.connection c).ready = false) : c ∉ s.server.connectedDevices_ := by
  refine hs.registry.not_mem ?_
  by_contra hd
  rw [hs.ready c hc hd] at hready
  exact Bool.noConfusion hready

theorem Sound.refused (hs : s.Sound raised) (hc : s.phase c = .reading)
    (hready : (s.server.connection c).ready = false)
    (hrefused : (s.server.handleConnection c deviceId).1 = false) :
    (s.handled c (s.server.handleConnection c deviceId)).Sound raised := by
  have hconn := Server.handleConnection_connection hready deviceId
  obtain ⟨hregistry,hentry⟩ := hs.registry.handleConnection hready (hs.not_mem hc hready) deviceId
  rw [hrefused] at hconn hentry
  have hmoved : ({ s with server := (s.server.handleConnection c deviceId).2 } : System β).Sound raised := by
    refine hs.shrink hregistry (fun x => by simpa using (hconn x).1)
      (fun x hx => .inr ⟨hx,(hconn x).2.1⟩) (fun k x hx => ?_) (fun _ h => h) hs.request
    rw [← holder_eq_of_entry ((hentry k).trans (if_neg (by simp)))]
    exact hx
  rw [handled, hrefused]
  exact hmoved.setPhase (by simp) (by simp [hc])

theorem Sound.registered (hs : s.Sound raised) (hc : s.phase c = .reading)
    (hready : (s.server.connection c).ready = false)
    (haccepted : (s.server.handleConnection c deviceId).1 = true)
    (hclean : s.NoLeftover c deviceId) :
    (s.handled c (s.server.handleConnection c deviceId)).Sound raised := by
  have hmem := hs.not_mem hc hready
  have hconn := Server.handleConnection_connection hready deviceId
  obtain ⟨hregistry,hentry⟩ := hs.registry.handleConnection hready hmem deviceId
  rw [haccepted] at hconn hentry
  rw [handled, haccepted]
  generalize (s.server.handleConnection c deviceId).2 = t at hconn hregistry hentry ⊢
  have hself : t.holder deviceId.key = some c := by
    have h := congrArg (Option.map Prod.fst) (hentry deviceId.key)
    simpa [Server.entry, Option.map_map, Function.comp_def] using h
  have hother : ∀ k, deviceId.key ≠ k → t.holder k = s.server.holder k := fun k hk =>
    holder_eq_of_entry ((hentry k).trans (if_neg fun h => hk h.1))
  have hid : ∀ x, x ≠ c → (t.connection x).deviceId = (s.server.connection x).deviceId :=
    fun x hx => by simpa [hx] using (hconn x).1
  have hidc : (t.connection c).deviceId = some deviceId := by simpa using (hconn c).1
  have hphase : ∀ x, x ≠ c → ∀ p, ({ s with server := t }.setPhase c p).phase x = s.phase x :=
    fun x hx p => by simp [System.setPhase, hx]
  refine ⟨hregistry,fun x hx hd => ?_,fun y k x hy hk hx hne => ?_,?_⟩
  · have hxc : x ≠ c := by
      rintro rfl
      simp [System.setPhase] at hx
    rw [hphase x hxc] at hx
    refine ((hconn x).2.1).trans (hs.ready x hx ?_)
    rw [← hid x hxc]
    exact hd
  · change t.holder k = some x at hx
    change t.keyOf y = some k at hk
    change t.getPriority y ≠ t.getPriority x
    by_cases hkey : deviceId.key = k
    · -- the newcomer is the entry, and whoever else registered the identity is done
      subst hkey
      obtain rfl : c = x := Option.some.inj (hself.symm.trans hx)
      rw [hphase y hne] at hy
      rw [Server.keyOf, hid y hne] at hk
      rw [Server.getPriority, Server.getPriority, hid y hne, hidc]
      exact hclean.cleanup y hne hy hk
    · rw [hother k hkey] at hx
      have hxc : x ≠ c := fun h => hmem (h ▸ (Server.holder_mem hx).1)
      have hyc : y ≠ c := by
        rintro rfl
        rw [Server.keyOf, hidc] at hk
        exact hkey (Option.some.inj hk)
      rw [hphase y hyc] at hy
      rw [Server.keyOf, hid y hyc] at hk
      rw [Server.getPriority, Server.getPriority, hid y hyc, hid x hxc]
      exact hs.cleanup y k x hy hk hx hne
  · -- no request is about the identity of the newcomer
    have habout : ∀ message ∈ s.toInternalQueue_, ∀ e, message = .disconnect e → e.key ≠ deviceId.key := by
      rintro message hm e rfl
      exact hclean.request e hm
    refine ((List.forall₂_and_left _ _).mpr ⟨habout,hs.request⟩).imp ?_
    rintro message owner ⟨hno,howner⟩ e rfl x hx
    change t.holder e.key = some x at hx
    rw [hother e.key (hno e rfl).symm] at hx
    exact howner e rfl x hx

theorem Sound.connect (hs : s.Sound raised) (hc : s.phase c = .reading)
    (hclean : s.Registers c deviceId → s.NoLeftover c deviceId) :
    (s.handled c (s.server.handleConnection c deviceId)).Sound raised := by
  cases hready : (s.server.connection c).ready with
  | true =>
    have hr : s.server.handleConnection c deviceId = (false,s.server) := by
      rw [Server.handleConnection, hready, if_pos rfl]
    rw [hr]
    exact hs.setPhase (by simp) (by simp [hc])
  | false =>
    cases haccepted : (s.server.handleConnection c deviceId).1 with
    | true =>
      exact hs.registered deviceId hc hready haccepted
        (hclean ⟨hready,(Server.accepted_iff hready deviceId).mp haccepted⟩)
    | false => exact hs.refused deviceId hc hready haccepted

theorem Sound.connect_onlyRaisedFor (hs : s.Sound raised) (hc : s.phase c = .reading) :
    s.OnlyRaisedFor raised (.connect c deviceId) (s.handled c (s.server.handleConnection c deviceId)) := by
  intro x hx
  by_contra hne
  refine not_takenOut hs.registry ?_ ?_ hx <;> cases hready : (s.server.connection c).ready
  · obtain ⟨-,hentry⟩ := hs.registry.handleConnection hready (hs.not_mem hc hready) deviceId
    intro k hk
    refine (holder_eq_of_entry ((hentry k).trans (if_neg ?_))).trans hk
    rintro ⟨rfl,-⟩
    exact hne hk
  · rw [Server.handleConnection, hready, if_pos rfl]
    exact fun _ h => h
  · exact (Server.handleConnection_connection hready deviceId x).2.2 hne
  · rw [Server.handleConnection, hready, if_pos rfl]
    rfl

end Connect

/-! ## Statuses, removals and the listener -/

theorem handleStatus_registry (s : Server β) (c : ConnId) (status : DeviceStatus β) :
    (s.handleStatus c status).2.connectedDevices_ = s.connectedDevices_ ∧
      ∀ x, ((s.handleStatus c status).2.connection x).deviceId = (s.connection x).deviceId ∧
        ((s.handleStatus c status).2.connection x).socketOpen = (s.connection x).socketOpen ∧
        (x ≠ c → ((s.handleStatus c status).2.connection x).ready = (s.connection x).ready) := by
  rw [Server.handleStatus]
  split
  · refine ⟨rfl,fun x => ?_⟩
    by_cases hx : x = c <;> simp [Server.setConnection, hx]
  · simp

theorem validateResponse_registry (s : Server β) (message : Structures.InternalServer β) :
    (s.validateResponse message).connectedDevices_ = s.connectedDevices_ ∧
      ∀ x, ((s.validateResponse message).connection x).deviceId = (s.connection x).deviceId ∧
        ((s.validateResponse message).connection x).socketOpen = (s.connection x).socketOpen ∧
        (((s.validateResponse message).connection x).ready = (s.connection x).ready ∨
          ((s.validateResponse message).connection x).ready = true) := by
  rw [Server.validateResponse]
  split
  · simp
  · rename_i c _
    split
    · obtain ⟨hconn,hlist,-⟩ := s.sendResponse_registry c message
      refine ⟨hlist,fun x => ?_⟩
      by_cases hx : x = c <;> simp [Server.setConnection, hx, hconn]
    · simp

/-- The registry is a function of the entries and the identifications. -/
theorem holder_congr {s t : Server β} (hlist : t.connectedDevices_ = s.connectedDevices_)
    (hid : ∀ x, (t.connection x).deviceId = (s.connection x).deviceId) (k : DeviceKey) :
    t.holder k = s.holder k := by
  have hkey : t.keyOf = s.keyOf := funext fun x => by rw [Server.keyOf, Server.keyOf, hid]
  rw [Server.holder, Server.holder, hlist, hkey]

theorem registry_congr {s t : Server β} (hs : s.Registry)
    (hlist : t.connectedDevices_ = s.connectedDevices_)
    (hid : ∀ x, (t.connection x).deviceId = (s.connection x).deviceId) : t.Registry :=
  hs.sublist (hlist ▸ List.Sublist.refl _) fun x _ => hid x

/-- `handleDisconnect` as the removal of the holder. -/
theorem handleDisconnect_eq (s : Server β) (deviceId : DeviceIdentification) :
    s.handleDisconnect deviceId =
      match s.holder deviceId.key with
      | none => s
      | some e => s.removeConnFromMap e := by
  rw [Server.handleDisconnect, Server.findConnection_eq_holder]
  cases s.holder deviceId.key <;> rfl

theorem handleDisconnect_connection (s : Server β) (deviceId : DeviceIdentification) (x : ConnId) :
    ((s.handleDisconnect deviceId).connection x).deviceId = (s.connection x).deviceId ∧
      ((s.handleDisconnect deviceId).connection x).ready = (s.connection x).ready ∧
      (s.holder deviceId.key ≠ some x →
        (s.handleDisconnect deviceId).connection x = s.connection x) := by
  rw [handleDisconnect_eq]
  cases s.holder deviceId.key with
  | none => simp
  | some e =>
    refine ⟨Server.removeConnFromMap_deviceId s e x,Server.removeConnFromMap_ready s e x,fun h => ?_⟩
    exact Server.removeConnFromMap_connection_of_ne s fun hx => h (congrArg some hx.symm)

/-- The cleanup of a connection meets no entry but its own. -/
theorem Sound.removedBy_eq {s : System β} {raised : List (Option ConnId)} (hs : s.Sound raised) {c e : ConnId}
    (hc : s.phase c = .closing) (h : s.server.removedBy c = some e) : e = c := by
  by_contra hne
  obtain ⟨he,hkey,hprio⟩ := Server.removedBy_mem h
  obtain ⟨deviceId,hd⟩ := Option.isSome_iff_exists.mp (hs.registry.identified e he)
  have hk : s.server.keyOf e = some deviceId.key := by rw [Server.keyOf, hd]; rfl
  exact hs.cleanup c _ e (by simp [hc]) (hkey ▸ hk) (hs.registry.holder_eq_some_iff.mpr ⟨he,hk⟩)
    (Ne.symm hne) hprio.symm

theorem holder_of_entry_or {s t : Server β} {k : DeviceKey} {x : ConnId} {p : Prop} [Decidable p]
    (h : t.entry k = if p then none else s.entry k) (hx : t.holder k = some x) :
    s.holder k = some x := by
  by_cases hp : p
  · rw [if_pos hp, Server.entry_eq_none_iff] at h
    simp [h] at hx
  · rwa [← holder_eq_of_entry (h.trans (if_neg hp))]

/-! ## One step -/

section Step
variable {s t : System β} {raised : List (Option ConnId)}

theorem Sound.step {call : SystemAction β × Option ConnId} (hs : s.Sound raised)
    (ha : CleanRegistration (s,raised) call) (ht : s.raisedStep call = some t) :
    t.Sound (seeRaised s call t raised) := by
  obtain ⟨a,owner⟩ := call
  unfold raisedStep at ht
  cases a with
  | connect c deviceId =>
    obtain ⟨hc,h⟩ := Option.ite_some_none_eq_some.mp ht
    exact h ▸ hs.connect deviceId hc ha
  | status c status =>
    obtain ⟨hc,rfl⟩ := Option.ite_some_none_eq_some.mp ht
    obtain ⟨hlist,hconn⟩ := handleStatus_registry s.server c status
    have hid := fun x => (hconn x).1
    refine hs.shrink (registry_congr hs.registry hlist hid) hid (fun x hx => ?_)
      (fun k x hx => (holder_congr hlist hid k).symm.trans hx) (fun x hx => ?_) hs.request
    · have hxc : x ≠ c := by
        rintro rfl
        cases hr : (s.server.handleStatus x status).1 <;> simp [handled, System.setPhase, hr] at hx
      exact .inr ⟨by simpa [handled, System.setPhase, hxc] using hx,(hconn x).2.2 hxc⟩
    · by_cases hxc : x = c
      · simp [hxc, hc]
      · simpa [handled, System.setPhase, hxc] using hx
  | fail c =>
    obtain ⟨hc,rfl⟩ := Option.ite_some_none_eq_some.mp ht
    exact hs.setPhase (by simp) (by simp [hc])
  | responded c =>
    obtain ⟨⟨hc,hr⟩,rfl⟩ := Option.ite_some_none_eq_some.mp ht
    exact hs.setPhase (fun _ => hr) (by simp [hc])
  | timeout c =>
    obtain ⟨⟨hc,-⟩,rfl⟩ := Option.ite_some_none_eq_some.mp ht
    exact hs.setPhase (by simp) (by simp [hc])
  | cleanup c =>
    obtain ⟨hc,rfl⟩ := Option.ite_some_none_eq_some.mp ht
    have hmoved : ({ s with server := s.server.removeConnFromMap c } : System β).Sound raised :=
      hs.shrink (hs.registry.removeConnFromMap c) (Server.removeConnFromMap_deviceId s.server c)
        (fun x hx => .inr ⟨hx,Server.removeConnFromMap_ready s.server c x⟩)
        (fun k x hx => holder_of_entry_or (hs.registry.entry_removeConnFromMap c k) hx)
        (fun _ h => h) hs.request
    exact hmoved.setPhase (by simp) (by simp [hc])
  | push message =>
    obtain rfl := Option.some.inj ht
    exact hs.shrink hs.registry (fun _ => rfl) (fun x hx => .inr ⟨hx,rfl⟩) (fun _ _ h => h)
      (fun _ h => h) (List.rel_append hs.request (.cons ha .nil))
  | listen =>
    have hrequest := hs.request
    rw [systemStep] at ht
    split at ht
    · simp at ht
    · rename_i deviceId rest hq
      rw [hq] at hrequest
      obtain ⟨owner,owners,-,hrest,rfl⟩ := List.forall₂_cons_left_iff.mp hrequest
      obtain rfl := Option.some.inj ht
      have hconn := handleDisconnect_connection s.server deviceId
      obtain ⟨hregistry,hentry⟩ := hs.registry.handleDisconnect deviceId
      exact hs.shrink hregistry (fun x => (hconn x).1) (fun x hx => .inr ⟨hx,(hconn x).2.1⟩)
        (fun k x hx => holder_of_entry_or (hentry k) hx) (fun _ h => h)
        hrest
    · rename_i message rest hq
      rw [hq] at hrequest
      obtain ⟨owner,owners,-,hrest,rfl⟩ := List.forall₂_cons_left_iff.mp hrequest
      obtain rfl := Option.some.inj ht
      obtain ⟨hlist,hconn⟩ := validateResponse_registry s.server message
      have hid := fun x => (hconn x).1
      refine hs.shrink (registry_congr hs.registry hlist hid) hid (fun x hx => ?_)
        (fun k x hx => (holder_congr hlist hid k).symm.trans hx) (fun _ h => h)
        hrest
      rcases (hconn x).2.2 with h | h
      · exact .inr ⟨hx,h⟩
      · exact .inl h

theorem Sound.onlyRaisedFor {a : SystemAction β} (hs : s.Sound raised)
    (ht : s.systemStep a = some t) : s.OnlyRaisedFor raised a t := by
  have hidle : t.server = s.server → s.OnlyRaisedFor raised a t := fun h x hx =>
    absurd hx (not_takenOut hs.registry (fun _ hk => h ▸ hk) (h ▸ rfl))
  cases a with
  | connect c deviceId =>
    obtain ⟨hc,h⟩ := Option.ite_some_none_eq_some.mp ht
    exact h ▸ hs.connect_onlyRaisedFor deviceId hc
  | status c status =>
    obtain ⟨hc,rfl⟩ := Option.ite_some_none_eq_some.mp ht
    obtain ⟨hlist,hconn⟩ := handleStatus_registry s.server c status
    intro x hx
    refine absurd hx (not_takenOut hs.registry (fun k hk => ?_) (hconn x).2.1)
    exact (holder_congr hlist (fun x => (hconn x).1) k).trans hk
  | fail c =>
    obtain ⟨hc,rfl⟩ := Option.ite_some_none_eq_some.mp ht
    exact hidle rfl
  | responded c =>
    obtain ⟨-,rfl⟩ := Option.ite_some_none_eq_some.mp ht
    exact hidle rfl
  | timeout c =>
    obtain ⟨-,rfl⟩ := Option.ite_some_none_eq_some.mp ht
    exact hidle rfl
  | cleanup c =>
    obtain ⟨hc,rfl⟩ := Option.ite_some_none_eq_some.mp ht
    intro x hx
    by_contra hne
    have hxc : x ≠ c := fun h => hne (congrArg some h.symm)
    refine not_takenOut hs.registry (fun k hk => ?_) ?_ hx
    · refine (hs.registry.holder_removeConnFromMap c k).trans ?_
      rw [if_neg, hk]
      rintro ⟨hsome,hck⟩
      obtain ⟨e,he⟩ := Option.isSome_iff_exists.mp hsome
      obtain ⟨hmem,hkey,-⟩ := Server.removedBy_mem he
      have hek : s.server.holder k = some e :=
        hs.registry.holder_eq_some_iff.mpr ⟨hmem,hkey.trans hck⟩
      exact hxc ((Option.some.inj (hk.symm.trans hek)).trans (hs.removedBy_eq hc he))
    · exact congrArg Connection.socketOpen (Server.removeConnFromMap_connection_of_ne s.server hxc)
  | push message =>
    obtain rfl := Option.some.inj ht
    exact hidle rfl
  | listen =>
    rw [systemStep] at ht
    split at ht
    · simp at ht
    · rename_i deviceId rest hq
      obtain rfl := Option.some.inj ht
      intro x hx
      by_contra hne
      have hrequest := hs.request
      rw [hq] at hrequest
      obtain ⟨owner,owners,howner,-,rfl⟩ := List.forall₂_cons_left_iff.mp hrequest
      have hxe : s.server.holder deviceId.key ≠ some x := by
        intro h
        apply hne
        rw [raisedFor, howner deviceId rfl x h]
        rfl
      refine not_takenOut hs.registry (fun k hk => ?_) ?_ hx
      · refine (holder_eq_of_entry (((hs.registry.handleDisconnect deviceId).2 k).trans
          (if_neg ?_))).trans hk
        rintro rfl
        exact hxe hk
      · exact congrArg Connection.socketOpen ((handleDisconnect_connection s.server deviceId x).2.2 hxe)
    · rename_i message rest hq
      obtain rfl := Option.some.inj ht
      obtain ⟨hlist,hconn⟩ := validateResponse_registry s.server message
      intro x hx
      refine absurd hx (not_takenOut hs.registry (fun k hk => ?_) (hconn x).2.1)
      exact (holder_congr hlist (fun x => (hconn x).1) k).trans hk

end Step

/-- While connections register only with no removal left over, and no request is pushed for the silence of a
connection that another one has replaced, every removal takes out the connection it was raised for. -/
theorem exec_removal {calls : List (SystemAction β × Option ConnId)} {s : System β × List (Option ConnId)}
    (hg : Guarded (watched raisedStep seeRaised) CleanRegistration (System.init,[]) calls)
    (he : exec (watched raisedStep seeRaised) (System.init,[]) calls = some s) {a : SystemAction β} {t : System β}
    (ht : s.1.systemStep a = some t) : s.1.OnlyRaisedFor s.2 a t := by
  have hs : s.1.Sound s.2 := by
    refine exec_guarded_invariant (I := fun s : System β × List (Option ConnId) => s.1.Sound s.2) Sound.init ?_ hg he
    intro s call t hs ha ht
    obtain ⟨hstep,hsee⟩ := watched_eq_some.mp ht
    rw [hsee]
    exact hs.step ha hstep
  exact hs.onlyRaisedFor ht

def cam : DeviceIdentification := ⟨1,2,"cam","a",5⟩

/-- Connection 0 registers and gets its response. -/
def registered : List (SystemAction (List UInt8) × Option ConnId) :=
  [(.connect 0 cam,none),(.push (.message (.deviceConnectResponse .OK cam)),none),(.listen,none),(.responded 0,none)]

/-- The same runs without the condition: connection 0 loses its entry to a disconnect request,
connection 1 registers in its place, and the cleanup of 0 erases the entry of 1. -/
def staleCleanup : List (SystemAction (List UInt8) × Option ConnId) :=
  registered ++ [(.push (.disconnect cam),some 0),(.listen,none),(.connect 1 cam,none),(.fail 0,none)]

/-- Connection 0 ends by itself while the request for it waits, and the request closes 1. -/
def staleRequest : List (SystemAction (List UInt8) × Option ConnId) :=
  registered ++ [(.push (.disconnect cam),some 0),(.fail 0,none),(.cleanup 0,none),(.connect 1 cam,none)]

/-- Connection 0 ends by itself after its silence was counted, and the request for it comes when 1 has
registered. -/
def lateRequest : List (SystemAction (List UInt8) × Option ConnId) :=
  registered ++ [(.fail 0,none),(.cleanup 0,none),(.connect 1 cam,none),(.push (.disconnect cam),some 0)]

theorem stale_removal_takes_other :
    (∃ s t, exec (watched raisedStep seeRaised) (System.init,[]) staleCleanup = some s ∧
      s.1.systemStep (.cleanup 0) = some t ∧ ¬s.1.OnlyRaisedFor s.2 (.cleanup 0) t) ∧
    (∃ s t, exec (watched raisedStep seeRaised) (System.init,[]) staleRequest = some s ∧
      s.1.systemStep .listen = some t ∧ ¬s.1.OnlyRaisedFor s.2 .listen t) ∧
    ∃ s t, exec (watched raisedStep seeRaised) (System.init,[]) lateRequest = some s ∧
      s.1.systemStep .listen = some t ∧ ¬s.1.OnlyRaisedFor s.2 .listen t := by
  refine ⟨⟨_,_,rfl,rfl,fun h => ?_⟩,⟨_,_,rfl,rfl,fun h => ?_⟩,⟨_,_,rfl,rfl,fun h => ?_⟩⟩
  all_goals exact absurd (h 1 (.inl (by decide))) (by decide)

def reconnect : List (SystemAction (List UInt8) × Option ConnId) :=
  [(.connect 0 cam,none),(.timeout 0,none),(.cleanup 0,none),(.connect 1 cam,none),(.push (.disconnect cam),some 1)]

theorem reconnect_clean :
    Guarded (watched raisedStep seeRaised) CleanRegistration (System.init,[]) reconnect := by
  refine Guarded.cons (fun _ => ⟨fun x _ _ hk => ?_,fun e hm => absurd hm List.not_mem_nil⟩) rfl
    (Guarded.cons trivial rfl (Guarded.cons trivial rfl (Guarded.cons (fun _ => ⟨fun x hx hp hk => ?_,
      fun e hm => absurd hm List.not_mem_nil⟩) rfl (Guarded.cons ?_ rfl trivial))))
  · simp [System.init, Server.init, Server.keyOf, Connection.accepted] at hk
  · have hx0 : x ≠ 0 := by
      rintro rfl
      exact hp rfl
    change ((Server.init.connectNewDevice 0 cam).removeConnFromMap 0).keyOf x = _ at hk
    rw [Server.removeConnFromMap_keyOf, Server.connectNewDevice_keyOf, if_neg hx0] at hk
    simp [Server.init, Server.keyOf, Connection.accepted] at hk
  · rintro deviceId hm x hx
    obtain rfl := ModuleHandlerMessage.disconnect.inj hm
    exact hx

/-- A device that comes back after the cleanup of its old connection keeps its entry until
a request is raised for the new one. -/
theorem exec_removal_reconnect :
    ∃ (s : System (List UInt8) × List (Option ConnId)) (t : System (List UInt8)),
      exec (watched raisedStep seeRaised) (System.init,[]) reconnect = some s ∧
      s.1.systemStep .listen = some t ∧ s.1.OnlyRaisedFor s.2 .listen t :=
  ⟨_,_,rfl,rfl,exec_removal reconnect_clean rfl rfl⟩

end System

end ModuleGateway.InternalServer
