import ModuleGateway.InternalServer.Removal
import Mathlib.Data.List.Chain

/-! # Connects and disconnects of one identity

Whatever connects, is replaced or cleaned up: the registry and the messages that the Module
Handler gets about an identity say the same. The messages are followed by an automaton whose
state is the priority of the device that is connected.
-/
namespace ModuleGateway.InternalServer
open Structures Execution

variable {β : Type}

inductive RegistryEvent where
  | connect (priority : UInt32)
  | disconnect (priority : UInt32)
deriving DecidableEq

/-- What a message of the server says about an identity. -/
def eventOf (k : DeviceKey) : InternalClientMessage β → Option RegistryEvent
  | .disconnect deviceId => if deviceId.key = k then some (.disconnect deviceId.priority) else none
  | .message _ (.deviceConnect device) => if device.key = k then some (.connect device.priority) else none
  | _ => none

/-- A connect and the disconnect of the same priority, in turns. -/
def track : Option UInt32 → RegistryEvent → Option (Option UInt32)
  | none, .connect priority => some (some priority)
  | some connected, .disconnect priority => if priority = connected then some none else none
  | _, _ => none

/-- Which event may come after which one. -/
def Follows : RegistryEvent → RegistryEvent → Prop
  | .connect connected, .disconnect priority => priority = connected
  | .disconnect _, .connect _ => True
  | _, _ => False

/-- Strict alternation that starts with a connect, each disconnect with the priority of the connect
before it. -/
def Alternating (events : List RegistryEvent) : Prop :=
  (∀ priority, events.head? ≠ some (.disconnect priority)) ∧ events.IsChain Follows

theorem track_eq_some {o o' : Option UInt32} {event : RegistryEvent} : track o event = some o' ↔
    (∃ priority, o = none ∧ event = .connect priority ∧ o' = some priority) ∨
      ∃ priority, o = some priority ∧ event = .disconnect priority ∧ o' = none := by
  constructor
  · intro h
    cases o with
    | none =>
      cases event with
      | connect priority => exact .inl ⟨priority,rfl,rfl,(Option.some.inj h).symm⟩
      | disconnect priority => cases h
    | some connected =>
      cases event with
      | connect priority => cases h
      | disconnect priority =>
        simp only [track, Option.ite_none_right_eq_some, Option.some.injEq] at h
        obtain ⟨rfl,rfl⟩ := h
        exact .inr ⟨priority,rfl,rfl,rfl⟩
  · rintro (⟨priority,rfl,rfl,rfl⟩ | ⟨priority,rfl,rfl,rfl⟩)
    · rfl
    · exact if_pos rfl

/-- What the automaton accepts alternates, and its state is the last connect unless a disconnect
came after it. -/
theorem exec_track {events : List RegistryEvent} {o : Option UInt32} (h : exec track none events = some o) :
    Alternating events ∧ ∀ priority, o = some priority ↔ events.getLast? = some (.connect priority) := by
  induction events using List.reverseRecOn generalizing o with
  | nil =>
    obtain rfl := Option.some.inj h
    exact ⟨⟨nofun,List.isChain_nil⟩,fun priority => iff_of_false nofun nofun⟩
  | append_singleton events event ih =>
    obtain ⟨o',ho',hevent⟩ := exec_concat_eq_some.mp h
    obtain ⟨⟨hhead,hchain⟩,hlast⟩ := ih ho'
    rw [List.getLast?_concat]
    have hhead' : (∀ priority, event ≠ .disconnect priority) ∨ events ≠ [] →
        ∀ priority, (events ++ [event]).head? ≠ some (.disconnect priority) := by
      intro hstart priority
      cases events with
      | nil =>
        rw [List.nil_append, List.head?_singleton]
        exact fun hsome => hstart.elim (fun hne => hne priority (Option.some.inj hsome)) (fun hne => hne rfl)
      | cons first rest => exact hhead priority
    have hchain' : (∀ previous ∈ events.getLast?, Follows previous event) →
        (events ++ [event]).IsChain Follows := by
      intro hfollows
      exact List.isChain_append.mpr ⟨hchain,List.isChain_singleton _,by simpa using hfollows⟩
    obtain ⟨priority,rfl,rfl,rfl⟩ | ⟨priority,rfl,rfl,rfl⟩ := track_eq_some.mp hevent
    · refine ⟨⟨hhead' (.inl nofun),hchain' fun previous hprevious => ?_⟩,fun priority' => by simp⟩
      cases previous with
      | connect connected => exact absurd ((hlast connected).mpr hprevious) nofun
      | disconnect _ => trivial
    · have hprevious := (hlast priority).mp rfl
      refine ⟨⟨hhead' (.inr ?_),hchain' ?_⟩,fun priority' => iff_of_false nofun nofun⟩
      · rintro rfl
        cases hprevious
      · intro previous hmem
        obtain rfl := Option.some.inj (hprevious.symm.trans hmem)
        exact rfl

namespace Server

/-- The connect and disconnect messages of an identity, in the order in which they were pushed. -/
def events (s : Server β) (k : DeviceKey) : List RegistryEvent := s.fromInternalQueue_.filterMap (eventOf k)

/-- The messages lead the automaton of every identity to its entry. -/
def Tracked (s : Server β) : Prop := ∀ k, exec track none (s.events k) = some ((s.entry k).map Prod.snd)

theorem Tracked.init : (Server.init : Server β).Tracked := fun _ => rfl

theorem events_append {s t : Server β} {l : List (InternalClientMessage β)}
    (h : t.fromInternalQueue_ = s.fromInternalQueue_ ++ l) (k : DeviceKey) :
    t.events k = s.events k ++ l.filterMap (eventOf k) := by
  rw [events, events, h, List.filterMap_append]

/-- Where neither the entries nor the messages change. -/
theorem Tracked.congr {s t : Server β} (hs : s.Tracked) {l : List (InternalClientMessage β)}
    (hqueue : t.fromInternalQueue_ = s.fromInternalQueue_ ++ l) (hl : ∀ k, l.filterMap (eventOf k) = [])
    (hentry : ∀ k, t.entry k = s.entry k) : t.Tracked := by
  intro k
  rw [events_append hqueue, hl, List.append_nil, hentry]
  exact hs k

/-- One message about an identity, and what becomes of its entry. -/
theorem Tracked.concat {s t : Server β} (hs : s.Tracked) {message : InternalClientMessage β} {k₀ : DeviceKey}
    {event : RegistryEvent} {o : Option UInt32} (hqueue : t.fromInternalQueue_ = s.fromInternalQueue_ ++ [message])
    (hmessage : ∀ k, eventOf k message = if k₀ = k then some event else none)
    (hevent : track ((s.entry k₀).map Prod.snd) event = some o)
    (hself : (t.entry k₀).map Prod.snd = o) (hother : ∀ k, k₀ ≠ k → t.entry k = s.entry k) : t.Tracked := by
  intro k
  rw [events_append hqueue]
  by_cases hk : k₀ = k
  · subst hk
    have hone : [message].filterMap (eventOf k₀) = [event] :=
      List.filterMap_cons_some ((hmessage k₀).trans (if_pos rfl))
    rw [hone, hself]
    exact exec_concat_eq_some.mpr ⟨_,hs k₀,hevent⟩
  · have hnone : [message].filterMap (eventOf k) = [] :=
      List.filterMap_cons_none ((hmessage k).trans (if_neg hk))
    rw [hnone, List.append_nil, hother k hk]
    exact hs k

/-! ## Operations -/

section Operations
variable {s : Server β}

theorem Tracked.removeConnFromMap (hs : s.Tracked) (hregistry : s.Registry) (c : ConnId) :
    (s.removeConnFromMap c).Tracked := by
  obtain ⟨-,hqueue,-⟩ := s.removeConnFromMap_registry c
  have hentry := hregistry.entry_removeConnFromMap c
  cases hremoved : s.removedBy c with
  | none =>
    rw [hremoved] at hqueue
    refine hs.congr hqueue (fun _ => rfl) fun k => ?_
    rw [hentry, hremoved, if_neg (fun h => Bool.false_ne_true h.1)]
  | some e =>
    rw [hremoved] at hqueue
    obtain ⟨hmem,hkey,hpriority⟩ := removedBy_mem hremoved
    obtain ⟨deviceId,hdeviceId,-⟩ := Option.bind_eq_some_iff.mp hremoved
    rw [hdeviceId] at hqueue
    have hkeyOf : s.keyOf c = some deviceId.key := congrArg (Option.map DeviceIdentification.key) hdeviceId
    have hholder : s.holder deviceId.key = some e := hregistry.holder_eq_some_iff.mpr ⟨hmem,hkey.trans hkeyOf⟩
    have hfound : (s.entry deviceId.key).map Prod.snd = some deviceId.priority := by
      rw [entry, hholder]
      refine congrArg some (hpriority.trans ?_)
      rw [getPriority, hdeviceId]
      rfl
    refine hs.concat hqueue (fun k => rfl) (track_eq_some.mpr (.inr ⟨_,hfound,rfl,rfl⟩)) ?_ fun k hk => ?_
    · rw [hentry, hremoved, if_pos ⟨rfl,hkeyOf⟩]
      rfl
    · rw [hentry, if_neg]
      rintro ⟨-,hsame⟩
      exact hk (Option.some.inj (hkeyOf.symm.trans hsame))

theorem Tracked.connectNewDevice (hs : s.Tracked) (hregistry : s.Registry) {c : ConnId}
    {deviceId : DeviceIdentification} (hc : c ∉ s.connectedDevices_) (hnone : s.holder deviceId.key = none) :
    (s.connectNewDevice c deviceId).Tracked := by
  have hentry := hregistry.entry_connectNewDevice hc hnone
  have hfree : (s.entry deviceId.key).map Prod.snd = none := by
    rw [entry_eq_none_iff.mpr hnone]
    rfl
  refine hs.concat rfl (fun k => rfl) (track_eq_some.mpr (.inl ⟨deviceId.priority,hfree,rfl,rfl⟩)) ?_ fun k hk => ?_
  · rw [hentry, if_pos rfl]
    rfl
  · rw [hentry, if_neg hk]

theorem Tracked.sendResponse (hs : s.Tracked) (c : ConnId) (message : Structures.InternalServer β) :
    (s.sendResponse c message).Tracked := by
  obtain ⟨hconnection,hlist,hqueue⟩ := s.sendResponse_registry c message
  refine hs.congr (hqueue.trans (List.append_nil _).symm) (fun _ => rfl) fun k => ?_
  have hkeyOf : (s.sendResponse c message).keyOf = s.keyOf := funext fun x => by rw [keyOf, keyOf, hconnection]
  have hpriority : (s.sendResponse c message).getPriority = s.getPriority :=
    funext fun x => by rw [getPriority, getPriority, hconnection]
  rw [entry, entry, holder, holder, hlist, hkeyOf, hpriority]

/-- A connect message that replaces an entry pushes a disconnect and a connect. -/
theorem Tracked.handleConnection (hs : s.Tracked) (hregistry : s.Registry) {c : ConnId}
    (hready : (s.connection c).ready = false) (hmem : c ∉ s.connectedDevices_) (deviceId : DeviceIdentification) :
    (s.handleConnection c deviceId).2.Tracked := by
  rw [handleConnection_eq hready]
  cases hholder : s.holder deviceId.key with
  | none =>
    rw [entry_eq_none_iff.mpr hholder]
    exact hs.connectNewDevice hregistry hmem hholder
  | some e =>
    have hentry : s.entry deviceId.key = some (e,s.getPriority e) := congrArg (Option.map _) hholder
    rw [hentry]
    dsimp only
    split
    · exact hs.sendResponse c _
    · split
      · exact hs.sendResponse c _
      · exact (hs.removeConnFromMap hregistry e).connectNewDevice (hregistry.removeConnFromMap e)
          (Registry.not_mem_removeConnFromMap hmem e) (hregistry.holder_replaced hholder)

theorem Tracked.handleDisconnect (hs : s.Tracked) (hregistry : s.Registry) (deviceId : DeviceIdentification) :
    (s.handleDisconnect deviceId).Tracked := by
  rw [Server.handleDisconnect]
  split
  · exact hs.removeConnFromMap hregistry _
  · exact hs

/-- The entries do not change where the list and the identifications stay. -/
theorem entry_congr {t : Server β} (hlist : t.connectedDevices_ = s.connectedDevices_)
    (hid : ∀ x, (t.connection x).deviceId = (s.connection x).deviceId) (k : DeviceKey) : t.entry k = s.entry k := by
  have hpriority : t.getPriority = s.getPriority := funext fun x => by rw [getPriority, getPriority, hid]
  rw [entry, entry, System.holder_congr hlist hid, hpriority]

theorem Tracked.handleStatus (hs : s.Tracked) (c : ConnId) (status : DeviceStatus β) :
    (s.handleStatus c status).2.Tracked := by
  obtain ⟨hlist,hconn⟩ := System.handleStatus_registry s c status
  have hentry := entry_congr hlist fun x => (hconn x).1
  cases hready : (s.connection c).ready with
  | true =>
    have hqueue : (s.handleStatus c status).2.fromInternalQueue_ =
        s.fromInternalQueue_ ++ [.message false (.deviceStatus status)] := by
      rw [Server.handleStatus, if_pos hready]
      rfl
    exact hs.congr hqueue (fun _ => rfl) hentry
  | false =>
    have hqueue : (s.handleStatus c status).2.fromInternalQueue_ = s.fromInternalQueue_ ++ [] := by
      rw [Server.handleStatus, hready, if_neg Bool.false_ne_true, List.append_nil]
    exact hs.congr hqueue (fun _ => rfl) hentry

theorem validateResponse_queue (s : Server β) (message : Structures.InternalServer β) :
    (s.validateResponse message).fromInternalQueue_ = s.fromInternalQueue_ := by
  rw [validateResponse]
  split
  · rfl
  · rename_i c _
    split
    · exact (s.sendResponse_registry c message).2.2
    · rfl

theorem Tracked.validateResponse (hs : s.Tracked) (message : Structures.InternalServer β) :
    (s.validateResponse message).Tracked := by
  obtain ⟨hlist,hconn⟩ := System.validateResponse_registry s message
  exact hs.congr ((s.validateResponse_queue message).trans (List.append_nil _).symm) (fun _ => rfl)
    (entry_congr hlist fun x => (hconn x).1)

end Operations

end Server

namespace System
variable {s t : System β}

/-! ## Steps -/

/-- A connection with an identification is ready whenever it reads, so none registers twice. -/
structure Steady (s : System β) : Prop where
  registry : s.server.Registry
  ready : ∀ c, s.phase c = .reading → (s.server.connection c).deviceId ≠ none →
    (s.server.connection c).ready = true

theorem Steady.init : (System.init : System β).Steady where
  registry := Server.Registry.init
  ready _ _ h := absurd rfl h

/-- What comes in while the connection reads and is not ready has no identification yet. -/
theorem Steady.deviceId_eq_none (hs : s.Steady) {c : ConnId} (hc : s.phase c = .reading)
    (hready : (s.server.connection c).ready = false) : (s.server.connection c).deviceId = none := by
  by_contra hid
  rw [hs.ready c hc hid] at hready
  exact Bool.noConfusion hready

/-- Handlers that read after the step became ready or are as they were. -/
theorem Steady.next (hs : s.Steady) (hregistry : t.server.Registry)
    (hready : ∀ x, t.phase x = .reading → (t.server.connection x).ready = true ∨ s.phase x = .reading ∧
      (t.server.connection x).deviceId = (s.server.connection x).deviceId ∧
      (t.server.connection x).ready = (s.server.connection x).ready) : t.Steady where
  registry := hregistry
  ready x hx hid := by
    obtain hready' | ⟨hphase,hsame,hready'⟩ := hready x hx
    · exact hready'
    · rw [hready']
      exact hs.ready x hphase (hsame ▸ hid)

theorem setPhase_phase_of_ne (s : System β) {c x : ConnId} (h : x ≠ c) (p : Phase) :
    (s.setPhase c p).phase x = s.phase x := Function.update_of_ne h ..

/-- The handler of one connection does not read after the step, the others stay. -/
theorem Steady.setPhase (hs : s.Steady) {c : ConnId} {p : Phase} (hp : p ≠ .reading) (server : Server β)
    (hregistry : server.Registry)
    (hother : ∀ x, x ≠ c → (server.connection x).deviceId = (s.server.connection x).deviceId ∧
      (server.connection x).ready = (s.server.connection x).ready) :
    ({ s with server := server }.setPhase c p).Steady := by
  refine hs.next hregistry fun x hx => ?_
  by_cases hxc : x = c
  · subst hxc
    exact absurd ((Function.update_self ..).symm.trans hx) hp
  · exact .inr ⟨(setPhase_phase_of_ne _ hxc p).symm.trans hx,hother x hxc⟩

theorem handled_phase_ne_reading (accepted : Bool) : (if accepted then Phase.waiting else .closing) ≠ .reading := by
  cases accepted <;> exact Phase.noConfusion

theorem handleConnection_of_ready {c : ConnId} (hready : (s.server.connection c).ready = true)
    (deviceId : DeviceIdentification) : s.server.handleConnection c deviceId = (false,s.server) := by
  rw [Server.handleConnection, hready, if_pos rfl]

theorem Steady.handled_connect (hs : s.Steady) {c : ConnId} (hc : s.phase c = .reading)
    (deviceId : DeviceIdentification) :
    (s.handled c (s.server.handleConnection c deviceId)).Steady := by
  cases hready : (s.server.connection c).ready with
  | true =>
    rw [handleConnection_of_ready hready]
    exact hs.setPhase Phase.noConfusion s.server hs.registry fun _ _ => ⟨rfl,rfl⟩
  | false =>
    have hmem := hs.registry.not_mem (hs.deviceId_eq_none hc hready)
    have hconn := Server.handleConnection_connection hready deviceId
    refine hs.setPhase (handled_phase_ne_reading _) _ (hs.registry.handleConnection hready hmem deviceId).1
      fun x hxc => ⟨?_,(hconn x).2.1⟩
    exact (hconn x).1.trans (if_neg fun h => hxc h.1)

theorem Steady.step {a : SystemAction β} (hs : s.Steady) (ht : s.systemStep a = some t) : t.Steady := by
  cases a with
  | connect c deviceId =>
    obtain ⟨hc,rfl⟩ := Option.ite_some_none_eq_some.mp ht
    exact hs.handled_connect hc deviceId
  | status c status =>
    obtain ⟨-,rfl⟩ := Option.ite_some_none_eq_some.mp ht
    obtain ⟨hlist,hconn⟩ := handleStatus_registry s.server c status
    exact hs.setPhase (handled_phase_ne_reading _) _ (registry_congr hs.registry hlist fun x => (hconn x).1)
      fun x hxc => ⟨(hconn x).1,(hconn x).2.2 hxc⟩
  | fail c =>
    obtain ⟨-,rfl⟩ := Option.ite_some_none_eq_some.mp ht
    exact hs.setPhase Phase.noConfusion s.server hs.registry fun _ _ => ⟨rfl,rfl⟩
  | responded c =>
    obtain ⟨⟨-,hready⟩,rfl⟩ := Option.ite_some_none_eq_some.mp ht
    refine hs.next hs.registry fun x hx => ?_
    by_cases hxc : x = c
    · exact .inl (hxc ▸ hready)
    · exact .inr ⟨(setPhase_phase_of_ne s hxc _).symm.trans hx,rfl,rfl⟩
  | timeout c =>
    obtain ⟨-,rfl⟩ := Option.ite_some_none_eq_some.mp ht
    exact hs.setPhase Phase.noConfusion s.server hs.registry fun _ _ => ⟨rfl,rfl⟩
  | cleanup c =>
    obtain ⟨-,rfl⟩ := Option.ite_some_none_eq_some.mp ht
    exact hs.setPhase Phase.noConfusion _ (hs.registry.removeConnFromMap c) fun x _ =>
      ⟨s.server.removeConnFromMap_deviceId c x,s.server.removeConnFromMap_ready c x⟩
  | push message =>
    obtain rfl := Option.some.inj ht
    exact hs.next hs.registry fun _ hx => .inr ⟨hx,rfl,rfl⟩
  | listen =>
    rw [systemStep] at ht
    split at ht
    · cases ht
    · rename_i deviceId rest hqueue
      obtain rfl := Option.some.inj ht
      have hconn := handleDisconnect_connection s.server deviceId
      exact hs.next (hs.registry.handleDisconnect deviceId).1 fun x hx => .inr ⟨hx,(hconn x).1,(hconn x).2.1⟩
    · rename_i message rest hqueue
      obtain rfl := Option.some.inj ht
      obtain ⟨hlist,hconn⟩ := validateResponse_registry s.server message
      refine hs.next (registry_congr hs.registry hlist fun x => (hconn x).1) fun x hx => ?_
      obtain hsame | hready := (hconn x).2.2
      · exact .inr ⟨hx,(hconn x).1,hsame⟩
      · exact .inl hready

/-- Every step keeps the messages and the entries together. -/
theorem Steady.tracked_step {a : SystemAction β} (hs : s.Steady) (htracked : s.server.Tracked)
    (ht : s.systemStep a = some t) : t.server.Tracked := by
  cases a with
  | connect c deviceId =>
    obtain ⟨hc,rfl⟩ := Option.ite_some_none_eq_some.mp ht
    cases hready : (s.server.connection c).ready with
    | true =>
      rw [handleConnection_of_ready hready]
      exact htracked
    | false =>
      exact htracked.handleConnection hs.registry hready (hs.registry.not_mem (hs.deviceId_eq_none hc hready)) deviceId
  | status c status =>
    obtain ⟨-,rfl⟩ := Option.ite_some_none_eq_some.mp ht
    exact htracked.handleStatus c status
  | fail c =>
    obtain ⟨-,rfl⟩ := Option.ite_some_none_eq_some.mp ht
    exact htracked
  | responded c =>
    obtain ⟨-,rfl⟩ := Option.ite_some_none_eq_some.mp ht
    exact htracked
  | timeout c =>
    obtain ⟨-,rfl⟩ := Option.ite_some_none_eq_some.mp ht
    exact htracked
  | cleanup c =>
    obtain ⟨-,rfl⟩ := Option.ite_some_none_eq_some.mp ht
    exact htracked.removeConnFromMap hs.registry c
  | push message =>
    obtain rfl := Option.some.inj ht
    exact htracked
  | listen =>
    rw [systemStep] at ht
    split at ht
    · cases ht
    · obtain rfl := Option.some.inj ht
      exact htracked.handleDisconnect hs.registry _
    · obtain rfl := Option.some.inj ht
      exact htracked.validateResponse _

/-- In every run of the server the connects and disconnects of an identity alternate, beginning with
a connect, with the same priority two by two, and the identity has an entry exactly when the last of
them is a connect: one of that priority. -/
theorem exec_alternating {as : List (SystemAction β)} (he : exec systemStep System.init as = some s)
    (k : DeviceKey) :
    Alternating (s.server.events k) ∧
      ((∃ c ∈ s.server.connectedDevices_, s.server.keyOf c = some k) ↔
        ∃ priority, (s.server.events k).getLast? = some (.connect priority)) ∧
      ∀ c ∈ s.server.connectedDevices_, s.server.keyOf c = some k →
        (s.server.events k).getLast? = some (.connect (s.server.getPriority c)) := by
  obtain ⟨hs,htracked⟩ : s.Steady ∧ s.server.Tracked :=
    exec_invariant (I := fun s : System β => s.Steady ∧ s.server.Tracked) ⟨Steady.init,Server.Tracked.init⟩
      (fun _ _ _ hs ht => ⟨hs.1.step ht,hs.1.tracked_step hs.2 ht⟩) he
  obtain ⟨halternating,hlast⟩ := exec_track (htracked k)
  have hpriority : ∀ c ∈ s.server.connectedDevices_, s.server.keyOf c = some k →
      (s.server.events k).getLast? = some (.connect (s.server.getPriority c)) := by
    intro c hc hk
    refine (hlast _).mp ?_
    rw [Server.entry, hs.registry.holder_eq_some_iff.mpr ⟨hc,hk⟩]
    rfl
  refine ⟨halternating,⟨?_,?_⟩,hpriority⟩
  · rintro ⟨c,hc,hk⟩
    exact ⟨_,hpriority c hc hk⟩
  · rintro ⟨priority,hevent⟩
    obtain ⟨⟨c,p⟩,hentry,-⟩ := Option.map_eq_some_iff.mp ((hlast priority).mpr hevent)
    obtain ⟨c',hholder,-⟩ := Option.map_eq_some_iff.mp hentry
    exact ⟨c',Server.holder_mem hholder⟩

/-- The stale cleanup takes the entry of connection 1 out, with a disconnect of its own. -/
theorem exec_alternating_staleCleanup :
    ∃ s, exec systemStep System.init (staleCleanup.map Prod.fst ++ [.cleanup 0]) = some s ∧
      s.server.events ⟨1,2,"cam"⟩ = [.connect 5,.disconnect 5,.connect 5,.disconnect 5] ∧
      Alternating (s.server.events ⟨1,2,"cam"⟩) := by
  obtain ⟨s,hs,hevents⟩ : ∃ s, exec systemStep System.init (staleCleanup.map Prod.fst ++ [.cleanup 0]) = some s ∧
      s.server.events ⟨1,2,"cam"⟩ = [.connect 5,.disconnect 5,.connect 5,.disconnect 5] := ⟨_,rfl,by decide⟩
  exact ⟨s,hs,hevents,(exec_alternating hs _).1⟩

end System

end ModuleGateway.InternalServer
