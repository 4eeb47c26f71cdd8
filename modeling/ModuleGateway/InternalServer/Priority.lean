import ModuleGateway.Library.Execution
import ModuleGateway.InternalServer.Server
import Mathlib.Data.List.MinMax

/-! # Priorities of competing connections

Runs of connect messages, cleanups and disconnect requests. An observer notes who
came for an identity since it last had no entry; the entry is the first of them
with the smallest priority number, and the answers follow from that minimum.
-/
namespace ModuleGateway.InternalServer
open Structures Execution

variable {β : Type}

/-- One section under `serverMutex_`. -/
inductive RegistryAction where
  | connect (c : ConnId) (deviceId : DeviceIdentification)
  | cleanup (c : ConnId)
  | disconnect (deviceId : DeviceIdentification)

namespace Server

/-- Nothing has been read on the connection yet. -/
def Fresh (s : Server β) (c : ConnId) : Prop := s.connection c = .accepted

instance (s : Server β) (c : ConnId) : Decidable (s.Fresh c) :=
  inferInstanceAs (Decidable (s.connection c = .accepted))

def registryStep (s : Server β) : RegistryAction → Option (Server β)
  | .connect c deviceId => if s.Fresh c then some (s.handleConnection c deviceId).2 else none
  | .cleanup c => some (s.removeConnFromMap c)
  | .disconnect deviceId => some (s.handleDisconnect deviceId)

/-- The identity a section is about; a cleanup is about the one its connection registered. -/
def concerns (s : Server β) : RegistryAction → Option DeviceKey
  | .connect _ deviceId => some deviceId.key
  | .cleanup c => s.keyOf c
  | .disconnect deviceId => some deviceId.key

/-! ## What one section does -/

theorem registryStep_connect_eq_some {s t : Server β} {c : ConnId} {deviceId : DeviceIdentification} :
    s.registryStep (.connect c deviceId) = some t ↔
      s.Fresh c ∧ (s.handleConnection c deviceId).2 = t := by
  simp [registryStep]

theorem Fresh.deviceId {s : Server β} {c : ConnId} (h : s.Fresh c) :
    (s.connection c).deviceId = none := by rw [h]; rfl

theorem Fresh.sendResponse {s : Server β} {c : ConnId} (h : s.Fresh c)
    (message : Structures.InternalServer β) :
    s.sendResponse c message = { s with responses := s.responses ++ [(c,message)] } := by
  rw [Server.sendResponse, h]
  rfl

theorem Fresh.ready {s : Server β} {c : ConnId} (h : s.Fresh c) : (s.connection c).ready = false := by
  rw [h]; rfl

namespace Registry
variable {s : Server β}

/-- Every section keeps the registry, and other identities keep their entries. -/
theorem registryStep (hs : s.Registry) {a : RegistryAction} {t : Server β}
    (h : s.registryStep a = some t) :
    t.Registry ∧ ∀ k, s.concerns a ≠ some k → t.entry k = s.entry k := by
  cases a with
  | connect c deviceId =>
    obtain ⟨hc,rfl⟩ := registryStep_connect_eq_some.mp h
    obtain ⟨ht,hentry⟩ := hs.handleConnection hc.ready (hs.not_mem hc.deviceId) deviceId
    refine ⟨ht,fun k hk => ?_⟩
    rw [hentry, if_neg]
    exact fun hkk => hk (congrArg some hkk.1)
  | cleanup c =>
    obtain rfl := Option.some.inj h
    refine ⟨hs.removeConnFromMap c,fun k hk => ?_⟩
    rw [hs.entry_removeConnFromMap, if_neg fun hkk => hk hkk.2]
  | disconnect deviceId =>
    obtain rfl := Option.some.inj h
    obtain ⟨ht,hentry⟩ := hs.handleDisconnect deviceId
    refine ⟨ht,fun k hk => ?_⟩
    rw [hentry, if_neg fun hkk => hk (congrArg some hkk)]

end Registry

/-- A section writes only to connections of the identity it is about and to the newcomer. -/
theorem registryStep_connection {s : Server β} {a : RegistryAction} {t : Server β}
    (h : s.registryStep a = some t) {k : DeviceKey} (hk : s.concerns a ≠ some k) {x : ConnId}
    (hx : s.keyOf x = some k) : t.connection x = s.connection x := by
  have hremove : ∀ c, s.keyOf c ≠ some k →
      (s.removeConnFromMap c).connection x = s.connection x := by
    intro c hc
    rw [removeConnFromMap_connection, Function.update_of_ne]
    rintro rfl
    exact hc hx
  cases a with
  | connect c deviceId =>
    obtain ⟨hc,rfl⟩ := registryStep_connect_eq_some.mp h
    have hxc : x ≠ c := by
      rintro rfl
      simp [keyOf, hc.deviceId] at hx
    rw [handleConnection_eq hc.ready]
    cases hh : s.holder deviceId.key with
    | none => simp [entry, hh, connectNewDevice, setConnection, hxc]
    | some e =>
      have hek : s.keyOf e ≠ some k := (holder_mem hh).2 ▸ hk
      simp only [entry, hh, Option.map_some, respondWithAlreadyConnected,
        respondWithHigherPriorityConnected, hc.sendResponse]
      split
      · rfl
      · split
        · rfl
        · simpa [connectNewDevice, setConnection, hxc] using hremove e hek
  | cleanup c =>
    obtain rfl := Option.some.inj h
    exact hremove c hk
  | disconnect deviceId =>
    obtain rfl := Option.some.inj h
    rw [handleDisconnect, findConnection_eq_holder]
    cases hh : s.holder deviceId.key with
    | none => rfl
    | some e => exact hremove e ((holder_mem hh).2 ▸ hk)

/-! ## What came for an identity since it last had no entry -/

structure Tenure where
  newcomers : List (ConnId × UInt32)
  accepted : List (ConnId × UInt32)

namespace Tenure

def vacant : Tenure := ⟨[],[]⟩

/-- A connect message of the identity, and whether it was accepted. -/
def arrive (o : Tenure) (c : ConnId) (priority : UInt32) (accepted : Bool) : Tenure where
  newcomers := o.newcomers ++ [(c,priority)]
  accepted := if accepted then o.accepted ++ [(c,priority)] else o.accepted

/-- The first connection with the smallest priority number. -/
def first (l : List (ConnId × UInt32)) : Option (ConnId × UInt32) :=
  l.argmin fun p => p.2.toNat

def minimum (o : Tenure) : Option UInt32 := (first o.accepted).map Prod.snd

end Tenure

def observeTenure (k : DeviceKey) (s : Server β) (a : RegistryAction) (t : Server β)
    (o : Tenure) : Tenure :=
  if (t.holder k).isNone then .vacant
  else match a with
    | .connect c deviceId =>
      if deviceId.key = k then o.arrive c deviceId.priority (s.handleConnection c deviceId).1 else o
    | _ => o

variable (β) in
/-- What the run has brought for an identity. -/
def tenure (k : DeviceKey) (as : List RegistryAction) : Tenure :=
  observe registryStep (observeTenure k) (Server.init : Server β) .vacant as

/-- The entry is the first smallest of all newcomers and of the accepted ones. -/
structure HeldByFirst (s : Server β) (k : DeviceKey) (o : Tenure) : Prop where
  newcomers : s.entry k = Tenure.first o.newcomers
  accepted : s.entry k = Tenure.first o.accepted

theorem first_concat (l : List (ConnId × UInt32)) (c : ConnId) (p : UInt32) :
    Tenure.first (l ++ [(c,p)]) =
      match Tenure.first l with
      | none => some (c,p)
      | some (e,q) => if p < q then some (c,p) else some (e,q) := by
  rw [Tenure.first, List.argmin_concat]
  simp only [UInt32.lt_iff_toNat_lt]
  cases hf : List.argmin (fun p : ConnId × UInt32 => p.2.toNat) l <;> simp only [Tenure.first, hf]

theorem HeldByFirst.arrive {s : Server β} {c : ConnId} {deviceId : DeviceIdentification}
    {o : Tenure} (hs : s.Registry) (hc : s.Fresh c) (h : s.HeldByFirst deviceId.key o) :
    (s.handleConnection c deviceId).2.HeldByFirst deviceId.key
      (o.arrive c deviceId.priority (s.handleConnection c deviceId).1) := by
  have hentry := (hs.handleConnection hc.ready (hs.not_mem hc.deviceId) deviceId).2 deviceId.key
  have hacc := accepted_iff hc.ready deviceId
  have hnew := first_concat o.newcomers c deviceId.priority
  have hold := first_concat o.accepted c deviceId.priority
  rw [← h.newcomers] at hnew
  rw [← h.accepted] at hold
  cases hb : (s.handleConnection c deviceId).1 with
  | true =>
    rw [hb] at hacc
    have hbelow := hacc.mp rfl
    have hmin : (match s.entry deviceId.key with
        | none => some (c,deviceId.priority)
        | some (e,q) => if deviceId.priority < q then some (c,deviceId.priority) else some (e,q)) =
        some (c,deviceId.priority) := by
      cases he : s.entry deviceId.key with
      | none => rfl
      | some p => exact if_pos (hbelow p he)
    rw [hmin] at hnew hold
    refine ⟨?_,?_⟩
    · rw [hentry, hb, Tenure.arrive, hnew]
      simp
    · rw [hentry, hb, Tenure.arrive, if_pos rfl, hold]
      simp
  | false =>
    rw [hb] at hacc
    have hnot : ¬ ∀ p ∈ s.entry deviceId.key, deviceId.priority < p.2 := fun hall => by
      simpa using hacc.mpr hall
    obtain ⟨p,hp,hge⟩ := by simpa only [not_forall] using hnot
    obtain ⟨e,q⟩ := p
    rw [Option.mem_def.mp hp] at hnew
    refine ⟨?_,?_⟩
    · rw [hentry, hb, Tenure.arrive, hnew, hp]
      simp only [if_neg hge]
      simp
    · rw [hentry, hb]
      simpa [Tenure.arrive] using h.accepted

/-- One section keeps the entry of an identity the first smallest of those who came. -/
theorem HeldByFirst.registryStep {s t : Server β} {k : DeviceKey} {a : RegistryAction} {o : Tenure}
    (hs : s.Registry) (h : s.HeldByFirst k o) (ht : s.registryStep a = some t) :
    t.HeldByFirst k (observeTenure k s a t o) := by
  unfold observeTenure
  cases hk : t.holder k with
  | none =>
    have hnone := entry_eq_none_iff.mpr hk
    exact ⟨hnone,hnone⟩
  | some x =>
    have hsame : t.entry k = s.entry k → t.HeldByFirst k o := fun he =>
      ⟨he.trans h.newcomers,he.trans h.accepted⟩
    have hne : t.entry k ≠ none := fun he => by simp [entry_eq_none_iff.mp he] at hk
    simp only [Option.isNone_some, Bool.false_eq_true, if_false]
    cases a with
    | connect c deviceId =>
      by_cases hkey : deviceId.key = k
      · obtain ⟨hc,rfl⟩ := registryStep_connect_eq_some.mp ht
        subst hkey
        simpa using HeldByFirst.arrive hs hc h
      · simp only [if_neg hkey]
        exact hsame ((hs.registryStep ht).2 k fun hc => hkey (Option.some.inj hc))
    | cleanup c =>
      obtain rfl := Option.some.inj ht
      refine hsame ?_
      rw [hs.entry_removeConnFromMap] at hne ⊢
      split
      · rename_i hgone
        simp [hgone] at hne
      · rfl
    | disconnect deviceId =>
      obtain rfl := Option.some.inj ht
      refine hsame ?_
      rw [(hs.handleDisconnect deviceId).2] at hne ⊢
      split
      · rename_i hgone
        simp [hgone] at hne
      · rfl

theorem exec_registry {as : List RegistryAction} {s : Server β}
    (h : exec registryStep Server.init as = some s) : s.Registry :=
  exec_invariant Registry.init (fun _ _ _ hs ht => (hs.registryStep ht).1) h

theorem exec_heldByFirst {as : List RegistryAction} {s : Server β} (k : DeviceKey)
    (h : exec registryStep Server.init as = some s) : s.HeldByFirst k (tenure β k as) := by
  have hinv : s.Registry ∧ s.HeldByFirst k (tenure β k as) :=
    exec_observe_invariant (I := fun (s : Server β) o => s.Registry ∧ s.HeldByFirst k o)
      ⟨Registry.init,rfl,rfl⟩
      (fun s o a t hs _ ht => ⟨(hs.1.registryStep ht).1,hs.2.registryStep hs.1 ht⟩)
      (guarded_true _ as) h
  exact hinv.2

/-! ## The answer to a newcomer -/

/-- The connect message was pushed to the Module Handler in this section. -/
def Forwarded (s t : Server β) (deviceId : DeviceIdentification) : Prop :=
  .message false (.deviceConnect deviceId) ∈
    t.fromInternalQueue_.drop s.fromInternalQueue_.length

/-- The newcomer was answered in this section. -/
def Answered (s t : Server β) (c : ConnId) (deviceId : DeviceIdentification)
    (responseType : ConnectResponseType) : Prop :=
  (c,.deviceConnectResponse responseType deviceId) ∈ t.responses.drop s.responses.length

/-- Forwarding and answers by the entry a newcomer finds. -/
theorem Fresh.answer {s t : Server β} {c : ConnId} {deviceId : DeviceIdentification}
    (hc : s.Fresh c) (ht : s.registryStep (.connect c deviceId) = some t) :
    (Forwarded s t deviceId ↔ ∀ p ∈ s.entry deviceId.key, deviceId.priority < p.2) ∧
      (Answered s t c deviceId .ALREADY_CONNECTED ↔
        ∃ p ∈ s.entry deviceId.key, deviceId.priority = p.2) ∧
      (Answered s t c deviceId .HIGHER_PRIORITY_ALREADY_CONNECTED ↔
        ∃ p ∈ s.entry deviceId.key, p.2 < deviceId.priority) := by
  obtain ⟨-,rfl⟩ := registryStep_connect_eq_some.mp ht
  rw [handleConnection_eq hc.ready]
  cases hentry : s.entry deviceId.key with
  | none => simp [Forwarded, Answered, connectNewDevice, setConnection]
  | some p =>
    obtain ⟨e,q⟩ := p
    simp only [Option.mem_def, Option.some.injEq, forall_eq', exists_eq_left']
    split
    · rename_i heq
      subst heq
      simp [Forwarded, Answered, respondWithAlreadyConnected, hc.sendResponse]
    · rename_i hne
      split
      · rename_i hgt
        have hge := UInt32.not_lt.mpr (UInt32.le_of_lt hgt)
        simp [Forwarded, Answered, respondWithHigherPriorityConnected, hc.sendResponse, hne, hgt, hge]
      · rename_i hle
        have hlt := UInt32.lt_of_le_of_ne (UInt32.not_lt.mp hle) hne
        obtain ⟨-,hqueue,hres⟩ := removeConnFromMap_registry s e
        simp [Forwarded, Answered, connectNewDevice, setConnection, hqueue, hres, hne, hlt, hle]

/-- In every run: identities are unique; the entry of an identity is the first smallest of all
newcomers since it last had none, and of the accepted ones; a newcomer is accepted, which is
forwarding it, exactly below the minimum accepted so far, and answered by how it compares
otherwise; and a section leaves the entries of other identities alone. -/
theorem exec_priority {as : List RegistryAction} {s : Server β}
    (h : exec registryStep Server.init as = some s) :
    (s.connectedDevices_.map s.keyOf).Nodup ∧
      (∀ k, s.entry k = Tenure.first (tenure β k as).newcomers ∧
        s.entry k = Tenure.first (tenure β k as).accepted) ∧
      (∀ c deviceId t, s.registryStep (.connect c deviceId) = some t →
        ((s.handleConnection c deviceId).1 = true ↔ Forwarded s t deviceId) ∧
        (Forwarded s t deviceId ↔
          ∀ m ∈ (tenure β deviceId.key as).minimum, deviceId.priority < m) ∧
        (Answered s t c deviceId .ALREADY_CONNECTED ↔
          (tenure β deviceId.key as).minimum = some deviceId.priority) ∧
        (Answered s t c deviceId .HIGHER_PRIORITY_ALREADY_CONNECTED ↔
          ∃ m ∈ (tenure β deviceId.key as).minimum, m < deviceId.priority)) ∧
      ∀ a t, s.registryStep a = some t → ∀ k, s.concerns a ≠ some k →
        t.entry k = s.entry k ∧ ∀ x, s.keyOf x = some k → t.connection x = s.connection x := by
  have hs := exec_registry h
  refine ⟨hs.unique,fun k => ?_,?_,?_⟩
  · have hk := exec_heldByFirst k h
    exact ⟨hk.newcomers,hk.accepted⟩
  · intro c deviceId t ht
    have hc := (registryStep_connect_eq_some.mp ht).1
    obtain ⟨hforward,halready,hhigher⟩ := hc.answer ht
    have hmin : (tenure β deviceId.key as).minimum = (s.entry deviceId.key).map Prod.snd := by
      rw [Tenure.minimum, ← (exec_heldByFirst deviceId.key h).accepted]
    rw [hmin, hforward, halready, hhigher, accepted_iff hc.ready]
    cases s.entry deviceId.key with
    | none => simp
    | some p => simp [eq_comm]
  · intro a t ht k hk
    exact ⟨(hs.registryStep ht).2 k hk,fun x => registryStep_connection ht hk⟩

/-- A smaller newcomer replaces the holder, and the late cleanup of the replaced connection
and an equal newcomer change nothing. -/
theorem exec_priority_replaced :
    ∃ s : Server (List UInt8),
      exec registryStep Server.init
          [.connect 0 ⟨1,2,"cam","a",5⟩,.connect 1 ⟨1,2,"cam","b",3⟩,.cleanup 0,
            .connect 2 ⟨1,2,"cam","c",3⟩] = some s ∧
        (s.connectedDevices_.map s.keyOf).Nodup ∧ s.entry ⟨1,2,"cam"⟩ = some (1,3) := by
  obtain ⟨s,hs⟩ : ∃ s : Server (List UInt8), exec registryStep Server.init
      [.connect 0 ⟨1,2,"cam","a",5⟩,.connect 1 ⟨1,2,"cam","b",3⟩,.cleanup 0,
        .connect 2 ⟨1,2,"cam","c",3⟩] = some s := ⟨_,rfl⟩
  obtain ⟨hunique,hentry,-⟩ := exec_priority hs
  refine ⟨s,hs,hunique,(hentry _).1.trans ?_⟩
  decide

end Server

end ModuleGateway.InternalServer
