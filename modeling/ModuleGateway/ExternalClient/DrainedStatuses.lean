import ModuleGateway.Library.Execution
import ModuleGateway.ExternalClient.StatusOrigin

/-! # Statuses drained while a connect sequence runs

The client drains its queue into the error aggregators while the connect thread reads one
entry after the other, and the entries are cleared when the session is up. A status that
is filled in before the entry of its device is read goes out with it, and one that is
filled in after the clearing stays in its entry.
-/
namespace ModuleGateway.ExternalClient
open Structures Execution

variable {β γ : Type}

namespace ConnectThread

/-- The devices whose entry is still to be read by the sequence. -/
def toRead : ConnectThread β → List DeviceIdentification
  | .opening devices => devices
  | .connecting devices => devices
  | .reading _ remaining => remaining
  | .sending _ _ _ _ remaining => remaining
  | _ => []

end ConnectThread

/-- What the connect sequence would send of an entry. -/
def DeviceState.sendable [BufferType γ] (deviceState : DeviceState (Traced γ)) : List Origin :=
  deviceState.lastStatus.origins ++
    if isAllocated deviceState.errorMessage then deviceState.errorMessage.origins else []

def sendable [BufferType γ] (errorAggregators : ℤ → ErrorAggregator (Traced γ)) (k : DeviceKey) : List Origin :=
  ((entryIn errorAggregators k).getD DeviceState.blank).sendable

namespace ExternalConnection
variable [BufferType γ]

/-- The client adds the status while the entry of its device is still to be read, and this
displaces no status that was to be sent; or it does so outside of a sequence. -/
def AddedInTime (modules : Modules γ) (s : ExternalConnection (Traced γ)) (status : DeviceStatus (Traced γ)) :
    Prop :=
  ∃ module_, modules status.device.module_ = some module_ ∧
    module_.isDeviceTypeSupported status.device.deviceType ≠ .NOT_OK ∧
    ((∃ ok, s.connectThread = .finished ok) ∨
      status.device.key ∈ s.connectThread.toRead.map DeviceIdentification.key ∧
        ∀ x ∈ sendable s.errorAggregators_ status.device.key,
          x ∈ (((entryIn s.errorAggregators_ status.device.key).getD DeviceState.blank).add (traced module_)
            status.statusdata status.device.deviceType).2.sendable)

/-- The steps of a connect sequence and of the draining beside it. -/
def DrainedInTime (modules : Modules γ) (s : NumberedConnection γ) : ConnectionAction γ → Prop
  | .connect devices => (devices.map DeviceIdentification.key).Nodup
  | .fill => ∀ status, s.1.inFlight = some status → s.1.AddedInTime modules status
  | .thread answer => ∀ devices device status error remaining,
    s.1.connectThread = .sending devices device status error remaining →
      answer.sent = true ∨ status.origins = [] ∧ error.origins = []
  | _ => True

/-- The statuses of its device that an announcement carries. -/
def carries : ClientMessage (Traced γ) → List Origin
  | .status status =>
    if status.deviceState = .CONNECTING then
      (status.deviceStatus.statusdata.origins ++ status.errorMessage.origins).filter
        (·.key = status.deviceStatus.device.key)
    else []
  | _ => []

/-- The statuses that were taken from the queue, and those that announcements carried. -/
structure Drain where
  drained : List Origin
  carried : List Origin

def observeDrain (s : NumberedConnection γ) (a : ConnectionAction γ) (t : NumberedConnection γ)
    (drain : Drain) : Drain :=
  match a with
  | .take status => { drain with drained := drain.drained ++ [⟨status.device.key,s.2⟩] }
  | .thread answer =>
    if answer.sent then
      { drain with carried := drain.carried ++ (t.1.sent.drop s.1.sent.length).flatMap carries }
    else drain
  | _ => drain

/-- What the client, the connect thread and the receive loop do until the client joins the
connect thread. -/
def besideSequence : ConnectionAction γ → Bool
  | .thread _ => true
  | .take _ => true
  | .fill => true
  | .receive _ => true
  | _ => false

/-! ## Where a drained status is -/

/-- In an entry that is still to be read, or read; after the sequence in its entry. -/
def Aboard (s : ExternalConnection (Traced γ)) (x : Origin) : Prop :=
  match s.connectThread with
  | .finished ok => ok = true → s.inFlight = none ∧ x ∈ lastOrigins s.errorAggregators_ x.key
  | .sending _ device status error remaining =>
    (x.key = device.key ∧ x ∈ status.origins ++ error.origins) ∨
      x.key ∈ remaining.map DeviceIdentification.key ∧ x ∈ sendable s.errorAggregators_ x.key
  | thread => x.key ∈ thread.toRead.map DeviceIdentification.key ∧ x ∈ sendable s.errorAggregators_ x.key

/-- Sent, in the hands of the client, or aboard. -/
def Kept (s : ExternalConnection (Traced γ)) (carried : List Origin) (x : Origin) : Prop :=
  x ∈ carried ∨
    (∃ status, s.inFlight = some status ∧ x ∈ status.statusdata.origins ∧ x.key = status.device.key) ∨
    s.Aboard x

structure Draining (modules : Modules γ) (s : ExternalConnection (Traced γ)) (drain : Drain) : Prop where
  kept : ∀ x ∈ drain.drained, s.Kept drain.carried x
  distinct : (s.connectThread.devices.map DeviceIdentification.key).Nodup
  pending : s.connectThread.pending <:+ s.connectThread.devices
  served : ∀ d ∈ s.connectThread.devices, (modules d.module_).isSome
  notAcked : ∀ status ∈ s.sentMessagesHandler_.notAckedStatuses_,
    status.deviceStatus.device.key ∉ s.connectThread.toRead.map DeviceIdentification.key
  connected : (∃ devices, s.connectThread = .clearing devices) ∨ s.connectThread = .finished true →
    s.state_ = .CONNECTED

variable {modules : Modules γ} {s t : ExternalConnection (Traced γ)} {drain : Drain}

/-- The connect thread goes on; every drained status stays aboard, or is carried. -/
theorem Draining.quiet (hs : s.Draining modules drain) {carried : List Origin}
    (hcarried : ∀ x ∈ drain.carried, x ∈ carried) (hwaiting : t.inFlight = s.inFlight)
    (haboard : ∀ x, s.Aboard x → x ∈ carried ∨ t.Aboard x)
    (hdistinct : (t.connectThread.devices.map DeviceIdentification.key).Nodup)
    (hpending : t.connectThread.pending <:+ t.connectThread.devices)
    (hserved : ∀ d ∈ t.connectThread.devices, d ∈ s.connectThread.devices)
    (hnotAcked : ∀ status ∈ t.sentMessagesHandler_.notAckedStatuses_,
      status.deviceStatus.device.key ∉ t.connectThread.toRead.map DeviceIdentification.key)
    (hconnected : (∃ devices, t.connectThread = .clearing devices) ∨ t.connectThread = .finished true →
      t.state_ = .CONNECTED) : t.Draining modules { drain with carried := carried } where
  kept x hx := by
    rcases hs.kept x hx with h | h | h
    · exact .inl (hcarried x h)
    · exact .inr (.inl (hwaiting.symm ▸ h))
    · exact (haboard x h).imp_right .inr
  distinct := hdistinct
  pending := hpending
  served d hd := hs.served d (hserved d hd)
  notAcked := hnotAcked
  connected := hconnected

/-- A sequence that fails keeps no promise. -/
theorem Draining.finish (hs : s.Draining modules drain) (hwaiting : t.inFlight = s.inFlight)
    (hthread : t.connectThread = .finished false) : t.Draining modules drain := by
  refine hs.quiet (fun x hx => hx) hwaiting (fun x _ => .inr ?_) ?_ ?_ ?_ ?_ ?_
  · rw [Aboard, hthread]
    exact nofun
  · rw [hthread]
    exact List.nodup_nil
  · rw [hthread]
    exact List.suffix_refl _
  · rw [hthread]
    exact nofun
  · rw [hthread]
    exact fun _ _ => List.not_mem_nil
  · rw [hthread]
    exact fun h => h.elim nofun nofun

/-- Sections that neither read an entry nor send one. -/
theorem Draining.goto (hs : s.Draining modules drain) {thread : ConnectThread (Traced γ)}
    (hwaiting : t.inFlight = s.inFlight) (hthread : t.connectThread = thread)
    (haboard : ∀ x, s.Aboard x → t.Aboard x)
    (hdevices : thread.devices = s.connectThread.devices) (hpending : thread.pending = s.connectThread.pending)
    (htoRead : thread.toRead = s.connectThread.toRead)
    (hnotAcked : ∀ status ∈ t.sentMessagesHandler_.notAckedStatuses_,
      status ∈ s.sentMessagesHandler_.notAckedStatuses_)
    (hconnected : (∃ devices, thread = .clearing devices) ∨ thread = .finished true →
      t.state_ = .CONNECTED) : t.Draining modules drain := by
  subst hthread
  refine hs.quiet (fun x hx => hx) hwaiting (fun x hx => .inr (haboard x hx)) (hdevices.symm ▸ hs.distinct) ?_
    (fun d hd => hdevices ▸ hd) (fun status hmem => ?_) hconnected
  · rw [hpending, hdevices]
    exact hs.pending
  · rw [htoRead]
    exact hs.notAcked status (hnotAcked status hmem)

theorem not_aboard {x : Origin} (hthread : s.connectThread.toRead = [])
    (hother : ∀ ok, s.connectThread ≠ .finished ok)
    (hsending : ∀ devices device status error remaining,
      s.connectThread ≠ .sending devices device status error remaining) : ¬s.Aboard x := by
  rw [Aboard]
  split
  next ok h => exact absurd h (hother ok)
  next h => exact absurd h (hsending _ _ _ _ _)
  next =>
    rw [hthread]
    exact fun h => List.not_mem_nil h.1

/-- The device that was read is announced; the entries of the later ones are not touched. -/
theorem Draining.announce (hs : s.Draining modules drain) {devices remaining : List DeviceIdentification}
    {device : DeviceIdentification} {status error : Traced γ}
    (hthread : s.connectThread = .sending devices device status error remaining) (sent : Bool)
    (hguard : sent = true ∨ status.origins = [] ∧ error.origins = []) :
    let t := (s.sendStatus (tracedModules modules) ⟨device,status⟩ .CONNECTING error sent).goto
      (.reading devices remaining)
    t.Draining modules { drain with
      carried := if sent then drain.carried ++ (t.sent.drop s.sent.length).flatMap carries else drain.carried } := by
  intro t
  obtain ⟨-,hdistinct,hpending,hserved,hnotAcked,-⟩ := id hs
  rw [hthread] at hdistinct hpending hserved hnotAcked
  have hmem : device ∈ devices := hpending.subset List.mem_cons_self
  have hlater : device.key ∉ remaining.map DeviceIdentification.key :=
    (List.nodup_cons.mp (hdistinct.sublist (hpending.sublist.map _))).1
  have hmodule : ((tracedModules modules) device.module_).isSome := by
    rw [tracedModules, Option.isSome_map]
    exact hserved device hmem
  obtain ⟨-,-,hsent,-,hwaiting,-⟩ := s.sendStatus_frame ⟨device,status⟩ hmodule .CONNECTING error sent
  have hentry (k : DeviceKey) (hk : k ∈ remaining.map DeviceIdentification.key) :=
    sendStatus_entry_of_ne (tracedModules modules) s ⟨device,status⟩ (k := k)
      (fun h => hlater (h.symm ▸ hk)) (fun notAcked hmem h => hnotAcked notAcked hmem (h.symm ▸ hk))
      .CONNECTING error sent
  refine hs.quiet (fun x hx => ?_) hwaiting (fun x hx => ?_) hdistinct
    ((List.suffix_cons device remaining).trans hpending) (fun d hd => ?_)
    (fun notAcked hmem hk => (hentry _ hk).2 notAcked hmem rfl) (fun h => h.elim nofun nofun)
  · split
    · exact List.mem_append_left _ hx
    · exact hx
  · rw [Aboard, hthread] at hx
    rcases hx with ⟨hkey,hx⟩ | ⟨hk,hx⟩
    · left
      rcases hguard with rfl | ⟨hstatus,herror⟩
      · have hdrop : t.sent.drop s.sent.length =
            [.status (s.createStatus ⟨device,status⟩ .CONNECTING error)] := by
          rw [show t.sent = _ from hsent, List.drop_left]
        have hstate : (s.createStatus ⟨device,status⟩ .CONNECTING error).deviceState = .CONNECTING := by
          rw [createStatus, switched, ite_self]
          rfl
        rw [if_pos rfl, hdrop, List.flatMap_singleton, carries, if_pos hstate]
        exact List.mem_append_right _ (List.mem_filter.mpr ⟨hx,decide_eq_true hkey⟩)
      · rw [hstatus, herror] at hx
        exact absurd hx List.not_mem_nil
    · refine .inr ⟨hk,?_⟩
      rw [sendable] at hx ⊢
      exact (hentry _ hk).1.symm ▸ hx
  · rw [hthread]
    exact hd

theorem Draining.thread (hs : s.Draining modules drain) {answer : Answer (Traced γ)}
    (ht : s.initializeConnection (tracedModules modules) answer = some t)
    (hguard : ∀ devices device status error remaining,
      s.connectThread = .sending devices device status error remaining →
        answer.sent = true ∨ status.origins = [] ∧ error.origins = []) :
    t.Draining modules { drain with
      carried := if answer.sent then drain.carried ++ (t.sent.drop s.sent.length).flatMap carries
        else drain.carried } := by
  have hweaker (u : ExternalConnection (Traced γ)) (hu : u.Draining modules drain) :
      u.Draining modules { drain with
        carried := if answer.sent then drain.carried ++ (u.sent.drop s.sent.length).flatMap carries
          else drain.carried } := by
    refine ⟨fun x hx => (hu.kept x hx).imp_left fun h => ?_,hu.distinct,hu.pending,hu.served,hu.notAcked,
      hu.connected⟩
    dsimp only
    split
    · exact List.mem_append_left _ h
    · exact h
  have hempty (u : ExternalConnection (Traced γ)) (thread : ConnectThread (Traced γ))
      (hnone : ∀ x, ¬s.Aboard x) (hwaiting : u.inFlight = s.inFlight) (hthread : u.connectThread = thread)
      (hdevices : thread.devices = s.connectThread.devices)
      (hpending : thread.pending = s.connectThread.pending) (htoRead : thread.toRead = s.connectThread.toRead)
      (hnotAcked : ∀ status ∈ u.sentMessagesHandler_.notAckedStatuses_,
        status ∈ s.sentMessagesHandler_.notAckedStatuses_)
      (hconnected : (∃ devices, thread = .clearing devices) ∨ thread = .finished true →
        u.state_ = .CONNECTED) : u.Draining modules drain :=
    hs.goto hwaiting hthread (fun x hx => absurd hx (hnone x)) hdevices hpending htoRead hnotAcked hconnected
  unfold initializeConnection at ht
  split at ht
  case h_1 => exact nomatch ht
  case h_2 devices hthread =>
    obtain rfl := Option.some.inj ht
    refine hweaker _ ?_
    rcases s.openChannel_cases devices answer with h | ⟨state,-,h⟩ <;> rw [h]
    · refine hs.goto rfl rfl (fun x hx => ?_) (by rw [hthread]; rfl) (by rw [hthread]; rfl)
        (by rw [hthread]; rfl) (fun _ h => h) (fun h => h.elim nofun nofun)
      rw [Aboard, hthread] at hx
      exact hx
    · exact hs.finish rfl rfl
  case h_3 devices hthread =>
    obtain rfl := Option.some.inj ht
    refine hweaker _ ?_
    rcases s.connectMessageHandle_cases devices answer with h | h <;> rw [h]
    · exact hs.finish rfl rfl
    · refine hs.goto rfl rfl (fun x hx => ?_) (by rw [hthread]; rfl) (by rw [hthread]; rfl)
        (by rw [hthread]; rfl) (fun _ h => h) (fun h => h.elim nofun nofun)
      rw [Aboard, hthread] at hx
      exact hx
  case h_4 devices hthread =>
    obtain rfl := Option.some.inj ht
    refine hweaker _ (hempty _ _ (fun x => ?_) rfl rfl (by rw [hthread]; rfl) (by rw [hthread]; rfl)
      (by rw [hthread]; rfl) (fun _ h => h) (fun h => h.elim nofun nofun))
    exact not_aboard (by rw [hthread]; rfl) (by simp [hthread]) (by simp [hthread])
  case h_5 devices device remaining hthread =>
    obtain rfl := Option.some.inj ht
    refine hweaker _ ?_
    rcases s.readStatus_cases devices device remaining with ⟨-,h⟩ | ⟨deviceState,hentry,h⟩ <;> rw [h]
    · exact hs.finish rfl rfl
    · have hdistinct := hs.distinct
      have hpending := hs.pending
      have hnotAcked := hs.notAcked
      rw [hthread] at hdistinct hpending hnotAcked
      refine hs.quiet (fun x hx => hx) rfl (fun x hx => .inr ?_) hdistinct hpending (fun d hd => ?_)
        (fun status hmem hk => hnotAcked status hmem (List.mem_cons_of_mem _ hk)) (fun h => h.elim nofun nofun)
      · rw [Aboard, hthread] at hx
        obtain ⟨hk,hx⟩ := hx
        rcases List.mem_cons.mp hk with hkey | hk
        · refine .inl ⟨hkey,?_⟩
          rw [hkey, sendable, show entryIn s.errorAggregators_ device.key = some deviceState from hentry,
            Option.getD_some] at hx
          refine (List.mem_append.mp hx).elim (List.mem_append_left _) fun hx => List.mem_append_right _ ?_
          split at hx
          next halloc => rwa [if_pos halloc]
          next => exact absurd hx List.not_mem_nil
        · exact .inr ⟨hk,hx⟩
      · rw [hthread]
        exact hd
  case h_6 devices device status error remaining hthread =>
    obtain rfl := Option.some.inj ht
    exact hs.announce hthread answer.sent (hguard _ _ _ _ _ hthread)
  case h_7 devices hthread =>
    obtain rfl := Option.some.inj ht
    refine hweaker _ (hempty _ _ (fun x => ?_) rfl rfl (by rw [hthread]; rfl) (by rw [hthread]; rfl)
      (by rw [hthread]; rfl) (fun _ h => h) (fun h => h.elim nofun nofun))
    exact not_aboard (by rw [hthread]; rfl) (by simp [hthread]) (by simp [hthread])
  case h_8 devices responses hthread =>
    obtain rfl := Option.some.inj ht
    refine hweaker _ ?_
    rcases s.receiveStatusResponse_cases devices responses answer.received with ⟨-,h⟩ | ⟨counter,h⟩ <;> rw [h]
    · exact hs.finish rfl rfl
    · refine hempty _ _ (fun x => ?_) rfl rfl (by rw [hthread]; rfl) (by rw [hthread]; rfl)
        (by rw [hthread]; rfl) (fun _ h => ?_) (fun h => h.elim nofun nofun)
      · exact not_aboard (by rw [hthread]; rfl) (by simp [hthread]) (by simp [hthread])
      · exact acknowledgeStatus_subset _ _ h
  case h_9 devices hthread =>
    obtain rfl := Option.some.inj ht
    refine hweaker _ (hempty _ _ (fun x => ?_) rfl rfl (by rw [hthread]; rfl) (by rw [hthread]; rfl)
      (by rw [hthread]; rfl) (fun _ h => h) (fun h => h.elim nofun nofun))
    exact not_aboard (by rw [hthread]; rfl) (by simp [hthread]) (by simp [hthread])
  case h_10 devices commands hthread =>
    obtain rfl := Option.some.inj ht
    refine hweaker _ ?_
    obtain ⟨counter,queue,responses,-,⟨-,h⟩ | h⟩ :=
      s.receiveCommand_cases (tracedModules modules) devices commands answer.received <;> rw [h]
    · exact hs.finish rfl rfl
    · refine hempty _ _ (fun x => ?_) rfl rfl (by rw [hthread]; rfl) (by rw [hthread]; rfl)
        (by rw [hthread]; rfl) (fun _ h => h) (fun h => h.elim nofun nofun)
      exact not_aboard (by rw [hthread]; rfl) (by simp [hthread]) (by simp [hthread])
  case h_11 devices hthread =>
    obtain rfl := Option.some.inj ht
    refine hweaker _ (hempty _ _ (fun x => ?_) rfl rfl (by rw [hthread]; rfl) (by rw [hthread]; rfl)
      (by rw [hthread]; rfl) (fun _ h => h) (fun _ => rfl))
    exact not_aboard (by rw [hthread]; rfl) (by simp [hthread]) (by simp [hthread])
  case h_12 devices hthread =>
    obtain rfl := Option.some.inj ht
    have hnone (x : Origin) : ¬s.Aboard x :=
      not_aboard (by rw [hthread]; rfl) (by simp [hthread]) (by simp [hthread])
    exact hweaker _ (hs.quiet (fun x hx => hx) rfl (fun x hx => absurd hx (hnone x)) List.nodup_nil
      (List.suffix_refl _) nofun (fun _ _ => List.not_mem_nil) fun _ => hs.connected (.inl ⟨devices,hthread⟩))

theorem aboard_iff (hrunning : ∀ ok, s.connectThread ≠ .finished ok) {x : Origin} : s.Aboard x ↔
    (∃ devices device status error remaining,
      s.connectThread = .sending devices device status error remaining ∧
        x.key = device.key ∧ x ∈ status.origins ++ error.origins) ∨
    x.key ∈ s.connectThread.toRead.map DeviceIdentification.key ∧ x ∈ sendable s.errorAggregators_ x.key := by
  rw [Aboard]
  split
  next ok h => exact absurd h (hrunning ok)
  next devices device status error remaining h =>
    rw [h]
    refine or_congr_left ⟨fun hx => ⟨_,_,_,_,_,rfl,hx⟩,?_⟩
    rintro ⟨_,_,_,_,_,h,hx⟩
    obtain ⟨-,rfl,rfl,rfl,-⟩ := ConnectThread.sending.inj h
    exact hx
  next hno =>
    refine ⟨.inr,fun h => h.resolve_left ?_⟩
    rintro ⟨_,_,_,_,_,h,-⟩
    exact hno _ _ _ _ _ h

/-- The client adds the status it has in its hands. -/
theorem Draining.fill (hs : s.Draining modules drain) {status : DeviceStatus (Traced γ)}
    (hmem : s.inFlight = some status) (hguard : s.AddedInTime modules status) :
    Draining modules { s.fillErrorAggregator (tracedModules modules) status with inFlight := none } drain := by
  obtain ⟨module_,hmodule,hsupported,hwhen⟩ := hguard
  obtain ⟨hempty,⟨deviceState,hentry,hlast⟩,hentries⟩ :=
    fillErrorAggregator_entry s (tracedModules_of_some hmodule) hsupported
  obtain ⟨hstate,-,-,hthread,-⟩ := s.fillErrorAggregator_frame (tracedModules modules) status
  generalize s.fillErrorAggregator (tracedModules modules) status = u at *
  have hdone : status.statusdata.origins ⊆ lastOrigins u.errorAggregators_ status.device.key := by
    rw [lastOrigins, hentry, ← hlast]
    exact fun _ h => h
  have hadded : status.statusdata.origins ⊆ sendable u.errorAggregators_ status.device.key := by
    rw [sendable, hentry, ← hlast]
    exact List.subset_append_left _ _
  have hkeeps {k : DeviceKey} (hk : k ∈ s.connectThread.toRead.map DeviceIdentification.key) :
      sendable s.errorAggregators_ k ⊆ sendable u.errorAggregators_ k := by
    have h := hentries k fun notAcked hmem h => hs.notAcked notAcked hmem (h.symm ▸ hk)
    rw [sendable, sendable, h]
    split
    next hkey =>
      subst hkey
      rcases hwhen with ⟨ok,hfinished⟩ | ⟨-,hguard⟩
      · rw [hfinished] at hk
        exact absurd hk List.not_mem_nil
      · exact hguard
    next => exact fun _ h => h
  refine ⟨fun x hx => ?_,hthread.symm ▸ hs.distinct,hthread.symm ▸ hs.pending,hthread.symm ▸ hs.served,
    fun notAcked hmem => ?_,fun h => hstate.trans (hs.connected (hthread ▸ h))⟩
  · have hmoved (hrunning : ∀ ok, s.connectThread ≠ .finished ok)
        (h : x.key ∈ s.connectThread.toRead.map DeviceIdentification.key ∧
          x ∈ sendable u.errorAggregators_ x.key) : ({ u with inFlight := none }).Aboard x :=
      (aboard_iff (s := { u with inFlight := none }) (hthread.symm ▸ hrunning)).mpr (.inr (hthread.symm ▸ h))
    rcases hs.kept x hx with h | ⟨waiting,hwaiting,hx,hkey⟩ | h
    · exact .inl h
    · obtain rfl := Option.some.inj (hmem.symm.trans hwaiting)
      right; right
      rcases hwhen with ⟨ok,hfinished⟩ | ⟨hk,-⟩
      · rw [hfinished] at hthread
        rw [Aboard]
        simp only [hthread]
        exact fun _ => ⟨trivial,hkey ▸ hdone hx⟩
      · refine hmoved (fun ok h => ?_) ⟨hkey ▸ hk,hkey ▸ hadded hx⟩
        rw [h] at hk
        exact absurd hk List.not_mem_nil
    · right; right
      by_cases hfinished : ∃ ok, s.connectThread = .finished ok
      · obtain ⟨ok,hfinished⟩ := hfinished
        rw [hfinished] at hthread
        rw [Aboard, hfinished] at h
        rw [Aboard]
        simp only [hthread]
        intro hok
        cases (h hok).1.symm.trans hmem
      · have hrunning (ok : Bool) (h : s.connectThread = .finished ok) : False := hfinished ⟨ok,h⟩
        rcases (aboard_iff hrunning).mp h with ⟨devices,device,status',error,remaining,hsending,hx⟩ | ⟨hk,hx⟩
        · refine (aboard_iff (s := { u with inFlight := none }) (hthread.symm ▸ hrunning)).mpr (.inl ?_)
          exact ⟨devices,device,status',error,remaining,hthread.trans hsending,hx⟩
        · exact hmoved hrunning ⟨hk,hkeeps hk hx⟩
  · rw [show u.sentMessagesHandler_.notAckedStatuses_ = [] from hempty] at hmem
    exact absurd hmem List.not_mem_nil

theorem Draining.start {devices : List DeviceIdentification}
    (hdistinct : (devices.map DeviceIdentification.key).Nodup)
    (ht : s.connectionStep (tracedModules modules) (.connect devices) = some t) :
    t.Draining modules ⟨[],[]⟩ := by
  obtain ⟨⟨-,-,hserved⟩,rfl⟩ := Option.ite_some_none_eq_some.mp ht
  refine ⟨nofun,hdistinct,List.suffix_refl _,fun d hd => ?_,nofun,fun h => h.elim nofun nofun⟩
  have h := List.all_eq_true.mp hserved d hd
  rwa [tracedModules, Option.isSome_map] at h

theorem Draining.step (hs : s.Draining modules drain) {n : ℕ} {a : ConnectionAction γ}
    (hguard : DrainedInTime modules (s,n) a) (hbeside : besideSequence a = true)
    (ht : s.connectionStep (tracedModules modules) (numberAction n a) = some t) :
    t.Draining modules (observeDrain (s,n) a (t,n + 1) drain) := by
  cases a with
  | connect devices => exact absurd hbeside Bool.false_ne_true
  | sendStatus status deviceState sent => exact absurd hbeside Bool.false_ne_true
  | deinitializeConnection completeDisconnect => exact absurd hbeside Bool.false_ne_true
  | thread answer =>
    have h := hs.thread ht hguard
    simp only [observeDrain]
    split
    next hsent => rwa [if_pos (show (numberAnswer answer).sent = true from hsent)] at h
    next hsent => rwa [if_neg (show ¬(numberAnswer answer).sent = true from hsent)] at h
  | take status =>
    obtain ⟨⟨hnone,hstate⟩,rfl⟩ := Option.ite_some_none_eq_some.mp ht
    rw [Option.isNone_iff_eq_none] at hnone
    refine ⟨fun x hx => ?_,hs.distinct,hs.pending,hs.served,hs.notAcked,hs.connected⟩
    rcases List.mem_append.mp hx with hx | hx
    · rcases hs.kept x hx with h | ⟨waiting,hwaiting,-⟩ | h
      · exact .inl h
      · exact absurd (hnone.symm.trans hwaiting) nofun
      · right; right
        by_cases hfinished : ∃ ok, s.connectThread = .finished ok
        · obtain ⟨ok,hfinished⟩ := hfinished
          rw [Aboard]
          simp only [hfinished]
          rintro rfl
          exact absurd (hs.connected (.inr hfinished)) hstate
        · have hrunning (ok : Bool) (h : s.connectThread = .finished ok) : False := hfinished ⟨ok,h⟩
          exact (aboard_iff (s := { s with inFlight := some (numberStatus n status) }) hrunning).mpr
            ((aboard_iff hrunning).mp h)
    · obtain rfl := List.mem_singleton.mp hx
      exact .inr (.inl ⟨_,rfl,List.mem_singleton_self _,rfl⟩)
  | fill =>
    obtain ⟨status,hmem,rfl⟩ := Option.map_eq_some_iff.mp ht
    exact hs.fill hmem (hguard status hmem)
  | receive message =>
    obtain ⟨-,ht⟩ := Option.ite_none_right_eq_some.mp ht
    cases message with
    | statusResponse sessionId ok counter =>
      obtain rfl := Option.some.inj ht
      exact hs.goto rfl rfl (fun _ h => h) rfl rfl rfl (acknowledgeStatus_subset _ _) hs.connected
    | command sessionId messageCounter deviceCommand =>
      obtain rfl := Option.some.inj ht
      obtain ⟨counter,queue,responses,hstate,-⟩ := s.handleCommand_frame (tracedModules modules) sessionId
        messageCounter ⟨deviceCommand.device,deviceCommand.commanddata,[]⟩
      rw [hstate]
      exact hs.goto rfl rfl (fun _ h => h) rfl rfl rfl (fun _ h => h) hs.connected
    | connectResponse sessionId alreadyLogged =>
      obtain rfl := Option.some.inj ht
      exact hs

/-! ## Every sequence -/

/-- What was drained and carried in a connect sequence. -/
def drainOf (modules : Modules γ) (s : NumberedConnection γ) (as : List (ConnectionAction γ)) : Drain :=
  observe (numberedStep modules) observeDrain s ⟨[],[]⟩ as

/-- A connect sequence from any state, with draining beside it: if it ends with `OK` and the client
is done with the last status it took, every status that was drained is in an announcement of its
device, or is the last status that the entry of its device holds. -/
theorem exec_drained {modules : Modules γ} {s₀ s : NumberedConnection γ}
    {devices : List DeviceIdentification} {as : List (ConnectionAction γ)}
    (hbeside : ∀ a ∈ as, besideSequence a = true)
    (hg : Guarded (numberedStep modules) (DrainedInTime modules) s₀ (.connect devices :: as))
    (he : exec (numberedStep modules) s₀ (.connect devices :: as) = some s)
    (hok : s.1.connectThread = .finished true) (hdone : s.1.inFlight = none) :
    ∀ x ∈ (drainOf modules s₀ (.connect devices :: as)).drained,
      x ∈ (drainOf modules s₀ (.connect devices :: as)).carried ∨
        x ∈ lastOrigins s.1.errorAggregators_ x.key := by
  obtain ⟨s₁,hconnect,he⟩ := exec_cons_eq_some.mp he
  have hrest := (hg.2 s₁ hconnect).and_mem hbeside
  obtain ⟨t,ht,rfl⟩ := Option.map_eq_some_iff.mp hconnect
  have hdraining : s.1.Draining modules
      (observe (numberedStep modules) observeDrain (t,s₀.2 + 1) ⟨[],[]⟩ as) := by
    refine exec_observe_invariant (I := fun s drain => s.1.Draining modules drain)
      (Draining.start hg.1 ht) (fun u drain a v hu ha hv => ?_) hrest he
    obtain ⟨w,hw,rfl⟩ := Option.map_eq_some_iff.mp hv
    exact hu.step ha.1 ha.2 hw
  have hsame : drainOf modules s₀ (.connect devices :: as) =
      observe (numberedStep modules) observeDrain (t,s₀.2 + 1) ⟨[],[]⟩ as := by
    simp only [drainOf, observe, hconnect]
    rfl
  rw [hsame]
  intro x hx
  rcases hdraining.kept x hx with h | ⟨waiting,hwaiting,-⟩ | h
  · exact .inl h
  · cases hdone.symm.trans hwaiting
  · rw [Aboard, hok] at h
    exact .inr (h rfl).2

/-! ## Drained too late -/

/-- The rest of the sequence up to the session. -/
def responds : List (ConnectionAction (List UInt8)) :=
  [answered none,answered (some (.statusResponse "session" true 1)),answered none,
    answered (some (.command "session" 1 ⟨camera,[0]⟩)),answered none]

/-- The second status of the camera is drained after its entry was read. -/
def drainedLate : List (ConnectionAction (List UInt8)) :=
  [.connect [camera],answered none,answered (some (.connectResponse "session" false)),answered none,
    answered none] ++ statusWhileDown camera [2] ++ responds ++ [answered none,answered none]

theorem drainedLate_lost :
    ∃ s₀ s, exec (numberedStep moduleOne) NumberedConnection.init (statusWhileDown camera [1]) = some s₀ ∧
      exec (numberedStep moduleOne) s₀ drainedLate = some s ∧
      s.1.connectThread = .finished true ∧ s.1.inFlight = none ∧
      ∃ x ∈ (drainOf moduleOne s₀ drainedLate).drained, x ∉ (drainOf moduleOne s₀ drainedLate).carried ∧
        errorOrigins s.1.errorAggregators_ x.key = [] ∧ lastOrigins s.1.errorAggregators_ x.key = [] :=
  ⟨_,_,rfl,rfl,rfl,rfl,⟨camera.key,7⟩,by decide,by decide,rfl,rfl⟩

/-- Two statuses of the camera are drained before its entry is read. -/
def drainedEarly : List (ConnectionAction (List UInt8)) :=
  [.connect [camera],answered none] ++ statusWhileDown camera [2] ++ statusWhileDown camera [3] ++
    [answered (some (.connectResponse "session" false)),answered none,answered none] ++ responds ++
    [answered none,answered none]

theorem drainedEarly_inTime : Guarded (numberedStep moduleOne) (DrainedInTime moduleOne)
    NumberedConnection.init drainedEarly := by
  have hsent {s : NumberedConnection (List UInt8)} {received : Option (ServerMessage (List UInt8))} :
      DrainedInTime moduleOne s (answered received) := fun _ _ _ _ _ _ => .inl rfl
  refine .cons (List.nodup_singleton _) rfl (.cons hsent rfl (.cons trivial rfl (.cons (fun _ h => ?_) rfl ?_)))
  · obtain rfl := Option.some.inj h
    exact ⟨collector,rfl,by decide,.inr ⟨List.mem_singleton_self _,nofun⟩⟩
  refine .cons trivial rfl (.cons (fun _ h => ?_) rfl ?_)
  · obtain rfl := Option.some.inj h
    exact ⟨collector,rfl,by decide,.inr ⟨List.mem_singleton_self _,by decide⟩⟩
  refine .cons hsent rfl (.cons hsent rfl (.cons hsent rfl ?_))
  refine .cons hsent rfl (.cons hsent rfl (.cons hsent rfl (.cons hsent rfl (.cons hsent rfl ?_))))
  exact .cons hsent rfl (.cons hsent rfl trivial)

theorem exec_drained_early :
    ∃ s, exec (numberedStep moduleOne) NumberedConnection.init drainedEarly = some s ∧
      (drainOf moduleOne NumberedConnection.init drainedEarly).drained =
        [⟨camera.key,2⟩,⟨camera.key,4⟩] ∧
      ∀ x ∈ (drainOf moduleOne NumberedConnection.init drainedEarly).drained,
        x ∈ (drainOf moduleOne NumberedConnection.init drainedEarly).carried ∨
          x ∈ lastOrigins s.1.errorAggregators_ x.key := by
  refine ⟨_,rfl,by decide +kernel,exec_drained ?_ drainedEarly_inTime rfl rfl rfl⟩
  decide

end ExternalConnection

end ModuleGateway.ExternalClient
