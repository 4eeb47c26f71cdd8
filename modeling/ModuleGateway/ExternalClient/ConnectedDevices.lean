import ModuleGateway.Library.Execution
import ModuleGateway.ExternalClient.ExternalConnection
import Mathlib.Data.List.Count

/-! # Connected devices and announcements

An observer of the messages that go to the channel and of the requests to
disconnect notes which devices were announced in the session. The set of
connected devices is never reset between sessions, shrinks by one occurrence at a
time, and a device that is not registered is announced even when its disconnect
was asked for; without these three the set is what was announced.
-/
namespace ModuleGateway.ExternalClient
open Structures Execution

variable {β : Type} [BufferType β]

namespace ExternalConnection
variable (modules : Modules β)

def connectedKeys (s : ExternalConnection β) : List DeviceKey :=
  s.sentMessagesHandler_.connectedDevices_.map DeviceIdentification.key

/-- A message to the server starts a session or announces a device. -/
def heard (announced : List DeviceKey) : ClientMessage β → List DeviceKey
  | .connect _ _ => []
  | .status status =>
    if status.deviceState = .CONNECTING then status.deviceStatus.device.key :: announced else announced
  | .commandResponse _ _ _ => announced

/-- What is announced in the session and not asked to disconnect since. -/
def observeAnnounced (s : ExternalConnection β) (a : ConnectionAction β) (t : ExternalConnection β)
    (announced : List DeviceKey) : List DeviceKey :=
  let announced := (t.sent.drop s.sent.length).foldl heard announced
  match a with
  | .sendStatus status .DISCONNECT _ => announced.filter (· ≠ status.device.key)
  | _ => announced

def announcedAfter (as : List (ConnectionAction β)) : List DeviceKey :=
  observe (connectionStep modules) observeAnnounced init [] as

/-- A sequence establishes the session only if every device left in the set is among those it
announced, and a disconnect is asked for registered devices that are in the set at most once. -/
def NoLeftoverDevice (s : ExternalConnection β) : ConnectionAction β → Prop
  | .thread _ => ∀ devices, s.connectThread = .establishing devices →
      ∀ k ∈ s.connectedKeys, k ∈ devices.map DeviceIdentification.key
  | .sendStatus status .DISCONNECT sent => sent = true → (modules status.device.module_).isSome →
      s.isRegistered status.device ∧ s.connectedKeys.count status.device.key ≤ 1
  | _ => True

/-! ## The set of connected devices -/

omit [BufferType β] in
theorem isDeviceConnected_iff {s : ExternalConnection β} {device : DeviceIdentification} :
    s.sentMessagesHandler_.isDeviceConnected device = true ↔ device.key ∈ s.connectedKeys := by
  simp only [SentMessagesHandler.isDeviceConnected, List.any_eq_true, connectedKeys, List.mem_map,
    SentMessagesHandler.sameDevice, DeviceIdentification.isSame_iff]
  exact ⟨fun ⟨e,he,hk⟩ => ⟨e,he,hk.symm⟩,fun ⟨e,he,hk⟩ => ⟨e,he,hk.symm⟩⟩

omit [BufferType β] in
theorem deleteConnectedDevice_keys (handler : SentMessagesHandler β) (device : DeviceIdentification) :
    (handler.deleteConnectedDevice device).connectedDevices_.map DeviceIdentification.key =
      (handler.connectedDevices_.map DeviceIdentification.key).erase device.key := by
  rw [SentMessagesHandler.deleteConnectedDevice]
  generalize handler.connectedDevices_ = l
  induction l with
  | nil => rfl
  | cons e l ih =>
    by_cases hk : device.key = e.key
    · have hsame : SentMessagesHandler.sameDevice device e = true := DeviceIdentification.isSame_iff.mpr hk
      simp only [List.eraseP_cons_of_pos hsame, List.map_cons, hk, List.erase_cons_head]
    · have hsame : ¬SentMessagesHandler.sameDevice device e = true :=
        fun h => hk (DeviceIdentification.isSame_iff.mp h)
      have hne : ¬(e.key == device.key) = true := by simpa using Ne.symm hk
      simp only [List.eraseP_cons_of_neg hsame, List.map_cons, List.erase_cons_tail hne]
      exact congrArg (e.key :: ·) ih

omit [BufferType β] in
/-- The set after the switch of `sendStatus`, by the state that goes out. -/
theorem switched_connected (s : ExternalConnection β) (device : DeviceIdentification)
    (deviceState : StatusDeviceState) :
    let r := s.switched device deviceState
    (r.1 = .CONNECTING ∧ r.2.connectedDevices_ = s.sentMessagesHandler_.connectedDevices_ ++ [device]) ∨
      (r.1 ≠ .CONNECTING ∧ r.1 ≠ .DISCONNECT ∧
        r.2.connectedDevices_ = s.sentMessagesHandler_.connectedDevices_) ∨
      (r.1 = .DISCONNECT ∧ deviceState = .DISCONNECT ∧ s.isRegistered device = true ∧
        r.2.connectedDevices_ = (s.sentMessagesHandler_.deleteConnectedDevice device).connectedDevices_) := by
  rw [switched]
  cases hreg : s.isRegistered device with
  | false => exact .inl ⟨rfl,rfl⟩
  | true =>
    simp only [if_true]
    cases deviceState with
    | CONNECTING => exact .inl ⟨rfl,rfl⟩
    | RUNNING =>
      simp only [switchDeviceState]
      split
      · exact .inl ⟨rfl,rfl⟩
      · exact .inr (.inl ⟨by simp,by simp,rfl⟩)
    | DISCONNECT => exact .inr (.inr ⟨rfl,rfl,trivial,rfl⟩)
    | ERROR => exact .inr (.inl ⟨by simp [switchDeviceState],by simp [switchDeviceState],rfl⟩)

/-! ## The invariant -/

structure Tracked (s : ExternalConnection β) (announced : List DeviceKey) : Prop where
  supported : ∀ d ∈ s.connectThread.devices, (modules d.module_).isSome
  pending : ∀ d ∈ s.connectThread.pending, d ∈ s.connectThread.devices
  handled : ∀ d ∈ s.connectThread.devices, d ∈ s.connectThread.pending ∨ d.key ∈ announced
  connecting : ∀ devices, s.connectThread = .connecting devices → s.state_ ≠ .CONNECTED
  served : ∀ k ∈ s.connectedKeys, (modules k.module_).isSome
  included : ∀ k ∈ announced, k ∈ s.connectedKeys
  exact : s.state_ = .CONNECTED → ∀ k ∈ s.connectedKeys, k ∈ announced

omit [BufferType β] in
theorem Tracked.init : (ExternalConnection.init : ExternalConnection β).Tracked modules [] where
  supported _ h := absurd h List.not_mem_nil
  pending _ h := absurd h List.not_mem_nil
  handled _ h := absurd h List.not_mem_nil
  connecting _ h := by simp [ExternalConnection.init] at h
  served _ h := absurd h List.not_mem_nil
  included _ h := absurd h List.not_mem_nil
  exact h := by simp [ExternalConnection.init] at h

variable {modules} {s t : ExternalConnection β} {announced : List DeviceKey}

omit [BufferType β] in
/-- Steps that leave the set alone and do not bring the session up. -/
theorem Tracked.quiet (hs : s.Tracked modules announced) (hkeys : t.connectedKeys = s.connectedKeys)
    (hstate : t.state_ = .CONNECTED → s.state_ = .CONNECTED)
    (hthread : ∀ d ∈ t.connectThread.devices, d ∈ s.connectThread.devices ∧
      (d ∈ s.connectThread.pending → d ∈ t.connectThread.pending))
    (hpending : ∀ d ∈ t.connectThread.pending, d ∈ t.connectThread.devices)
    (hconnecting : ∀ devices, t.connectThread = .connecting devices → t.state_ ≠ .CONNECTED) :
    t.Tracked modules announced where
  supported d hd := hs.supported d (hthread d hd).1
  pending := hpending
  handled d hd := (hs.handled d (hthread d hd).1).imp (hthread d hd).2 id
  connecting := hconnecting
  served k hk := hs.served k (hkeys ▸ hk)
  included k hk := hkeys ▸ hs.included k hk
  exact ht k hk := hs.exact (hstate ht) k (hkeys ▸ hk)

omit [BufferType β] in
/-- The same for steps that leave the connect thread alone as well. -/
theorem Tracked.frame (hs : s.Tracked modules announced) (hkeys : t.connectedKeys = s.connectedKeys)
    (hstate : t.state_ = .CONNECTED → s.state_ = .CONNECTED)
    (hthread : t.connectThread = s.connectThread) : t.Tracked modules announced := by
  refine hs.quiet hkeys hstate (fun d hd => ⟨hthread ▸ hd,fun h => hthread.symm ▸ h⟩)
    (hthread.symm ▸ hs.pending) fun devices hd => ?_
  exact fun h => hs.connecting devices (hthread ▸ hd) (hstate h)

/-- A status that is not a request to disconnect. -/
theorem Tracked.sendStatus (hs : s.Tracked modules announced) (status : DeviceStatus β)
    (hmodule : (modules status.device.module_).isSome) (deviceState : StatusDeviceState)
    (hrequest : deviceState ≠ .DISCONNECT) (errorMessage : β) (sent : Bool) :
    (s.sendStatus modules status deviceState errorMessage sent).Tracked modules
      (heard announced (.status (s.createStatus status deviceState errorMessage))) := by
  obtain ⟨hstate,-,-,hthread,-,hconnected,-⟩ := s.sendStatus_frame status hmodule deviceState errorMessage sent
  have hup : (s.sendStatus modules status deviceState errorMessage sent).state_ = .CONNECTED →
      s.state_ = .CONNECTED := by
    rw [hstate]
    cases sent <;> simp
  have hkeys : (s.sendStatus modules status deviceState errorMessage sent).connectedKeys =
      (s.switched status.device deviceState).2.connectedDevices_.map DeviceIdentification.key := by
    rw [connectedKeys, hconnected]
  rcases s.switched_connected status.device deviceState with ⟨hst,hset⟩ | ⟨hst,-,hset⟩ | ⟨-,hdis,-⟩
  · have hheard : heard announced (.status (s.createStatus status deviceState errorMessage)) =
        status.device.key :: announced := if_pos hst
    have hkeys' : (s.sendStatus modules status deviceState errorMessage sent).connectedKeys =
        s.connectedKeys ++ [status.device.key] := by rw [hkeys, hset, List.map_append]; rfl
    rw [hheard]
    refine ⟨fun d hd => hs.supported d (hthread ▸ hd),hthread.symm ▸ hs.pending,fun d hd => ?_,
      fun devices hd h => ?_,fun k hk => ?_,fun k hk => ?_,fun ht k hk => ?_⟩
    · rw [hthread] at hd ⊢
      exact (hs.handled d hd).imp id (List.mem_cons_of_mem _)
    · exact hs.connecting devices (hthread ▸ hd) (hup h)
    · rw [hkeys'] at hk
      rcases List.mem_append.mp hk with h | h
      · exact hs.served k h
      · rw [List.mem_singleton.mp h]
        exact hmodule
    · rw [hkeys']
      rcases List.mem_cons.mp hk with rfl | h
      · exact List.mem_append_right _ (List.mem_singleton_self _)
      · exact List.mem_append_left _ (hs.included k h)
    · rw [hkeys'] at hk
      rcases List.mem_append.mp hk with h | h
      · exact List.mem_cons_of_mem _ (hs.exact (hup ht) k h)
      · rw [List.mem_singleton.mp h]
        exact List.mem_cons_self
  · have hheard : heard announced (.status (s.createStatus status deviceState errorMessage)) =
        announced := if_neg hst
    rw [hheard]
    exact hs.frame (by rw [hkeys, hset]; rfl) hup hthread
  · exact absurd hdis hrequest

/-- A request to disconnect takes the device out of both, on the conditions of the guard. -/
theorem Tracked.disconnect (hs : s.Tracked modules announced) {status : DeviceStatus β}
    (hmodule : (modules status.device.module_).isSome) (hidle : s.connectThread.devices = [])
    (hidle' : s.connectThread.pending = [])
    (errorMessage : β) {sent : Bool}
    (hguard : sent = true → s.isRegistered status.device ∧ s.connectedKeys.count status.device.key ≤ 1) :
    (s.sendStatus modules status .DISCONNECT errorMessage sent).Tracked modules
      ((heard announced (.status (s.createStatus status .DISCONNECT errorMessage))).filter
        (· ≠ status.device.key)) := by
  obtain ⟨hstate,-,-,hthread,-,hconnected,-⟩ := s.sendStatus_frame status hmodule .DISCONNECT errorMessage sent
  have hup : (s.sendStatus modules status .DISCONNECT errorMessage sent).state_ = .CONNECTED →
      sent = true ∧ s.state_ = .CONNECTED := by
    rw [hstate]
    cases sent <;> simp
  have hkeys : (s.sendStatus modules status .DISCONNECT errorMessage sent).connectedKeys =
      (s.switched status.device .DISCONNECT).2.connectedDevices_.map DeviceIdentification.key := by
    rw [connectedKeys, hconnected]
  have hnone : ∀ d, d ∉ (s.sendStatus modules status .DISCONNECT errorMessage sent).connectThread.devices := by
    rw [hthread, hidle]
    exact fun _ => List.not_mem_nil
  have hnone' : ∀ d ∈ (s.sendStatus modules status .DISCONNECT errorMessage sent).connectThread.pending,
      d ∈ (s.sendStatus modules status .DISCONNECT errorMessage sent).connectThread.devices := by
    rw [hthread, hidle']
    exact fun _ hd => absurd hd List.not_mem_nil
  have hfilter : ∀ k, k ∈ (heard announced (.status (s.createStatus status .DISCONNECT errorMessage))).filter
      (· ≠ status.device.key) ↔ k ∈ announced ∧ k ≠ status.device.key := by
    intro k
    rw [List.mem_filter, decide_eq_true_iff]
    refine and_congr_left fun hne => ?_
    simp only [heard]
    split
    · exact ⟨fun h => (List.mem_cons.mp h).resolve_left hne,List.mem_cons_of_mem _⟩
    · rfl
  have hconnecting : ∀ devices, (s.sendStatus modules status .DISCONNECT errorMessage sent).connectThread =
      .connecting devices → (s.sendStatus modules status .DISCONNECT errorMessage sent).state_ ≠ .CONNECTED :=
    fun devices hd h => hs.connecting devices (hthread ▸ hd) (hup h).2
  rcases s.switched_connected status.device .DISCONNECT with ⟨hst,hset⟩ | ⟨hst,hst',-⟩ | ⟨-,-,-,hset⟩
  · have hkeys' : (s.sendStatus modules status .DISCONNECT errorMessage sent).connectedKeys =
        s.connectedKeys ++ [status.device.key] := by rw [hkeys, hset, List.map_append]; rfl
    refine ⟨fun d hd => absurd hd (hnone d),hnone',fun d hd => absurd hd (hnone d),hconnecting,
      fun k hk => ?_,fun k hk => ?_,fun ht => ?_⟩
    · rw [hkeys'] at hk
      rcases List.mem_append.mp hk with h | h
      · exact hs.served k h
      · rw [List.mem_singleton.mp h]
        exact hmodule
    · rw [hkeys']
      exact List.mem_append_left _ (hs.included k ((hfilter k).mp hk).1)
    · -- a registered device is not announced again
      have hreg := (hguard (hup ht).1).1
      rw [switched, if_pos hreg] at hst
      simp [switchDeviceState] at hst
  · rw [switched] at hst hst'
    split at hst <;> simp_all [switchDeviceState]
  · have hkeys' : (s.sendStatus modules status .DISCONNECT errorMessage sent).connectedKeys =
        s.connectedKeys.erase status.device.key := by rw [hkeys, hset, deleteConnectedDevice_keys]; rfl
    refine ⟨fun d hd => absurd hd (hnone d),hnone',fun d hd => absurd hd (hnone d),hconnecting,
      fun k hk => ?_,fun k hk => ?_,fun ht k hk => ?_⟩
    · rw [hkeys'] at hk
      exact hs.served k (List.mem_of_mem_erase hk)
    · rw [hkeys']
      obtain ⟨hk,hne⟩ := (hfilter k).mp hk
      exact (List.mem_erase_of_ne hne).mpr (hs.included k hk)
    · rw [hkeys'] at hk
      obtain ⟨hsent,hconn⟩ := hup ht
      refine (hfilter k).mpr ⟨hs.exact hconn k (List.mem_of_mem_erase hk),?_⟩
      rintro rfl
      have hcount := List.count_pos_iff.mpr hk
      rw [List.count_erase_self] at hcount
      have hle := (hguard hsent).2
      omega

/-! ## One step -/

omit [BufferType β] in
/-- The observer of a step sees the messages it appends. -/
theorem heard_of_sent (announced : List DeviceKey) {messages : List (ClientMessage β)}
    (h : t.sent = s.sent ++ messages) :
    (t.sent.drop s.sent.length).foldl heard announced = messages.foldl heard announced := by
  rw [h, List.drop_left]

omit [BufferType β] in
/-- A sequence that ends, in failure or after the aggregators are cleared. -/
theorem Tracked.finish (hs : s.Tracked modules announced) (hkeys : t.connectedKeys = s.connectedKeys)
    (hstate : t.state_ = .CONNECTED → s.state_ = .CONNECTED) {ok : Bool}
    (hthread : t.connectThread = .finished ok) : t.Tracked modules announced :=
  hs.quiet hkeys hstate (fun d hd => by simp [hthread, ConnectThread.devices] at hd)
    (fun d hd => by simp [hthread, ConnectThread.pending] at hd) fun _ h => by simp [hthread] at h

omit [BufferType β] in
theorem Tracked.fail (hs : s.Tracked modules announced) : s.fail.Tracked modules announced :=
  hs.finish rfl (fun h => by simp [ExternalConnection.fail, goto] at h) rfl

omit [BufferType β] in
/-- The connect thread goes on without having sent anything. -/
theorem Tracked.goto (hs : s.Tracked modules announced) {thread : ConnectThread β}
    (hdevices : thread.devices = s.connectThread.devices) (hpending : thread.pending = s.connectThread.pending)
    (hconnecting : ∀ devices, thread ≠ .connecting devices) :
    (s.goto thread).Tracked modules announced :=
  hs.quiet rfl id (fun _ hd => ⟨hdevices ▸ hd,fun h => hpending.symm ▸ h⟩)
    (fun d hd => by
      change d ∈ thread.devices
      rw [hdevices]
      exact hs.pending d (hpending ▸ hd))
    fun devices h => absurd h (hconnecting devices)

omit [BufferType β] in
theorem Tracked.fail_connect (hs : s.Tracked modules announced) {u : ExternalConnection β}
    (hu : u.connectedKeys = s.connectedKeys) : u.fail.Tracked modules [] where
  supported _ hd := absurd hd List.not_mem_nil
  pending _ hd := absurd hd List.not_mem_nil
  handled _ hd := absurd hd List.not_mem_nil
  connecting _ h := by simp [ExternalConnection.fail, ExternalConnection.goto] at h
  served k hk := hs.served k (hu ▸ hk)
  included _ hk := absurd hk List.not_mem_nil
  exact h := by simp [ExternalConnection.fail, ExternalConnection.goto] at h

omit [BufferType β] in
/-- A new session: nothing is announced yet, and the sequence is not through. -/
theorem Tracked.connectMessageHandle (hs : s.Tracked modules announced)
    {devices : List DeviceIdentification} (hthread : s.connectThread = .connecting devices)
    (answer : Answer β) :
    (s.connectMessageHandle devices answer).Tracked modules [] ∧
      (s.connectMessageHandle devices answer).sent = s.sent ++ [.connect answer.sessionId devices] := by
  rcases s.connectMessageHandle_cases devices answer with h | h
  · rw [h]
    exact ⟨hs.fail_connect rfl,rfl⟩
  · rw [h]
    refine ⟨⟨fun d hd => hs.supported d ?_,fun d hd => hd,fun d hd => .inl hd,nofun,hs.served,nofun,?_⟩,rfl⟩
    · rw [hthread]
      exact hd
    · exact fun h => absurd h (hs.connecting devices hthread)

omit [BufferType β] in
theorem switched_connecting (s : ExternalConnection β) (device : DeviceIdentification) :
    (s.switched device .CONNECTING).1 = .CONNECTING := by
  rw [switched, ite_self]
  rfl

/-- The second step announces the device at the head of those pending. -/
theorem Tracked.announce (hs : s.Tracked modules announced) {devices remaining : List DeviceIdentification}
    {device : DeviceIdentification} {status error : β}
    (hthread : s.connectThread = .sending devices device status error remaining) (sent : Bool) :
    ((s.sendStatus modules ⟨device,status⟩ .CONNECTING error sent).goto (.reading devices remaining)).Tracked
      modules (device.key :: announced) := by
  have hmodule : (modules device.module_).isSome := by
    refine hs.supported device (hs.pending device ?_)
    rw [hthread]
    exact List.mem_cons_self
  have htracked := hs.sendStatus ⟨device,status⟩ hmodule .CONNECTING nofun error sent
  obtain ⟨-,-,-,hthread',-⟩ := s.sendStatus_frame ⟨device,status⟩ hmodule .CONNECTING error sent
  have hheard : heard announced (.status (s.createStatus ⟨device,status⟩ .CONNECTING error)) =
      device.key :: announced := if_pos (s.switched_connecting device)
  rw [hheard] at htracked
  rw [hthread] at hthread'
  refine ⟨fun d hd => htracked.supported d (by rw [hthread']; exact hd),fun d hd => ?_,fun d hd => ?_,
    fun _ h => by simp [ExternalConnection.goto] at h,htracked.served,htracked.included,htracked.exact⟩
  · have hpend := htracked.pending d
    rw [hthread'] at hpend
    exact hpend (List.mem_cons_of_mem _ hd)
  · have hhandled := htracked.handled d
    rw [hthread'] at hhandled
    rcases hhandled hd with h | h
    · rcases List.mem_cons.mp h with rfl | h
      · exact .inr List.mem_cons_self
      · exact .inl h
    · exact .inr h

omit [BufferType β] in
theorem heard_commandResponses {responses : List (ClientMessage β)}
    (h : ∀ m ∈ responses, ∃ sessionId type counter, m = .commandResponse sessionId type counter) :
    responses.foldl heard announced = announced := by
  induction responses with
  | nil => rfl
  | cons m responses ih =>
    obtain ⟨_,_,_,rfl⟩ := h m List.mem_cons_self
    exact ih fun m hm => h m (List.mem_cons_of_mem _ hm)

theorem Tracked.thread (hs : s.Tracked modules announced) {answer : Answer β}
    (hguard : s.NoLeftoverDevice modules (.thread answer))
    (ht : s.initializeConnection modules answer = some t) :
    t.Tracked modules ((t.sent.drop s.sent.length).foldl heard announced) := by
  have hseen (u : ExternalConnection β) (messages : List (ClientMessage β))
      (hsent : u.sent = s.sent ++ messages) (hu : u.Tracked modules (messages.foldl heard announced)) :
      u.Tracked modules ((u.sent.drop s.sent.length).foldl heard announced) := by
    rw [heard_of_sent _ hsent]
    exact hu
  have hsilent (u : ExternalConnection β) (hsent : u.sent = s.sent) (hu : u.Tracked modules announced) :
      u.Tracked modules ((u.sent.drop s.sent.length).foldl heard announced) :=
    hseen u [] (by rw [hsent, List.append_nil]) hu
  unfold initializeConnection at ht
  split at ht
  case h_1 => exact nomatch ht
  case h_2 devices hthread =>
    obtain rfl := Option.some.inj ht
    rcases s.openChannel_cases devices answer with h | ⟨state,hstate,h⟩
    · rw [h]
      refine hsilent _ rfl (hs.quiet rfl nofun ?_ (fun d hd => hd) nofun)
      rw [hthread]
      exact fun d hd => ⟨hd,id⟩
    · rw [h]
      exact hsilent _ rfl (hs.finish rfl hstate rfl)
  case h_3 devices hthread =>
    obtain rfl := Option.some.inj ht
    obtain ⟨htracked,hsent⟩ := hs.connectMessageHandle hthread answer
    exact hseen _ _ hsent htracked
  case h_4 devices hthread =>
    obtain rfl := Option.some.inj ht
    exact hsilent _ rfl (hs.goto (by rw [hthread]; rfl) (by rw [hthread]; rfl) nofun)
  case h_5 devices device remaining hthread =>
    obtain rfl := Option.some.inj ht
    rcases s.readStatus_cases devices device remaining with ⟨-,h⟩ | ⟨deviceState,-,h⟩
    · rw [h]
      exact hsilent _ rfl hs.fail
    · rw [h]
      exact hsilent _ rfl (hs.goto (by rw [hthread]; rfl) (by rw [hthread]; rfl) nofun)
  case h_6 devices device status error remaining hthread =>
    obtain rfl := Option.some.inj ht
    have hmodule : (modules device.module_).isSome := by
      refine hs.supported device (hs.pending device ?_)
      rw [hthread]
      exact List.mem_cons_self
    obtain ⟨-,-,hsent,-⟩ := s.sendStatus_frame ⟨device,status⟩ hmodule .CONNECTING error answer.sent
    refine hseen _ _ hsent ?_
    simp only [List.foldl_cons, List.foldl_nil, heard, createStatus, switched_connecting, if_true]
    exact hs.announce hthread answer.sent
  case h_7 devices hthread =>
    obtain rfl := Option.some.inj ht
    exact hsilent _ rfl (hs.goto (by rw [hthread]; rfl) (by rw [hthread]; rfl) nofun)
  case h_8 devices responses hthread =>
    obtain rfl := Option.some.inj ht
    rcases s.receiveStatusResponse_cases devices responses answer.received with ⟨-,h⟩ | ⟨counter,h⟩
    · rw [h]
      exact hsilent _ rfl hs.fail
    · have hkeys := acknowledgeStatus_connectedDevices_ s.sentMessagesHandler_ counter
      rw [h]
      refine hsilent _ rfl (hs.quiet (congrArg (List.map DeviceIdentification.key) hkeys) id ?_ nofun nofun)
      rw [hthread]
      exact fun d hd => ⟨hd,id⟩
  case h_9 devices hthread =>
    obtain rfl := Option.some.inj ht
    exact hsilent _ rfl (hs.goto (by rw [hthread]; rfl) (by rw [hthread]; rfl) nofun)
  case h_10 devices commands hthread =>
    obtain rfl := Option.some.inj ht
    obtain ⟨counter,queue,responses,hresponses,⟨-,h⟩ | h⟩ :=
      s.receiveCommand_cases modules devices commands answer.received
    · rw [h]
      refine hseen _ responses rfl ?_
      rw [heard_commandResponses hresponses]
      exact hs.finish rfl nofun rfl
    · rw [h]
      refine hseen _ responses rfl ?_
      rw [heard_commandResponses hresponses]
      refine hs.quiet rfl id ?_ nofun nofun
      rw [hthread]
      exact fun d hd => ⟨hd,id⟩
  case h_11 devices hthread =>
    obtain rfl := Option.some.inj ht
    refine hsilent _ rfl ⟨fun d hd => hs.supported d (by rw [hthread]; exact hd),nofun,fun d hd => ?_,nofun,
      hs.served,hs.included,fun _ k hk => ?_⟩
    · have h := hs.handled d (by rw [hthread]; exact hd)
      rw [hthread] at h
      exact h
    · -- whoever is in the set was announced in this sequence
      obtain ⟨d,hd,rfl⟩ := List.mem_map.mp (hguard devices hthread k hk)
      have h := hs.handled d (by rw [hthread]; exact hd)
      rw [hthread] at h
      exact h.resolve_left List.not_mem_nil
  case h_12 devices hthread =>
    obtain rfl := Option.some.inj ht
    exact hsilent _ rfl (hs.finish rfl id rfl)

theorem Tracked.step (hs : s.Tracked modules announced) {a : ConnectionAction β}
    (hguard : s.NoLeftoverDevice modules a) (ht : s.connectionStep modules a = some t) :
    t.Tracked modules (s.observeAnnounced a t announced) := by
  have hsilent (u : ExternalConnection β) (hsent : u.sent = s.sent) (hu : u.Tracked modules announced) :
      u.Tracked modules ((u.sent.drop s.sent.length).foldl heard announced) := by
    rw [hsent, List.drop_length]
    exact hu
  cases a with
  | connect devices =>
    obtain ⟨⟨-,hstate,hserved⟩,rfl⟩ := Option.ite_some_none_eq_some.mp ht
    exact hsilent _ rfl ⟨List.all_eq_true.mp hserved,fun d hd => hd,fun d hd => .inl hd,nofun,hs.served,
      hs.included,fun h => absurd h hstate⟩
  | thread answer => exact hs.thread hguard ht
  | sendStatus status deviceState sent =>
    obtain ⟨⟨hidle,-⟩,rfl⟩ := Option.ite_some_none_eq_some.mp ht
    obtain ⟨⟨ok,hfinished⟩,-⟩ := isIdle_iff.mp hidle
    by_cases hmodule : (modules status.device.module_).isSome
    · obtain ⟨-,-,hsent,-⟩ :=
        s.sendStatus_frame status hmodule deviceState BufferType.unallocated sent
      have hheard := heard_of_sent announced hsent
      by_cases hdis : deviceState = .DISCONNECT
      · subst hdis
        simp only [observeAnnounced, hheard]
        exact hs.disconnect hmodule (by rw [hfinished]; rfl) (by rw [hfinished]; rfl) _
          fun h => hguard h hmodule
      · have hsee : s.observeAnnounced (.sendStatus status deviceState sent)
            (s.sendStatus modules status deviceState BufferType.unallocated sent) announced =
              heard announced (.status (s.createStatus status deviceState BufferType.unallocated)) := by
          cases deviceState <;> first | exact hheard | exact absurd rfl hdis
        rw [hsee]
        exact hs.sendStatus status hmodule deviceState hdis _ sent
    · rw [s.sendStatus_none status hmodule]
      have hkey : status.device.key ∉ announced := fun h => hmodule (hs.served _ (hs.included _ h))
      have hsee : s.observeAnnounced (.sendStatus status deviceState sent) s announced = announced := by
        simp only [observeAnnounced, List.drop_length, List.foldl_nil]
        split
        · exact List.filter_eq_self.mpr fun k hk => decide_eq_true fun h => hkey (by simp_all)
        · rfl
      rw [hsee]
      exact hs
  | take status =>
    obtain ⟨-,rfl⟩ := Option.ite_some_none_eq_some.mp ht
    exact hsilent _ rfl (hs.frame rfl id rfl)
  | fill =>
    obtain ⟨status,-,rfl⟩ := Option.map_eq_some_iff.mp ht
    obtain ⟨hstate,-,hsent,hthread,-,hconnected,-⟩ := s.fillErrorAggregator_frame modules status
    exact hsilent _ hsent (hs.frame (congrArg (List.map DeviceIdentification.key) hconnected)
      (fun h => hstate.symm.trans h) hthread)
  | receive message =>
    obtain ⟨-,ht⟩ := Option.ite_none_right_eq_some.mp ht
    cases message with
    | statusResponse sessionId ok counter =>
      obtain rfl := Option.some.inj ht
      have hkeys := acknowledgeStatus_connectedDevices_ s.sentMessagesHandler_ counter
      exact hsilent _ rfl (hs.frame (congrArg (List.map DeviceIdentification.key) hkeys) id rfl)
    | command sessionId messageCounter deviceCommand =>
      obtain rfl := Option.some.inj ht
      obtain ⟨counter,queue,responses,hstate,hresponses⟩ :=
        s.handleCommand_frame modules sessionId messageCounter deviceCommand
      have hheard : responses.foldl heard announced = announced :=
        heard_commandResponses fun m hm => by
          obtain ⟨type,rfl⟩ := hresponses m hm
          exact ⟨_,_,_,rfl⟩
      rw [hstate]
      simp only [observeAnnounced, List.drop_left, hheard]
      exact hs.frame rfl id rfl
    | connectResponse sessionId alreadyLogged =>
      obtain rfl := Option.some.inj ht
      exact hsilent _ rfl hs
  | deinitializeConnection completeDisconnect =>
    obtain ⟨-,rfl⟩ := Option.ite_some_none_eq_some.mp ht
    obtain ⟨hstate,-,hsent,hthread,-,hconnected,-⟩ :=
      s.deinitializeConnection_frame modules completeDisconnect
    exact hsilent _ hsent (hs.frame (congrArg (List.map DeviceIdentification.key) hconnected)
      (fun h => by simp [hstate] at h) hthread)

/-! ## Every run -/

/-- In a run on the conditions of the guard, what is connected is what is announced, in every
state that is `CONNECTED`; so a device is not connected after the request to disconnect it,
and none is when all have been disconnected. -/
theorem exec_connectedDevices {as : List (ConnectionAction β)}
    (hg : Guarded (connectionStep modules) (NoLeftoverDevice modules) init as)
    (he : exec (connectionStep modules) init as = some s) (hstate : s.state_ = .CONNECTED) :
    (∀ d, s.sentMessagesHandler_.isDeviceConnected d = true ↔ d.key ∈ announcedAfter modules as) ∧
      (announcedAfter modules as = [] → s.sentMessagesHandler_.isAnyDeviceConnected = false) ∧
      ∀ bs status sent, as = bs ++ [.sendStatus status .DISCONNECT sent] →
        s.sentMessagesHandler_.isDeviceConnected status.device = false := by
  have htracked : s.Tracked modules (announcedAfter modules as) :=
    exec_observe_invariant (I := fun s announced => s.Tracked modules announced) (Tracked.init modules)
      (fun _ _ _ _ hs ha ht => hs.step ha ht) hg he
  have hiff (d : DeviceIdentification) :
      s.sentMessagesHandler_.isDeviceConnected d = true ↔ d.key ∈ announcedAfter modules as :=
    isDeviceConnected_iff.trans ⟨htracked.exact hstate d.key,htracked.included d.key⟩
  refine ⟨hiff,fun hnone => ?_,fun bs status sent has => ?_⟩
  · have hempty : s.connectedKeys = [] :=
      List.eq_nil_iff_forall_not_mem.mpr fun k hk => by simpa [hnone] using htracked.exact hstate k hk
    rw [SentMessagesHandler.isAnyDeviceConnected, List.map_eq_nil_iff.mp hempty]
    rfl
  · subst has
    obtain ⟨u,hu,hs⟩ := exec_concat_eq_some.mp he
    rw [Bool.eq_false_iff, Ne, hiff, announcedAfter, observe_concat hu hs]
    simp [observeAnnounced]

/-! ## Sessions that leave a device behind -/

/-- The camera of the first session is gone when the connection comes up again. -/
def leftover : List (ConnectionAction (List UInt8)) :=
  statusWhileDown camera [1] ++ connectSequence camera ++ [.deinitializeConnection false] ++
    statusWhileDown lidar [2] ++ connectSequence lidar

/-- The camera is there in both sessions and is then disconnected. -/
def announcedTwice : List (ConnectionAction (List UInt8)) :=
  statusWhileDown camera [1] ++ connectSequence camera ++ [.deinitializeConnection false] ++
    connectSequence camera ++ [.sendStatus ⟨camera,[3]⟩ .DISCONNECT true]

/-- The first status of the lidar in the session is its last one. -/
def unregistered : List (ConnectionAction (List UInt8)) :=
  statusWhileDown camera [1] ++ connectSequence camera ++ [.sendStatus ⟨lidar,[2]⟩ .DISCONNECT true]

theorem leftover_stays_connected :
    ∃ s t u : ExternalConnection (List UInt8),
      exec (connectionStep moduleOne) init leftover = some s ∧ s.state_ = .CONNECTED ∧
        s.sentMessagesHandler_.isDeviceConnected camera = true ∧ camera.key ∉ announcedAfter moduleOne leftover ∧
      exec (connectionStep moduleOne) init announcedTwice = some t ∧ t.state_ = .CONNECTED ∧
        t.sentMessagesHandler_.isDeviceConnected camera = true ∧ announcedAfter moduleOne announcedTwice = [] ∧
      exec (connectionStep moduleOne) init unregistered = some u ∧ u.state_ = .CONNECTED ∧
        u.sentMessagesHandler_.isDeviceConnected lidar = true ∧
        lidar.key ∉ announcedAfter moduleOne unregistered :=
  ⟨_,_,_,rfl,rfl,rfl,by decide,rfl,rfl,rfl,by decide,rfl,rfl,rfl,by decide⟩

/-- The lidar comes and goes while the camera stays. -/
def comesAndGoes : List (ConnectionAction (List UInt8)) :=
  statusWhileDown camera [1] ++ connectSequence camera ++
    [.sendStatus ⟨lidar,[2]⟩ .RUNNING true,.sendStatus ⟨lidar,[3]⟩ .DISCONNECT true]

theorem comesAndGoes_noLeftoverDevice :
    Guarded (connectionStep moduleOne) (NoLeftoverDevice moduleOne) init comesAndGoes := by
  refine .cons trivial rfl (.cons trivial rfl (.cons trivial rfl ?_))
  refine .cons nofun rfl (.cons nofun rfl (.cons nofun rfl (.cons nofun rfl (.cons nofun rfl ?_))))
  refine .cons nofun rfl (.cons nofun rfl (.cons nofun rfl (.cons nofun rfl ?_)))
  refine .cons (fun _ h => ?_) rfl (.cons nofun rfl (.cons trivial rfl (.cons (fun _ _ => ?_) rfl trivial)))
  · obtain rfl := ConnectThread.establishing.inj h
    decide
  · decide

theorem exec_connectedDevices_comesAndGoes :
    ∃ s : ExternalConnection (List UInt8), exec (connectionStep moduleOne) init comesAndGoes = some s ∧
      s.sentMessagesHandler_.isDeviceConnected lidar = false ∧
      s.sentMessagesHandler_.isDeviceConnected camera = true := by
  obtain ⟨hiff,-,hgone⟩ := exec_connectedDevices comesAndGoes_noLeftoverDevice rfl rfl
  refine ⟨_,rfl,?_,(hiff camera).mpr (by decide)⟩
  exact hgone (statusWhileDown camera [1] ++ connectSequence camera ++
    [.sendStatus ⟨lidar,[2]⟩ .RUNNING true]) ⟨lidar,[3]⟩ true rfl

end ExternalConnection

end ModuleGateway.ExternalClient
