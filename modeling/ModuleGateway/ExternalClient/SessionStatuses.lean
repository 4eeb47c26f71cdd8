import ModuleGateway.Library.Counters
import ModuleGateway.Library.Outstanding
import ModuleGateway.ExternalClient.ConnectSequence
import ModuleGateway.ExternalClient.StatusOrigin

/-! # The statuses of a session

Between the reset of the counters and the teardown statuses are sent and acknowledged in any
order. What is left without a response is folded into the entries, each device's in the order in
which it was sent.
-/
namespace ModuleGateway.ExternalClient
open Structures Counters Outstanding

variable {β : Type}

/-- What happens to the list of statuses without a response; every status reaches the channel. -/
inductive SessionCall (β : Type) where
  | sendStatus (status : DeviceStatus β) (deviceState : StatusDeviceState) (errorMessage : β)
  | acknowledgeStatus (responseCounter : UInt32)

namespace SessionCall

def isSend : SessionCall β → Bool
  | .sendStatus _ _ _ => true
  | .acknowledgeStatus _ => false

/-- A status is of a module of the connection, and of a device type that is supported. -/
def Supported (modules : Modules β) : SessionCall β → Prop
  | .sendStatus status _ _ => ∃ module_, modules status.device.module_ = some module_ ∧
      module_.isDeviceTypeSupported status.device.deviceType ≠ .NOT_OK
  | .acknowledgeStatus _ => True

end SessionCall

/-- The error message after more statuses, where `aggregateError` succeeds. -/
def foldErrors (module_ : ModuleLibraryHandler β) (device_type : UInt32) (error : β) (statuses : List β) : β :=
  statuses.foldl (fun error status =>
    match module_.aggregateError error status device_type with
    | (.OK,errorMessageBuffer) => errorMessageBuffer
    | _ => error) error

namespace ExternalConnection
variable [BufferType β] (modules : Modules β)

def sessionCall (s : ExternalConnection β) : SessionCall β → ExternalConnection β
  | .sendStatus status deviceState errorMessage => s.sendStatus modules status deviceState errorMessage true
  | .acknowledgeStatus responseCounter => s.acknowledge responseCounter

def session (s : ExternalConnection β) (calls : List (SessionCall β)) : ExternalConnection β :=
  calls.foldl (sessionCall modules) s

/-- The statuses that are sent, and the counters of the responses. -/
def sessionEvents : ExternalConnection β → List (SessionCall β) → List (Event (Status β) UInt32)
  | _, [] => []
  | s, .sendStatus status deviceState errorMessage :: calls =>
    .add (s.createStatus status deviceState errorMessage) ::
      (s.sessionCall modules (.sendStatus status deviceState errorMessage)).sessionEvents calls
  | s, .acknowledgeStatus responseCounter :: calls =>
    .retire responseCounter :: (s.sessionCall modules (.acknowledgeStatus responseCounter)).sessionEvents calls

omit [BufferType β] in
/-- The statuses of one device. -/
def statusesOf (k : DeviceKey) (l : List (Status β)) : List β :=
  (l.filter fun status => status.deviceStatus.device.key = k).map fun status => status.deviceStatus.statusdata

/-! ## The list -/

variable {modules} {s : ExternalConnection β}

theorem sessionCall_sendStatus {status : DeviceStatus β} (hmodule : (modules status.device.module_).isSome)
    (deviceState : StatusDeviceState) (errorMessage : β) :
    let t := s.sessionCall modules (.sendStatus status deviceState errorMessage)
    let created := s.createStatus status deviceState errorMessage
    t.clientMessageCounter_ = s.clientMessageCounter_ + 1 ∧ t.sent = s.sent ++ [.status created] ∧
      t.sentMessagesHandler_.notAckedStatuses_ = s.sentMessagesHandler_.notAckedStatuses_ ++ [created] ∧
      t.errorAggregators_ = if s.isRegistered status.device then s.errorAggregators_
        else addStatusToErrorAggregator modules s.errorAggregators_ status := by
  have hsome : ¬(modules status.device.module_).isNone = true := by
    simpa using Option.isSome_iff_ne_none.mp hmodule
  have hnotAcked := (s.switched_frame status.device deviceState).1
  simp only [sessionCall, sendStatus, if_neg hsome, if_true]
  exact ⟨rfl,rfl,congrArg (· ++ [s.createStatus status deviceState errorMessage]) hnotAcked,rfl⟩

/-- The list follows the events, and so does what the channel gets. -/
theorem session_notAcked {calls : List (SessionCall β)} (hcalls : ∀ call ∈ calls, call.Supported modules) :
    let t := s.session modules calls
    let events := s.sessionEvents modules calls
    t.sentMessagesHandler_.notAckedStatuses_ =
        events.foldl (update Status.messageCounter) s.sentMessagesHandler_.notAckedStatuses_ ∧
      t.sent = s.sent ++ (added events).map .status := by
  induction calls generalizing s with
  | nil => exact ⟨rfl,(List.append_nil _).symm⟩
  | cons call calls ih =>
    obtain ⟨hlist,hsent⟩ := ih (s := s.sessionCall modules call) fun call h => hcalls call (List.mem_cons_of_mem _ h)
    cases call with
    | sendStatus status deviceState errorMessage =>
      obtain ⟨module_,hmodule,-⟩ := hcalls _ List.mem_cons_self
      obtain ⟨-,hsent',hlist',-⟩ :=
        s.sessionCall_sendStatus (Option.isSome_of_eq_some hmodule) deviceState errorMessage
      refine ⟨hlist.trans ?_,hsent.trans ?_⟩
      · rw [hlist']
        rfl
      · rw [hsent', List.append_assoc]
        rfl
    | acknowledgeStatus responseCounter =>
      refine ⟨hlist.trans ?_,hsent⟩
      have hacknowledged : (s.sessionCall modules (.acknowledgeStatus responseCounter)
          ).sentMessagesHandler_.notAckedStatuses_ = update Status.messageCounter
            s.sentMessagesHandler_.notAckedStatuses_ (.retire responseCounter) :=
        acknowledgeStatus_notAcked s.sentMessagesHandler_ responseCounter
      rw [hacknowledged]
      rfl

/-- The counters of the statuses go on from the last one. -/
theorem session_counters {calls : List (SessionCall β)} (hcalls : ∀ call ∈ calls, call.Supported modules) :
    Consecutive (s.clientMessageCounter_ :: (added (s.sessionEvents modules calls)).map Status.messageCounter) := by
  induction calls generalizing s with
  | nil => exact List.isChain_singleton _
  | cons call calls ih =>
    have hrest := ih (s := s.sessionCall modules call) fun call h => hcalls call (List.mem_cons_of_mem _ h)
    cases call with
    | sendStatus status deviceState errorMessage =>
      obtain ⟨module_,hmodule,-⟩ := hcalls _ List.mem_cons_self
      obtain ⟨hcounter,-⟩ := s.sessionCall_sendStatus (Option.isSome_of_eq_some hmodule) deviceState errorMessage
      rw [hcounter] at hrest
      exact List.isChain_cons_cons.mpr ⟨rfl,hrest⟩
    | acknowledgeStatus responseCounter => exact hrest

theorem sessionEvents_length (calls : List (SessionCall β)) :
    (added (s.sessionEvents modules calls)).length = calls.countP SessionCall.isSend := by
  induction calls generalizing s with
  | nil => rfl
  | cons call calls ih =>
    cases call with
    | sendStatus status deviceState errorMessage =>
      rw [List.countP_cons_of_pos rfl, ← ih]
      rfl
    | acknowledgeStatus responseCounter =>
      rw [List.countP_cons_of_neg Bool.false_ne_true]
      exact ih

/-- In a session with fewer than `2 ^ 32` statuses the list holds those without a response. -/
theorem session_unretired {calls : List (SessionCall β)} (hcalls : ∀ call ∈ calls, call.Supported modules)
    (hempty : s.sentMessagesHandler_.notAckedStatuses_ = []) (hsends : calls.countP SessionCall.isSend < 2 ^ 32) :
    let unanswered := unretired Status.messageCounter (s.sessionEvents modules calls)
    (s.session modules calls).sentMessagesHandler_.notAckedStatuses_ = unanswered ∧
      (unanswered.map Status.messageCounter).Nodup := by
  have hconsecutive := s.session_counters hcalls
  have hlength : (s.clientMessageCounter_ ::
      (added (s.sessionEvents modules calls)).map Status.messageCounter).length ≤ 2 ^ 32 := by
    rw [List.length_cons, List.length_map, sessionEvents_length]
    exact hsends
  have hnodup : ((added (s.sessionEvents modules calls)).map Status.messageCounter).Nodup :=
    (hconsecutive.nodup hlength).of_cons
  obtain ⟨hlist,-⟩ := s.session_notAcked hcalls
  refine ⟨?_,hnodup.sublist ((unretired_sublist _ _).map _)⟩
  rw [hlist, hempty, foldl_update Status.messageCounter _ hnodup]
  rfl

/-! ## The entries -/

/-- What the statuses without a response can be folded into: the entry of their device is there. -/
def Awaited (modules : Modules β) (s : ExternalConnection β) : Prop :=
  ∀ status ∈ s.sentMessagesHandler_.notAckedStatuses_,
    (∃ module_, modules status.deviceStatus.device.module_ = some module_ ∧
      module_.isDeviceTypeSupported status.deviceStatus.device.deviceType ≠ .NOT_OK) ∧
    (entryIn s.errorAggregators_ status.deviceStatus.device.key).isSome

theorem sessionCall_awaited {call : SessionCall β} (hcall : call.Supported modules) (h : s.Awaited modules) :
    (s.sessionCall modules call).Awaited modules := by
  cases call with
  | acknowledgeStatus responseCounter =>
    intro status hstatus
    exact h status (acknowledgeStatus_subset s.sentMessagesHandler_ responseCounter hstatus)
  | sendStatus status deviceState errorMessage =>
    obtain ⟨module_,hmodule,hsupported⟩ := hcall
    obtain ⟨-,-,hlist,hentries⟩ :=
      s.sessionCall_sendStatus (Option.isSome_of_eq_some hmodule) deviceState errorMessage
    -- entries are added, never taken away
    have hkeep : ∀ k, (entryIn s.errorAggregators_ k).isSome →
        (entryIn (s.sessionCall modules (.sendStatus status deviceState errorMessage)).errorAggregators_ k).isSome := by
      intro k hk
      rw [hentries]
      split
      · exact hk
      · obtain hsame | ⟨-,module_,-,hadded⟩ :=
          addStatusToErrorAggregator_entry modules s.errorAggregators_ status k
        · rwa [hsame]
        · rw [hadded]
          rfl
    intro status' hstatus'
    rw [hlist, List.mem_append, List.mem_singleton] at hstatus'
    obtain hold | rfl := hstatus'
    · exact ⟨(h status' hold).1,hkeep _ (h status' hold).2⟩
    · refine ⟨⟨module_,hmodule,hsupported⟩,?_⟩
      rw [hentries]
      split
      · rename_i hregistered
        exact hregistered
      · exact Option.isSome_of_eq_some
          (addStatusToErrorAggregator_entry_self s.errorAggregators_ hmodule hsupported)

theorem session_awaited {calls : List (SessionCall β)} (hcalls : ∀ call ∈ calls, call.Supported modules)
    (h : s.Awaited modules) : (s.session modules calls).Awaited modules := by
  induction calls generalizing s with
  | nil => exact h
  | cons call calls ih =>
    exact ih (fun call h => hcalls call (List.mem_cons_of_mem _ h))
      (sessionCall_awaited (hcalls call List.mem_cons_self) h)

end ExternalConnection

/-- An entry after more statuses: the newest of them is the last one. -/
def DeviceState.addAll (module_ : ModuleLibraryHandler β) (deviceState : DeviceState β) (device_type : UInt32)
    (statuses : List β) : DeviceState β where
  errorMessage := foldErrors module_ device_type deviceState.errorMessage statuses
  lastStatus := statuses.getLast?.getD deviceState.lastStatus

theorem DeviceState.add_errorMessage (module_ : ModuleLibraryHandler β) (deviceState : DeviceState β) (status : β)
    (device_type : UInt32) : (deviceState.add module_ status device_type).2.errorMessage =
      foldErrors module_ device_type deviceState.errorMessage [status] := by
  simp only [add, foldErrors, List.foldl_cons, List.foldl_nil]
  obtain ⟨code,errorMessageBuffer⟩ := module_.aggregateError deviceState.errorMessage status device_type
  cases code <;> rfl

theorem DeviceState.addAll_cons (module_ : ModuleLibraryHandler β) (deviceState : DeviceState β)
    (device_type : UInt32) (status : β) (statuses : List β) :
    deviceState.addAll module_ device_type (status :: statuses) =
      (deviceState.add module_ status device_type).2.addAll module_ device_type statuses := by
  rw [addAll, addAll, add_lastStatus, add_errorMessage, List.getLast?_cons, Option.getD_some]
  rfl

namespace ExternalConnection
variable [BufferType β] {modules : Modules β} {s : ExternalConnection β}

omit [BufferType β] in
theorem statusesOf_cons (k : DeviceKey) (status : Status β) (l : List (Status β)) :
    statusesOf k (status :: l) = if status.deviceStatus.device.key = k then
      status.deviceStatus.statusdata :: statusesOf k l else statusesOf k l := by
  unfold statusesOf
  rw [List.filter_cons]
  simp only [decide_eq_true_eq]
  split <;> rfl

/-- The statuses of a device go into its entry in their order. -/
theorem foldl_entry {k : DeviceKey} {module_ : ModuleLibraryHandler β} (hmodule : modules k.module_ = some module_)
    {l : List (Status β)} (hsupported : ∀ status ∈ l, status.deviceStatus.device.key = k →
      module_.isDeviceTypeSupported k.deviceType ≠ .NOT_OK)
    (errorAggregators : ℤ → ErrorAggregator β) {deviceState : DeviceState β}
    (hentry : entryIn errorAggregators k = some deviceState) :
    entryIn (l.foldl (fun errorAggregators notAckedStatus =>
      addStatusToErrorAggregator modules errorAggregators notAckedStatus.deviceStatus) errorAggregators) k =
        some (deviceState.addAll module_ k.deviceType (statusesOf k l)) := by
  induction l generalizing errorAggregators deviceState with
  | nil => exact hentry
  | cons status l ih =>
    have hrest := fun status' (h : status' ∈ l) => hsupported status' (List.mem_cons_of_mem _ h)
    rw [List.foldl_cons, statusesOf_cons]
    by_cases hk : status.deviceStatus.device.key = k
    · rw [if_pos hk, DeviceState.addAll_cons]
      refine ih hrest _ ?_
      subst hk
      have hself := addStatusToErrorAggregator_entry_self errorAggregators hmodule
        (hsupported status List.mem_cons_self rfl)
      rw [hself, hentry]
      rfl
    · rw [if_neg hk]
      refine ih hrest _ ?_
      rw [addStatusToErrorAggregator_entry_of_ne modules errorAggregators hk]
      exact hentry

/-- The teardown folds the statuses that wait into the entries of their devices. -/
theorem deinitializeConnection_entry (h : s.Awaited modules) (k : DeviceKey) {module_ : ModuleLibraryHandler β}
    (hmodule : modules k.module_ = some module_) :
    entryIn (s.deinitializeConnection modules false).errorAggregators_ k =
      (entryIn s.errorAggregators_ k).map fun deviceState => deviceState.addAll module_ k.deviceType
        (statusesOf k s.sentMessagesHandler_.notAckedStatuses_) := by
  cases hentry : entryIn s.errorAggregators_ k with
  | none =>
    have hother : ∀ status ∈ s.sentMessagesHandler_.notAckedStatuses_, status.deviceStatus.device.key ≠ k := by
      rintro status hstatus rfl
      have hsome := (h status hstatus).2
      rw [hentry] at hsome
      exact Bool.false_ne_true hsome
    exact (foldl_entry_of_ne modules hother s.errorAggregators_).trans hentry
  | some deviceState =>
    refine foldl_entry hmodule (fun status hstatus hk => ?_) s.errorAggregators_ hentry
    obtain ⟨⟨module',hmodule',hsupported⟩,-⟩ := h status hstatus
    subst hk
    obtain rfl := Option.some.inj (hmodule'.symm.trans hmodule)
    exact hsupported

/-- Statuses and responses in any order, and then the teardown: the statuses that were not
acknowledged after they were sent are those in the list, and each is folded into the entry of its
device, once and in the order in which it was sent. -/
theorem session_deinitializeConnection {calls : List (SessionCall β)}
    (hcalls : ∀ call ∈ calls, call.Supported modules)
    (hempty : s.sentMessagesHandler_.notAckedStatuses_ = []) (hsends : calls.countP SessionCall.isSend < 2 ^ 32) :
    let t := s.session modules calls
    let u := t.deinitializeConnection modules false
    let events := s.sessionEvents modules calls
    let unanswered := unretired Status.messageCounter events
    t.sent = s.sent ++ (added events).map .status ∧
      t.sentMessagesHandler_.notAckedStatuses_ = unanswered ∧ (unanswered.map Status.messageCounter).Nodup ∧
      u.sentMessagesHandler_.notAckedStatuses_ = [] ∧ u.clientMessageCounter_ = 0 ∧ u.serverMessageCounter_ = 0 ∧
      ∀ k module_, modules k.module_ = some module_ →
        entryIn u.errorAggregators_ k = (entryIn t.errorAggregators_ k).map fun deviceState =>
          deviceState.addAll module_ k.deviceType (statusesOf k unanswered) := by
  obtain ⟨hlist,hnodup⟩ := s.session_unretired hcalls hempty hsends
  have hstart : s.Awaited modules := by
    intro status hstatus
    rw [hempty] at hstatus
    exact nomatch hstatus
  refine ⟨(s.session_notAcked hcalls).2,hlist,hnodup,rfl,rfl,rfl,fun k module_ hmodule => ?_⟩
  rw [deinitializeConnection_entry (session_awaited hcalls hstart) k hmodule, hlist]

/-- Four statuses with the counters 1 to 4; the third and the first are acknowledged, and a response
comes twice and one for a status that was never sent. -/
def acknowledgedOutOfOrder : List (SessionCall (List UInt8)) :=
  [.sendStatus ⟨camera,[7]⟩ .RUNNING [],.sendStatus ⟨lidar,[8]⟩ .RUNNING [],.sendStatus ⟨camera,[9]⟩ .RUNNING [],
    .acknowledgeStatus 3,.acknowledgeStatus 1,.acknowledgeStatus 3,.acknowledgeStatus 12,
    .sendStatus ⟨lidar,[10]⟩ .RUNNING []]

/-- The statuses of the lidar are left: its error message gets both and the newer one is the last. -/
theorem session_deinitializeConnection_lidar :
    let u := (init.session moduleOne acknowledgedOutOfOrder).deinitializeConnection moduleOne false
    entryIn u.errorAggregators_ camera.key = some ⟨[7],[7]⟩ ∧
      entryIn u.errorAggregators_ lidar.key = some ⟨[8,8,10],[10]⟩ := by
  have hsupported : ∀ call ∈ acknowledgedOutOfOrder, call.Supported moduleOne := by
    intro call hcall
    cases call with
    | sendStatus status deviceState errorMessage =>
      refine ⟨collector,?_,ReturnCode.noConfusion⟩
      simp only [acknowledgedOutOfOrder, List.mem_cons] at hcall
      simp at hcall
      obtain ⟨rfl,-⟩ | ⟨rfl,-⟩ | ⟨rfl,-⟩ | ⟨rfl,-⟩ := hcall <;> rfl
    | acknowledgeStatus responseCounter => trivial
  have hempty : (init : ExternalConnection (List UInt8)).sentMessagesHandler_.notAckedStatuses_ = [] := rfl
  obtain ⟨-,-,-,-,-,-,hentries⟩ := session_deinitializeConnection hsupported hempty (by decide)
  exact ⟨hentries camera.key collector rfl,hentries lidar.key collector rfl⟩

end ExternalConnection

end ModuleGateway.ExternalClient
