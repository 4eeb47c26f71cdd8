import ModuleGateway.ExternalClient.ConnectSequence
import Mathlib.Data.Multiset.OrderedMonoid
import Mathlib.Algebra.Order.Sub.Basic

/-! # What a connect sequence leaves unanswered

The second step counts the responses and the third one the commands. A status stays in
`notAckedStatuses_` unless a response carries its counter, and a device can be passed over
while commands for another one are counted in its place.
-/
namespace ModuleGateway.ExternalClient
open Structures Execution

variable {β : Type}

namespace ExternalConnection

/-! ## Responses and statuses -/

/-- Taking out the first element with a key takes out the first occurrence of the key. -/
theorem map_eraseP_key {α κ : Type} [DecidableEq κ] (key : α → κ) (c : κ) (l : List α) :
    (l.eraseP fun a => key a = c).map key = (l.map key).erase c := by
  induction l with
  | nil => rfl
  | cons a l ih =>
    by_cases ha : key a = c
    · simp [ha]
    · rw [List.eraseP_cons_of_neg (by simpa using ha), List.map_cons, List.map_cons,
        List.erase_cons_tail (by simpa using ha), ih]

/-- Each response takes at most one status with it. -/
theorem acknowledgeStatus_perm (handler : SentMessagesHandler β) (counter : UInt32) :
    let t := (handler.acknowledgeStatus counter).2
    t.notAckedStatuses_.map Status.messageCounter =
        (handler.notAckedStatuses_.map Status.messageCounter).erase counter ∧
      ∃ acked, t.acknowledged = handler.acknowledged ++ acked ∧
        (acked ++ t.notAckedStatuses_).Perm handler.notAckedStatuses_ := by
  refine ⟨?_,acknowledgeStatus_acknowledged handler counter⟩
  rw [acknowledgeStatus_notAcked]
  exact map_eraseP_key Status.messageCounter counter handler.notAckedStatuses_

theorem foldl_acknowledge_perm (s : ExternalConnection β) (counters : List UInt32) :
    let t := counters.foldl acknowledge s
    t.sentMessagesHandler_.notAckedStatuses_.map Status.messageCounter =
        (s.sentMessagesHandler_.notAckedStatuses_.map Status.messageCounter).diff counters ∧
      ∃ acked, t.sentMessagesHandler_.acknowledged = s.sentMessagesHandler_.acknowledged ++ acked ∧
        (acked ++ t.sentMessagesHandler_.notAckedStatuses_).Perm s.sentMessagesHandler_.notAckedStatuses_ := by
  induction counters generalizing s with
  | nil => exact ⟨rfl,[],(List.append_nil _).symm,List.Perm.refl _⟩
  | cons counter counters ih =>
    obtain ⟨hcounters,acked,hacked,hperm⟩ := ih (s.acknowledge counter)
    obtain ⟨hcounters',acked',hacked',hperm'⟩ := acknowledgeStatus_perm s.sentMessagesHandler_ counter
    refine ⟨?_,acked' ++ acked,?_,?_⟩
    · rw [List.diff_cons, ← hcounters']
      exact hcounters
    · rw [← List.append_assoc, ← hacked']
      exact hacked
    · rw [List.append_assoc]
      exact (hperm.append_left acked').trans hperm'

/-- As many numbers as there are take all of them away exactly when they are the same. -/
theorem diff_eq_nil_iff_perm {κ : Type} [DecidableEq κ] {l cs : List κ} (h : cs.length = l.length) :
    l.diff cs = [] ↔ cs.Perm l := by
  rw [← Multiset.coe_eq_coe, ← Multiset.coe_eq_zero, ← Multiset.coe_sub, tsub_eq_zero_iff_le]
  constructor
  · intro hle
    exact (Multiset.eq_of_le_of_card_le hle (by simpa using h.le)).symm
  · intro heq
    exact heq.ge

/-! ## The whole sequence -/

/-- The statuses of the second step are acknowledged, none is left to time out, and every device
got a command passed on. -/
structure Answered (u t : ExternalConnection β) (devices : List DeviceIdentification) : Prop where
  acknowledged : ∀ status, .status status ∈ t.sent.drop u.sent.length →
    status ∈ t.sentMessagesHandler_.acknowledged.drop u.sentMessagesHandler_.acknowledged.length
  nothingLeft : t.sentMessagesHandler_.notAckedStatuses_ = []
  addressed : ∀ device ∈ devices, ∃ command ∈ t.commandQueue_.drop u.commandQueue_.length,
    device.isSame command.device

variable [BufferType β]

/-- The counters of the statuses that a connect sequence for `count` devices sends. -/
def statusCounters (s : ExternalConnection β) (count : ℕ) : List UInt32 :=
  (List.range count).map fun i => s.clientMessageCounter_ + UInt32.ofNat (i + 1)

theorem connectingStatuses_counters (s : ExternalConnection β) (sessionId : String)
    (devices : List DeviceIdentification) :
    (s.connectingStatuses sessionId devices).map Status.messageCounter = s.statusCounters devices.length := by
  unfold connectingStatuses statusCounters
  apply List.ext_getElem
  · simp
  · intro i hi hi'
    simp [connectingStatus]

variable {modules : Modules β} {s u : ExternalConnection β} {devices : List DeviceIdentification}

theorem connected_handler (modules : Modules β) {u : ExternalConnection β}
    (hnotAcked : u.sentMessagesHandler_.notAckedStatuses_ = []) (sessionId : String)
    (devices : List DeviceIdentification) (counters : List UInt32) (commands : List (UInt32 × DeviceCommand β)) :
    let t := (connected modules u sessionId devices counters commands).sentMessagesHandler_
    t.notAckedStatuses_.map Status.messageCounter = (u.statusCounters devices.length).diff counters ∧
      ∃ acked, t.acknowledged = u.sentMessagesHandler_.acknowledged ++ acked ∧
        (acked ++ t.notAckedStatuses_).Perm (u.connectingStatuses sessionId devices) := by
  obtain ⟨-,-,-,-,hhandler⟩ := foldl_announce (u.opened sessionId devices) devices
  obtain ⟨hcounters,acked,hacked,hperm⟩ :=
    foldl_acknowledge_perm (devices.foldl announce (u.opened sessionId devices)) counters
  obtain ⟨hsame,-,-⟩ := foldl_accept modules
    (counters.foldl acknowledge (devices.foldl announce (u.opened sessionId devices))) commands
  have hstart : (u.opened sessionId devices).sentMessagesHandler_.notAckedStatuses_ = [] := hnotAcked
  rw [hhandler, hstart, List.nil_append] at hcounters hperm
  rw [hhandler] at hacked
  have hend : (connected modules u sessionId devices counters commands).sentMessagesHandler_ =
      (counters.foldl acknowledge (devices.foldl announce (u.opened sessionId devices))).sentMessagesHandler_ := hsame
  rw [hend]
  refine ⟨hcounters.trans ?_,acked,hacked,hperm⟩
  exact congrArg (List.diff · counters) (connectingStatuses_counters u sessionId devices)

/-- What a successful sequence leaves, against the replies it took. -/
theorem connected_answered_iff {u : ExternalConnection β}
    (hnotAcked : u.sentMessagesHandler_.notAckedStatuses_ = []) {sessionId : String}
    {counters : List UInt32} {commands : List (UInt32 × DeviceCommand β)}
    (hlength : counters.length = devices.length) :
    Answered u (connected modules u sessionId devices counters commands) devices ↔
      counters.Perm (u.statusCounters devices.length) ∧
        ∀ device ∈ devices, ∃ command ∈ commands, device.isSame command.2.device := by
  obtain ⟨hsent,hqueue⟩ := connected_sent modules u sessionId devices counters commands
  obtain ⟨hcounters,acked,hacked,hperm⟩ := connected_handler modules hnotAcked sessionId devices counters commands
  have hdiff : (u.statusCounters devices.length).diff counters = [] ↔
      counters.Perm (u.statusCounters devices.length) :=
    diff_eq_nil_iff_perm (by rw [hlength, statusCounters, List.length_map, List.length_range])
  constructor
  · rintro ⟨-,hnothing,haddressed⟩
    refine ⟨hdiff.mp ?_,fun device hdevice => ?_⟩
    · rw [← hcounters, hnothing]
      rfl
    · obtain ⟨command,hcommand,hsame⟩ := haddressed device hdevice
      rw [hqueue, List.drop_left] at hcommand
      obtain ⟨command',hcommand',rfl⟩ := List.mem_map.mp (List.mem_of_mem_filter hcommand)
      exact ⟨command',hcommand',hsame⟩
  · rintro ⟨hcounter,haddressed⟩
    have hnothing : (connected modules u sessionId devices counters commands).sentMessagesHandler_.notAckedStatuses_
        = [] := by
      rw [hdiff.mpr hcounter] at hcounters
      exact List.map_eq_nil_iff.mp hcounters
    rw [hnothing, List.append_nil] at hperm
    refine ⟨fun status hstatus => ?_,hnothing,fun device hdevice => ?_⟩
    · rw [hsent, List.drop_left] at hstatus
      rw [hacked, List.drop_left]
      have hmem : status ∈ u.connectingStatuses sessionId devices := by
        simpa using hstatus
      exact hperm.mem_iff.mpr hmem
    · obtain ⟨command,hcommand,hsame⟩ := haddressed device hdevice
      refine ⟨command.2,?_,hsame⟩
      rw [hqueue, List.drop_left]
      refine List.mem_filter.mpr ⟨List.mem_map_of_mem hcommand,?_⟩
      have hkey := DeviceIdentification.isSame_iff.mp hsame
      exact List.any_eq_true.mpr ⟨device,List.mem_append_right _ hdevice,DeviceIdentification.isSame_iff.mpr hkey.symm⟩

/-- A connect sequence that returns `OK` has its statuses acknowledged and its devices addressed
exactly when the counters of the responses it took are those of the statuses it sent and its
commands name every device. -/
theorem completed_answered_iff (hu : connectionStep modules s (.connect devices) = some u) {sessionId : String}
    {replies : List (Option (ServerMessage β))}
    (hok : (u.completed modules sessionId replies).connectThread = .finished true) :
    ∃ counters commands, Accepts modules sessionId u.serverMessageCounter_ devices.length replies counters commands ∧
      (Answered u (u.completed modules sessionId replies) devices ↔
        counters.Perm (u.statusCounters devices.length) ∧
          ∀ device ∈ devices, ∃ command ∈ commands, device.isSame command.2.device) := by
  simp only [connectionStep] at hu
  split at hu
  · rename_i hguard
    obtain rfl := Option.some.inj hu
    have hserved : ∀ device ∈ devices, (modules device.module_).isSome :=
      fun device hdevice => List.all_eq_true.mp hguard.2.2 device hdevice
    obtain ⟨counters,commands,-,haccepts,hcompleted⟩ | ⟨-,hrefused⟩ :=
      completed_cases modules sessionId replies
        (s := (s.fillErrorAggregatorWithNotAckedStatuses modules).goto (.opening devices)) rfl hserved
    · refine ⟨counters,commands,haccepts,?_⟩
      rw [hcompleted]
      exact connected_answered_iff rfl haccepts.responses
    · cases hrefused.1.symm.trans hok
  · cases hu

/-- The camera's status has its response and the camera its command. -/
theorem completed_answered_camera :
    ∃ s u, exec (connectionStep moduleOne) init (statusWhileDown camera [7]) = some s ∧
      connectionStep moduleOne s (.connect [camera]) = some u ∧
      Answered u (u.completed moduleOne "session" cameraReplies) [camera] := by
  obtain ⟨s,u,hs,hu,hok,haccepts,hcounters⟩ : ∃ s u,
      exec (connectionStep moduleOne) init (statusWhileDown camera [7]) = some s ∧
      connectionStep moduleOne s (.connect [camera]) = some u ∧
      (u.completed moduleOne "session" cameraReplies).connectThread = .finished true ∧
      Accepts moduleOne "session" u.serverMessageCounter_ [camera].length cameraReplies [1] [(9,⟨camera,[0]⟩)] ∧
      [1].Perm (u.statusCounters [camera].length) :=
    ⟨_,_,rfl,rfl,rfl,⟨rfl,rfl,.cons_cons (.inl rfl) (.singleton _),by simp [camera, moduleOne],
      List.prefix_rfl⟩,.refl _⟩
  obtain ⟨counters,commands,haccepts',hiff⟩ := completed_answered_iff hu hok
  obtain ⟨rfl,rfl⟩ := haccepts.unique haccepts'
  exact ⟨s,u,hs,hu,hiff.mpr ⟨hcounters,by simp [DeviceIdentification.isSame]⟩⟩

/-! ## Replies that are counted twice -/

/-- Two responses for the first status, and two commands for its device. -/
def repeatedReplies : List (Option (ServerMessage (List UInt8))) :=
  [some (.connectResponse "session" false),some (.statusResponse "session" true 1),
    some (.statusResponse "session" true 1),some (.command "session" 1 ⟨camera,[0]⟩),
    some (.command "session" 2 ⟨camera,[0]⟩)]

/-- The status of the second device is left, and nothing was sent to that device. -/
theorem repeatedReplies_not_answered :
    ¬∀ as s u devices sessionId replies, exec (connectionStep moduleOne) init as = some s →
      connectionStep moduleOne s (.connect devices) = some u →
      (u.completed moduleOne sessionId replies).connectThread = .finished true →
      Answered u (u.completed moduleOne sessionId replies) devices := by
  intro hall
  have h := hall (statusWhileDown camera [7] ++ statusWhileDown lidar [8]) _ _ [camera,lidar] "session"
    repeatedReplies rfl rfl rfl
  exact absurd (congrArg List.isEmpty h.nothingLeft) (by decide)

end ExternalConnection

end ModuleGateway.ExternalClient
