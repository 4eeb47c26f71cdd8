import ModuleGateway.Library.Execution
import ModuleGateway.ExternalClient.StatusOrigin

/-! # The last status of a device

An observer notes for each device the last status that the client passed to the
connection, and where it went: into the entry of the device, which is emptied after each
successful sequence, or out to the server, where it can come back from until its response
arrives. A sequence that starts when it is in neither place sends something older.
-/
namespace ModuleGateway.ExternalClient
open Structures Execution

variable {β : Type}

/-- Where the last status of a device is: in its entry; with the counter it was sent with, as
long as no response with that counter has come. -/
structure Whereabouts where
  held : Bool
  waiting : Option UInt32

structure Passed (β : Type) where
  latest : DeviceKey → Option β
  whereabouts : DeviceKey → Whereabouts

namespace Passed

def init : Passed β := ⟨fun _ => none,fun _ => ⟨false,none⟩⟩

/-- The client passes a status. -/
def pass (o : Passed β) (k : DeviceKey) (status : β) (w : Whereabouts) : Passed β :=
  ⟨Function.update o.latest k (some status),Function.update o.whereabouts k w⟩

/-- The connect thread sends the last status again. -/
def again (o : Passed β) (k : DeviceKey) (counter : UInt32) : Passed β :=
  { o with whereabouts := Function.update o.whereabouts k ⟨(o.whereabouts k).held,some counter⟩ }

/-- Statuses of these devices were not acknowledged and go to the entries. -/
def refill (o : Passed β) (keys : List DeviceKey) : Passed β :=
  { o with
    whereabouts := fun k =>
      ⟨if k ∈ keys then (o.whereabouts k).waiting.isSome else (o.whereabouts k).held,none⟩ }

def acknowledge (o : Passed β) (counter : UInt32) : Passed β :=
  { o with
    whereabouts := fun k =>
      if (o.whereabouts k).waiting = some counter then ⟨(o.whereabouts k).held,none⟩
      else o.whereabouts k }

/-- The entries are emptied. -/
def clear (o : Passed β) : Passed β :=
  { o with whereabouts := fun k => ⟨false,(o.whereabouts k).waiting⟩ }

end Passed

/-- The identity a status is for. -/
def Status.key (status : Status β) : DeviceKey := status.deviceStatus.device.key

namespace ExternalConnection

def notAckedKeys (s : ExternalConnection β) : List DeviceKey :=
  s.sentMessagesHandler_.notAckedStatuses_.map Status.key

/-- What a section of the connect thread does to the last statuses. -/
def seeThread (s : ExternalConnection β) (answer : Answer β) (o : Passed β) : Passed β :=
  match s.connectThread with
  | .sending _ device _ _ _ =>
    let o := o.again device.key (s.clientMessageCounter_ + 1)
    if answer.sent then o else o.refill (s.notAckedKeys ++ [device.key])
  | .acknowledging _ (_ + 1) =>
    match answer.received with
    | some (.statusResponse sessionId true messageCounter) =>
      if sessionId = s.sessionId_ then o.acknowledge messageCounter else o
    | _ => o
  | .clearing _ => o.clear
  | _ => o

/-- The observer. A status for a module that the connection does not serve is not passed to it. -/
def seePassed (modules : Modules β) (s : ExternalConnection β) (a : ConnectionAction β)
    (_ : ExternalConnection β) (o : Passed β) : Passed β :=
  match a with
  | .connect _ => o.refill s.notAckedKeys
  | .thread answer => s.seeThread answer o
  | .sendStatus status _ sent =>
    if (modules status.device.module_).isNone then o
    else
      let o := o.pass status.device.key status.statusdata
        ⟨!s.isRegistered status.device,some (s.clientMessageCounter_ + 1)⟩
      if sent then o else o.refill (s.notAckedKeys ++ [status.device.key])
  | .take _ => o
  | .fill =>
    match s.inFlight with
    | none => o
    | some status =>
      if (modules status.device.module_).isNone then o
      else (o.refill s.notAckedKeys).pass status.device.key status.statusdata ⟨true,none⟩
  | .receive (.statusResponse _ _ messageCounter) => o.acknowledge messageCounter
  | .receive _ => o
  | .deinitializeConnection completeDisconnect =>
    if completeDisconnect then o.clear else o.refill s.notAckedKeys

/-- The entry of a device is read only while it holds the last status of the device, and the
client passes none for it until that is sent. -/
def readsLatest (p : ExternalConnection β × Passed β) (a : ConnectionAction β) : Bool :=
  match a, p.1.connectThread with
  | .thread _, .reading _ (device :: _) => (p.2.whereabouts device.key).held
  | .fill, .sending _ device _ _ _ => p.1.inFlight.all fun status => device.key ≠ status.device.key
  | _, _ => true

/-! ## Entries and statuses that wait for a response -/

variable [BufferType β]

omit [BufferType β] in
/-- A device whose entry can be filled. -/
def Aggregated (modules : Modules β) (k : DeviceKey) : Prop :=
  ∃ module_, modules k.module_ = some module_ ∧ module_.isDeviceTypeSupported k.deviceType ≠ .NOT_OK

/-- The entries and the statuses that wait for a response agree with the observer. -/
structure Known (modules : Modules β) (errorAggregators : ℤ → ErrorAggregator β) (notAcked : List (Status β))
    (o : Passed β) : Prop where
  aggregated : ∀ k, ¬Aggregated modules k → entryIn errorAggregators k = none
  held : ∀ k deviceState, (o.whereabouts k).held = true → entryIn errorAggregators k = some deviceState →
    o.latest k = some deviceState.lastStatus
  waiting : ∀ k counter, (o.whereabouts k).waiting = some counter → ∃ before status after,
    notAcked = before ++ status :: after ∧ status.messageCounter = counter ∧ status.key = k ∧
      o.latest k = some status.deviceStatus.statusdata ∧ ∀ later ∈ after, later.key ≠ k

variable {modules : Modules β} {errorAggregators : ℤ → ErrorAggregator β} {notAcked : List (Status β)}
  {o : Passed β}

theorem addStatus_entry_none {k : DeviceKey} (hk : ¬Aggregated modules k) (status : DeviceStatus β)
    (h : entryIn errorAggregators k = none) :
    entryIn (addStatusToErrorAggregator modules errorAggregators status) k = none := by
  by_cases hkey : status.device.key = k
  · subst hkey
    rw [addStatusToErrorAggregator_unsupported errorAggregators fun module_ hmodule => ?_]
    · exact h
    · by_contra hsupported
      exact hk ⟨module_,hmodule,hsupported⟩
  · rw [addStatusToErrorAggregator_entry_of_ne modules errorAggregators hkey]
    exact h

/-- The entry of the device has the status as its last one, if it is aggregated at all. -/
theorem addStatus_entry_last {status : DeviceStatus β} {deviceState : DeviceState β}
    (hnone : ¬Aggregated modules status.device.key → entryIn errorAggregators status.device.key = none)
    (h : entryIn (addStatusToErrorAggregator modules errorAggregators status) status.device.key =
      some deviceState) : deviceState.lastStatus = status.statusdata := by
  by_cases hk : Aggregated modules status.device.key
  · obtain ⟨module_,hmodule,hsupported⟩ := hk
    rw [addStatusToErrorAggregator_entry_self errorAggregators hmodule hsupported] at h
    obtain rfl := Option.some.inj h
    exact DeviceState.add_lastStatus _ _ _ _
  · rw [addStatus_entry_none hk status (hnone hk)] at h
    cases h

/-- The entries after the statuses that were not acknowledged are added. -/
abbrev refilled (modules : Modules β) (errorAggregators : ℤ → ErrorAggregator β) (notAcked : List (Status β)) :
    ℤ → ErrorAggregator β :=
  notAcked.foldl (fun errorAggregators notAckedStatus =>
    addStatusToErrorAggregator modules errorAggregators notAckedStatus.deviceStatus) errorAggregators

theorem refilled_entry_none {k : DeviceKey} (hk : ¬Aggregated modules k)
    (h : entryIn errorAggregators k = none) : entryIn (refilled modules errorAggregators notAcked) k = none := by
  induction notAcked generalizing errorAggregators with
  | nil => exact h
  | cons status notAcked ih => exact ih (addStatus_entry_none hk status.deviceStatus h)

theorem Known.refill (hs : Known modules errorAggregators notAcked o) :
    Known modules (refilled modules errorAggregators notAcked) [] (o.refill (notAcked.map Status.key)) where
  aggregated k hk := refilled_entry_none hk (hs.aggregated k hk)
  held k deviceState hheld hentry := by
    simp only [Passed.refill] at hheld ⊢
    by_cases hmem : k ∈ notAcked.map Status.key
    · rw [if_pos hmem] at hheld
      obtain ⟨counter,hcounter⟩ := Option.isSome_iff_exists.mp hheld
      obtain ⟨before,status,after,rfl,-,rfl,hlatest,hlater⟩ := hs.waiting k counter hcounter
      rw [refilled, List.foldl_append, List.foldl_cons, foldl_entry_of_ne modules hlater] at hentry
      rw [hlatest]
      refine congrArg some (addStatus_entry_last (fun hk => ?_) hentry).symm
      exact refilled_entry_none hk (hs.aggregated _ hk)
    · rw [if_neg hmem] at hheld
      refine hs.held k deviceState hheld ?_
      rw [← hentry]
      refine (foldl_entry_of_ne modules (fun status hstatus hkey => hmem ?_) errorAggregators).symm
      exact List.mem_map.mpr ⟨status,hstatus,hkey⟩
  waiting k counter hwaiting := nomatch hwaiting

/-- A status is passed by `fillErrorAggregator`, when nothing waits for a response any more. -/
theorem Known.fill (hs : Known modules errorAggregators [] o) (status : DeviceStatus β) :
    Known modules (addStatusToErrorAggregator modules errorAggregators status) []
      (o.pass status.device.key status.statusdata ⟨true,none⟩) where
  aggregated k hk := addStatus_entry_none hk status (hs.aggregated k hk)
  held k deviceState hheld hentry := by
    by_cases hkey : k = status.device.key
    · subst hkey
      simp only [Passed.pass, Function.update_self]
      exact congrArg some (addStatus_entry_last (hs.aggregated _) hentry).symm
    · simp only [Passed.pass, Function.update_of_ne hkey] at hheld ⊢
      rw [addStatusToErrorAggregator_entry_of_ne modules errorAggregators (Ne.symm hkey)] at hentry
      exact hs.held k deviceState hheld hentry
  waiting k counter hwaiting := by
    by_cases hkey : k = status.device.key
    · subst hkey
      simp [Passed.pass] at hwaiting
    · simp only [Passed.pass, Function.update_of_ne hkey] at hwaiting
      obtain ⟨before,later,after,hnil,-⟩ := hs.waiting k counter hwaiting
      simp at hnil

omit [BufferType β] in
/-- What waits for a response still does when one more status is sent for another device. -/
theorem Known.waiting_append (hs : Known modules errorAggregators notAcked o) {status : Status β} {k : DeviceKey}
    {counter : UInt32} (hkey : k ≠ status.key) (hwaiting : (o.whereabouts k).waiting = some counter) :
    ∃ before sent after, notAcked ++ [status] = before ++ sent :: after ∧ sent.messageCounter = counter ∧
      sent.key = k ∧ o.latest k = some sent.deviceStatus.statusdata ∧ ∀ later ∈ after, later.key ≠ k := by
  obtain ⟨before,sent,after,rfl,hcounter,hsent,hlatest,hlater⟩ := hs.waiting k counter hwaiting
  refine ⟨before,sent,after ++ [status],by simp,hcounter,hsent,hlatest,fun later hmem => ?_⟩
  obtain hmem | hmem := List.mem_append.mp hmem
  · exact hlater later hmem
  · rw [List.mem_singleton.mp hmem]
    exact Ne.symm hkey

/-- The entries after the status of a device, registered or not, is sent. -/
abbrev announcedEntries (modules : Modules β) (errorAggregators : ℤ → ErrorAggregator β)
    (status : DeviceStatus β) : ℤ → ErrorAggregator β :=
  if (entryIn errorAggregators status.device.key).isSome then errorAggregators
  else addStatusToErrorAggregator modules errorAggregators status

theorem announcedEntries_none {k : DeviceKey} (hk : ¬Aggregated modules k) (status : DeviceStatus β)
    (h : entryIn errorAggregators k = none) : entryIn (announcedEntries modules errorAggregators status) k = none := by
  unfold announcedEntries
  split
  · exact h
  · exact addStatus_entry_none hk status h

theorem announcedEntries_of_ne {status : DeviceStatus β} {k : DeviceKey} (h : k ≠ status.device.key) :
    entryIn (announcedEntries modules errorAggregators status) k = entryIn errorAggregators k := by
  unfold announcedEntries
  split
  · rfl
  · exact addStatusToErrorAggregator_entry_of_ne modules errorAggregators (Ne.symm h)

/-- The client sends a status. -/
theorem Known.send (hs : Known modules errorAggregators notAcked o) (status : Status β) :
    Known modules (announcedEntries modules errorAggregators status.deviceStatus) (notAcked ++ [status])
      (o.pass status.key status.deviceStatus.statusdata
        ⟨!(entryIn errorAggregators status.key).isSome,some status.messageCounter⟩) where
  aggregated k hk := announcedEntries_none hk status.deviceStatus (hs.aggregated k hk)
  held k deviceState hheld hentry := by
    by_cases hkey : k = status.key
    · subst hkey
      simp only [Passed.pass, Function.update_self, Bool.not_eq_true'] at hheld ⊢
      have hnew : ¬(entryIn errorAggregators status.deviceStatus.device.key).isSome = true := by
        rw [Bool.not_eq_true]
        exact hheld
      rw [announcedEntries, if_neg hnew] at hentry
      exact congrArg some (addStatus_entry_last (hs.aggregated _) hentry).symm
    · simp only [Passed.pass, Function.update_of_ne hkey] at hheld ⊢
      rw [announcedEntries_of_ne hkey] at hentry
      exact hs.held k deviceState hheld hentry
  waiting k counter hwaiting := by
    by_cases hkey : k = status.key
    · subst hkey
      simp only [Passed.pass, Function.update_self, Option.some.injEq] at hwaiting ⊢
      exact ⟨notAcked,status,[],rfl,hwaiting,rfl,rfl,nofun⟩
    · simp only [Passed.pass, Function.update_of_ne hkey] at hwaiting ⊢
      exact hs.waiting_append hkey hwaiting

/-- The connect thread sends the last status of a device. -/
theorem Known.again (hs : Known modules errorAggregators notAcked o) (status : Status β)
    (hlatest : o.latest status.key = some status.deviceStatus.statusdata) :
    Known modules (announcedEntries modules errorAggregators status.deviceStatus) (notAcked ++ [status])
      (o.again status.key status.messageCounter) where
  aggregated k hk := announcedEntries_none hk status.deviceStatus (hs.aggregated k hk)
  held k deviceState hheld hentry := by
    by_cases hkey : k = status.key
    · subst hkey
      simp only [Passed.again, Function.update_self] at hheld ⊢
      by_cases hregistered : (entryIn errorAggregators status.deviceStatus.device.key).isSome
      · rw [announcedEntries, if_pos hregistered] at hentry
        exact hs.held status.key deviceState hheld hentry
      · rw [announcedEntries, if_neg hregistered] at hentry
        rw [hlatest]
        exact congrArg some (addStatus_entry_last (hs.aggregated _) hentry).symm
    · simp only [Passed.again, Function.update_of_ne hkey] at hheld ⊢
      rw [announcedEntries_of_ne hkey] at hentry
      exact hs.held k deviceState hheld hentry
  waiting k counter hwaiting := by
    by_cases hkey : k = status.key
    · subst hkey
      simp only [Passed.again, Function.update_self, Option.some.injEq] at hwaiting ⊢
      exact ⟨notAcked,status,[],rfl,hwaiting,rfl,hlatest,nofun⟩
    · simp only [Passed.again, Function.update_of_ne hkey] at hwaiting ⊢
      exact hs.waiting_append hkey hwaiting

omit [BufferType β] in
/-- A response takes away the first status with its counter. -/
theorem Known.acknowledge (hs : Known modules errorAggregators notAcked o) (counter : UInt32) :
    Known modules errorAggregators (notAcked.eraseP fun status => status.messageCounter = counter)
      (o.acknowledge counter) where
  aggregated := hs.aggregated
  held k deviceState hheld hentry := by
    refine hs.held k deviceState ?_ hentry
    simp only [Passed.acknowledge] at hheld
    split at hheld <;> exact hheld
  waiting k c hwaiting := by
    simp only [Passed.acknowledge] at hwaiting ⊢
    split at hwaiting
    · cases hwaiting
    · rename_i hother
      obtain ⟨before,status,after,rfl,rfl,hkey,hlatest,hlater⟩ := hs.waiting k c hwaiting
      have hne : ¬status.messageCounter = counter := fun h => hother (h ▸ hwaiting)
      by_cases hbefore : ∃ earlier ∈ before, earlier.messageCounter = counter
      · obtain ⟨earlier,hmem,hcounter⟩ := hbefore
        rw [List.eraseP_append_left (p := fun status : Status β => decide (status.messageCounter = counter))
          (decide_eq_true hcounter) _ hmem]
        exact ⟨_,status,after,rfl,rfl,hkey,hlatest,hlater⟩
      · have hnone : ∀ earlier ∈ before, ¬decide (earlier.messageCounter = counter) = true :=
          fun earlier hmem hcounter => hbefore ⟨earlier,hmem,of_decide_eq_true hcounter⟩
        rw [List.eraseP_append_right _ hnone, List.eraseP_cons_of_neg (by simpa using hne)]
        exact ⟨before,status,_,rfl,rfl,hkey,hlatest,fun later hmem => hlater later (List.mem_of_mem_eraseP hmem)⟩

/-- The entries are emptied. -/
theorem Known.clear (hs : Known modules errorAggregators notAcked o) :
    Known modules (fun number => (errorAggregators number).clear_error_aggregator) notAcked o.clear where
  aggregated k hk := by
    have hnone := hs.aggregated k hk
    unfold entryIn at hnone ⊢
    simp only [ErrorAggregator.clear_error_aggregator, hnone, Option.map_none]
  held k deviceState hheld _ := nomatch hheld
  waiting := hs.waiting

/-! ## Every step -/

variable {s t : ExternalConnection β}

omit [BufferType β] in
/-- The observer knows the state, and what the connect thread has read is the last status. -/
structure Latest (modules : Modules β) (s : ExternalConnection β) (o : Passed β) : Prop where
  known : Known modules s.errorAggregators_ s.sentMessagesHandler_.notAckedStatuses_ o
  sending : ∀ devices device status error remaining,
    s.connectThread = .sending devices device status error remaining →
      Aggregated modules device.key ∧ o.latest device.key = some status

omit [BufferType β] in
theorem Latest.init : (ExternalConnection.init : ExternalConnection β).Latest modules Passed.init where
  known := ⟨fun _ _ => rfl,nofun,nofun⟩
  sending := nofun

omit [BufferType β] in
/-- Steps outside of the section that sends. -/
theorem Known.latest (h : Known modules t.errorAggregators_ t.sentMessagesHandler_.notAckedStatuses_ o)
    (hthread : ∀ devices device status error remaining,
      t.connectThread ≠ .sending devices device status error remaining) : t.Latest modules o :=
  ⟨h,fun _ _ _ _ _ hsending => absurd hsending (hthread _ _ _ _ _)⟩

theorem sendStatus_entries (modules : Modules β) (s : ExternalConnection β) {status : DeviceStatus β}
    (hserved : ¬(modules status.device.module_).isNone = true) (deviceState : StatusDeviceState)
    (errorMessage : β) (sent : Bool) :
    let t := s.sendStatus modules status deviceState errorMessage sent
    let entries := announcedEntries modules s.errorAggregators_ status
    let notAcked := s.sentMessagesHandler_.notAckedStatuses_ ++ [s.createStatus status deviceState errorMessage]
    t.errorAggregators_ = (if sent then entries else refilled modules entries notAcked) ∧
      t.sentMessagesHandler_.notAckedStatuses_ = (if sent then notAcked else []) ∧
      t.connectThread = s.connectThread := by
  intro t entries notAcked
  have hnotAcked : (s.switched status.device deviceState).2.notAckedStatuses_ ++
      [s.createStatus status deviceState errorMessage] = notAcked :=
    congrArg (· ++ _) (s.switched_frame status.device deviceState).1
  unfold t
  rw [sendStatus, if_neg hserved]
  cases sent with
  | true => exact ⟨rfl,hnotAcked,rfl⟩
  | false => exact ⟨congrArg (refilled modules entries) hnotAcked,rfl,rfl⟩

/-- A status is sent, or it is not and all that waits goes to the entries. -/
theorem Known.sendStatus {o' : Passed β} {status : DeviceStatus β}
    (hserved : ¬(modules status.device.module_).isNone = true) (deviceState : StatusDeviceState)
    (errorMessage : β) (sent : Bool)
    (h : Known modules (announcedEntries modules s.errorAggregators_ status)
      (s.sentMessagesHandler_.notAckedStatuses_ ++ [s.createStatus status deviceState errorMessage]) o') :
    let t := s.sendStatus modules status deviceState errorMessage sent
    Known modules t.errorAggregators_ t.sentMessagesHandler_.notAckedStatuses_
      (if sent then o' else o'.refill (s.notAckedKeys ++ [status.device.key])) := by
  intro t
  obtain ⟨hentries,hnotAcked,-⟩ := s.sendStatus_entries modules hserved deviceState errorMessage sent
  rw [hentries, hnotAcked]
  cases sent with
  | true => exact h
  | false =>
    have hkeys : (s.sentMessagesHandler_.notAckedStatuses_ ++
        [s.createStatus status deviceState errorMessage]).map Status.key =
          s.notAckedKeys ++ [status.device.key] := List.map_append
    rw [← hkeys]
    exact h.refill

theorem Latest.thread (hs : s.Latest modules o) {answer : Answer β}
    (hguard : readsLatest (s,o) (.thread answer) = true) (ht : s.initializeConnection modules answer = some t) :
    t.Latest modules (s.seeThread answer o) := by
  unfold initializeConnection at ht
  unfold seeThread
  cases hthread : s.connectThread with
  | finished ok =>
    rw [hthread] at ht
    cases ht
  | opening devices =>
    rw [hthread] at ht
    obtain rfl := Option.some.inj ht
    obtain hopen | ⟨state,-,hopen⟩ := s.openChannel_cases devices answer <;> rw [hopen]
    · exact Known.latest hs.known nofun
    · exact Known.latest hs.known nofun
  | connecting devices =>
    rw [hthread] at ht
    obtain rfl := Option.some.inj ht
    obtain hconnect | hconnect := s.connectMessageHandle_cases devices answer <;> rw [hconnect]
    · exact Known.latest hs.known nofun
    · exact Known.latest hs.known nofun
  | reading devices remaining =>
    rw [hthread] at ht
    cases remaining with
    | nil =>
      obtain rfl := Option.some.inj ht
      exact Known.latest hs.known nofun
    | cons device remaining =>
      obtain rfl := Option.some.inj ht
      obtain ⟨-,hread⟩ | ⟨deviceState,hentry,hread⟩ := s.readStatus_cases devices device remaining <;> rw [hread]
      · exact Known.latest hs.known nofun
      · refine ⟨hs.known,?_⟩
        rintro _ _ _ _ _ hsending
        obtain ⟨-,rfl,rfl,-,-⟩ := ConnectThread.sending.inj hsending
        have hheld : (o.whereabouts device.key).held = true := by
          simpa only [readsLatest, hthread] using hguard
        have hlatest := hs.known.held device.key deviceState hheld hentry
        refine ⟨?_,hlatest⟩
        by_contra hno
        cases (hs.known.aggregated device.key hno).symm.trans hentry
  | sending devices device status error remaining =>
    rw [hthread] at ht
    obtain rfl := Option.some.inj ht
    obtain ⟨⟨module_,hmodule,-⟩,hlatest⟩ := hs.sending devices device status error remaining hthread
    have hserved : ¬(modules device.module_).isNone = true := by
      rw [show modules device.module_ = some module_ from hmodule]
      exact Bool.false_ne_true
    refine Known.latest ?_ nofun
    exact Known.sendStatus hserved .CONNECTING error answer.sent
      (hs.known.again (s.createStatus ⟨device,status⟩ .CONNECTING error) hlatest)
  | acknowledging devices responses =>
    rw [hthread] at ht
    cases responses with
    | zero =>
      obtain rfl := Option.some.inj ht
      exact Known.latest hs.known nofun
    | succ responses =>
      obtain rfl := Option.some.inj ht
      unfold receiveStatusResponse
      dsimp only
      cases answer.received with
      | none => exact Known.latest hs.known nofun
      | some message =>
        cases message with
        | connectResponse session alreadyLogged => exact Known.latest hs.known nofun
        | command session counter deviceCommand => exact Known.latest hs.known nofun
        | statusResponse session ok counter =>
          cases ok with
          | false => exact Known.latest hs.known nofun
          | true =>
            by_cases hsession : session = s.sessionId_
            · have hknown := hs.known.acknowledge counter
              rw [← acknowledgeStatus_notAcked] at hknown
              simp only [hsession, ne_eq, not_true, if_true, if_false, Bool.not_true, Bool.false_eq_true]
              exact Known.latest hknown nofun
            · simp only [hsession, ne_eq, not_false_iff, if_true, if_false, Bool.not_true, Bool.false_eq_true]
              exact Known.latest hs.known nofun
  | commanding devices commands =>
    rw [hthread] at ht
    cases commands with
    | zero =>
      obtain rfl := Option.some.inj ht
      exact Known.latest hs.known nofun
    | succ commands =>
      obtain rfl := Option.some.inj ht
      obtain ⟨counter,queue,messages,-,⟨-,hcommand⟩ | hcommand⟩ :=
        s.receiveCommand_cases modules devices commands answer.received <;> rw [hcommand]
      · exact Known.latest hs.known nofun
      · exact Known.latest hs.known nofun
  | establishing devices =>
    rw [hthread] at ht
    obtain rfl := Option.some.inj ht
    exact Known.latest hs.known nofun
  | clearing devices =>
    rw [hthread] at ht
    obtain rfl := Option.some.inj ht
    exact Known.latest hs.known.clear nofun

theorem Latest.step (hs : s.Latest modules o) {a : ConnectionAction β} (hguard : readsLatest (s,o) a = true)
    (ht : s.connectionStep modules a = some t) : t.Latest modules (s.seePassed modules a t o) := by
  cases a with
  | connect devices =>
    obtain ⟨-,rfl⟩ := Option.ite_some_none_eq_some.mp ht
    exact Known.latest hs.known.refill (by rintro _ _ _ _ _ ⟨⟩)
  | thread answer => exact hs.thread hguard ht
  | sendStatus status deviceState sent =>
    obtain ⟨⟨hidle,-⟩,rfl⟩ := Option.ite_some_none_eq_some.mp ht
    obtain ⟨⟨ok,hfinished⟩,-⟩ := isIdle_iff.mp hidle
    simp only [seePassed]
    by_cases hserved : (modules status.device.module_).isNone = true
    · rw [if_pos hserved, ExternalConnection.sendStatus, if_pos hserved]
      exact hs
    · have hthread := (s.sendStatus_entries modules hserved deviceState BufferType.unallocated sent).2.2
      rw [if_neg hserved]
      refine Known.latest ?_ fun _ _ _ _ _ h => ?_
      · exact Known.sendStatus hserved deviceState BufferType.unallocated sent
          (hs.known.send (s.createStatus status deviceState BufferType.unallocated))
      · cases (hthread.trans hfinished).symm.trans h
  | take status =>
    obtain ⟨-,rfl⟩ := Option.ite_some_none_eq_some.mp ht
    exact ⟨hs.known,hs.sending⟩
  | fill =>
    obtain ⟨status,hstatus,rfl⟩ := Option.map_eq_some_iff.mp ht
    simp only [seePassed, hstatus]
    by_cases hserved : (modules status.device.module_).isNone = true
    · rw [if_pos hserved]
      have hsame : s.fillErrorAggregator modules status = s := by
        unfold fillErrorAggregator
        rw [Option.isNone_iff_eq_none.mp hserved]
      rw [hsame]
      exact ⟨hs.known,hs.sending⟩
    · obtain ⟨module_,hmodule⟩ := Option.ne_none_iff_exists'.mp fun hnone =>
        hserved (Option.isNone_iff_eq_none.mpr hnone)
      have hfill : s.fillErrorAggregator modules status =
          { s.fillErrorAggregatorWithNotAckedStatuses modules with
            errorAggregators_ := addStatusToErrorAggregator modules
              (s.fillErrorAggregatorWithNotAckedStatuses modules).errorAggregators_ status } := by
        unfold fillErrorAggregator
        rw [hmodule]
      rw [if_neg hserved, hfill]
      refine ⟨hs.known.refill.fill status,?_⟩
      intro devices device status' error remaining hsending
      obtain ⟨haggregated,hlatest⟩ := hs.sending devices device status' error remaining hsending
      have hne : device.key ≠ status.device.key := by
        have hthread : s.connectThread = .sending devices device status' error remaining := hsending
        simp only [readsLatest, hthread, hstatus, Option.all_some] at hguard
        exact of_decide_eq_true hguard
      refine ⟨haggregated,?_⟩
      simp only [Passed.pass, Function.update_of_ne hne]
      exact hlatest
  | receive message =>
    obtain ⟨-,ht⟩ := Option.ite_none_right_eq_some.mp ht
    cases message with
    | statusResponse sessionId ok counter =>
      obtain rfl := Option.some.inj ht
      have hknown := hs.known.acknowledge counter
      rw [← acknowledgeStatus_notAcked] at hknown
      exact ⟨hknown,hs.sending⟩
    | command sessionId messageCounter deviceCommand =>
      obtain rfl := Option.some.inj ht
      obtain ⟨counter,queue,responses,hstate,-⟩ :=
        s.handleCommand_frame modules sessionId messageCounter deviceCommand
      rw [hstate]
      exact ⟨hs.known,hs.sending⟩
    | connectResponse sessionId alreadyLogged =>
      obtain rfl := Option.some.inj ht
      exact hs
  | deinitializeConnection completeDisconnect =>
    obtain ⟨hidle,rfl⟩ := Option.ite_some_none_eq_some.mp ht
    obtain ⟨⟨ok,hfinished⟩,-⟩ := isIdle_iff.mp hidle
    have hnot (u : ExternalConnection β) (hu : u.connectThread = s.connectThread)
        (devices : List DeviceIdentification) (device : DeviceIdentification) (status error : β)
        (remaining : List DeviceIdentification) :
        u.connectThread ≠ .sending devices device status error remaining := by
      rw [hu, hfinished]
      rintro ⟨⟩
    cases completeDisconnect with
    | true => exact Known.latest hs.known.clear (hnot _ rfl)
    | false => exact Known.latest hs.known.refill (hnot _ rfl)

/-! ## What a section sends -/

theorem sent_status_cases {answer : Answer β} {status : Status β}
    (ht : s.initializeConnection modules answer = some t) (hsent : t.sent = s.sent ++ [.status status]) :
    ∃ devices device data error remaining, s.connectThread = .sending devices device data error remaining ∧
      status.deviceStatus = ⟨device,data⟩ := by
  have hnone {u : ExternalConnection β} (hu : u.sent = s.sent) (h : u.sent = s.sent ++ [.status status]) : False := by
    rw [hu] at h
    simpa using congrArg List.length h
  unfold initializeConnection at ht
  cases hthread : s.connectThread with
  | finished ok =>
    rw [hthread] at ht
    cases ht
  | opening devices =>
    rw [hthread] at ht
    obtain rfl := Option.some.inj ht
    obtain hopen | ⟨state,-,hopen⟩ := s.openChannel_cases devices answer <;> rw [hopen] at hsent
    · exact (hnone rfl hsent).elim
    · exact (hnone rfl hsent).elim
  | connecting devices =>
    rw [hthread] at ht
    obtain rfl := Option.some.inj ht
    obtain hconnect | hconnect := s.connectMessageHandle_cases devices answer <;> rw [hconnect] at hsent
    · cases List.append_cancel_left hsent
    · cases List.append_cancel_left hsent
  | reading devices remaining =>
    rw [hthread] at ht
    cases remaining with
    | nil =>
      obtain rfl := Option.some.inj ht
      exact (hnone rfl hsent).elim
    | cons device remaining =>
      obtain rfl := Option.some.inj ht
      obtain ⟨-,hread⟩ | ⟨deviceState,-,hread⟩ := s.readStatus_cases devices device remaining <;> rw [hread] at hsent
      · exact (hnone rfl hsent).elim
      · exact (hnone rfl hsent).elim
  | sending devices device data error remaining =>
    rw [hthread] at ht
    obtain rfl := Option.some.inj ht
    refine ⟨devices,device,data,error,remaining,rfl,?_⟩
    by_cases hserved : (modules device.module_).isSome
    · obtain ⟨-,-,hsends,-⟩ := s.sendStatus_frame ⟨device,data⟩ hserved .CONNECTING error answer.sent
      have hstatus := List.append_cancel_left (hsends.symm.trans hsent)
      obtain rfl := ClientMessage.status.inj (List.cons.inj hstatus).1
      rfl
    · have hsame : (s.sendStatus modules ⟨device,data⟩ .CONNECTING error answer.sent).sent = s.sent :=
        congrArg sent (s.sendStatus_none ⟨device,data⟩ hserved .CONNECTING error answer.sent)
      exact (hnone hsame hsent).elim
  | acknowledging devices responses =>
    rw [hthread] at ht
    cases responses with
    | zero =>
      obtain rfl := Option.some.inj ht
      exact (hnone rfl hsent).elim
    | succ responses =>
      obtain rfl := Option.some.inj ht
      obtain ⟨-,hack⟩ | ⟨counter,hack⟩ := s.receiveStatusResponse_cases devices responses answer.received <;>
        rw [hack] at hsent
      · exact (hnone rfl hsent).elim
      · exact (hnone rfl hsent).elim
  | commanding devices commands =>
    rw [hthread] at ht
    cases commands with
    | zero =>
      obtain rfl := Option.some.inj ht
      exact (hnone rfl hsent).elim
    | succ commands =>
      obtain rfl := Option.some.inj ht
      obtain ⟨counter,queue,messages,hmessages,hcommand⟩ :=
        s.receiveCommand_cases modules devices commands answer.received
      have happended : (s.receiveCommand modules devices commands answer.received).sent = s.sent ++ messages := by
        obtain ⟨-,hcommand⟩ | hcommand := hcommand <;> rw [hcommand] <;> rfl
      have hstatus := List.append_cancel_left (happended.symm.trans hsent)
      have hmem : .status status ∈ messages := by
        rw [hstatus]
        exact List.mem_singleton_self _
      obtain ⟨session,type,number,hresponse⟩ := hmessages (.status status) hmem
      cases hresponse
  | establishing devices =>
    rw [hthread] at ht
    obtain rfl := Option.some.inj ht
    exact (hnone rfl hsent).elim
  | clearing devices =>
    rw [hthread] at ht
    obtain rfl := Option.some.inj ht
    exact (hnone rfl hsent).elim

/-! ## Every run -/

/-- The last status that was passed for a device in a run. -/
def latestPassed (modules : Modules β) (as : List (ConnectionAction β)) : DeviceKey → Option β :=
  (observe (connectionStep modules) (seePassed modules) init Passed.init as).latest

/-- In a run on the conditions of the guard, every status that a connect sequence sends for a
device is the last one that was passed for it. -/
theorem exec_latestPassed {as : List (ConnectionAction β)}
    (hg : Guarded (watched (connectionStep modules) (seePassed modules)) (fun p a => readsLatest p a = true)
      (init,Passed.init) as)
    {bs cs : List (ConnectionAction β)} {answer : Answer β} {status : Status β} (has : as = bs ++ .thread answer :: cs)
    (hs : exec (connectionStep modules) init bs = some s)
    (ht : s.connectionStep modules (.thread answer) = some t) (hsent : t.sent = s.sent ++ [.status status]) :
    latestPassed modules bs status.deviceStatus.device.key = some status.deviceStatus.statusdata := by
  subst has
  have hwatched : exec (watched (connectionStep modules) (seePassed modules)) (init,Passed.init) bs =
      some (s,observe (connectionStep modules) (seePassed modules) init Passed.init bs) := exec_watched hs
  have hlatest : s.Latest modules (observe (connectionStep modules) (seePassed modules) init Passed.init bs) := by
    refine exec_guarded_invariant (I := fun p => p.1.Latest modules p.2) Latest.init ?_ (hg.of_append hwatched) hwatched
    rintro p a q hp hguard hq
    obtain ⟨hstep,hseen⟩ := watched_eq_some.mp hq
    rw [hseen]
    exact hp.step hguard hstep
  obtain ⟨devices,device,data,error,remaining,hthread,hstatus⟩ := sent_status_cases ht hsent
  rw [hstatus]
  exact (hlatest.sending devices device data error remaining hthread).2

/-- A status is sent in the session; whether its response comes before the connection is lost and
a new sequence starts makes the difference. The next section sends the camera's status. -/
def reconnects (responses : List (ConnectionAction (List UInt8))) : List (ConnectionAction (List UInt8)) :=
  statusWhileDown camera [1] ++ connectSequence camera ++ [.sendStatus ⟨camera,[2]⟩ .RUNNING true] ++
    responses ++ [.deinitializeConnection false] ++ (connectSequence camera).take 4

theorem exec_latestPassed_unacknowledged :
    ∃ s t status, exec (connectionStep moduleOne) init (reconnects []) = some s ∧
      s.connectionStep moduleOne (answered none) = some t ∧ t.sent = s.sent ++ [.status status] ∧
      latestPassed moduleOne (reconnects []) status.deviceStatus.device.key = some status.deviceStatus.statusdata ∧
      status.deviceStatus.statusdata = [2] := by
  have hg : Guarded (watched (connectionStep moduleOne) (seePassed moduleOne)) (fun p a => readsLatest p a = true)
      (init,Passed.init) (reconnects [] ++ [answered none]) := by decide +kernel
  exact ⟨_,_,_,rfl,rfl,rfl,exec_latestPassed hg rfl rfl rfl rfl,rfl⟩

/-! ## A response in time, and a blank status -/

/-- The status `[2]` is acknowledged, and the next sequence sends an empty one. -/
theorem acknowledgedBefore_sends_blank :
    ∃ s t status, exec (connectionStep moduleOne) init
        (reconnects [.receive (.statusResponse "session" true 2)]) = some s ∧
      s.connectionStep moduleOne (answered none) = some t ∧ t.sent = s.sent ++ [.status status] ∧
      latestPassed moduleOne (reconnects [.receive (.statusResponse "session" true 2)])
        status.deviceStatus.device.key = some [2] ∧
      status.deviceStatus.statusdata = [] :=
  ⟨_,_,_,rfl,rfl,rfl,rfl,rfl⟩

end ExternalConnection

end ModuleGateway.ExternalClient
