import ModuleGateway.Library.Execution
import ModuleGateway.ExternalClient.StatusOrigin

/-! # What is folded into the error messages

An observer notes, per device, the statuses that went into its error message since the
last successful connect sequence. A status waits with the client, is in a message that
was sent, or is held by the entry of its device; a sequence that fails after it announced
a device whose entry held a status breaks this up, and so does a status that registers
its device while it is sent.
-/
namespace ModuleGateway.ExternalClient
open Structures Execution

variable {β γ : Type}

namespace ConnectThread

/-- The device was announced in the sequence that runs. -/
def Announced (thread : ConnectThread β) (k : DeviceKey) : Prop :=
  k ∈ thread.devices.map DeviceIdentification.key ∧ k ∉ thread.pending.map DeviceIdentification.key

end ConnectThread

namespace SentMessagesHandler

def statuses (s : SentMessagesHandler β) : List (Status β) := s.notAckedStatuses_ ++ s.acknowledged

def origins (status : Status (Traced γ)) : List Origin := status.deviceStatus.statusdata.origins

/-- The statuses that were sent, and of these the ones a response came for. -/
def sentOrigins (s : SentMessagesHandler (Traced γ)) : List Origin := s.statuses.flatMap origins

def acknowledgedOrigins (s : SentMessagesHandler (Traced γ)) : List Origin := s.acknowledged.flatMap origins

theorem acknowledgeStatus_statuses (s : SentMessagesHandler β) (counter : UInt32) :
    (s.acknowledgeStatus counter).2.statuses.Perm s.statuses := by
  obtain ⟨acked,hacked,hperm⟩ := ExternalConnection.acknowledgeStatus_acknowledged s counter
  unfold statuses
  rw [hacked]
  have hmove : ((s.acknowledgeStatus counter).2.notAckedStatuses_ ++ (s.acknowledged ++ acked)).Perm
      (acked ++ (s.acknowledgeStatus counter).2.notAckedStatuses_ ++ s.acknowledged) := by
    rw [← List.append_assoc, List.append_assoc acked]
    exact List.perm_append_comm
  exact hmove.trans (hperm.append_right _)

theorem mem_acknowledgedOrigins {s : SentMessagesHandler (Traced γ)} {x : Origin}
    (h : x ∈ s.acknowledgedOrigins) : x ∈ s.sentOrigins := by
  rw [sentOrigins, statuses, List.flatMap_append]
  exact List.mem_append_right _ h

end SentMessagesHandler

namespace ExternalConnection
variable [BufferType β] [BufferType γ]

/-- The channel answers to a section of the sequence in the way that lets the sequence go on. -/
def goesOn (modules : Modules β) (s : ExternalConnection β) (answer : Answer β) : Prop :=
  match s.connectThread with
  | .reading _ (device :: _) => s.isRegistered device = true
  | .sending _ _ _ _ _ => answer.sent = true
  | .acknowledging _ (_ + 1) =>
    ∃ messageCounter, answer.received = some (.statusResponse s.sessionId_ true messageCounter)
  | .commanding _ (_ + 1) => ∃ messageCounter deviceCommand,
    answer.received = some (.command s.sessionId_ messageCounter deviceCommand) ∧
      (s.serverMessageCounter_ = 0 ∨ s.serverMessageCounter_ + 1 = messageCounter) ∧
      (modules deviceCommand.device.module_).isSome
  | _ => True

/-- The sequences are for distinct devices; statuses are sent for registered devices, or for
types that are not aggregated; nothing is filled in while a sequence runs; and a sequence that
does not go on has announced only devices whose entry held no status. -/
def FailsUnannounced (modules : Modules γ) (s : NumberedConnection γ) : ConnectionAction γ → Prop
  | .connect devices => (devices.map DeviceIdentification.key).Nodup
  | .sendStatus status _ _ => s.1.isRegistered status.device = true ∨
    ∀ module_, modules status.device.module_ = some module_ →
      module_.isDeviceTypeSupported status.device.deviceType = .NOT_OK
  | .fill => ∃ ok, s.1.connectThread = .finished ok
  | .thread answer => s.1.goesOn (tracedModules modules) (numberAnswer answer) ∨
    (∀ k, s.1.connectThread.Announced k → lastOrigins s.1.errorAggregators_ k = []) ∧
      ∀ devices device status error remaining,
        s.1.connectThread = .sending devices device status error remaining → status.origins = []
  | _ => True

/-- The statuses that a step appends to the error message of a device. -/
def newlyFolded (s t : ExternalConnection (Traced γ)) (k : DeviceKey) : List Origin :=
  (errorOrigins t.errorAggregators_ k).drop (errorOrigins s.errorAggregators_ k).length

/-- What was folded in since the last successful sequence. -/
def observeFolded (s : NumberedConnection γ) (a : ConnectionAction γ) (t : NumberedConnection γ)
    (folded : DeviceKey → List Origin) : DeviceKey → List Origin :=
  match a, s.1.connectThread with
  | .thread _, .clearing _ => fun _ => []
  | _, _ => fun k => folded k ++ newlyFolded s.1 t.1 k

def foldedAfter (modules : Modules γ) (as : List (ConnectionAction γ)) : DeviceKey → List Origin :=
  observe (numberedStep modules) observeFolded NumberedConnection.init (fun _ => []) as

/-! ## Where the statuses are -/

/-- A status that waits with the client is neither sent nor in an entry. -/
def Waiting (s : ExternalConnection (Traced γ)) (n : ℕ) (folded : DeviceKey → List Origin)
    (status : DeviceStatus (Traced γ)) : Prop :=
  status.statusdata.origins.Nodup ∧ ∀ x ∈ status.statusdata.origins,
    x.key = status.device.key ∧ x.number < n ∧ x ∉ s.sentMessagesHandler_.sentOrigins ∧
      x ∉ folded x.key ∧ x ∉ lastOrigins s.errorAggregators_ x.key

/-- What is sent, what was folded in and what waits; all of it numbered below `n`. -/
structure Placed (s : ExternalConnection (Traced γ)) (n : ℕ) (folded : DeviceKey → List Origin) : Prop where
  sent : s.sentMessagesHandler_.sentOrigins.Nodup
  ownSent : ∀ status ∈ s.sentMessagesHandler_.statuses, ∀ x ∈ SentMessagesHandler.origins status,
    x.key = status.deviceStatus.device.key ∧ x.number < n
  once : ∀ k, (folded k).Nodup
  ownFolded : ∀ k, ∀ x ∈ folded k, x.key = k ∧ x.number < n
  error : ∀ k, errorOrigins s.errorAggregators_ k <:+ folded k
  last : ∀ k, (lastOrigins s.errorAggregators_ k).Nodup
  ownLast : ∀ k, ∀ x ∈ lastOrigins s.errorAggregators_ k, x.key = k ∧ x.number < n
  waiting : ∀ status, s.inFlight = some status → s.Waiting n folded status

/-- Nothing in the entry of the device was sent. -/
def Unsent (s : ExternalConnection (Traced γ)) (folded : DeviceKey → List Origin) (k : DeviceKey) : Prop :=
  ∀ x, x ∈ folded k ∨ x ∈ lastOrigins s.errorAggregators_ k → x ∉ s.sentMessagesHandler_.sentOrigins

variable {s t : ExternalConnection (Traced γ)} {n : ℕ} {folded : DeviceKey → List Origin}

omit [BufferType γ] in
theorem Placed.older (hs : s.Placed n folded) : s.Placed (n + 1) folded where
  sent := hs.sent
  ownSent status hmem x hx := ⟨(hs.ownSent status hmem x hx).1,by have := (hs.ownSent status hmem x hx).2; omega⟩
  once := hs.once
  ownFolded k x hx := ⟨(hs.ownFolded k x hx).1,by have := (hs.ownFolded k x hx).2; omega⟩
  error := hs.error
  last := hs.last
  ownLast k x hx := ⟨(hs.ownLast k x hx).1,by have := (hs.ownLast k x hx).2; omega⟩
  waiting status hmem := by
    obtain ⟨hnodup,hx⟩ := hs.waiting status hmem
    exact ⟨hnodup,fun x hmem => ⟨(hx x hmem).1,by have := (hx x hmem).2.1; omega,(hx x hmem).2.2⟩⟩

omit [BufferType γ] in
/-- Steps that only move sent statuses around. -/
theorem Placed.congr (hs : s.Placed n folded) (hentries : t.errorAggregators_ = s.errorAggregators_)
    (hwaiting : ∀ waiting, t.inFlight = some waiting → s.inFlight = some waiting)
    (hperm : t.sentMessagesHandler_.statuses.Perm s.sentMessagesHandler_.statuses) :
    t.Placed n folded ∧ ∀ k, s.Unsent folded k → t.Unsent folded k := by
  have hsent : t.sentMessagesHandler_.sentOrigins.Perm s.sentMessagesHandler_.sentOrigins :=
    hperm.flatMap_right _
  refine ⟨⟨hsent.nodup_iff.mpr hs.sent,fun status hmem => hs.ownSent status (hperm.mem_iff.mp hmem),hs.once,
    hs.ownFolded,hentries.symm ▸ hs.error,hentries.symm ▸ hs.last,hentries.symm ▸ hs.ownLast,
    fun status hmem => ?_⟩,fun k hk x hx hmem => ?_⟩
  · obtain ⟨hnodup,hx⟩ := hs.waiting status (hwaiting status hmem)
    refine ⟨hnodup,fun x hmem => ?_⟩
    obtain ⟨hkey,hnumber,hx,hfolded,hlast⟩ := hx x hmem
    exact ⟨hkey,hnumber,fun h => hx (hsent.mem_iff.mp h),hfolded,hentries.symm ▸ hlast⟩
  · exact hk x (hentries ▸ hx) (hsent.mem_iff.mp hmem)

omit [BufferType γ] in
/-- The entries are emptied. -/
theorem Placed.clear (hs : s.Placed n folded)
    (hwaiting : ∀ waiting, t.inFlight = some waiting → s.inFlight = some waiting)
    (hhandler : t.sentMessagesHandler_ = s.sentMessagesHandler_) {folded' : DeviceKey → List Origin}
    (hfolded : ∀ k, (folded' k).Sublist (folded k))
    (herror : ∀ k, errorOrigins t.errorAggregators_ k = [])
    (hlast : ∀ k, lastOrigins t.errorAggregators_ k = []) : t.Placed n folded' where
  sent := hhandler ▸ hs.sent
  ownSent := hhandler ▸ hs.ownSent
  once k := (hs.once k).sublist (hfolded k)
  ownFolded k x hx := hs.ownFolded k x ((hfolded k).subset hx)
  error k := by
    rw [herror]
    exact List.nil_suffix
  last k := by
    rw [hlast]
    exact List.nodup_nil
  ownLast k x hx := by simp [hlast] at hx
  waiting status hmem := by
    obtain ⟨hnodup,hx⟩ := hs.waiting status (hwaiting status hmem)
    refine ⟨hnodup,fun x hmem => ?_⟩
    obtain ⟨hkey,hnumber,hx,hno,-⟩ := hx x hmem
    exact ⟨hkey,hnumber,hhandler ▸ hx,fun h => hno ((hfolded _).subset h),by simp [hlast]⟩

omit [BufferType γ] in
/-- A status is handed to the channel. -/
theorem Placed.send (hs : s.Placed n folded) (status : Status (Traced γ))
    (hentries : t.errorAggregators_ = s.errorAggregators_)
    (hwaiting : ∀ waiting, t.inFlight = some waiting → s.inFlight = some waiting)
    (hperm : t.sentMessagesHandler_.statuses.Perm (status :: s.sentMessagesHandler_.statuses))
    (hnodup : (SentMessagesHandler.origins status).Nodup)
    (hown : ∀ x ∈ SentMessagesHandler.origins status, x.key = status.deviceStatus.device.key ∧ x.number < n ∧
      x ∉ s.sentMessagesHandler_.sentOrigins)
    (hfree : ∀ waiting, s.inFlight = some waiting → ∀ x ∈ SentMessagesHandler.origins status,
      x ∉ waiting.statusdata.origins) :
    t.Placed n folded ∧ ∀ k, s.Unsent folded k → (∀ x ∈ SentMessagesHandler.origins status,
      x ∉ folded k ∧ x ∉ lastOrigins s.errorAggregators_ k) → t.Unsent folded k := by
  have hsent : t.sentMessagesHandler_.sentOrigins.Perm
      (SentMessagesHandler.origins status ++ s.sentMessagesHandler_.sentOrigins) := hperm.flatMap_right _
  refine ⟨⟨hsent.nodup_iff.mpr (hnodup.append hs.sent fun x hx => (hown x hx).2.2),fun status' hmem => ?_,
    hs.once,hs.ownFolded,hentries.symm ▸ hs.error,hentries.symm ▸ hs.last,hentries.symm ▸ hs.ownLast,
    fun waiting hmem => ?_⟩,fun k hk hnew x hx hmem => ?_⟩
  · rcases List.mem_cons.mp (hperm.mem_iff.mp hmem) with rfl | h
    · exact fun x hx => ⟨(hown x hx).1,(hown x hx).2.1⟩
    · exact hs.ownSent status' h
  · have hmem := hwaiting waiting hmem
    obtain ⟨hnodup,hx⟩ := hs.waiting waiting hmem
    refine ⟨hnodup,fun x hx' => ?_⟩
    obtain ⟨hkey,hnumber,hx,hfolded,hlast⟩ := hx x hx'
    refine ⟨hkey,hnumber,fun h => ?_,hfolded,hentries.symm ▸ hlast⟩
    rcases List.mem_append.mp (hsent.mem_iff.mp h) with h | h
    · exact hfree waiting hmem x h hx'
    · exact hx h
  · rcases List.mem_append.mp (hsent.mem_iff.mp hmem) with h | h
    · exact hx.elim (hnew x h).1 (hentries ▸ (hnew x h).2)
    · exact hk x (hentries ▸ hx) h

omit [BufferType γ] in
/-- The statuses that `fillErrorAggregator` adds are distinct and are in no entry yet. -/
theorem Placed.sources (hs : s.Placed n folded) (hunsent : ∀ k, s.Unsent folded k)
    (extra : Option (DeviceStatus (Traced γ))) (hextra : ∀ status ∈ extra, s.Waiting n folded status) :
    let l := s.sentMessagesHandler_.notAckedStatuses_.map (·.deviceStatus) ++ extra.toList
    (l.flatMap (·.statusdata.origins)).Nodup ∧ ∀ status ∈ l, ∀ x ∈ status.statusdata.origins,
      x.key = status.device.key ∧ x.number < n ∧ x ∉ s.sentMessagesHandler_.acknowledgedOrigins ∧
        ∀ k, x ∉ folded k ∧ x ∉ lastOrigins s.errorAggregators_ k := by
  have hsent := hs.sent
  rw [SentMessagesHandler.sentOrigins, SentMessagesHandler.statuses, List.flatMap_append] at hsent
  obtain ⟨hnotAcked,-,hdisjoint⟩ := List.nodup_append'.mp hsent
  have hmem {status : Status (Traced γ)} (h : status ∈ s.sentMessagesHandler_.notAckedStatuses_)
      {x : Origin} (hx : x ∈ status.deviceStatus.statusdata.origins) :
      x ∈ s.sentMessagesHandler_.sentOrigins :=
    List.mem_flatMap.mpr ⟨status,List.mem_append_left _ h,hx⟩
  refine ⟨?_,fun status hstatus x hx => ?_⟩
  · rw [List.flatMap_append, List.flatMap_map]
    refine hnotAcked.append ?_ fun x hx hx' => ?_
    · cases extra with
      | none => exact List.nodup_nil
      | some status =>
        simp only [Option.toList_some, List.flatMap_cons, List.flatMap_nil, List.append_nil]
        exact (hextra status rfl).1
    · obtain ⟨status,hstatus,hx'⟩ := List.mem_flatMap.mp hx'
      obtain ⟨status',hstatus',hx⟩ := List.mem_flatMap.mp hx
      exact ((hextra status (Option.mem_toList.mp hstatus)).2 x hx').2.2.1 (hmem hstatus' hx)
  · rcases List.mem_append.mp hstatus with h | h
    · obtain ⟨sent,hsent,rfl⟩ := List.mem_map.mp h
      obtain ⟨hkey,hnumber⟩ := hs.ownSent sent (List.mem_append_left _ hsent) x hx
      refine ⟨hkey,hnumber,fun hacked => ?_,fun k => ⟨fun hf => ?_,fun hl => ?_⟩⟩
      · exact hdisjoint (List.mem_flatMap.mpr ⟨sent,hsent,hx⟩) hacked
      · exact hunsent k x (.inl hf) (hmem hsent hx)
      · exact hunsent k x (.inr hl) (hmem hsent hx)
    · obtain ⟨hkey,hnumber,hx,hfolded,hlast⟩ := (hextra status (Option.mem_toList.mp h)).2 x hx
      refine ⟨hkey,hnumber,fun hacked => hx (SentMessagesHandler.mem_acknowledgedOrigins hacked),
        fun k => ⟨fun hf => hfolded ?_,fun hl => hlast ?_⟩⟩
      · rw [(hs.ownFolded k x hf).1]
        exact hf
      · rw [(hs.ownLast k x hl).1]
        exact hl

omit [BufferType γ] in
/-- All that was sent and not acknowledged is folded in, and the status that waits. -/
theorem Placed.foldIn (hs : s.Placed n folded) (hunsent : ∀ k, s.Unsent folded k)
    (extra : Option (DeviceStatus (Traced γ))) (hextra : ∀ status ∈ extra, s.Waiting n folded status)
    (hentries : FoldsIn (s.sentMessagesHandler_.notAckedStatuses_.map (·.deviceStatus) ++ extra.toList)
      s.errorAggregators_ t.errorAggregators_)
    (hnotAcked : t.sentMessagesHandler_.notAckedStatuses_ = [])
    (hacknowledged : t.sentMessagesHandler_.acknowledged = s.sentMessagesHandler_.acknowledged)
    (hwaiting : ∀ waiting, t.inFlight = some waiting → s.inFlight = some waiting ∧ extra = none) :
    t.Placed n (fun k => folded k ++ newlyFolded s t k) ∧
      (∀ k, t.Unsent (fun k => folded k ++ newlyFolded s t k) k) ∧
      ∀ k, ∀ x ∈ newlyFolded s t k, x ∉ s.sentMessagesHandler_.acknowledgedOrigins := by
  obtain ⟨hnodup,hsources⟩ := hs.sources hunsent extra hextra
  have hnew (k : DeviceKey) : errorOrigins t.errorAggregators_ k =
      errorOrigins s.errorAggregators_ k ++ newlyFolded s t k ∧ (newlyFolded s t k).Sublist
        (((s.sentMessagesHandler_.notAckedStatuses_.map (·.deviceStatus) ++ extra.toList).filter
          (·.device.key = k)).flatMap (·.statusdata.origins)) := by
    obtain ⟨⟨new,herror,hsub⟩,-⟩ := hentries k
    have hdrop : newlyFolded s t k = new := by rw [newlyFolded, herror, List.drop_left]
    rw [hdrop]
    exact ⟨herror,hsub⟩
  have hfrom (k : DeviceKey) (x : Origin) (hx : x ∈ newlyFolded s t k) :
      ∃ status ∈ s.sentMessagesHandler_.notAckedStatuses_.map (·.deviceStatus) ++ extra.toList,
        status.device.key = k ∧ x ∈ status.statusdata.origins := by
    obtain ⟨status,hstatus,hx⟩ := List.mem_flatMap.mp ((hnew k).2.subset hx)
    obtain ⟨hstatus,hkey⟩ := List.mem_filter.mp hstatus
    exact ⟨status,hstatus,of_decide_eq_true hkey,hx⟩
  have hsent : t.sentMessagesHandler_.sentOrigins = s.sentMessagesHandler_.acknowledgedOrigins := by
    rw [SentMessagesHandler.sentOrigins, SentMessagesHandler.statuses, hnotAcked, hacknowledged]
    rfl
  have hlast (k : DeviceKey) (x : Origin) (hx : x ∈ lastOrigins t.errorAggregators_ k) :
      x ∈ lastOrigins s.errorAggregators_ k ∨
        ∃ status ∈ s.sentMessagesHandler_.notAckedStatuses_.map (·.deviceStatus) ++ extra.toList,
          status.device.key = k ∧ x ∈ status.statusdata.origins := by
    rcases (hentries k).2 with h | ⟨status,hstatus,hkey,h⟩
    · exact .inl (h ▸ hx)
    · exact .inr ⟨status,hstatus,hkey,h ▸ hx⟩
  have hnever (k : DeviceKey) (x : Origin)
      (hx : x ∈ folded k ++ newlyFolded s t k ∨ x ∈ lastOrigins t.errorAggregators_ k) :
      x.key = k ∧ x.number < n ∧ x ∉ s.sentMessagesHandler_.acknowledgedOrigins := by
    have hsource (h : ∃ status ∈ s.sentMessagesHandler_.notAckedStatuses_.map (·.deviceStatus) ++ extra.toList,
        status.device.key = k ∧ x ∈ status.statusdata.origins) :
        x.key = k ∧ x.number < n ∧ x ∉ s.sentMessagesHandler_.acknowledgedOrigins := by
      obtain ⟨status,hstatus,rfl,hmem⟩ := h
      obtain ⟨hkey,hnumber,hacked,-⟩ := hsources status hstatus x hmem
      exact ⟨hkey,hnumber,hacked⟩
    have hheld (h : x ∈ folded k ∨ x ∈ lastOrigins s.errorAggregators_ k) :
        x ∉ s.sentMessagesHandler_.acknowledgedOrigins :=
      fun hacked => hunsent k x h (SentMessagesHandler.mem_acknowledgedOrigins hacked)
    rcases hx with h | h
    · rcases List.mem_append.mp h with h | h
      · exact ⟨(hs.ownFolded k x h).1,(hs.ownFolded k x h).2,hheld (.inl h)⟩
      · exact hsource (hfrom k x h)
    · rcases hlast k x h with h | h
      · exact ⟨(hs.ownLast k x h).1,(hs.ownLast k x h).2,hheld (.inr h)⟩
      · exact hsource h
  refine ⟨⟨?_,fun status hstatus => ?_,fun k => ?_,fun k x hx => ?_,fun k => ?_,fun k => ?_,fun k x hx => ?_,
    fun waiting hmem => ?_⟩,fun k x hx => ?_,fun k x hx => (hnever k x (.inl (List.mem_append_right _ hx))).2.2⟩
  · rw [hsent]
    exact hs.sent.sublist ((List.sublist_append_right _ _).flatMap _)
  · rw [SentMessagesHandler.statuses, hnotAcked, hacknowledged] at hstatus
    exact hs.ownSent status (List.mem_append_right _ hstatus)
  · refine (hs.once k).append (hnodup.sublist ((hnew k).2.trans (List.filter_sublist.flatMap _)))
      fun x hx hx' => ?_
    obtain ⟨status,hstatus,-,hx'⟩ := hfrom k x hx'
    exact ((hsources status hstatus x hx').2.2.2 k).1 hx
  · exact ⟨(hnever k x (.inl hx)).1,(hnever k x (.inl hx)).2.1⟩
  · obtain ⟨old,hold⟩ := hs.error k
    exact ⟨old,by rw [(hnew k).1, ← List.append_assoc, hold]⟩
  · rcases (hentries k).2 with h | ⟨status,hstatus,-,h⟩
    · exact h ▸ hs.last k
    · rw [h]
      exact (List.nodup_flatMap.mp hnodup).1 status hstatus
  · exact ⟨(hnever k x (.inr hx)).1,(hnever k x (.inr hx)).2.1⟩
  · -- a status that still waits was no source
    obtain ⟨hmem,rfl⟩ := hwaiting waiting hmem
    obtain ⟨hnodup,hx⟩ := hs.waiting waiting hmem
    refine ⟨hnodup,fun x hx' => ?_⟩
    obtain ⟨hkey,hnumber,hno,hfolded,hnolast⟩ := hx x hx'
    have hsource : ¬∃ status ∈ s.sentMessagesHandler_.notAckedStatuses_.map (·.deviceStatus) ++
        (none : Option (DeviceStatus (Traced γ))).toList,
        status.device.key = x.key ∧ x ∈ status.statusdata.origins := by
      rintro ⟨status,hstatus,-,hx⟩
      rw [Option.toList_none, List.append_nil] at hstatus
      obtain ⟨sent,hsent,rfl⟩ := List.mem_map.mp hstatus
      exact hno (List.mem_flatMap.mpr ⟨sent,List.mem_append_left _ hsent,hx⟩)
    refine ⟨hkey,hnumber,fun h => ?_,fun h => ?_,fun h => ?_⟩
    · exact hno (SentMessagesHandler.mem_acknowledgedOrigins (hsent ▸ h))
    · exact (List.mem_append.mp h).elim hfolded fun h => hsource (hfrom x.key x h)
    · exact (hlast x.key x h).elim hnolast hsource
  · rw [hsent]
    exact (hnever k x hx).2.2

/-- The entries are cleared. -/
theorem Placed.emptied (hs : s.Placed n folded)
    (hwaiting : ∀ waiting, t.inFlight = some waiting → s.inFlight = some waiting)
    (hhandler : t.sentMessagesHandler_ = s.sentMessagesHandler_) {folded' : DeviceKey → List Origin}
    (hfolded : ∀ k, (folded' k).Sublist (folded k))
    (hentries : t.errorAggregators_ = s.clearErrorAggregators.errorAggregators_) :
    t.Placed n folded' ∧
      ∀ k, (∀ x ∈ folded' k, x ∉ s.sentMessagesHandler_.sentOrigins) → t.Unsent folded' k := by
  have herror (k : DeviceKey) : errorOrigins t.errorAggregators_ k = [] :=
    hentries ▸ (clearErrorAggregators_origins s k).1
  have hlast (k : DeviceKey) : lastOrigins t.errorAggregators_ k = [] :=
    hentries ▸ (clearErrorAggregators_origins s k).2
  refine ⟨hs.clear hwaiting hhandler hfolded herror hlast,fun k hk x hx => ?_⟩
  rw [hhandler]
  exact hx.elim (hk x) fun h => by simp [hlast] at h

/-! ## One step -/

structure FoldedOnce (s : ExternalConnection (Traced γ)) (n : ℕ) (folded : DeviceKey → List Origin) :
    Prop where
  placed : s.Placed n folded
  distinct : (s.connectThread.devices.map DeviceIdentification.key).Nodup
  pending : s.connectThread.pending <:+ s.connectThread.devices
  unsent : ∀ k, (s.connectThread.Announced k → lastOrigins s.errorAggregators_ k = []) → s.Unsent folded k
  copied : ∀ devices device status error remaining,
    s.connectThread = .sending devices device status error remaining →
      ∃ deviceState, entryIn s.errorAggregators_ device.key = some deviceState ∧
        status = deviceState.lastStatus ∧ (error = deviceState.errorMessage ∨ error.origins = [])

omit [BufferType γ] in
theorem FoldedOnce.init : (ExternalConnection.init : ExternalConnection (Traced γ)).FoldedOnce 0 fun _ => [] where
  placed := ⟨List.nodup_nil,nofun,fun _ => List.nodup_nil,nofun,fun _ => List.nil_suffix,
    fun _ => List.nodup_nil,nofun,nofun⟩
  distinct := List.nodup_nil
  pending := List.suffix_refl _
  unsent _ _ _ h := h.elim nofun nofun
  copied := nofun

omit [BufferType γ] in
/-- Outside of a sequence. -/
theorem Placed.settled (hs : s.Placed n folded) (hunsent : ∀ k, s.Unsent folded k) {ok : Bool}
    (hthread : s.connectThread = .finished ok) : s.FoldedOnce n folded where
  placed := hs
  distinct := hthread.symm ▸ List.nodup_nil
  pending := hthread.symm ▸ List.suffix_refl _
  unsent k _ := hunsent k
  copied _ _ _ _ _ h := by simp [hthread] at h

omit [BufferType γ] in
/-- Nothing is folded in by a step that leaves the entries alone. -/
theorem newlyFolded_of_entries (h : t.errorAggregators_ = s.errorAggregators_) (k : DeviceKey) :
    newlyFolded s t k = [] := by
  rw [newlyFolded, h, List.drop_length]

omit [BufferType γ] in
/-- The connect thread goes on, nothing is sent, and no entry changes. -/
theorem FoldedOnce.quiet (hs : s.FoldedOnce n folded) (hentries : t.errorAggregators_ = s.errorAggregators_)
    (hwaiting : t.inFlight = s.inFlight)
    (hperm : t.sentMessagesHandler_.statuses.Perm s.sentMessagesHandler_.statuses)
    (hdistinct : (t.connectThread.devices.map DeviceIdentification.key).Nodup)
    (hpending : t.connectThread.pending <:+ t.connectThread.devices)
    (hannounced : ∀ k, s.connectThread.Announced k →
      t.connectThread.Announced k ∨ lastOrigins s.errorAggregators_ k = [])
    (hcopied : ∀ devices device status error remaining,
      t.connectThread = .sending devices device status error remaining →
        ∃ deviceState, entryIn s.errorAggregators_ device.key = some deviceState ∧
          status = deviceState.lastStatus ∧ (error = deviceState.errorMessage ∨ error.origins = [])) :
    t.FoldedOnce n folded := by
  obtain ⟨hplaced,hunsent⟩ := hs.placed.congr hentries (fun _ h => hwaiting.symm.trans h) hperm
  refine ⟨hplaced,hdistinct,hpending,fun k hk => hunsent k (hs.unsent k fun ha => ?_),?_⟩
  · rcases hannounced k ha with h | h
    · exact hentries ▸ hk h
    · exact h
  · rw [hentries]
    exact hcopied

omit [BufferType γ] in
/-- The sequence ends; what it announced held no status. -/
theorem FoldedOnce.finish (hs : s.FoldedOnce n folded) (hentries : t.errorAggregators_ = s.errorAggregators_)
    (hwaiting : t.inFlight = s.inFlight)
    (hperm : t.sentMessagesHandler_.statuses.Perm s.sentMessagesHandler_.statuses) {ok : Bool}
    (hthread : t.connectThread = .finished ok)
    (hblank : ∀ k, s.connectThread.Announced k → lastOrigins s.errorAggregators_ k = []) :
    t.FoldedOnce n folded :=
  hs.quiet hentries hwaiting hperm (by rw [hthread]; exact List.nodup_nil)
    (by rw [hthread]; exact List.suffix_refl _) (fun k hk => .inr (hblank k hk))
    (fun _ _ _ _ _ h => by simp [hthread] at h)

omit [BufferType γ] in
theorem FoldedOnce.goto (hs : s.FoldedOnce n folded) {thread : ConnectThread (Traced γ)}
    (hdevices : thread.devices = s.connectThread.devices) (hpending : thread.pending = s.connectThread.pending)
    (hcopied : ∀ devices device status error remaining,
      thread = .sending devices device status error remaining →
        ∃ deviceState, entryIn s.errorAggregators_ device.key = some deviceState ∧
          status = deviceState.lastStatus ∧ (error = deviceState.errorMessage ∨ error.origins = [])) :
    (s.goto thread).FoldedOnce n folded := by
  refine hs.quiet rfl rfl (List.Perm.refl _) ?_ ?_ (fun k hk => .inl ?_) hcopied
  · change (thread.devices.map DeviceIdentification.key).Nodup
    exact hdevices ▸ hs.distinct
  · change thread.pending <:+ thread.devices
    rw [hdevices, hpending]
    exact hs.pending
  · change thread.Announced k
    rw [ConnectThread.Announced, hdevices, hpending]
    exact hk

/-- All that is not acknowledged is folded in, outside of a sequence or at the end of one that
announced nothing. -/
theorem Placed.fillNotAcked (hs : s.Placed n folded) (modules : Modules γ)
    (hunsent : ∀ k, s.Unsent folded k)
    (hentries : t.errorAggregators_ =
      (s.fillErrorAggregatorWithNotAckedStatuses (tracedModules modules)).errorAggregators_)
    (hhandler : t.sentMessagesHandler_ = s.sentMessagesHandler_.clearAll)
    (hwaiting : t.inFlight = s.inFlight) :
    t.Placed n (fun k => folded k ++ newlyFolded s t k) ∧
      (∀ k, t.Unsent (fun k => folded k ++ newlyFolded s t k) k) ∧
      ∀ k, ∀ x ∈ newlyFolded s t k, x ∉ s.sentMessagesHandler_.acknowledgedOrigins := by
  refine hs.foldIn hunsent none nofun ?_ (by rw [hhandler]; rfl) (by rw [hhandler]; rfl)
    fun _ h => ⟨hwaiting.symm.trans h,rfl⟩
  rw [hentries, Option.toList_none, List.append_nil]
  exact (FoldsIn.nil s.errorAggregators_).addAll modules s.sentMessagesHandler_.notAckedStatuses_

/-- What a step leads to, and what it folds in was not acknowledged. -/
def LeadsTo (s t : ExternalConnection (Traced γ)) (n : ℕ) (folded : DeviceKey → List Origin) : Prop :=
  t.FoldedOnce n (fun k => folded k ++ newlyFolded s t k) ∧
    ∀ k, ∀ x ∈ newlyFolded s t k, x ∉ s.sentMessagesHandler_.acknowledgedOrigins

omit [BufferType γ] in
theorem FoldedOnce.leadsTo_of_nil (ht : t.FoldedOnce n folded) (hnone : ∀ k, newlyFolded s t k = []) :
    s.LeadsTo t n folded := by
  refine ⟨?_,fun k x hx => by simp [hnone] at hx⟩
  simp only [hnone, List.append_nil]
  exact ht

omit [BufferType γ] in
theorem FoldedOnce.leadsTo (ht : t.FoldedOnce n folded) (hentries : t.errorAggregators_ = s.errorAggregators_) :
    s.LeadsTo t n folded := ht.leadsTo_of_nil (newlyFolded_of_entries hentries)

omit [BufferType γ] in
theorem LeadsTo.of_entries {u : ExternalConnection (Traced γ)} (h : u.LeadsTo t n folded)
    (hentries : u.errorAggregators_ = s.errorAggregators_)
    (hacked : u.sentMessagesHandler_.acknowledged = s.sentMessagesHandler_.acknowledged) :
    s.LeadsTo t n folded := by
  have hnew (k : DeviceKey) : newlyFolded s t k = newlyFolded u t k := by
    rw [newlyFolded, newlyFolded, hentries]
  rw [LeadsTo, SentMessagesHandler.acknowledgedOrigins, ← hacked]
  simp only [hnew]
  exact h

/-- The status of the device that is announced goes from its entry to the sent ones. -/
theorem FoldedOnce.announce (hs : s.FoldedOnce n folded) (modules : Modules γ)
    {devices remaining : List DeviceIdentification} {device : DeviceIdentification} {status error : Traced γ}
    (hthread : s.connectThread = .sending devices device status error remaining) (sent : Bool)
    (hguard : sent = true ∨ (∀ k, s.connectThread.Announced k → lastOrigins s.errorAggregators_ k = []) ∧
      status.origins = []) :
    s.LeadsTo ((s.sendStatus (tracedModules modules) ⟨device,status⟩ .CONNECTING error sent).goto
      (.reading devices remaining)) n folded := by
  obtain ⟨deviceState,hentry,rfl,-⟩ := hs.copied _ _ _ _ _ hthread
  have hlast : deviceState.lastStatus.origins = lastOrigins s.errorAggregators_ device.key := by
    rw [lastOrigins, hentry]
    rfl
  have hsuffix : device :: remaining <:+ devices := by
    have h := hs.pending
    rwa [hthread] at h
  have hdistinct : (devices.map DeviceIdentification.key).Nodup := by
    have h := hs.distinct
    rwa [hthread] at h
  have hremaining : remaining <:+ devices := (List.suffix_cons device remaining).trans hsuffix
  have hlater : device.key ∉ remaining.map DeviceIdentification.key :=
    (List.nodup_cons.mp (hdistinct.sublist (hsuffix.sublist.map _))).1
  have hmore (k : DeviceKey) (hk : s.connectThread.Announced k) :
      (ConnectThread.reading devices remaining : ConnectThread (Traced γ)).Announced k := by
    rw [hthread] at hk
    exact ⟨hk.1,fun h => hk.2 (List.mem_cons_of_mem _ h)⟩
  have hnotYet : ¬s.connectThread.Announced device.key := by
    rw [hthread]
    exact fun h => h.2 List.mem_cons_self
  by_cases hmodule : ((tracedModules modules) device.module_).isSome
  · obtain ⟨u,hentries,hthread',hwaiting,-,hnotAcked,hacked,hsend⟩ :=
      s.sendStatus_registered ⟨device,deviceState.lastStatus⟩ hmodule
        (.inl (Option.isSome_iff_exists.mpr ⟨deviceState,hentry⟩)) .CONNECTING error sent
    have hown (x : Origin) (hx : x ∈ deviceState.lastStatus.origins) : x.key = device.key ∧ x.number < n ∧
        x ∉ s.sentMessagesHandler_.sentOrigins := by
      have hmem : x ∈ lastOrigins s.errorAggregators_ device.key := hlast ▸ hx
      exact ⟨(hs.placed.ownLast _ x hmem).1,(hs.placed.ownLast _ x hmem).2,
        hs.unsent device.key (fun h => absurd h hnotYet) x (.inr hmem)⟩
    obtain ⟨hu,hunsent⟩ := hs.placed.send (s.createStatus ⟨device,deviceState.lastStatus⟩ .CONNECTING error)
      hentries (fun _ h => hwaiting.symm.trans h)
      (by
        rw [SentMessagesHandler.statuses, hnotAcked, hacked, List.append_assoc]
        exact List.perm_middle)
      (show deviceState.lastStatus.origins.Nodup from hlast ▸ hs.placed.last device.key) hown
      fun waiting hmem x hx hx' => by
        obtain ⟨-,-,-,-,hno⟩ := (hs.placed.waiting waiting hmem).2 x hx'
        rw [(hown x hx).1] at hno
        exact hno (hlast ▸ hx)
    rw [hsend]
    cases sent with
    | true =>
      rw [if_pos rfl]
      have hplaced : (u.goto (.reading devices remaining)).Placed n folded :=
        (hu.congr (t := u.goto (.reading devices remaining)) rfl (fun _ h => h) (List.Perm.refl _)).1
      refine FoldedOnce.leadsTo ⟨hplaced,hdistinct,hremaining,fun k hk => ?_,by rintro _ _ _ _ _ ⟨⟩⟩ hentries
      change u.Unsent folded k
      have hk : (ConnectThread.reading devices remaining : ConnectThread (Traced γ)).Announced k →
          lastOrigins s.errorAggregators_ k = [] := fun h => hentries ▸ hk h
      by_cases hkey : k = device.key
      · subst hkey
        have hnone : deviceState.lastStatus.origins = [] :=
          hlast.trans (hk ⟨List.mem_map_of_mem (hsuffix.subset List.mem_cons_self),hlater⟩)
        exact hunsent _ (hs.unsent _ fun h => absurd h hnotYet) fun x hx => by
          change x ∈ deviceState.lastStatus.origins at hx
          simp [hnone] at hx
      · refine hunsent k (hs.unsent k fun h => hk (hmore k h)) fun x hx => ⟨fun hf => hkey ?_,fun hl => hkey ?_⟩
        · exact (hs.placed.ownFolded k x hf).1.symm.trans (hown x hx).1
        · exact (hs.placed.ownLast k x hl).1.symm.trans (hown x hx).1
    | false =>
      obtain ⟨hblank,hnone⟩ := hguard.resolve_left Bool.false_ne_true
      have hall (k : DeviceKey) : u.Unsent folded k :=
        hunsent k (hs.unsent k (hblank k)) fun x hx => by
          change x ∈ deviceState.lastStatus.origins at hx
          simp [hnone] at hx
      obtain ⟨hplaced,hunsent',hnew⟩ := hu.fillNotAcked modules hall
        (t := (u.deinitializeConnection (tracedModules modules) false).goto (.reading devices remaining))
        rfl rfl rfl
      rw [if_neg Bool.false_ne_true]
      exact LeadsTo.of_entries ⟨⟨hplaced,hdistinct,hremaining,fun k _ => hunsent' k,by rintro _ _ _ _ _ ⟨⟩⟩,hnew⟩ hentries hacked
  · rw [s.sendStatus_none ⟨device,deviceState.lastStatus⟩ hmodule]
    have ht : (s.goto (.reading devices remaining)).FoldedOnce n folded :=
      hs.quiet rfl rfl (List.Perm.refl _) hdistinct hremaining (fun k hk => .inl (hmore k hk)) (by rintro _ _ _ _ _ ⟨⟩)
    exact ht.leadsTo rfl

/-- The sections of a sequence; the last one empties the entries. -/
theorem FoldedOnce.thread (hs : s.FoldedOnce n folded) (modules : Modules γ) {answer : Answer (Traced γ)}
    (hguard : s.goesOn (tracedModules modules) answer ∨
      (∀ k, s.connectThread.Announced k → lastOrigins s.errorAggregators_ k = []) ∧
        ∀ devices device status error remaining,
          s.connectThread = .sending devices device status error remaining → status.origins = [])
    (ht : s.initializeConnection (tracedModules modules) answer = some t) :
    (∃ devices, s.connectThread = .clearing devices ∧ t.FoldedOnce n fun _ => []) ∨
      (∀ devices, s.connectThread ≠ .clearing devices) ∧ s.LeadsTo t n folded := by
  have hdistinct := hs.distinct
  have hpending := hs.pending
  have hmoved {thread : ConnectThread (Traced γ)} (hdevices : thread.devices = s.connectThread.devices)
      (hpending : thread.pending = s.connectThread.pending)
      (hcopied : ∀ devices device status error remaining,
        thread ≠ .sending devices device status error remaining) :
      s.LeadsTo (s.goto thread) n folded := by
    have hgone : (s.goto thread).FoldedOnce n folded :=
      hs.goto hdevices hpending fun _ _ _ _ _ h => absurd h (hcopied _ _ _ _ _)
    exact hgone.leadsTo rfl
  have hfailed (u : ExternalConnection (Traced γ)) (hentries : u.errorAggregators_ = s.errorAggregators_)
      (hwaiting : u.inFlight = s.inFlight) (hhandler : u.sentMessagesHandler_ = s.sentMessagesHandler_)
      (hno : ¬s.goesOn (tracedModules modules) answer) : s.LeadsTo u.fail n folded := by
    have hfail : u.fail.FoldedOnce n folded :=
      hs.finish hentries hwaiting (hhandler ▸ List.Perm.refl _) rfl (hguard.resolve_left hno).1
    exact hfail.leadsTo hentries
  unfold initializeConnection at ht
  split at ht
  case h_1 => exact nomatch ht
  case h_2 devices hthread =>
    obtain rfl := Option.some.inj ht
    rw [hthread] at hdistinct hpending
    have hnone (k : DeviceKey) : ¬s.connectThread.Announced k := by
      rw [hthread]
      exact fun h => h.2 h.1
    refine .inr ⟨by simp [hthread],?_⟩
    rcases s.openChannel_cases devices answer with h | ⟨state,-,h⟩ <;> rw [h]
    · have ht : ({ s with state_ := .CONNECTING }.goto (.connecting devices)).FoldedOnce n folded :=
        hs.quiet rfl rfl (List.Perm.refl _) hdistinct hpending (fun k hk => absurd hk (hnone k)) nofun
      exact ht.leadsTo rfl
    · have ht : ({ s with state_ := state }.goto (.finished false)).FoldedOnce n folded :=
        hs.finish rfl rfl (List.Perm.refl _) rfl fun k hk => absurd hk (hnone k)
      exact ht.leadsTo rfl
  case h_3 devices hthread =>
    obtain rfl := Option.some.inj ht
    rw [hthread] at hdistinct hpending
    have hnone (k : DeviceKey) : ¬s.connectThread.Announced k := by
      rw [hthread]
      exact fun h => h.2 h.1
    refine .inr ⟨by simp [hthread],?_⟩
    generalize hu : ({ s with
      sessionId_ := answer.sessionId
      sent := s.sent ++ [.connect answer.sessionId devices] } : ExternalConnection (Traced γ)) = u
    have hcases := s.connectMessageHandle_cases devices answer
    rw [hu] at hcases
    have hentries : u.errorAggregators_ = s.errorAggregators_ := hu ▸ rfl
    have hwaiting : u.inFlight = s.inFlight := hu ▸ rfl
    have hperm : u.sentMessagesHandler_.statuses.Perm s.sentMessagesHandler_.statuses := hu ▸ List.Perm.refl _
    rcases hcases with h | h <;> rw [h]
    · have hfail : u.fail.FoldedOnce n folded :=
        hs.finish hentries hwaiting hperm rfl fun k hk => absurd hk (hnone k)
      exact hfail.leadsTo hentries
    · have hreading : (u.goto (.reading devices devices)).FoldedOnce n folded :=
        hs.quiet hentries hwaiting hperm hdistinct hpending (fun k hk => absurd hk (hnone k)) nofun
      exact hreading.leadsTo hentries
  case h_4 devices hthread =>
    obtain rfl := Option.some.inj ht
    exact .inr ⟨by simp [hthread],hmoved (by rw [hthread]; rfl) (by rw [hthread]; rfl) nofun⟩
  case h_5 devices device remaining hthread =>
    obtain rfl := Option.some.inj ht
    refine .inr ⟨by simp [hthread],?_⟩
    rcases s.readStatus_cases devices device remaining with ⟨hno,h⟩ | ⟨deviceState,hentry,h⟩ <;> rw [h]
    · exact hfailed s rfl rfl rfl (by simp only [goesOn, hthread]; exact hno)
    · have hsending : (s.goto (.sending devices device deviceState.lastStatus
          (if isAllocated deviceState.errorMessage then deviceState.errorMessage
            else BufferType.unallocated) remaining)).FoldedOnce n folded := by
        refine hs.goto (by rw [hthread]; rfl) (by rw [hthread]; rfl) fun _ _ _ _ _ h => ?_
        obtain ⟨-,rfl,rfl,rfl,-⟩ := ConnectThread.sending.inj h
        refine ⟨deviceState,hentry,rfl,?_⟩
        split
        · exact .inl rfl
        · exact .inr rfl
      exact hsending.leadsTo rfl
  case h_6 devices device status error remaining hthread =>
    obtain rfl := Option.some.inj ht
    refine .inr ⟨by simp [hthread],hs.announce modules hthread answer.sent ?_⟩
    refine hguard.imp (fun h => ?_) fun h => ⟨h.1,h.2 _ _ _ _ _ hthread⟩
    simp only [goesOn, hthread] at h
    exact h
  case h_7 devices hthread =>
    obtain rfl := Option.some.inj ht
    exact .inr ⟨by simp [hthread],hmoved (by rw [hthread]; rfl) (by rw [hthread]; rfl) nofun⟩
  case h_8 devices responses hthread =>
    obtain rfl := Option.some.inj ht
    refine .inr ⟨by simp [hthread],?_⟩
    rcases s.receiveStatusResponse_cases devices responses answer.received with ⟨hno,h⟩ | ⟨counter,h⟩ <;> rw [h]
    · exact hfailed s rfl rfl rfl (by simp only [goesOn, hthread]; exact hno)
    · rw [hthread] at hdistinct hpending
      have hmore (k : DeviceKey) (hk : s.connectThread.Announced k) :
          (ConnectThread.acknowledging devices responses : ConnectThread (Traced γ)).Announced k := by
        rw [hthread] at hk
        exact hk
      have hacked : ({ s with
          sentMessagesHandler_ := (s.sentMessagesHandler_.acknowledgeStatus counter).2 }.goto
            (.acknowledging devices responses)).FoldedOnce n folded :=
        hs.quiet rfl rfl (SentMessagesHandler.acknowledgeStatus_statuses _ _) hdistinct hpending
          (fun k hk => .inl (hmore k hk)) nofun
      exact hacked.leadsTo rfl
  case h_9 devices hthread =>
    obtain rfl := Option.some.inj ht
    exact .inr ⟨by simp [hthread],hmoved (by rw [hthread]; rfl) (by rw [hthread]; rfl) nofun⟩
  case h_10 devices commands hthread =>
    obtain rfl := Option.some.inj ht
    refine .inr ⟨by simp [hthread],?_⟩
    obtain ⟨counter,queue,responses,-,⟨hno,h⟩ | h⟩ :=
      s.receiveCommand_cases (tracedModules modules) devices commands answer.received <;> rw [h]
    · exact hfailed _ rfl rfl rfl (by simp only [goesOn, hthread]; exact hno)
    · rw [hthread] at hdistinct hpending
      have hmore (k : DeviceKey) (hk : s.connectThread.Announced k) :
          (ConnectThread.commanding devices commands : ConnectThread (Traced γ)).Announced k := by
        rw [hthread] at hk
        exact hk
      have hcommanded : ({ s with
          serverMessageCounter_ := counter
          commandQueue_ := queue
          sent := s.sent ++ responses }.goto (.commanding devices commands)).FoldedOnce n folded :=
        hs.quiet rfl rfl (List.Perm.refl _) hdistinct hpending (fun k hk => .inl (hmore k hk)) nofun
      exact hcommanded.leadsTo rfl
  case h_11 devices hthread =>
    obtain rfl := Option.some.inj ht
    rw [hthread] at hdistinct hpending
    have hmore (k : DeviceKey) (hk : s.connectThread.Announced k) :
        (ConnectThread.clearing devices : ConnectThread (Traced γ)).Announced k := by
      rw [hthread] at hk
      exact hk
    have hconnected : ({ s with state_ := .CONNECTED }.goto (.clearing devices)).FoldedOnce n folded :=
      hs.quiet rfl rfl (List.Perm.refl _) hdistinct hpending (fun k hk => .inl (hmore k hk)) nofun
    exact .inr ⟨by simp [hthread],hconnected.leadsTo rfl⟩
  case h_12 devices hthread =>
    obtain rfl := Option.some.inj ht
    obtain ⟨hplaced,hunsent⟩ := hs.placed.emptied (t := s.clearErrorAggregators.goto (.finished true))
      (fun _ h => h) rfl (fun _ => List.nil_sublist _) rfl
    exact .inl ⟨devices,hthread,hplaced,List.nodup_nil,List.suffix_refl _,fun k _ => hunsent k nofun,nofun⟩

omit [BufferType γ] in
theorem FoldedOnce.unsent_of_finished (hs : s.FoldedOnce n folded) {ok : Bool}
    (hthread : s.connectThread = .finished ok) (k : DeviceKey) : s.Unsent folded k :=
  hs.unsent k fun h => by
    rw [hthread] at h
    exact absurd h.1 List.not_mem_nil

omit [BufferType γ] in
theorem FoldedOnce.older (hs : s.FoldedOnce n folded) : s.FoldedOnce (n + 1) folded :=
  ⟨hs.placed.older,hs.distinct,hs.pending,hs.unsent,hs.copied⟩

omit [BufferType β] [BufferType γ] in
theorem mem_numberStatus {status : DeviceStatus β} {x : Origin} :
    x ∈ (numberStatus n status).statusdata.origins ↔ x = ⟨status.device.key,n⟩ := List.mem_singleton

omit [BufferType γ] in
/-- The number of the step is new. -/
theorem Placed.fresh (hs : s.Placed n folded) (key : DeviceKey) :
    (⟨key,n⟩ : Origin) ∉ s.sentMessagesHandler_.sentOrigins ∧
      ∀ k, (⟨key,n⟩ : Origin) ∉ folded k ∧ (⟨key,n⟩ : Origin) ∉ lastOrigins s.errorAggregators_ k := by
  refine ⟨fun h => ?_,fun k => ⟨fun h => ?_,fun h => ?_⟩⟩
  · obtain ⟨status,hstatus,hx⟩ := List.mem_flatMap.mp h
    exact Nat.lt_irrefl n (hs.ownSent status hstatus _ hx).2
  · exact Nat.lt_irrefl n (hs.ownFolded k _ h).2
  · exact Nat.lt_irrefl n (hs.ownLast k _ h).2

/-- A status is sent in a session. -/
theorem FoldedOnce.sendStatus (hs : s.FoldedOnce n folded) {modules : Modules γ} (hidle : s.isIdle = true)
    {status : DeviceStatus γ} (hguard : s.isRegistered status.device = true ∨
      ∀ module_, modules status.device.module_ = some module_ →
        module_.isDeviceTypeSupported status.device.deviceType = .NOT_OK)
    (deviceState : StatusDeviceState) (error : Traced γ) (sent : Bool) :
    s.LeadsTo (s.sendStatus (tracedModules modules) (numberStatus n status) deviceState error sent) (n + 1)
      folded := by
  obtain ⟨⟨ok,hthread⟩,hnone⟩ := isIdle_iff.mp hidle
  by_cases hmodule : ((tracedModules modules) status.device.module_).isSome
  · have hunsupported : s.isRegistered (numberStatus n status).device = true ∨
        ∀ module_, (tracedModules modules) (numberStatus n status).device.module_ = some module_ →
          module_.isDeviceTypeSupported (numberStatus n status).device.deviceType = .NOT_OK := by
      refine hguard.imp_right fun h module_ hmodule => ?_
      obtain ⟨plain,hplain,rfl⟩ := Option.map_eq_some_iff.mp hmodule
      exact h plain hplain
    obtain ⟨u,hentries,hthread',hwaiting,-,hnotAcked,hacked,hsend⟩ :=
      s.sendStatus_registered (numberStatus n status) hmodule hunsupported deviceState error sent
    obtain ⟨hsentOrigins,hheld⟩ := hs.placed.fresh status.device.key
    obtain ⟨hu,hunsent⟩ := hs.older.placed.send (s.createStatus (numberStatus n status) deviceState error)
      hentries (fun _ h => hwaiting.symm.trans h)
      (by
        rw [SentMessagesHandler.statuses, hnotAcked, hacked, List.append_assoc]
        exact List.perm_middle)
      (List.nodup_singleton _)
      (fun x hx => by
        obtain rfl := mem_numberStatus.mp hx
        exact ⟨rfl,Nat.lt_succ_self n,hsentOrigins⟩)
      (fun waiting hmem => by simp [hnone] at hmem)
    have hall (k : DeviceKey) : u.Unsent folded k :=
      hunsent k (hs.unsent_of_finished hthread k) fun x hx => by
        obtain rfl := mem_numberStatus.mp hx
        exact hheld k
    rw [hthread] at hthread'
    rw [hsend]
    cases sent with
    | true =>
      rw [if_pos rfl]
      exact (hu.settled hall hthread').leadsTo hentries
    | false =>
      obtain ⟨hplaced,hunsent',hnew⟩ := hu.fillNotAcked modules hall
        (t := u.deinitializeConnection (tracedModules modules) false) rfl rfl rfl
      rw [if_neg Bool.false_ne_true]
      exact LeadsTo.of_entries ⟨hplaced.settled hunsent' hthread',hnew⟩ hentries hacked
  · rw [s.sendStatus_none (numberStatus n status) hmodule]
    exact hs.older.leadsTo rfl

/-- The client fills in the status it has in its hands. -/
theorem FoldedOnce.fill (hs : s.FoldedOnce n folded) (modules : Modules γ) {ok : Bool}
    (hthread : s.connectThread = .finished ok) {status : DeviceStatus (Traced γ)}
    (hmem : s.inFlight = some status) :
    s.LeadsTo { s.fillErrorAggregator (tracedModules modules) status with inFlight := none } n folded := by
  have hunsent := hs.unsent_of_finished hthread
  rw [fillErrorAggregator]
  cases (tracedModules modules) status.device.module_ with
  | none =>
    obtain ⟨hplaced,hunsent'⟩ := hs.placed.congr (t := { s with inFlight := none }) rfl (by rintro _ ⟨⟩) (List.Perm.refl _)
    exact (hplaced.settled (fun k => hunsent' k (hunsent k)) hthread).leadsTo rfl
  | some module_ =>
    have hentries := ((FoldsIn.nil s.errorAggregators_).addAll modules
      s.sentMessagesHandler_.notAckedStatuses_).add modules status
    obtain ⟨hplaced,hunsent',hnew⟩ := hs.placed.foldIn hunsent (some status)
      (fun _ h => Option.some.inj h ▸ hs.placed.waiting status hmem) hentries
      (t := { (s.fillErrorAggregatorWithNotAckedStatuses (tracedModules modules)) with
        errorAggregators_ := addStatusToErrorAggregator (tracedModules modules)
          (s.fillErrorAggregatorWithNotAckedStatuses (tracedModules modules)).errorAggregators_ status
        inFlight := none }) rfl rfl (by rintro _ ⟨⟩)
    exact ⟨hplaced.settled hunsent' hthread,hnew⟩

/-- Statuses that come in are numbered `n`, all others below. -/
theorem FoldedOnce.step (hs : s.FoldedOnce n folded) {modules : Modules γ} {a : ConnectionAction γ}
    (hguard : FailsUnannounced modules (s,n) a)
    (ht : s.connectionStep (tracedModules modules) (numberAction n a) = some t) :
    t.FoldedOnce (n + 1) (observeFolded (s,n) a (t,n + 1) folded) ∧
      ∀ k, ∀ x ∈ newlyFolded s t k, x ∉ s.sentMessagesHandler_.acknowledgedOrigins := by
  cases a with
  | connect devices =>
    obtain ⟨⟨hidle,-,-⟩,rfl⟩ := Option.ite_some_none_eq_some.mp ht
    obtain ⟨⟨ok,hthread⟩,-⟩ := isIdle_iff.mp hidle
    obtain ⟨hplaced,hunsent,hnew⟩ := hs.older.placed.fillNotAcked modules (hs.unsent_of_finished hthread)
      (t := (s.fillErrorAggregatorWithNotAckedStatuses (tracedModules modules)).goto (.opening devices))
      rfl rfl rfl
    exact ⟨⟨hplaced,hguard,List.suffix_refl _,fun k _ => hunsent k,nofun⟩,hnew⟩
  | thread answer =>
    rcases hs.older.thread modules hguard ht with ⟨devices,hthread,hcleared⟩ | ⟨hother,hleads⟩
    · have hseen : observeFolded (s,n) (.thread answer) (t,n + 1) folded = fun _ => [] := by
        simp only [observeFolded, hthread]
      refine ⟨hseen.symm ▸ hcleared,fun k x hx => ?_⟩
      have hnone : errorOrigins t.errorAggregators_ k = [] :=
        List.suffix_nil.mp (hcleared.placed.error k)
      simp [newlyFolded, hnone] at hx
    · have hseen : observeFolded (s,n) (.thread answer) (t,n + 1) folded =
          fun k => folded k ++ newlyFolded s t k := by
        simp only [observeFolded]
        split
        next hthread => exact absurd hthread (hother _)
        next => rfl
      rw [hseen]
      exact hleads
  | sendStatus status deviceState sent =>
    obtain ⟨⟨hidle,-⟩,rfl⟩ := Option.ite_some_none_eq_some.mp ht
    exact hs.sendStatus hidle hguard deviceState _ sent
  | take status =>
    obtain ⟨-,rfl⟩ := Option.ite_some_none_eq_some.mp ht
    obtain ⟨hsent,hheld⟩ := hs.placed.fresh status.device.key
    have htaken : ({ s with inFlight := some (numberStatus n status) }).FoldedOnce (n + 1) folded := by
      refine ⟨⟨hs.placed.sent,hs.older.placed.ownSent,hs.placed.once,hs.older.placed.ownFolded,hs.placed.error,
        hs.placed.last,hs.older.placed.ownLast,fun waiting hmem => ?_⟩,hs.distinct,hs.pending,hs.unsent,hs.copied⟩
      obtain rfl := Option.some.inj hmem
      refine ⟨List.nodup_singleton _,fun x hx => ?_⟩
      obtain rfl := mem_numberStatus.mp hx
      exact ⟨rfl,Nat.lt_succ_self n,hsent,hheld _⟩
    exact htaken.leadsTo rfl
  | fill =>
    obtain ⟨status,hmem,rfl⟩ := Option.map_eq_some_iff.mp ht
    obtain ⟨ok,hthread⟩ := hguard
    exact hs.older.fill modules hthread hmem
  | receive message =>
    obtain ⟨-,ht⟩ := Option.ite_none_right_eq_some.mp ht
    have hsame (u : ExternalConnection (Traced γ)) (hentries : u.errorAggregators_ = s.errorAggregators_)
        (hwaiting : u.inFlight = s.inFlight) (hthread : u.connectThread = s.connectThread)
        (hperm : u.sentMessagesHandler_.statuses.Perm s.sentMessagesHandler_.statuses) :
        s.LeadsTo u (n + 1) folded := by
      have hu : u.FoldedOnce (n + 1) folded :=
        hs.older.quiet hentries hwaiting hperm (hthread.symm ▸ hs.distinct) (hthread.symm ▸ hs.pending)
          (fun k hk => .inl (hthread.symm ▸ hk)) (hthread.symm ▸ hs.copied)
      exact hu.leadsTo hentries
    cases message with
    | statusResponse sessionId ok counter =>
      obtain rfl := Option.some.inj ht
      exact hsame _ rfl rfl rfl (SentMessagesHandler.acknowledgeStatus_statuses _ _)
    | command sessionId messageCounter deviceCommand =>
      obtain rfl := Option.some.inj ht
      obtain ⟨counter,queue,responses,hstate,-⟩ := s.handleCommand_frame (tracedModules modules) sessionId
        messageCounter ⟨deviceCommand.device,deviceCommand.commanddata,[]⟩
      rw [hstate]
      exact hsame _ rfl rfl rfl (List.Perm.refl _)
    | connectResponse sessionId alreadyLogged =>
      obtain rfl := Option.some.inj ht
      exact hsame _ rfl rfl rfl (List.Perm.refl _)
  | deinitializeConnection completeDisconnect =>
    obtain ⟨hidle,rfl⟩ := Option.ite_some_none_eq_some.mp ht
    obtain ⟨⟨ok,hthread⟩,-⟩ := isIdle_iff.mp hidle
    have hunsent := hs.unsent_of_finished hthread
    cases completeDisconnect with
    | false =>
      obtain ⟨hplaced,hunsent,hnew⟩ := hs.older.placed.fillNotAcked modules hunsent
        (t := s.deinitializeConnection (tracedModules modules) false) rfl rfl rfl
      exact ⟨hplaced.settled hunsent hthread,hnew⟩
    | true =>
      obtain ⟨hplaced,hunsent'⟩ := hs.older.placed.emptied
        (t := s.deinitializeConnection (tracedModules modules) true) (fun _ h => h) rfl
        (fun k => List.Sublist.refl (folded k)) rfl
      refine (hplaced.settled (fun k => hunsent' k fun x hx => hunsent k x (.inl hx)) hthread).leadsTo_of_nil
        fun k => ?_
      have hnone : errorOrigins (s.deinitializeConnection (tracedModules modules) true).errorAggregators_ k = [] :=
        (clearErrorAggregators_origins s k).1
      rw [newlyFolded, hnone, List.drop_nil]

/-! ## Every run -/

/-- In a run on the conditions of the guard, between two successful sequences each status is
folded in once at most, into the error message of its device; no status that is folded in was
acknowledged before; and neither was any in the error message that a sequence sends. -/
theorem exec_foldedOnce {modules : Modules γ} {as : List (ConnectionAction γ)} {s : NumberedConnection γ}
    (hg : Guarded (numberedStep modules) (FailsUnannounced modules) NumberedConnection.init as)
    (he : exec (numberedStep modules) NumberedConnection.init as = some s) :
    (∀ k, (foldedAfter modules as k).Nodup ∧ (∀ x ∈ foldedAfter modules as k, x.key = k) ∧
        errorOrigins s.1.errorAggregators_ k <:+ foldedAfter modules as k) ∧
      (∀ bs a u, as = bs ++ [a] → exec (numberedStep modules) NumberedConnection.init bs = some u →
        ∀ k, ∀ x ∈ newlyFolded u.1 s.1 k, x ∉ u.1.sentMessagesHandler_.acknowledgedOrigins) ∧
      ∀ devices device status error remaining,
        s.1.connectThread = .sending devices device status error remaining →
          error.origins.Nodup ∧ ∀ x ∈ error.origins, x ∉ s.1.sentMessagesHandler_.acknowledgedOrigins := by
  have hstep (s : NumberedConnection γ) (folded : DeviceKey → List Origin) (a : ConnectionAction γ)
      (t : NumberedConnection γ) (hs : s.1.FoldedOnce s.2 folded) (ha : FailsUnannounced modules s a)
      (ht : numberedStep modules s a = some t) : t.1.FoldedOnce t.2 (observeFolded s a t folded) ∧
        ∀ k, ∀ x ∈ newlyFolded s.1 t.1 k, x ∉ s.1.sentMessagesHandler_.acknowledgedOrigins := by
    obtain ⟨u,hu,rfl⟩ := Option.map_eq_some_iff.mp ht
    exact hs.step ha hu
  have hrun {bs : List (ConnectionAction γ)} {u : NumberedConnection γ}
      (hg : Guarded (numberedStep modules) (FailsUnannounced modules) NumberedConnection.init bs)
      (he : exec (numberedStep modules) NumberedConnection.init bs = some u) :
      u.1.FoldedOnce u.2 (foldedAfter modules bs) :=
    exec_observe_invariant (I := fun s folded => s.1.FoldedOnce s.2 folded) FoldedOnce.init
      (fun s folded a t hs ha ht => (hstep s folded a t hs ha ht).1) hg he
  have hs := hrun hg he
  refine ⟨fun k => ⟨hs.placed.once k,fun x hx => (hs.placed.ownFolded k x hx).1,hs.placed.error k⟩,?_,?_⟩
  · rintro bs a u rfl hu
    obtain ⟨v,hv,ht⟩ := exec_concat_eq_some.mp he
    obtain rfl : v = u := Option.some.inj (hv.symm.trans hu)
    exact (hstep _ _ a _ (hrun (hg.of_append hu) hu) (hg.last hu) ht).2
  · intro devices device status error remaining hthread
    obtain ⟨deviceState,hentry,-,rfl | hnone⟩ := hs.copied _ _ _ _ _ hthread
    · have herror : deviceState.errorMessage.origins = errorOrigins s.1.errorAggregators_ device.key := by
        rw [errorOrigins, hentry]
        rfl
      have hunsent : s.1.Unsent (foldedAfter modules as) device.key := by
        refine hs.unsent device.key fun h => ?_
        rw [hthread] at h
        exact absurd List.mem_cons_self h.2
      rw [herror]
      refine ⟨(hs.placed.once device.key).sublist (hs.placed.error device.key).sublist,fun x hx hacked => ?_⟩
      exact hunsent x (.inl ((hs.placed.error device.key).subset hx))
        (SentMessagesHandler.mem_acknowledgedOrigins hacked)
    · simp [hnone]

/-! ## Sequences that fail after an announcement -/

/-- The camera is announced, no response comes, and the sequence is tried again. -/
def announcedInVain : List (ConnectionAction (List UInt8)) :=
  statusWhileDown camera [1] ++ [.connect [camera],answered none,
    answered (some (.connectResponse "session" false)),answered none,answered none,answered none,
    answered none,.connect [camera]]

/-- The first status of the lidar registers it, is sent and acknowledged in a session; then the
session ends and the lidar is announced in the next one. -/
def acknowledgedBefore : List (ConnectionAction (List UInt8)) :=
  statusWhileDown camera [1] ++ connectSequence camera ++ [.sendStatus ⟨lidar,[2]⟩ .RUNNING true,
    .receive (.statusResponse "session" true 2),.deinitializeConnection false,.connect [lidar],answered none,
    answered (some (.connectResponse "session" false)),answered none]

theorem announcedInVain_foldedTwice :
    (∃ s, exec (numberedStep moduleOne) NumberedConnection.init announcedInVain = some s ∧
      ¬(foldedAfter moduleOne announcedInVain camera.key).Nodup) ∧
    ∃ s devices status error remaining,
      exec (numberedStep moduleOne) NumberedConnection.init acknowledgedBefore = some s ∧
        s.1.connectThread = .sending devices lidar status error remaining ∧
        ∃ x ∈ error.origins, x ∈ s.1.sentMessagesHandler_.acknowledgedOrigins :=
  ⟨⟨_,rfl,by decide⟩,_,_,_,_,_,rfl,rfl,⟨lidar.key,14⟩,by decide,by decide⟩

/-- A status that is lost with the session is announced with the error message of the next. -/
def lostInSession : List (ConnectionAction (List UInt8)) :=
  statusWhileDown camera [1] ++ connectSequence camera ++ [.sendStatus ⟨camera,[2]⟩ .RUNNING true,
    .deinitializeConnection false,.connect [camera],answered none,
    answered (some (.connectResponse "session" false)),answered none]

theorem lostInSession_failsUnannounced :
    Guarded (numberedStep moduleOne) (FailsUnannounced moduleOne) NumberedConnection.init lostInSession := by
  refine .cons trivial rfl (.cons ⟨false,rfl⟩ rfl (.cons (List.nodup_singleton _) rfl ?_))
  refine .cons (.inl trivial) rfl (.cons (.inl trivial) rfl (.cons (.inl rfl) rfl (.cons (.inl rfl) rfl ?_)))
  refine .cons (.inl trivial) rfl (.cons (.inl ⟨1,rfl⟩) rfl (.cons (.inl trivial) rfl ?_))
  refine .cons (.inl ⟨1,_,rfl,.inl rfl,rfl⟩) rfl (.cons (.inl trivial) rfl (.cons (.inl trivial) rfl ?_))
  refine .cons (.inl trivial) rfl (.cons (.inl rfl) rfl (.cons trivial rfl ?_))
  refine .cons (List.nodup_singleton _) rfl (.cons (.inl trivial) rfl (.cons (.inl trivial) rfl ?_))
  exact .cons (.inl rfl) rfl trivial

/-- The device that is to be announced next, and the statuses in its error message. -/
def announcing (s : ExternalConnection (Traced γ)) : Option (DeviceIdentification × List Origin) :=
  match s.connectThread with
  | .sending _ device _ error _ => some (device,error.origins)
  | _ => none

theorem exec_foldedOnce_lostInSession :
    ∃ s devices status error remaining,
      exec (numberedStep moduleOne) NumberedConnection.init lostInSession = some s ∧
        s.1.connectThread = .sending devices camera status error remaining ∧
        error.origins = [⟨camera.key,14⟩] ∧
        ∀ x ∈ error.origins, x ∉ s.1.sentMessagesHandler_.acknowledgedOrigins := by
  have hrun : (exec (numberedStep moduleOne) NumberedConnection.init lostInSession).map
      (fun s => announcing s.1) = some (some (camera,[⟨camera.key,14⟩])) := by decide +kernel
  obtain ⟨s,he,hs⟩ := Option.map_eq_some_iff.mp hrun
  rw [announcing] at hs
  split at hs
  next devices device status error remaining hthread =>
    obtain ⟨rfl,herror⟩ := Prod.mk.inj (Option.some.inj hs)
    obtain ⟨-,-,hsent⟩ := exec_foldedOnce lostInSession_failsUnannounced he
    exact ⟨s,devices,status,error,remaining,he,hthread,herror,(hsent _ _ _ _ _ hthread).2⟩
  next => exact nomatch hs

end ExternalConnection

end ModuleGateway.ExternalClient
