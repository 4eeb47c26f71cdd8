import ModuleGateway.ExternalClient.DisconnectMessages

/-! # The session an item of the reconnect queue is about

The receive loop, the acknowledgement timers and the reconnect timer push items that carry
only the connection, so an item may wait while the connection is torn down for another one
and comes up again.
-/
namespace ModuleGateway.ExternalClient
open Structures Execution ExternalConnection

variable {β : Type}

/-- The item at the front of `reconnectQueue_` is being handled and is popped afterwards. -/
def ClientLoop.handlesFront : ClientLoop → Bool
  | .draining _ fromQueue => fromQueue
  | .forcing _ fromQueue => fromQueue
  | .awaiting _ _ _ fromQueue => fromQueue
  | .receiving _ _ _ fromQueue => fromQueue
  | .connecting _ fromQueue => fromQueue
  | .polling _ fromQueue => fromQueue
  | .filling _ fromQueue => fromQueue
  | .joining _ fromQueue => fromQueue
  | .popping => true
  | _ => false

namespace Client
variable [BufferType β]

/-- The items that are still to be handled. -/
def waitingItems (s : Client β) : List ReconnectQueueItem :=
  if s.loop.handlesFront then s.reconnectQueue_.tail else s.reconnectQueue_

/-- No session of a connection is established while an item for it waits. -/
def noItemWaits (s : Client β) : ClientAction β → Bool
  | .thread connection _ =>
    match (s.externalConnectionsList_ connection).connection.connectThread with
    | .establishing _ => s.waitingItems.all fun item => item.connection_ ≠ connection
    | _ => true
  | _ => true

/-- The items that wait were pushed in the current session of their connection. -/
def Current (s : Client β) : Prop :=
  ∀ item ∈ s.waitingItems, item.session = (s.externalConnectionsList_ item.connection_).session

variable {settings : ConnectionSettings β} {s t : Client β}

omit [BufferType β] in
theorem waitingItems_subset (hqueue : t.reconnectQueue_ = s.reconnectQueue_)
    (hfront : s.loop.handlesFront = true → t.loop.handlesFront = true) :
    t.waitingItems ⊆ s.waitingItems := by
  rw [waitingItems, waitingItems, hqueue]
  by_cases hs : s.loop.handlesFront = true
  · rw [if_pos hs, if_pos (hfront hs)]
    exact List.Subset.refl _
  · rw [if_neg hs]
    split
    · exact List.tail_subset _
    · exact List.Subset.refl _

omit [BufferType β] in
/-- The front item stays the front item when one is pushed. -/
theorem mem_waitingItems_of_push {item : ReconnectQueueItem}
    (hqueue : t.reconnectQueue_ = s.reconnectQueue_ ++ [item]) (hloop : t.loop = s.loop)
    {item' : ReconnectQueueItem} (h : item' ∈ t.waitingItems) : item' ∈ s.waitingItems ∨ item' = item := by
  rw [waitingItems, hqueue, hloop] at h
  rw [waitingItems]
  split at h
  · rename_i hfront
    rw [if_pos hfront]
    cases hs : s.reconnectQueue_ with
    | nil => simp [hs] at h
    | cons first rest => simpa [hs] using h
  · rename_i hfront
    rw [if_neg hfront]
    simpa using h

omit [BufferType β] in
theorem Current.of_subset (hs : s.Current) (hitems : t.waitingItems ⊆ s.waitingItems)
    (hsession : ∀ connection, (t.externalConnectionsList_ connection).session =
      (s.externalConnectionsList_ connection).session) : t.Current :=
  fun item hitem => (hs item (hitems hitem)).trans (hsession item.connection_).symm

omit [BufferType β] in
/-- What a thread of a connection pushes is about its current session. -/
theorem Current.of_push (hs : s.Current) (connection : ℕ) {reconnect : Bool}
    (hqueue : t.reconnectQueue_ = s.reconnectQueue_ ++
      [⟨connection,reconnect,(s.externalConnectionsList_ connection).session⟩]) (hloop : t.loop = s.loop)
    (hsession : ∀ connection, (t.externalConnectionsList_ connection).session =
      (s.externalConnectionsList_ connection).session) : t.Current := by
  intro item hitem
  rw [hsession]
  rcases mem_waitingItems_of_push hqueue hloop hitem with h | rfl
  · exact hs item h
  · rfl

omit [BufferType β] in
theorem Current.report (hs : s.Current) {connection : ℕ} {r : Option Bool × Endpoint β}
    (h : r.2.session = (s.externalConnectionsList_ connection).session) :
    (s.report connection r).Current := by
  obtain ⟨-,hloop,hsession,hqueue | ⟨reconnect,hqueue⟩⟩ := report_queues s connection h
  · exact hs.of_subset (waitingItems_subset hqueue fun hfront => by rwa [hloop]) hsession
  · exact hs.of_push connection hqueue hloop hsession

/-! ## One step -/

theorem awaitForced_sameItems (settings : ConnectionSettings β) {connection : ℕ}
    {connectedDevices forcedDevices : List DeviceIdentification} {fromQueue : Bool}
    (hloop : s.loop = .receiving connection connectedDevices forcedDevices fromQueue)
    (sent : Bool) :
    let t := s.awaitForced settings connection connectedDevices forcedDevices fromQueue sent
    t.reconnectQueue_ = s.reconnectQueue_ ∧ t.loop.handlesFront = s.loop.handlesFront ∧
      ∀ connection, (t.externalConnectionsList_ connection).session =
        (s.externalConnectionsList_ connection).session := by
  simp only [awaitForced]
  split
  · exact ⟨rfl,by rw [hloop]; rfl,fun _ => rfl⟩
  · rename_i internalMessage queue hqueue
    have hpassed := passOn_sameQueues settings { s with toExternalQueue_ := queue } connection
      internalMessage sent
    split
    · split
      · exact ⟨hpassed.reconnectQueue_,by rw [hloop]; rfl,hpassed.session⟩
      · exact ⟨rfl,by rw [hloop]; rfl,fun _ => rfl⟩
    · exact ⟨hpassed.reconnectQueue_,by rw [hloop]; rfl,hpassed.session⟩

theorem drainQueueDuringConnect_sameItems (settings : ConnectionSettings β) {connection : ℕ} {fromQueue : Bool}
    (hloop : s.loop = .polling connection fromQueue) (sent : Bool) :
    let t := s.drainQueueDuringConnect settings connection fromQueue sent
    t.reconnectQueue_ = s.reconnectQueue_ ∧ t.loop.handlesFront = s.loop.handlesFront ∧
      ∀ connection, (t.externalConnectionsList_ connection).session =
        (s.externalConnectionsList_ connection).session := by
  simp only [drainQueueDuringConnect]
  split
  · exact ⟨rfl,by rw [hloop]; rfl,fun _ => rfl⟩
  · rename_i internalMessage queue hqueue
    have hpassed := passOn_sameQueues settings { s with toExternalQueue_ := queue } connection
      internalMessage sent
    split
    · exact ⟨rfl,by rw [hloop]; rfl,fun _ => rfl⟩
    · split
      · refine ⟨rfl,by rw [hloop]; rfl,?_⟩
        have hsame : SameQueues s (s.setEndpoint connection { s.externalConnectionsList_ connection with
            connection := { (s.externalConnectionsList_ connection).connection with
              inFlight := some internalMessage.devicestatus } }) := sameQueues_setEndpoint s rfl
        exact hsame.session
      · exact ⟨hpassed.reconnectQueue_,by rw [hloop]; rfl,hpassed.session⟩

/-- The client thread lets nothing wait that did not wait before, and establishes no session. -/
theorem handleAggregatedMessages_current {devices : List DeviceIdentification} {sent : Bool}
    (hs : s.Current) (ht : s.handleAggregatedMessages settings devices sent = some t) : t.Current := by
  -- a section on the items of `s` that goes on to `loop`
  have hgoto {u v : Client β} (hsame : SameQueues u v) (hqueue : u.reconnectQueue_ = s.reconnectQueue_)
      (hconnections : u.externalConnectionsList_ = s.externalConnectionsList_) {loop : ClientLoop}
      (hfront : s.loop.handlesFront = true → loop.handlesFront = true) : (v.goto loop).Current :=
    hs.of_subset (waitingItems_subset (hsame.reconnectQueue_.trans hqueue) hfront) fun connection =>
      (hsame.session connection).trans (by rw [hconnections])
  -- a section that does not go on
  have hsame {u v : Client β} (hsame : SameQueues u v) (hqueue : u.reconnectQueue_ = s.reconnectQueue_)
      (hloop : u.loop = s.loop) (hconnections : u.externalConnectionsList_ = s.externalConnectionsList_) :
      v.Current :=
    hs.of_subset (waitingItems_subset (hsame.reconnectQueue_.trans hqueue) (by rw [hsame.loop, hloop]; exact id))
      fun connection => (hsame.session connection).trans (by rw [hconnections])
  unfold handleAggregatedMessages at ht
  cases hloop : s.loop with
  | looping =>
    simp only [hloop, Option.ite_none_left_eq_some] at ht
    obtain ⟨-,ht⟩ := ht
    split at ht
    · obtain rfl := Option.some.inj ht
      exact hgoto (.refl s) rfl rfl (by rw [hloop]; nofun)
    · split at ht
      · obtain rfl := Option.some.inj ht
        refine hgoto (u := s) ?_ rfl rfl fun _ => ?_
        · exact sameQueues_setEndpoint s rfl
        · rfl
      · obtain rfl := Option.some.inj ht
        refine hgoto (u := s) ?_ rfl rfl fun _ => ?_
        · exact sameQueues_setEndpoint s rfl
        · rfl
  | popping =>
    simp only [hloop, Option.some.injEq] at ht
    subst ht
    refine hs.of_subset ?_ fun _ => rfl
    rw [waitingItems, waitingItems, hloop]
    exact List.Subset.refl _
  | waiting =>
    simp only [hloop] at ht
    split at ht
    · obtain rfl := Option.some.inj ht
      exact hgoto (.refl s) rfl rfl (by rw [hloop]; nofun)
    · split at ht
      · obtain rfl := Option.some.inj ht
        refine hgoto (sendStatus_sameQueues _ _ _ _) ?_ ?_ ?_
        · rfl
        · rfl
        · rw [hloop]
          nofun
      · obtain rfl := Option.some.inj ht
        refine hgoto (sendStatus_sameQueues _ _ _ _) ?_ ?_ ?_
        · rfl
        · rfl
        · rw [hloop]
          nofun
  | draining connection fromQueue =>
    simp only [hloop] at ht
    split at ht
    · obtain rfl := Option.some.inj ht
      exact hgoto (.refl s) rfl rfl (by rw [hloop]; exact id)
    · rename_i message queue hqueue
      split at ht
      · obtain rfl := Option.some.inj ht
        exact hgoto (.refl s) rfl rfl (by rw [hloop]; exact id)
      · obtain rfl := Option.some.inj ht
        exact hsame (passOn_sameQueues _ _ _ _ _) rfl hloop.symm rfl
  | forcing connection fromQueue =>
    simp only [hloop, Option.ite_none_right_eq_some, Option.some.injEq] at ht
    obtain ⟨-,rfl⟩ := ht
    exact hgoto (.refl s) rfl rfl (by rw [hloop]; exact id)
  | awaiting connection connectedDevices forcedDevices fromQueue =>
    simp only [hloop] at ht
    split at ht
    · obtain rfl := Option.some.inj ht
      refine hgoto (u := s) ?_ rfl rfl ?_
      · exact sameQueues_setEndpoint s rfl
      · rw [hloop]
        exact id
    · obtain rfl := Option.some.inj ht
      exact hgoto (.refl s) rfl rfl (by rw [hloop]; exact id)
  | receiving connection connectedDevices forcedDevices fromQueue =>
    simp only [hloop] at ht
    obtain rfl := Option.some.inj ht
    obtain ⟨hqueue,hfront,hsession⟩ := awaitForced_sameItems settings hloop sent
    exact hs.of_subset (waitingItems_subset hqueue (by rw [hfront]; exact id)) hsession
  | connecting connection fromQueue =>
    simp only [hloop] at ht
    split at ht
    all_goals
      obtain rfl := Option.some.inj ht
      exact hgoto (.refl s) rfl rfl (by rw [hloop]; exact id)
  | polling connection fromQueue =>
    simp only [hloop] at ht
    obtain rfl := Option.some.inj ht
    obtain ⟨hqueue,hfront,hsession⟩ := drainQueueDuringConnect_sameItems settings hloop sent
    exact hs.of_subset (waitingItems_subset hqueue (by rw [hfront]; exact id)) hsession
  | filling connection fromQueue =>
    simp only [hloop] at ht
    split at ht
    · exact nomatch ht
    · obtain rfl := Option.some.inj ht
      exact hgoto (sameQueues_setEndpoint s (fillErrorAggregator_session _ _ _)) rfl rfl
        (by rw [hloop]; exact id)
  | joining connection fromQueue =>
    have hfront : s.loop.handlesFront = true →
        (if fromQueue then ClientLoop.popping else .looping).handlesFront = true := by
      rw [hloop]
      cases fromQueue <;> exact id
    simp only [hloop] at ht
    split at ht
    · exact nomatch ht
    · obtain rfl := Option.some.inj ht
      split
      · exact hgoto (.refl _) rfl rfl hfront
      · exact hgoto (.refl s) rfl rfl hfront

theorem initializeConnection_session {modules : Modules β} {e e' : Endpoint β} {answer : Answer β}
    (h : e.initializeConnection modules answer = some e')
    (hthread : ∀ devices, e.connection.connectThread ≠ .establishing devices) : e'.session = e.session := by
  obtain ⟨connection,-,rfl⟩ := Option.map_eq_some_iff.mp h
  split
  · rename_i devices hestablishing
    exact absurd hestablishing (hthread devices)
  · rfl
  · rfl

theorem Current.step (hs : s.Current) {a : ClientAction β} (ha : s.noItemWaits a = true)
    (ht : clientStep settings s a = some t) : t.Current := by
  cases a with
  | push internalMessage =>
    obtain rfl := Option.some.inj ht
    exact hs
  | client devices sent => exact handleAggregatedMessages_current hs ht
  | thread connection answer =>
    obtain ⟨e,he,rfl⟩ := Option.map_eq_some_iff.mp ht
    intro item hitem
    by_cases hconnection : item.connection_ = connection
    · have hthread (devices : List DeviceIdentification) :
          (s.externalConnectionsList_ connection).connection.connectThread ≠ .establishing devices := by
        intro hestablishing
        simp only [noItemWaits, hestablishing, List.all_eq_true] at ha
        exact of_decide_eq_true (ha item hitem) hconnection
      exact (hs item hitem).trans
        ((sameQueues_setEndpoint s (initializeConnection_session he hthread)).session _).symm
    · simpa only [setEndpoint, Function.update_of_ne hconnection] using hs item hitem
  | receive connection serverDisconnect message =>
    obtain ⟨-,rfl⟩ := Option.ite_some_none_eq_some.mp ht
    exact hs.report (receivingHandlerLoop_session _ _ _ _)
  | expire connection =>
    obtain ⟨-,h⟩ := Option.ite_none_left_eq_some.mp ht
    obtain rfl := Option.some.inj h
    refine hs.of_subset (List.Subset.refl _) (SameQueues.session (s := s) ?_)
    exact sameQueues_setEndpoint s rfl
  | timeout connection =>
    obtain ⟨-,rfl⟩ := Option.ite_some_none_eq_some.mp ht
    exact hs.report (timeoutHandler_session _)
  | reconnectTimer connection =>
    obtain ⟨-,rfl⟩ := Option.ite_some_none_eq_some.mp ht
    exact hs.of_push connection rfl rfl fun _ => rfl
  | stop =>
    obtain rfl := Option.some.inj ht
    exact hs

/-! ## Every run -/

/-- If no session of a connection is established while an item for it waits, the connection that
is torn down for an item is still in the session in which the item was pushed. -/
theorem exec_reconnectSession {as : List (ClientAction β)}
    (hg : Guarded (clientStep settings) (fun s a => s.noItemWaits a = true) init as)
    (he : exec (clientStep settings) init as = some s) (hloop : s.loop = .looping)
    {item : ReconnectQueueItem} {rest : List ReconnectQueueItem} (hqueue : s.reconnectQueue_ = item :: rest) :
    item.session = (s.externalConnectionsList_ item.connection_).session := by
  have hcurrent : s.Current :=
    exec_guarded_invariant (I := Current) (fun _ h => absurd h List.not_mem_nil)
      (fun _ _ _ hs ha ht => hs.step ha ht) hg he
  refine hcurrent item ?_
  rw [waitingItems, hloop, hqueue]
  exact List.mem_cons_self

/-! ## Two items for one session -/

/-- The connect sequence for the lidar, from its second loop on. -/
def establishSession (sessionId : String) : List (ClientAction (List UInt8)) :=
  let received := [none,some (.connectResponse sessionId false),none,none,none,
    some (.statusResponse sessionId true 1),none,some (.command sessionId 1 ⟨lidar,[0]⟩),none,none,none]
  [.client [] true,.client [lidar] true,.client [] true] ++
    received.map (fun message => .thread 0 ⟨true,sessionId,true,message⟩) ++ [.client [] true,.client [] true]

def firstSession : List (ClientAction (List UInt8)) :=
  [.push (statusMessage false lidar),.client [] true,.client [] true] ++ establishSession "one"

/-- The connection is torn down and comes up again. -/
def secondSession : List (ClientAction (List UInt8)) :=
  [.client [] true] ++ establishSession "two" ++ [.client [] true,.client [] true]

/-- The server sends a message of the wrong type. -/
def wrongMessage (sessionId : String) : ClientAction (List UInt8) :=
  .receive 0 false (some (.connectResponse sessionId false))

/-- A status of the first session is not acknowledged in time and a wrong message comes as well. -/
def failsTwice : List (ClientAction (List UInt8)) :=
  firstSession ++ [.push (statusMessage false lidar),.client [] true,.client [] true,
    .expire 0,.timeout 0,wrongMessage "one"] ++ secondSession

/-- What a test of a run looks at. -/
def look (s : Client (List UInt8)) : ClientLoop × List ReconnectQueueItem × ℕ × ConnectionState :=
  (s.loop,s.reconnectQueue_,(s.externalConnectionsList_ 0).session,
    (s.externalConnectionsList_ 0).connection.state_)

theorem failsTwice_tears_down_second :
    ∃ s t : Client (List UInt8), exec (clientStep oneConnection) init failsTwice = some s ∧
      s.loop = .looping ∧ s.reconnectQueue_ = [⟨0,true,1⟩] ∧
      (s.externalConnectionsList_ 0).session = 2 ∧
      (s.externalConnectionsList_ 0).connection.state_ = .CONNECTED ∧
      clientStep oneConnection s (.client [] true) = some t ∧
      (t.externalConnectionsList_ 0).connection.state_ = .NOT_INITIALIZED := by
  have hs : (exec (clientStep oneConnection) init failsTwice).map look =
      some (.looping,[⟨0,true,1⟩],2,.CONNECTED) := by decide +kernel
  have ht : (exec (clientStep oneConnection) init (failsTwice ++ [.client [] true])).map (fun t => (look t).2.2) =
      some (2,.NOT_INITIALIZED) := by decide +kernel
  obtain ⟨t,htrun,htlook⟩ := Option.map_eq_some_iff.mp ht
  obtain ⟨s,hsrun,hstep⟩ := exec_concat_eq_some.mp htrun
  rw [hsrun] at hs
  simp only [Option.map_some, look, Option.some.injEq, Prod.mk.injEq] at hs htlook
  exact ⟨s,t,hsrun,hs.1,hs.2.1,hs.2.2.1,hs.2.2.2,hstep,htlook.2⟩

/-- One failure in each session. -/
def failsOnceInEach : List (ClientAction (List UInt8)) :=
  firstSession ++ [wrongMessage "one"] ++ secondSession ++ [wrongMessage "two"]

theorem exec_reconnectSession_failsOnceInEach :
    ∃ s : Client (List UInt8), exec (clientStep oneConnection) init failsOnceInEach = some s ∧
      s.reconnectQueue_ = [⟨0,true,2⟩] ∧ 2 = (s.externalConnectionsList_ 0).session := by
  have hs : (exec (clientStep oneConnection) init failsOnceInEach).map (fun s => (s.loop,s.reconnectQueue_)) =
      some (.looping,[⟨0,true,2⟩]) := by decide +kernel
  obtain ⟨s,hrun,hlook⟩ := Option.map_eq_some_iff.mp hs
  obtain ⟨hloop,hqueue⟩ := Prod.mk.inj hlook
  exact ⟨s,hrun,hqueue,exec_reconnectSession (by decide +kernel) hrun hloop hqueue⟩

end Client

end ModuleGateway.ExternalClient
