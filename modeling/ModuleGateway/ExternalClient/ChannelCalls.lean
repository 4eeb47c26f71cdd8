import ModuleGateway.Library.Occurrences
import ModuleGateway.ExternalClient.MessageOrder

/-! # The calls of a communication channel

A connection reaches its server through an `ICommunicationChannel`, whose functions the client
thread, the connect thread and the receive loop call. Every section of these threads makes some calls,
with results that it goes on with. A channel restricts a run of the client to the
results that it can give: what is known of every run of the client then holds over every channel, and what
is known of every move of a connection is combined with what the channel does in it.
-/
namespace ModuleGateway.ExternalClient
open Structures ExternalConnection Execution

variable {β : Type}

/-- A call with what it gave: `initializeConnection` may throw, and a caller of `sendMessage` may not look at the
result. -/
inductive ChannelCall (β : Type) where
  | initializeConnection (ok : Bool)
  | sendMessage (m : ClientMessage β) (sent : Option Bool)
  | receiveMessage (m : Option (ServerMessage β))
  | consumeServerDisconnectNotification (pending : Bool)
  | closeConnection

def ChannelCall.closes : ChannelCall β → Bool
  | .closeConnection => true
  | _ => false

/-! ## The calls of a section -/

namespace Endpoint

/-- The responses to a command, for which nobody looks at the result. -/
def responseCalls (e e' : Endpoint β) : List (ChannelCall β) :=
  (appended e.connection.sent e'.connection.sent).map fun m => .sendMessage m none

/-- The calls of `ExternalConnection::sendStatus`, which closes the channel when it could not send. -/
def sendCalls (e e' : Endpoint β) (sent : Bool) : List (ChannelCall β) :=
  let messages := appended e.connection.sent e'.connection.sent
  messages.map (fun m => .sendMessage m (some sent)) ++
    if messages.isEmpty || sent then [] else [.closeConnection]

/-- The calls of a section of the connect thread. -/
def connectCalls (e e' : Endpoint β) (answer : Answer β) : List (ChannelCall β) :=
  match e.connection.connectThread with
  | .opening _ => [.initializeConnection answer.opened]
  | .connecting devices =>
    .sendMessage (.connect answer.sessionId devices) (some answer.sent) ::
      if answer.sent then [.receiveMessage answer.received] else []
  | .sending _ _ _ _ _ => e.sendCalls e' answer.sent
  | .acknowledging _ (_ + 1) => [.receiveMessage answer.received]
  | .commanding _ (_ + 1) => .receiveMessage answer.received :: e.responseCalls e'
  | _ => []

/-- The calls of a round of the receive loop, after it has received its message. -/
def receiveCalls (e e' : Endpoint β) (serverDisconnect : Bool) : List (ChannelCall β) :=
  .consumeServerDisconnectNotification serverDisconnect :: e.responseCalls e'

end Endpoint

namespace Client

/-- The client thread closes the channel for an item of `reconnectQueue_`, and with `cancelPendingConnect` when it
leaves `drainQueueDuringConnect` at the end of the gateway. -/
def closes (s : Client β) (connection : ℕ) (t : Client β) : Bool :=
  match s.loop with
  | .looping => s.reconnectQueue_.head?.any fun item => item.connection_ = connection
  | .connecting connection' fromQueue | .polling connection' fromQueue =>
    connection = connection' && t.loop = .joining connection' fromQueue && s.stopped &&
      !(s.externalConnectionsList_ connection).connectResult.isSome
  | _ => false

/-- The calls of the channel of one connection in a step from `s` to `t`. -/
def channelCalls (connection : ℕ) (s : Client β) (a : ClientAction β) (t : Client β) : List (ChannelCall β) :=
  let e := s.externalConnectionsList_ connection
  let e' := t.externalConnectionsList_ connection
  match a with
  | .client _ sent => (if s.closes connection t then [.closeConnection] else []) ++ e.sendCalls e' sent
  | .thread connection' answer => if connection = connection' then e.connectCalls e' answer else []
  | .receive connection' serverDisconnect _ =>
    if connection = connection' then e.receiveCalls e' serverDisconnect else []
  | _ => []

/-- The rest of a round of the receive loop. -/
def ofLoop (connection : ℕ) : ClientAction β → Bool
  | .receive connection' _ _ => connection = connection'
  | _ => false

end Client

/-! ## The moves of a connection -/

variable [BufferType β]

namespace Endpoint

/-- What can happen to a connection in a step of the client, with the calls of its channel, but for a round of its
receive loop. -/
inductive Moves (modules : Modules β) :
    ConnectPhase → Endpoint β → List (ChannelCall β) → ConnectPhase → Endpoint β → Prop where
  | stays (phase e) : Moves modules phase e [] phase e
  | fillErrorAggregator (phase e status) : Moves modules phase e [] phase (e.fillErrorAggregator modules status)
  | sendStatus (phase e status deviceState sent) (h : e.connection.state_ = .CONNECTED) :
    Moves modules phase e (e.sendCalls (e.sendStatus modules status deviceState sent) sent) phase
      (e.sendStatus modules status deviceState sent)
  | take (e status) (h : e.connection.state_ ≠ .CONNECTED) : Moves modules .running e [] .running
      { e with connection := { e.connection with inFlight := some status } }
  | initializeConnection (phase e answer e') (h : e.initializeConnection modules answer = some e') :
    Moves modules phase e (e.connectCalls e' answer) phase e'
  | expire (phase e) : Moves modules phase e [] phase { e with expired := e.expired + 1 }
  | timeoutHandler (phase e) : Moves modules phase e [] phase e.timeoutHandler.2
  | reconnect (e) : Moves modules .outside e [.closeConnection] .prepared (e.deinitializeConnection modules)
  | drop (e) : Moves modules .outside e [.closeConnection] .outside (e.deinitializeConnection modules).setNotInitialized
  | begin (e status) (h : e.connection.state_ = .NOT_INITIALIZED) :
    Moves modules .outside e [] .prepared (e.fillErrorAggregator modules status)
  | startConnectThread (e devices) (h : ∀ device ∈ devices, (modules device.module_).isSome) :
    Moves modules .prepared e [] .running (e.startConnectThread modules devices)
  | cancelPendingConnect (e) : Moves modules .running e [.closeConnection] .running e
  | join (e) (h : e.connectResult.isSome) : Moves modules .running e [] .outside e

variable {modules : Modules β} {e e' : Endpoint β} {phase : ConnectPhase} {sent : Bool}

omit [BufferType β] in
theorem sendCalls_nil (h : e'.connection.sent = e.connection.sent) (sent : Bool) : e.sendCalls e' sent = [] := by
  simp [sendCalls, h, appended]

/-- A status that is passed on is filled in, or sent on a connection that is up, or not for the connection. -/
inductive Passes (modules : Modules β) (sent : Bool) (e : Endpoint β) : Endpoint β → Prop where
  | stays : Passes modules sent e e
  | fillErrorAggregator (status) : Passes modules sent e (e.fillErrorAggregator modules status)
  | sendStatus (status deviceState) (h : e.connection.state_ = .CONNECTED) :
    Passes modules sent e (e.sendStatus modules status deviceState sent)

theorem fillErrorAggregator_sent (e : Endpoint β) (status : DeviceStatus β) :
    (e.fillErrorAggregator modules status).connection.sent = e.connection.sent := by
  unfold Endpoint.fillErrorAggregator
  split
  · exact (e.connection.fillErrorAggregator_frame modules status).2.2.1
  · rfl

theorem Passes.moves (h : e.Passes modules sent e') (phase : ConnectPhase) :
    Moves modules phase e (e.sendCalls e' sent) phase e' := by
  cases h with
  | stays =>
    rw [sendCalls_nil rfl]
    exact .stays phase e
  | fillErrorAggregator status =>
    rw [sendCalls_nil (e.fillErrorAggregator_sent status)]
    exact .fillErrorAggregator phase e status
  | sendStatus status deviceState h => exact .sendStatus phase e status deviceState sent h

end Endpoint

namespace Client
variable {settings : ConnectionSettings β} {s t u : Client β} {connection : ℕ}

theorem passes_setEndpoint {connection' : ℕ} {e : Endpoint β} {sent : Bool}
    (h : (s.externalConnectionsList_ connection').Passes (settings.modules connection') sent e) (connection : ℕ) :
    (s.externalConnectionsList_ connection).Passes (settings.modules connection) sent
      ((s.setEndpoint connection' e).externalConnectionsList_ connection) := by
  by_cases hc : connection = connection'
  · subst hc
    simpa only [setEndpoint, Function.update_self] using h
  · simpa only [setEndpoint, Function.update_of_ne hc] using .stays

theorem sendStatus_passes (settings : ConnectionSettings β) (s : Client β) (internalMessage : InternalClientMessage β)
    (sent : Bool) (connection : ℕ) :
    (s.externalConnectionsList_ connection).Passes (settings.modules connection) sent
      ((s.sendStatus settings internalMessage sent).2.externalConnectionsList_ connection) := by
  simp only [Client.sendStatus]
  split
  · exact .stays
  · split
    · exact passes_setEndpoint (.fillErrorAggregator _) connection
    · rename_i hstate
      exact passes_setEndpoint (.sendStatus _ _ (not_not.mp hstate)) connection

theorem passOn_passes (settings : ConnectionSettings β) (s : Client β) (connection' : ℕ)
    (internalMessage : InternalClientMessage β) (sent : Bool) (connection : ℕ) :
    (s.externalConnectionsList_ connection).Passes (settings.modules connection) sent
      ((s.passOn settings connection' internalMessage sent).externalConnectionsList_ connection) := by
  simp only [Client.passOn]
  split
  · exact passes_setEndpoint (.fillErrorAggregator _) connection
  · exact sendStatus_passes settings s internalMessage sent connection

/-- A connect sequence is asked for a connection without a session, after its status was filled in. -/
theorem sendStatus_begins {internalMessage : InternalClientMessage β} {sent : Bool}
    (h : (s.sendStatus settings internalMessage sent).1 = some connection) :
    (s.externalConnectionsList_ connection).connection.state_ = .NOT_INITIALIZED ∧
      (s.sendStatus settings internalMessage sent).2.externalConnectionsList_ connection =
        (s.externalConnectionsList_ connection).fillErrorAggregator (settings.modules connection)
          internalMessage.devicestatus := by
  have hstate : ∀ e : Endpoint β, ∀ modules status,
      (e.fillErrorAggregator modules status).connection.state_ = e.connection.state_ := by
    intro e modules status
    unfold Endpoint.fillErrorAggregator
    split
    · exact (e.connection.fillErrorAggregator_frame modules status).1
    · rfl
  simp only [Client.sendStatus] at h ⊢
  split at h
  · cases h
  · split at h
    · rename_i hdown
      split at h
      · rename_i hnot
        obtain rfl := Option.some.inj h
        rw [if_pos hdown]
        rw [hstate] at hnot
        exact ⟨hnot,by simp only [setEndpoint, Function.update_self]⟩
      · cases h
    · cases h

/-- What the client thread passes on is all that happens to the connection. -/
theorem moves_of_passes {connectedDevices : List DeviceIdentification} {sent : Bool}
    (hphase : t.loop.phase connection = s.loop.phase connection) (hcloses : s.closes connection t = false)
    (h : (s.externalConnectionsList_ connection).Passes (settings.modules connection) sent
      (t.externalConnectionsList_ connection)) :
    (s.externalConnectionsList_ connection).Moves (settings.modules connection) (s.loop.phase connection)
      (channelCalls connection s (.client connectedDevices sent) t) (t.loop.phase connection)
      (t.externalConnectionsList_ connection) := by
  simpa [channelCalls, hcloses, hphase] using h.moves (s.loop.phase connection)

/-- Nothing happens to the connection. -/
theorem moves_of_same {connectedDevices : List DeviceIdentification} {sent : Bool}
    (hphase : t.loop.phase connection = s.loop.phase connection) (hcloses : s.closes connection t = false)
    (h : t.externalConnectionsList_ connection = s.externalConnectionsList_ connection) :
    (s.externalConnectionsList_ connection).Moves (settings.modules connection) (s.loop.phase connection)
      (channelCalls connection s (.client connectedDevices sent) t) (t.loop.phase connection)
      (t.externalConnectionsList_ connection) :=
  moves_of_passes hphase hcloses (by rw [h]; exact .stays)

/-- The connection moves, and nothing is sent. -/
theorem moves_of_silent {connectedDevices : List DeviceIdentification} {sent : Bool} {phase phase' : ConnectPhase}
    {e : Endpoint β} (hat : s.loop.phase connection = phase) (hnext : t.loop.phase connection = phase')
    (he : t.externalConnectionsList_ connection = e)
    (hsent : e.connection.sent = (s.externalConnectionsList_ connection).connection.sent)
    (h : (s.externalConnectionsList_ connection).Moves (settings.modules connection) phase
      (if s.closes connection t then [.closeConnection] else []) phase' e) :
    (s.externalConnectionsList_ connection).Moves (settings.modules connection) (s.loop.phase connection)
      (channelCalls connection s (.client connectedDevices sent) t) (t.loop.phase connection)
      (t.externalConnectionsList_ connection) := by
  subst hat hnext he
  simpa [channelCalls, Endpoint.sendCalls_nil hsent] using h

/-- The item at the front of `reconnectQueue_` is handled. -/
theorem moves_of_item {connectedDevices : List DeviceIdentification} {sent : Bool} (hloop : s.loop = .looping)
    {reconnectItem : ReconnectQueueItem} {rest : List ReconnectQueueItem}
    (hqueue : s.reconnectQueue_ = reconnectItem :: rest) {e : Endpoint β} {l : ClientLoop} {phase : ConnectPhase}
    (hphase : ∀ connection, connection ≠ reconnectItem.connection_ → l.phase connection = .outside)
    (hnext : l.phase reconnectItem.connection_ = phase)
    (h : (s.externalConnectionsList_ reconnectItem.connection_).Moves (settings.modules reconnectItem.connection_)
      .outside [.closeConnection] phase e)
    (hsent : e.connection.sent = (s.externalConnectionsList_ reconnectItem.connection_).connection.sent)
    (connection : ℕ) :
    let t := (s.setEndpoint reconnectItem.connection_ e).goto l
    (s.externalConnectionsList_ connection).Moves (settings.modules connection) (s.loop.phase connection)
      (channelCalls connection s (.client connectedDevices sent) t) (t.loop.phase connection)
      (t.externalConnectionsList_ connection) := by
  by_cases hc : connection = reconnectItem.connection_
  · subst hc
    have hat : s.loop.phase reconnectItem.connection_ = .outside := by rw [hloop]; rfl
    refine moves_of_silent hat hnext (Function.update_self ..) hsent ?_
    simpa [closes, hloop, hqueue] using h
  · refine moves_of_same ?_ ?_ (Function.update_of_ne hc ..)
    · rw [hloop]
      exact hphase connection hc
    · simp [closes, hloop, hqueue, Ne.symm hc]

/-- The client thread leaves `drainQueueDuringConnect`; the end of the gateway interrupts the connect thread. -/
theorem moves_of_joining {connectedDevices : List DeviceIdentification} {sent : Bool} {connection' : ℕ}
    {fromQueue : Bool}
    (hloop : s.loop = .connecting connection' fromQueue ∨ s.loop = .polling connection' fromQueue) (connection : ℕ) :
    let t := s.goto (.joining connection' fromQueue)
    (s.externalConnectionsList_ connection).Moves (settings.modules connection) (s.loop.phase connection)
      (channelCalls connection s (.client connectedDevices sent) t) (t.loop.phase connection)
      (t.externalConnectionsList_ connection) := by
  intro t
  have hphase : t.loop.phase connection = s.loop.phase connection := by
    rcases hloop with hloop | hloop <;> rw [hloop] <;> rfl
  by_cases hcloses : s.closes connection t = true
  · have hc : connection = connection' := by
      rcases hloop with hloop | hloop <;>
        · simp only [closes, hloop, Bool.and_eq_true, decide_eq_true_eq] at hcloses
          exact hcloses.1.1.1
    have hat : s.loop.phase connection = .running := by
      rcases hloop with hloop | hloop <;> rw [hloop] <;> exact if_pos hc
    refine moves_of_silent hat (hphase.trans hat) rfl rfl ?_
    rw [if_pos hcloses]
    exact .cancelPendingConnect _
  · exact moves_of_same hphase (Bool.eq_false_iff.mpr hcloses) rfl

/-- Each section of the client thread moves every connection. -/
theorem handleAggregatedMessages_moves {connectedDevices : List DeviceIdentification} {sent : Bool}
    (hawaiting : ∀ connection connectedDevices, s.loop.connectedDevices = some (connection,connectedDevices) →
      ∀ device ∈ connectedDevices, (settings.modules connection device.module_).isSome)
    (ht : s.handleAggregatedMessages settings connectedDevices sent = some t) (connection : ℕ) :
    (s.externalConnectionsList_ connection).Moves (settings.modules connection) (s.loop.phase connection)
      (channelCalls connection s (.client connectedDevices sent) t) (t.loop.phase connection)
      (t.externalConnectionsList_ connection) := by
  unfold Client.handleAggregatedMessages at ht
  split at ht <;> rename_i hloop
  · split at ht
    · cases ht
    · split at ht
      · rename_i hqueue
        cases ht
        exact moves_of_same (by rw [hloop]; rfl) (by simp [closes, hloop, hqueue]) rfl
      · rename_i reconnectItem rest hqueue
        dsimp only at ht
        split at ht
        · cases ht
          have hnext : ClientLoop.phase (.draining reconnectItem.connection_ true) reconnectItem.connection_ =
              .prepared := if_pos rfl
          exact moves_of_item hloop hqueue (fun connection hc => by simp [ClientLoop.phase, hc]) hnext
            (.reconnect _) rfl connection
        · cases ht
          have hnext : ClientLoop.phase .popping reconnectItem.connection_ = .outside := rfl
          exact moves_of_item hloop hqueue (fun _ _ => rfl) hnext (.drop _) rfl connection
  · cases ht
    exact moves_of_same (by rw [hloop]; rfl) (by simp [closes, hloop]) rfl
  · split at ht
    · cases ht
      exact moves_of_same (by rw [hloop]; rfl) (by simp [closes, hloop]) rfl
    · rename_i message queue hqueue
      have hpasses := sendStatus_passes settings { s with toExternalQueue_ := queue } message sent connection
      dsimp only at ht
      split at ht
      · cases ht
        exact moves_of_passes (by rw [hloop]; rfl) (by simp [closes, hloop]) hpasses
      · rename_i connection' hsome
        cases ht
        by_cases hc : connection = connection'
        · subst hc
          obtain ⟨hnot,hfilled⟩ := sendStatus_begins hsome
          have hnext : ClientLoop.phase (.draining connection false) connection = .prepared := if_pos rfl
          have hat : s.loop.phase connection = .outside := by rw [hloop]; rfl
          refine moves_of_silent hat hnext hfilled
            (Endpoint.fillErrorAggregator_sent _ message.devicestatus) ?_
          simpa [closes, hloop] using .begin _ message.devicestatus hnot
        · exact moves_of_passes (by rw [hloop]; exact if_neg hc) (by simp [closes, hloop]) hpasses
  · split at ht
    · cases ht
      exact moves_of_same (by rw [hloop]; rfl) (by simp [closes, hloop]) rfl
    · rename_i internalMessage queue hqueue
      split at ht
      · cases ht
        exact moves_of_same (by rw [hloop]; rfl) (by simp [closes, hloop]) rfl
      · rename_i connection' fromQueue _ _
        cases ht
        have hsame := (passOn_sameQueues settings { s with toExternalQueue_ := queue } connection' internalMessage
          sent).loop
        have hpasses := passOn_passes settings { s with toExternalQueue_ := queue } connection' internalMessage
          sent connection
        exact moves_of_passes (by rw [hsame]) (by simp [closes, hloop]) hpasses
  · split at ht
    · cases ht
      exact moves_of_same (by rw [hloop]; rfl) (by simp [closes, hloop]) rfl
    · cases ht
  · rename_i connection' devices forcedDevices fromQueue
    split at ht
    · cases ht
      by_cases hc : connection = connection'
      · subst hc
        have hat : s.loop.phase connection = .prepared := by simp [hloop, ClientLoop.phase]
        have hnext : ClientLoop.phase (.connecting connection fromQueue) connection = .running := if_pos rfl
        refine moves_of_silent hat hnext (Function.update_self ..) rfl ?_
        simpa [closes, hloop] using .startConnectThread _ devices (hawaiting _ _ (by rw [hloop]; rfl))
      · refine moves_of_same ?_ (by simp [closes, hloop]) (Function.update_of_ne hc ..)
        rw [hloop]
        exact (if_neg hc).trans (if_neg hc).symm
    · cases ht
      exact moves_of_same (by rw [hloop]; rfl) (by simp [closes, hloop]) rfl
  · rename_i connection' devices forcedDevices fromQueue
    cases ht
    unfold Client.awaitForced
    split
    · exact moves_of_same (by rw [hloop]; rfl) (by simp [closes, hloop]) rfl
    · rename_i internalMessage queue hqueue
      have hpasses := passOn_passes settings { s with toExternalQueue_ := queue } connection' internalMessage
        sent connection
      dsimp only
      split
      · split
        · exact moves_of_passes (by rw [hloop]; rfl) (by simp [closes, hloop]) hpasses
        · exact moves_of_same (by rw [hloop]; rfl) (by simp [closes, hloop]) rfl
      · exact moves_of_passes (by rw [hloop]; rfl) (by simp [closes, hloop]) hpasses
  · rename_i connection' fromQueue
    dsimp only at ht
    split at ht <;> cases ht
    · exact moves_of_joining (.inl hloop) connection
    · exact moves_of_same (by rw [hloop]; rfl) (by simp [closes, hloop, goto]) rfl
  · rename_i connection' fromQueue
    cases ht
    unfold Client.drainQueueDuringConnect
    split
    · exact moves_of_same (by rw [hloop]; rfl) (by simp [closes, hloop, goto]) rfl
    · rename_i internalMessage queue hqueue
      dsimp only
      split
      · exact moves_of_joining (.inr hloop) connection
      · rename_i hrunning
        simp only [Bool.or_eq_true, decide_eq_true_eq, not_or] at hrunning
        split
        · by_cases hc : connection = connection'
          · subst hc
            have hat : s.loop.phase connection = .running := by simp [hloop, ClientLoop.phase]
            have hnext : ClientLoop.phase (.filling connection fromQueue) connection = .running := if_pos rfl
            refine moves_of_silent hat hnext (Function.update_self ..) rfl ?_
            simpa [closes, hloop, goto] using .take _ internalMessage.devicestatus hrunning.1.2
          · exact moves_of_same (by rw [hloop]; rfl) (by simp [closes, hloop, goto]) (Function.update_of_ne hc ..)
        · have hpasses := passOn_passes settings { s with toExternalQueue_ := queue } connection' internalMessage
            sent connection
          exact moves_of_passes (by rw [hloop]; rfl) (by simp [closes, hloop, goto]) hpasses
  · rename_i connection' fromQueue
    dsimp only at ht
    split at ht
    · cases ht
    · cases ht
      exact moves_of_passes (by rw [hloop]; rfl) (by simp [closes, hloop])
        (passes_setEndpoint (.fillErrorAggregator _) connection)
  · rename_i connection' fromQueue
    split at ht
    · cases ht
    · rename_i ok hresult
      dsimp only at ht
      cases ht
      have hnext : ClientLoop.phase (if fromQueue then .popping else .looping) connection = .outside := by
        split <;> rfl
      have hconnections : ∀ u : Client β, u = (if !ok && !s.stopped then
          { s with timer_ := s.timer_ ++ [connection'] } else s) →
          u.externalConnectionsList_ = s.externalConnectionsList_ := by
        rintro u rfl
        split <;> rfl
      by_cases hc : connection = connection'
      · subst hc
        have hat : s.loop.phase connection = .running := by simp [hloop, ClientLoop.phase]
        refine moves_of_silent hat hnext (congrFun (hconnections _ rfl) connection) rfl ?_
        simpa [closes, hloop] using .join _ (Option.isSome_of_eq_some hresult)
      · refine moves_of_same ?_ (by simp [closes, hloop]) (congrFun (hconnections _ rfl) connection)
        rw [hloop]
        exact hnext.trans (if_neg hc).symm

/-- Each step of the client moves every connection, or is the rest of a round of its receive loop. -/
theorem clientStep_moves {a : ClientAction β} (hloop : ofLoop connection a = false)
    (hawaiting : ∀ connection connectedDevices, s.loop.connectedDevices = some (connection,connectedDevices) →
      ∀ device ∈ connectedDevices, (settings.modules connection device.module_).isSome)
    (ht : s.clientStep settings a = some t) :
    (s.externalConnectionsList_ connection).Moves (settings.modules connection) (s.loop.phase connection)
      (channelCalls connection s a t) (t.loop.phase connection) (t.externalConnectionsList_ connection) := by
  have hreport : ∀ connection' (r : Option Bool × Endpoint β), (s.report connection' r).loop = s.loop ∧
      (s.report connection' r).externalConnectionsList_ =
        Function.update s.externalConnectionsList_ connection' r.2 := by
    intro connection' r
    unfold Client.report
    split <;> exact ⟨rfl,rfl⟩
  cases a with
  | push internalMessage =>
    cases ht
    exact .stays _ _
  | client connectedDevices sent => exact handleAggregatedMessages_moves hawaiting ht connection
  | thread connection' answer =>
    obtain ⟨e,he,rfl⟩ := Option.map_eq_some_iff.mp ht
    by_cases hc : connection = connection'
    · subst hc
      simpa [channelCalls, setEndpoint] using .initializeConnection _ _ answer e he
    · simpa [channelCalls, setEndpoint, hc] using .stays _ _
  | receive connection' serverDisconnect message =>
    have hc : connection ≠ connection' := of_decide_eq_false hloop
    obtain ⟨-,rfl⟩ := Option.ite_some_none_eq_some.mp ht
    obtain ⟨hsame,hconnections⟩ := hreport connection' ((s.externalConnectionsList_
      connection').receivingHandlerLoop (settings.modules connection') serverDisconnect message)
    simpa [channelCalls, hsame, hconnections, hc] using .stays _ _
  | expire connection' =>
    simp only [Client.clientStep] at ht
    split at ht
    · cases ht
    · cases ht
      by_cases hc : connection = connection'
      · subst hc
        simpa [channelCalls, setEndpoint] using .expire _ _
      · simpa [channelCalls, setEndpoint, hc] using .stays _ _
  | timeout connection' =>
    simp only [Client.clientStep] at ht
    split at ht
    · cases ht
      obtain ⟨hsame,hconnections⟩ := hreport connection' (s.externalConnectionsList_ connection').timeoutHandler
      by_cases hc : connection = connection'
      · subst hc
        simpa [channelCalls, hsame, hconnections] using .timeoutHandler _ _
      · simpa [channelCalls, hsame, hconnections, hc] using .stays _ _
    · cases ht
  | reconnectTimer connection' =>
    simp only [Client.clientStep] at ht
    split at ht
    · cases ht
      exact .stays _ _
    · cases ht
  | stop =>
    cases ht
    exact .stays _ _

end Client

/-! ## A connection over a channel -/

/-- An `ICommunicationChannel` with state `σ`, and events `ε` that its server and the network cause. A call that
cannot give its result is `none`. -/
structure ICommunicationChannel (β σ ε : Type) where
  init : σ
  call : σ → ChannelCall β → Option σ
  event : σ → ε → Option σ

/-- The client with the channel of one of its connections, and what the receive loop has received in the round that
it is in. The results of the other connections are left open. -/
structure Channelled (β σ : Type) where
  client : Client β
  channel : σ
  received : Option (Option (ServerMessage β))

/-- A step of the client, one of the two halves of a round of the receive loop, or an event of the channel. -/
inductive ChannelledAction (β ε : Type) where
  | client (a : Client.ClientAction β)
  | receive (message : Option (ServerMessage β))
  | handle (serverDisconnect : Bool)
  | channel (event : ε)

namespace Channelled
variable {σ ε : Type} (channel : ICommunicationChannel β σ ε) (settings : ConnectionSettings β) (connection : ℕ)

def init : Channelled β σ := ⟨.init,channel.init,none⟩

/-- A section of the client is taken when the channel gives what it goes on with. Who closes the channel waits for the
receive loop: a round that is half way then is over, without what it would still do with its message. -/
def clientSection (s : Channelled β σ) (a : Client.ClientAction β) : Option (Channelled β σ) :=
  (s.client.clientStep settings a).bind fun t =>
    let calls := Client.channelCalls connection s.client a t
    (exec channel.call s.channel calls).map fun c => ⟨t,c,if calls.any ChannelCall.closes then none else s.received⟩

def step (s : Channelled β σ) : ChannelledAction β ε → Option (Channelled β σ)
  | .client a => if Client.ofLoop connection a then none else s.clientSection channel settings connection a
  | .receive message =>
    let e := s.client.externalConnectionsList_ connection
    if e.listening ∧ e.connection.state_ ≠ .CONNECTING ∧ s.received.isNone then
      (channel.call s.channel (.receiveMessage message)).map fun c => { s with channel := c, received := some message }
    else none
  | .handle serverDisconnect => s.received.bind fun message =>
    (s.clientSection channel settings connection (.receive connection serverDisconnect message)).map fun t =>
      { t with received := none }
  | .channel event => (channel.event s.channel event).map fun c => { s with channel := c }

/-- The calls of the channel in a step. -/
def calls (s : Channelled β σ) (a : ChannelledAction β ε) (t : Channelled β σ) : List (ChannelCall β) :=
  match a with
  | .client a => Client.channelCalls connection s.client a t.client
  | .receive message => [.receiveMessage message]
  | .handle serverDisconnect => (s.client.externalConnectionsList_ connection).receiveCalls
    (t.client.externalConnectionsList_ connection) serverDisconnect
  | .channel _ => []

variable {channel settings connection} {s t : Channelled β σ}

theorem clientSection_eq_some {a : Client.ClientAction β}
    (ht : s.clientSection channel settings connection a = some t) :
    let calls := Client.channelCalls connection s.client a t.client
    s.client.clientStep settings a = some t.client ∧ exec channel.call s.channel calls = some t.channel ∧
      t.received = if calls.any ChannelCall.closes then none else s.received := by
  obtain ⟨client,hclient,hmap⟩ := Option.bind_eq_some_iff.mp ht
  obtain ⟨c,hcalls,rfl⟩ := Option.map_eq_some_iff.mp hmap
  exact ⟨hclient,hcalls,rfl⟩

theorem step_client {a : Client.ClientAction β} (ht : s.step channel settings connection (.client a) = some t) :
    Client.ofLoop connection a = false ∧ s.client.clientStep settings a = some t.client ∧
      let calls := Client.channelCalls connection s.client a t.client
      exec channel.call s.channel calls = some t.channel ∧
        t.received = if calls.any ChannelCall.closes then none else s.received := by
  obtain ⟨hloop,hsection⟩ := Option.ite_none_left_eq_some.mp ht
  exact ⟨Bool.eq_false_iff.mpr hloop,clientSection_eq_some hsection⟩

theorem step_receive {message : Option (ServerMessage β)}
    (ht : s.step channel settings connection (.receive message) = some t) :
    (s.client.externalConnectionsList_ connection).listening = true ∧ s.received = none ∧ t.client = s.client ∧
      channel.call s.channel (.receiveMessage message) = some t.channel ∧ t.received = some message := by
  obtain ⟨⟨hlistening,-,hreceived⟩,hmap⟩ := Option.ite_none_right_eq_some.mp ht
  obtain ⟨c,hcall,rfl⟩ := Option.map_eq_some_iff.mp hmap
  exact ⟨hlistening,Option.isNone_iff_eq_none.mp hreceived,rfl,hcall,rfl⟩

/-- The second half of a round handles what the first one received. -/
theorem step_handle {serverDisconnect : Bool}
    (ht : s.step channel settings connection (.handle serverDisconnect) = some t) :
    ∃ message, s.received = some message ∧ t.received = none ∧
      s.client.clientStep settings (.receive connection serverDisconnect message) = some t.client ∧
      exec channel.call s.channel ((s.client.externalConnectionsList_ connection).receiveCalls
        (t.client.externalConnectionsList_ connection) serverDisconnect) = some t.channel := by
  obtain ⟨message,hreceived,hmap⟩ := Option.bind_eq_some_iff.mp ht
  obtain ⟨u,hsection,rfl⟩ := Option.map_eq_some_iff.mp hmap
  obtain ⟨hclient,hcalls,-⟩ := clientSection_eq_some hsection
  simp only [Client.channelCalls, if_true] at hcalls
  exact ⟨message,hreceived,rfl,hclient,hcalls⟩

/-- Over every channel the client does what it may do over some channel. -/
theorem exec_client {as : List (ChannelledAction β ε)}
    (he : exec (step channel settings connection) (init channel) as = some s) :
    ∃ bs, exec (Client.clientStep settings) Client.init bs = some s.client := by
  have hsame : ∃ bs c, exec (Client.clientStep settings) Client.init bs = some c ∧ s.client = c := by
    refine exec_forward (R := fun (s : Channelled β σ) c => s.client = c) rfl ?_ (guarded_true _ as) he
    rintro s c a t rfl - ht
    cases a with
    | client a => exact ⟨[a],t.client,exec_cons_eq_some.mpr ⟨t.client,(step_client ht).2.1,rfl⟩,rfl⟩
    | receive message => exact ⟨[],s.client,rfl,(step_receive ht).2.2.1⟩
    | handle serverDisconnect =>
      obtain ⟨message,-,-,hclient,-⟩ := step_handle ht
      exact ⟨[.receive connection serverDisconnect message],t.client,exec_cons_eq_some.mpr ⟨t.client,hclient,rfl⟩,rfl⟩
    | channel event =>
      obtain ⟨c,-,rfl⟩ := Option.map_eq_some_iff.mp ht
      exact ⟨[],s.client,rfl,rfl⟩
  obtain ⟨bs,c,hbs,rfl⟩ := hsame
  exact ⟨bs,hbs⟩

/-- The rest of a round, for the connection. -/
theorem step_handle_endpoint {serverDisconnect : Bool} {message : Option (ServerMessage β)}
    (hclient : s.client.clientStep settings (.receive connection serverDisconnect message) = some t.client) :
    let e := s.client.externalConnectionsList_ connection
    e.listening = true ∧ t.client.loop = s.client.loop ∧ t.client.externalConnectionsList_ connection =
      (e.receivingHandlerLoop (settings.modules connection) serverDisconnect message).2 := by
  obtain ⟨⟨hlistening,-⟩,h⟩ := Option.ite_some_none_eq_some.mp hclient
  rw [← h]
  unfold Client.report
  split <;> exact ⟨hlistening,rfl,Function.update_self ..⟩

/-- What holds of the connection, its channel and what its receive loop has received, and is kept by every move with
its calls, by both halves of a round and by every event, holds in every run. The order of the messages may be used. -/
theorem exec_channelled {I : ConnectPhase → Endpoint β → σ → Option (Option (ServerMessage β)) → Prop}
    (h0 : I .outside .init channel.init none)
    (hmoves : ∀ phase e calls phase' e' c c' received, e.Moves (settings.modules connection) phase calls phase' e' →
      e.Converses (settings.modules connection) phase → exec channel.call c calls = some c' → I phase e c received →
        I phase' e' c' (if calls.any ChannelCall.closes then none else received))
    (hreceives : ∀ phase e c c' message, e.listening = true →
      channel.call c (.receiveMessage message) = some c' → I phase e c none → I phase e c' (some message))
    (hhandles : ∀ phase e c c' message serverDisconnect, e.listening = true →
      e.Converses (settings.modules connection) phase →
        let e' := (e.receivingHandlerLoop (settings.modules connection) serverDisconnect message).2
        exec channel.call c (e.receiveCalls e' serverDisconnect) = some c' → I phase e c (some message) →
          I phase e' c' none)
    (hevents : ∀ phase e c event c' received, channel.event c event = some c' → I phase e c received →
      I phase e c' received)
    {as : List (ChannelledAction β ε)} (he : exec (step channel settings connection) (init channel) as = some s) :
    I (s.client.loop.phase connection) (s.client.externalConnectionsList_ connection) s.channel s.received := by
  refine exec_run_invariant (I := fun _ s => I (s.client.loop.phase connection)
    (s.client.externalConnectionsList_ connection) s.channel s.received) h0 ?_ he
  intro as s a t hrun hs ht
  obtain ⟨bs,hbs⟩ := exec_client hrun
  have hconverses := Client.exec_converses hbs
  cases a with
  | client a =>
    obtain ⟨hloop,hclient,hcalls,hreceived⟩ := step_client ht
    rw [hreceived]
    exact hmoves _ _ _ _ _ _ _ _ (Client.clientStep_moves hloop hconverses.awaiting hclient)
      (hconverses.endpoints connection) hcalls hs
  | receive message =>
    obtain ⟨hlistening,hnone,hclient,hcall,hreceived⟩ := step_receive ht
    rw [hclient, hreceived]
    exact hreceives _ _ _ _ _ hlistening hcall (hnone ▸ hs)
  | handle serverDisconnect =>
    obtain ⟨message,hreceived,hnone,hclient,hcalls⟩ := step_handle ht
    obtain ⟨hlistening,hloop,hendpoint⟩ := step_handle_endpoint hclient
    rw [hendpoint] at hcalls ⊢
    rw [hloop, hnone]
    exact hhandles _ _ _ _ _ _ hlistening (hconverses.endpoints connection) hcalls (hreceived ▸ hs)
  | channel event =>
    obtain ⟨c,hc,rfl⟩ := Option.map_eq_some_iff.mp ht
    exact hevents _ _ _ _ _ _ hc hs

end Channelled

end ModuleGateway.ExternalClient
