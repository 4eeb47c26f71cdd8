import ModuleGateway.ExternalClient.ExternalClient

/-! # What the client does to a connection

Every step of the client, of a connect thread, of a receive loop or of a timer changes the
connections by a few functions only. What these functions keep holds in every run.
-/
namespace ModuleGateway.ExternalClient
open Structures ExternalConnection Execution

variable {β : Type} [BufferType β]

namespace Client
variable {settings : ConnectionSettings β} {s t : Client β}

/-- A property of the connections that every function of theirs keeps. -/
structure EndpointInvariant (settings : ConnectionSettings β) (p : ℕ → Endpoint β → Prop) : Prop where
  fillErrorAggregator : ∀ connection e status, p connection e →
    p connection (e.fillErrorAggregator (settings.modules connection) status)
  deinitializeConnection : ∀ connection e, p connection e →
    p connection (e.deinitializeConnection (settings.modules connection))
  setNotInitialized : ∀ connection e, p connection e → p connection e.setNotInitialized
  sendStatus : ∀ connection e status deviceState sent, p connection e →
    p connection (e.sendStatus (settings.modules connection) status deviceState sent)
  take : ∀ connection (e : Endpoint β) status, p connection e →
    p connection { e with connection := { e.connection with inFlight := some status } }
  startConnectThread : ∀ connection e connectedDevices, p connection e →
    p connection (e.startConnectThread (settings.modules connection) connectedDevices)
  initializeConnection : ∀ connection e answer e',
    e.initializeConnection (settings.modules connection) answer = some e' → p connection e → p connection e'
  receivingHandlerLoop : ∀ connection e serverDisconnect message, p connection e →
    p connection (e.receivingHandlerLoop (settings.modules connection) serverDisconnect message).2
  expire : ∀ connection (e : Endpoint β), p connection e → p connection { e with expired := e.expired + 1 }
  timeoutHandler : ∀ connection e, p connection e → p connection e.timeoutHandler.2

variable {p : ℕ → Endpoint β → Prop}

omit [BufferType β] in
theorem forall_setEndpoint {connection : ℕ} {e : Endpoint β} (hs : ∀ c, p c (s.externalConnectionsList_ c))
    (he : p connection e) (c : ℕ) : p c ((s.setEndpoint connection e).externalConnectionsList_ c) := by
  by_cases hc : c = connection
  · subst hc
    simpa only [setEndpoint, Function.update_self] using he
  · simpa only [setEndpoint, Function.update_of_ne hc] using hs c

omit [BufferType β] in
theorem forall_report {connection : ℕ} {r : Option Bool × Endpoint β} (hs : ∀ c, p c (s.externalConnectionsList_ c))
    (hr : p connection r.2) (c : ℕ) : p c ((s.report connection r).externalConnectionsList_ c) := by
  have hset := forall_setEndpoint hs hr c
  unfold report
  split <;> exact hset

namespace EndpointInvariant
variable (h : EndpointInvariant settings p) (hs : ∀ c, p c (s.externalConnectionsList_ c))
include h hs

theorem forall_sendStatus (internalMessage : InternalClientMessage β) (sent : Bool) (c : ℕ) :
    p c ((s.sendStatus settings internalMessage sent).2.externalConnectionsList_ c) := by
  simp only [Client.sendStatus]
  split
  · exact hs c
  · split
    · exact forall_setEndpoint hs (h.fillErrorAggregator _ _ _ (hs _)) c
    · exact forall_setEndpoint hs (h.sendStatus _ _ _ _ _ (hs _)) c

theorem forall_passOn (connection : ℕ) (internalMessage : InternalClientMessage β) (sent : Bool) (c : ℕ) :
    p c ((s.passOn settings connection internalMessage sent).externalConnectionsList_ c) := by
  simp only [Client.passOn]
  split
  · exact forall_setEndpoint hs (h.fillErrorAggregator _ _ _ (hs _)) c
  · exact h.forall_sendStatus hs internalMessage sent c

theorem forall_awaitForced (connection : ℕ) (connectedDevices forcedDevices : List DeviceIdentification)
    (fromQueue sent : Bool) (c : ℕ) : p c ((s.awaitForced settings connection connectedDevices forcedDevices
      fromQueue sent).externalConnectionsList_ c) := by
  unfold awaitForced
  split
  · exact hs c
  · rename_i internalMessage queue hqueue
    have hpassOn := h.forall_passOn (s := { s with toExternalQueue_ := queue }) hs connection internalMessage sent c
    dsimp only
    split
    · split
      · exact hpassOn
      · exact hs c
    · exact hpassOn

theorem forall_drainQueueDuringConnect (connection : ℕ) (fromQueue sent : Bool) (c : ℕ) :
    p c ((s.drainQueueDuringConnect settings connection fromQueue sent).externalConnectionsList_ c) := by
  unfold drainQueueDuringConnect
  split
  · exact hs c
  · rename_i internalMessage queue hqueue
    dsimp only
    split
    · exact hs c
    · split
      · exact forall_setEndpoint (s := { s with toExternalQueue_ := queue }) hs (h.take _ _ _ (hs connection)) c
      · exact h.forall_passOn (s := { s with toExternalQueue_ := queue }) hs connection internalMessage sent c

theorem forall_handleAggregatedMessages {connectedDevices : List DeviceIdentification} {sent : Bool}
    (ht : s.handleAggregatedMessages settings connectedDevices sent = some t) (c : ℕ) :
    p c (t.externalConnectionsList_ c) := by
  unfold handleAggregatedMessages at ht
  split at ht
  · split at ht
    · cases ht
    · split at ht
      · cases ht
        exact hs c
      · have hclosed := h.deinitializeConnection _ _ (hs ‹ReconnectQueueItem›.connection_)
        dsimp only at ht
        split at ht
        · cases ht
          exact forall_setEndpoint hs hclosed c
        · cases ht
          exact forall_setEndpoint hs (h.setNotInitialized _ _ hclosed) c
  · cases ht
    exact hs c
  · split at ht
    · cases ht
      exact hs c
    · rename_i message queue hqueue
      have hsent := h.forall_sendStatus (s := { s with toExternalQueue_ := queue }) hs message sent c
      dsimp only at ht
      split at ht <;> cases ht <;> exact hsent
  · split at ht
    · cases ht
      exact hs c
    · rename_i internalMessage queue hqueue
      split at ht
      · cases ht
        exact hs c
      · cases ht
        exact h.forall_passOn (s := { s with toExternalQueue_ := queue }) hs _ internalMessage sent c
  · split at ht
    · cases ht
      exact hs c
    · cases ht
  · split at ht
    · cases ht
      exact forall_setEndpoint hs (h.startConnectThread _ _ _ (hs _)) c
    · cases ht
      exact hs c
  · cases ht
    exact h.forall_awaitForced hs _ _ _ _ _ c
  · dsimp only at ht
    split at ht <;> cases ht <;> exact hs c
  · cases ht
    exact h.forall_drainQueueDuringConnect hs _ _ _ c
  · dsimp only at ht
    split at ht
    · cases ht
    · cases ht
      exact forall_setEndpoint hs (h.fillErrorAggregator _ _ _ (hs _)) c
  · split at ht
    · cases ht
    · dsimp only at ht
      cases ht
      split <;> exact hs c

/-- A step keeps the property of every connection. -/
theorem forall_clientStep {a : ClientAction β} (ht : s.clientStep settings a = some t) (c : ℕ) :
    p c (t.externalConnectionsList_ c) := by
  cases a with
  | push internalMessage =>
    cases ht
    exact hs c
  | client connectedDevices sent => exact h.forall_handleAggregatedMessages hs ht c
  | thread connection answer =>
    obtain ⟨e,he,rfl⟩ := Option.map_eq_some_iff.mp ht
    exact forall_setEndpoint hs (h.initializeConnection _ _ _ _ he (hs _)) c
  | receive connection serverDisconnect message =>
    simp only [clientStep] at ht
    split at ht
    · cases ht
      exact forall_report hs (h.receivingHandlerLoop _ _ _ _ (hs _)) c
    · cases ht
  | expire connection =>
    simp only [clientStep] at ht
    split at ht
    · cases ht
    · cases ht
      exact forall_setEndpoint hs (h.expire _ _ (hs _)) c
  | timeout connection =>
    simp only [clientStep] at ht
    split at ht
    · cases ht
      exact forall_report hs (h.timeoutHandler _ _ (hs _)) c
    · cases ht
  | reconnectTimer connection =>
    simp only [clientStep] at ht
    split at ht
    · cases ht
      exact hs c
    · cases ht
  | stop =>
    cases ht
    exact hs c

end EndpointInvariant

end Client

/-! ## The statuses that wait for their response -/

namespace ExternalConnection
variable {modules : Modules β}

omit [BufferType β] in
/-- They are of modules of the connection. -/
def NotAckedSupported (modules : Modules β) (s : ExternalConnection β) : Prop :=
  ∀ status ∈ s.sentMessagesHandler_.notAckedStatuses_, (modules status.deviceStatus.device.module_).isSome

omit [BufferType β] in
theorem NotAckedSupported.of_nil {s : ExternalConnection β} (h : s.sentMessagesHandler_.notAckedStatuses_ = []) :
    s.NotAckedSupported modules := by
  unfold NotAckedSupported
  rw [h]
  exact fun _ hmem => nomatch hmem

omit [BufferType β] in
theorem NotAckedSupported.of_subset {s t : ExternalConnection β} (hs : s.NotAckedSupported modules)
    (h : t.sentMessagesHandler_.notAckedStatuses_ ⊆ s.sentMessagesHandler_.notAckedStatuses_) :
    t.NotAckedSupported modules := fun status hmem => hs status (h hmem)

theorem NotAckedSupported.fillErrorAggregator {s : ExternalConnection β} (hs : s.NotAckedSupported modules)
    (status : DeviceStatus β) : (s.fillErrorAggregator modules status).NotAckedSupported modules := by
  unfold ExternalConnection.fillErrorAggregator
  split
  · exact hs
  · exact .of_nil rfl

/-- Only a status of a module of the connection is sent. -/
theorem NotAckedSupported.sendStatus {s : ExternalConnection β} (hs : s.NotAckedSupported modules)
    (status : DeviceStatus β) (deviceState : StatusDeviceState) (errorMessage : β) (sent : Bool) :
    (s.sendStatus modules status deviceState errorMessage sent).NotAckedSupported modules := by
  by_cases h : (modules status.device.module_).isSome
  · obtain ⟨hnotAcked,-⟩ := s.switched_frame status.device deviceState
    have hsome : ¬(modules status.device.module_).isNone = true := by
      rw [Option.isNone_iff_eq_none, ← Option.not_isSome_iff_eq_none]
      exact not_not_intro h
    rw [ExternalConnection.sendStatus, if_neg hsome]
    cases sent with
    | false => exact .of_nil rfl
    | true =>
      intro notAcked hmem
      have hmem : notAcked ∈ (s.switched status.device deviceState).2.notAckedStatuses_ ++
          [s.createStatus status deviceState errorMessage] := hmem
      rw [hnotAcked] at hmem
      rcases List.mem_append.mp hmem with hmem | hmem
      · exact hs notAcked hmem
      · obtain rfl := List.mem_singleton.mp hmem
        exact h
  · rw [s.sendStatus_none status h]
    exact hs

theorem NotAckedSupported.initializeConnection {s t : ExternalConnection β} (hs : s.NotAckedSupported modules)
    {answer : Answer β} (ht : s.initializeConnection modules answer = some t) : t.NotAckedSupported modules := by
  unfold ExternalConnection.initializeConnection at ht
  split at ht
  · cases ht
  · rename_i devices _
    cases ht
    obtain h | ⟨state,-,h⟩ := s.openChannel_cases devices answer <;> rw [h] <;> exact hs
  · rename_i devices _
    cases ht
    obtain h | h := s.connectMessageHandle_cases devices answer <;> rw [h] <;> exact hs
  · cases ht
    exact hs
  · rename_i devices device remaining _
    cases ht
    obtain ⟨-,h⟩ | ⟨deviceState,-,h⟩ := s.readStatus_cases devices device remaining <;> rw [h] <;> exact hs
  · cases ht
    exact hs.sendStatus _ _ _ _
  · cases ht
    exact hs
  · rename_i devices responses _
    cases ht
    obtain ⟨-,h⟩ | ⟨counter,h⟩ := s.receiveStatusResponse_cases devices responses answer.received
    · rw [h]
      exact hs
    · rw [h]
      exact hs.of_subset (acknowledgeStatus_subset _ _)
  · cases ht
    exact hs
  · rename_i devices commands _
    cases ht
    obtain ⟨counter,queue,responses,-,⟨-,h⟩ | h⟩ := s.receiveCommand_cases modules devices commands answer.received <;>
      rw [h] <;> exact hs
  · cases ht
    exact hs
  · cases ht
    exact hs

end ExternalConnection

theorem notAckedSupported_invariant (settings : ConnectionSettings β) :
    Client.EndpointInvariant settings fun connection e =>
      e.connection.NotAckedSupported (settings.modules connection) where
  fillErrorAggregator connection e status hs := by
    unfold Endpoint.fillErrorAggregator
    split
    · have hfilled := hs.fillErrorAggregator status
      exact hfilled
    · exact hs
  deinitializeConnection connection e hs := .of_nil rfl
  setNotInitialized connection e hs := hs
  sendStatus connection e status deviceState sent hs := by
    have hsent := hs.sendStatus status deviceState BufferType.unallocated sent
    unfold Endpoint.sendStatus
    dsimp only
    split <;> exact hsent
  take connection e status hs := hs
  startConnectThread connection e connectedDevices hs := .of_nil rfl
  initializeConnection connection e answer e' he hs := by
    obtain ⟨u,hu,rfl⟩ := Option.map_eq_some_iff.mp he
    have hnext := hs.initializeConnection hu
    split <;> exact hnext
  receivingHandlerLoop connection e serverDisconnect message hs := by
    unfold Endpoint.receivingHandlerLoop
    split
    · exact hs
    · split
      · exact hs
      · split
        · exact hs
        · split
          · rename_i sessionId messageCounter deviceCommand
            obtain ⟨counter,queue,responses,h,-⟩ := e.connection.handleCommand_frame
              (settings.modules connection) sessionId messageCounter deviceCommand
            dsimp only
            split <;> (rw [h]; exact hs)
          · dsimp only
            split <;> exact fun status hmem => hs status (acknowledgeStatus_subset _ _ hmem)
          · exact hs
  expire connection e hs := hs
  timeoutHandler connection e hs := by
    unfold Endpoint.timeoutHandler
    split <;> exact hs

end ModuleGateway.ExternalClient
