import ModuleGateway.ExternalClient.Endpoints

/-! # The phases of a connect sequence

The client thread calls the functions of a connection in some states only, with statuses from
`toExternalQueue_`, and a connect thread runs only while the client thread is in the sequence that
started it. A property of the connections, which may depend on where the sequence is, holds in
every run when every function keeps it where it is called.
-/
namespace ModuleGateway.ExternalClient
open Structures ExternalConnection Execution

variable {β : Type}

/-- Whether the client thread is in a connect sequence for the connection: before its connect
thread is started, or until that is joined. -/
inductive ConnectPhase where
  | outside
  | prepared
  | running
deriving DecidableEq

def ClientLoop.phase (loop : ClientLoop) (connection : ℕ) : ConnectPhase :=
  match loop with
  | .draining connection' _ | .forcing connection' _ | .awaiting connection' _ _ _ | .receiving connection' _ _ _ =>
    if connection = connection' then .prepared else .outside
  | .connecting connection' _ | .polling connection' _ | .filling connection' _ | .joining connection' _ =>
    if connection = connection' then .running else .outside
  | _ => .outside

/-- The devices that the connect thread of the sequence is to announce. -/
def ClientLoop.connectedDevices : ClientLoop → Option (ℕ × List DeviceIdentification)
  | .awaiting connection connectedDevices _ _ | .receiving connection connectedDevices _ _ =>
    some (connection,connectedDevices)
  | _ => none

variable [BufferType β]

namespace Client
variable {settings : ConnectionSettings β} {passed : DeviceStatus β → Prop}
  {p : ℕ → ConnectPhase → Endpoint β → Prop} {s t : Client β}

/-- A property of the connections that every function of theirs keeps where the client calls it;
`passed` holds of the statuses that go through the queue. -/
structure EndpointKeeps (settings : ConnectionSettings β) (passed : DeviceStatus β → Prop)
    (p : ℕ → ConnectPhase → Endpoint β → Prop) : Prop where
  fillErrorAggregator : ∀ connection phase e status, passed status ∨ e.connection.inFlight = some status →
    p connection phase e → p connection phase (e.fillErrorAggregator (settings.modules connection) status)
  sendStatus : ∀ connection phase e status deviceState sent, passed status → e.connection.state_ = .CONNECTED →
    p connection phase e → p connection phase (e.sendStatus (settings.modules connection) status deviceState sent)
  take : ∀ connection (e : Endpoint β) status, passed status → e.connection.state_ ≠ .CONNECTED →
    p connection .running e →
      p connection .running { e with connection := { e.connection with inFlight := some status } }
  initializeConnection : ∀ connection phase e answer e',
    e.initializeConnection (settings.modules connection) answer = some e' → p connection phase e →
      p connection phase e'
  receivingHandlerLoop : ∀ connection phase e serverDisconnect message, e.listening = true →
    e.connection.state_ ≠ .CONNECTING → p connection phase e →
      p connection phase (e.receivingHandlerLoop (settings.modules connection) serverDisconnect message).2
  expire : ∀ connection phase (e : Endpoint β), p connection phase e →
    p connection phase { e with expired := e.expired + 1 }
  timeoutHandler : ∀ connection phase e, p connection phase e → p connection phase e.timeoutHandler.2
  /-- For an item of `reconnectQueue_`, before the sequence or without one. -/
  deinitializeConnection : ∀ connection e, p connection .outside e →
    p connection .prepared (e.deinitializeConnection (settings.modules connection)) ∧
      p connection .outside (e.deinitializeConnection (settings.modules connection)).setNotInitialized
  /-- A status starts a sequence. -/
  begin : ∀ connection e, e.connection.state_ = .NOT_INITIALIZED → p connection .outside e →
    p connection .prepared e
  startConnectThread : ∀ connection e connectedDevices,
    (∀ device ∈ connectedDevices, (settings.modules connection device.module_).isSome) → p connection .prepared e →
      p connection .running (e.startConnectThread (settings.modules connection) connectedDevices)
  join : ∀ connection (e : Endpoint β), e.connectResult.isSome → p connection .running e → p connection .outside e

/-- The connections have the property, and what waits for them is as it should be. -/
structure Carries (settings : ConnectionSettings β) (passed : DeviceStatus β → Prop)
    (p : ℕ → ConnectPhase → Endpoint β → Prop) (s : Client β) : Prop where
  queue : ∀ message ∈ s.toExternalQueue_, passed message.devicestatus
  awaiting : ∀ connection connectedDevices, s.loop.connectedDevices = some (connection,connectedDevices) →
      ∀ device ∈ connectedDevices, (settings.modules connection device.module_).isSome
  endpoints : ∀ connection, p connection (s.loop.phase connection) (s.externalConnectionsList_ connection)

namespace Carries

theorem init (h : ∀ connection, p connection .outside Endpoint.init) : (init : Client β).Carries settings passed p :=
  ⟨by rintro _ ⟨⟩,by rintro _ _ ⟨⟩,h⟩

/-- The client thread goes on, and nobody's phase changes. -/
theorem goto (hs : s.Carries settings passed p) {loop : ClientLoop}
    (h : ∀ connection connectedDevices, loop.connectedDevices = some (connection,connectedDevices) →
        ∀ device ∈ connectedDevices, (settings.modules connection device.module_).isSome)
    (hphase : loop.phase = s.loop.phase) : (s.goto loop).Carries settings passed p := by
  refine ⟨hs.queue,h,?_⟩
  intro connection
  change p connection (loop.phase connection) _
  rw [hphase]
  exact hs.endpoints connection

theorem setEndpoint (hs : s.Carries settings passed p) {connection : ℕ} {e : Endpoint β}
    (he : p connection (s.loop.phase connection) e) : (s.setEndpoint connection e).Carries settings passed p := by
  refine ⟨hs.queue,hs.awaiting,?_⟩
  intro connection'
  by_cases hc : connection' = connection
  · subst hc
    simpa only [Client.setEndpoint, Function.update_self] using he
  · simpa only [Client.setEndpoint, Function.update_of_ne hc] using hs.endpoints connection'

/-- The client thread goes on, and the phase of one connection changes. -/
theorem moves (hs : s.Carries settings passed p) {connection : ℕ} {e : Endpoint β} {loop : ClientLoop}
    (h : loop.connectedDevices = none)
    (hphase : ∀ connection', connection' ≠ connection → loop.phase connection' = s.loop.phase connection')
    (he : p connection (loop.phase connection) e) :
    ((s.setEndpoint connection e).goto loop).Carries settings passed p := by
  refine ⟨hs.queue,fun _ _ hloop => absurd (h.symm.trans hloop) nofun,?_⟩
  intro connection'
  by_cases hc : connection' = connection
  · subst hc
    simpa only [Client.goto, Client.setEndpoint, Function.update_self] using he
  · simp only [Client.goto, Client.setEndpoint, Function.update_of_ne hc]
    rw [hphase connection' hc]
    exact hs.endpoints connection'

theorem popped (hs : s.Carries settings passed p) {message : InternalClientMessage β}
    {queue : List (InternalClientMessage β)} (hqueue : s.toExternalQueue_ = message :: queue) :
    passed message.devicestatus ∧ { s with toExternalQueue_ := queue }.Carries settings passed p := by
  refine ⟨hs.queue message (by rw [hqueue]; exact List.mem_cons_self),?_,hs.awaiting,hs.endpoints⟩
  exact fun m hm => hs.queue m (by rw [hqueue]; exact List.mem_cons_of_mem message hm)

theorem report (hs : s.Carries settings passed p) {connection : ℕ} {r : Option Bool × Endpoint β}
    (hr : p connection (s.loop.phase connection) r.2) : (s.report connection r).Carries settings passed p := by
  have hset := hs.setEndpoint hr
  unfold Client.report
  split
  · exact hset
  · exact ⟨hset.queue,hset.awaiting,hset.endpoints⟩

variable (h : EndpointKeeps settings passed p)
include h

theorem sendStatus (hs : s.Carries settings passed p) {internalMessage : InternalClientMessage β}
    (hpassed : passed internalMessage.devicestatus) (sent : Bool) :
    (s.sendStatus settings internalMessage sent).2.Carries settings passed p := by
  simp only [Client.sendStatus]
  split
  · exact hs
  · split
    · exact hs.setEndpoint (h.fillErrorAggregator _ _ _ _ (.inl hpassed) (hs.endpoints _))
    · rename_i hstate
      exact hs.setEndpoint (h.sendStatus _ _ _ _ _ _ hpassed (not_not.mp hstate) (hs.endpoints _))

theorem passOn (hs : s.Carries settings passed p) (connection : ℕ) {internalMessage : InternalClientMessage β}
    (hpassed : passed internalMessage.devicestatus) (sent : Bool) :
    (s.passOn settings connection internalMessage sent).Carries settings passed p := by
  simp only [Client.passOn]
  split
  · exact hs.setEndpoint (h.fillErrorAggregator _ _ _ _ (.inl hpassed) (hs.endpoints _))
  · exact hs.sendStatus h hpassed sent

omit h in
/-- Passing a message on does not move the client thread. -/
theorem passOn_loop (s : Client β) (connection : ℕ) (internalMessage : InternalClientMessage β) (sent : Bool) :
    (s.passOn settings connection internalMessage sent).loop = s.loop :=
  (passOn_sameQueues settings s connection internalMessage sent).loop

theorem awaitForced (hs : s.Carries settings passed p) {connection : ℕ}
    {connectedDevices forcedDevices : List DeviceIdentification} {fromQueue : Bool}
    (hloop : s.loop = .receiving connection connectedDevices forcedDevices fromQueue) (sent : Bool) :
    (s.awaitForced settings connection connectedDevices forcedDevices fromQueue sent).Carries settings passed p := by
  -- the next round, whatever the devices it still waits for are
  have hround {u : Client β} (hu : u.Carries settings passed p) (hsame : u.loop = s.loop)
      (forcedDevices' : List DeviceIdentification) :
      (u.goto (.awaiting connection connectedDevices forcedDevices' fromQueue)).Carries settings passed p := by
    refine hu.goto ?_ (by rw [hsame, hloop]; rfl)
    rintro _ _ ⟨⟩
    exact hs.awaiting _ _ (by rw [hloop]; rfl)
  unfold Client.awaitForced
  split
  · exact hround hs rfl _
  · rename_i internalMessage queue hqueue
    obtain ⟨hpassed,hpopped⟩ := hs.popped hqueue
    have hpassOn := hpopped.passOn h connection hpassed sent
    dsimp only
    split
    · split
      · exact hround hpassOn (passOn_loop _ _ _ _) _
      · refine hround (u := { s with toExternalQueue_ := queue ++ [internalMessage] })
          ⟨?_,hpopped.awaiting,hpopped.endpoints⟩ rfl _
        intro m hm
        rcases List.mem_append.mp hm with hm | hm
        · exact hpopped.queue m hm
        · rwa [List.mem_singleton.mp hm]
    · exact hround hpassOn (passOn_loop _ _ _ _) _

theorem drainQueueDuringConnect (hs : s.Carries settings passed p) {connection : ℕ} {fromQueue : Bool}
    (hloop : s.loop = .polling connection fromQueue) (sent : Bool) :
    (s.drainQueueDuringConnect settings connection fromQueue sent).Carries settings passed p := by
  unfold Client.drainQueueDuringConnect
  split
  · exact hs.goto (by rintro _ _ ⟨⟩) (by rw [hloop]; rfl)
  · rename_i internalMessage queue hqueue
    obtain ⟨hpassed,hpopped⟩ := hs.popped hqueue
    dsimp only
    split
    · exact hs.goto (by rintro _ _ ⟨⟩) (by rw [hloop]; rfl)
    · rename_i hrunning
      simp only [Bool.or_eq_true, decide_eq_true_eq, not_or] at hrunning
      split
      · have hphase : s.loop.phase connection = .running := by
          rw [hloop]
          exact if_pos rfl
        refine hpopped.moves rfl ?_ ?_
        · intro connection' _
          change _ = s.loop.phase connection'
          rw [hloop]
          rfl
        · simp only [ClientLoop.phase, if_true]
          exact h.take _ _ _ hpassed hrunning.1.2 (hphase ▸ hs.endpoints connection)
      · refine (hpopped.passOn h connection hpassed sent).goto (by rintro _ _ ⟨⟩) ?_
        rw [passOn_loop, hloop]
        rfl

omit h in
/-- A connect sequence that is asked for is for a connection without a session. -/
theorem sendStatus_some (s : Client β) {internalMessage : InternalClientMessage β} {sent : Bool} {connection : ℕ}
    (hsome : (s.sendStatus settings internalMessage sent).1 = some connection) :
    (((s.sendStatus settings internalMessage sent).2).externalConnectionsList_ connection).connection.state_ =
      .NOT_INITIALIZED := by
  simp only [Client.sendStatus] at hsome ⊢
  split at hsome
  · cases hsome
  · split at hsome
    · rename_i hstate
      split at hsome
      · rename_i hstate'
        obtain rfl := Option.some.inj hsome
        rw [if_pos hstate]
        simpa only [Client.setEndpoint, Function.update_self] using hstate'
      · cases hsome
    · cases hsome

theorem handleAggregatedMessages (hs : s.Carries settings passed p) {connectedDevices : List DeviceIdentification}
    {sent : Bool} (ht : s.handleAggregatedMessages settings connectedDevices sent = some t) :
    t.Carries settings passed p := by
  unfold Client.handleAggregatedMessages at ht
  split at ht
  · rename_i hloop
    have houtside : ∀ connection, s.loop.phase connection = .outside := fun _ => by rw [hloop]; rfl
    split at ht
    · cases ht
    · split at ht
      · cases ht
        exact hs.goto (by rintro _ _ ⟨⟩) (by rw [hloop]; rfl)
      · rename_i reconnectItem _ _
        have he := hs.endpoints reconnectItem.connection_
        rw [houtside] at he
        obtain ⟨hprepared,hdropped⟩ := h.deinitializeConnection _ _ he
        dsimp only at ht
        split at ht
        · cases ht
          refine hs.moves rfl ?_ (by simpa only [ClientLoop.phase, if_true] using hprepared)
          intro connection hc
          rw [houtside]
          exact if_neg hc
        · cases ht
          exact hs.moves rfl (fun connection _ => (houtside connection).symm) hdropped
  · rename_i hloop
    cases ht
    refine Carries.goto (s := { s with reconnectQueue_ := s.reconnectQueue_.tail })
      ⟨hs.queue,hs.awaiting,hs.endpoints⟩ (by rintro _ _ ⟨⟩) ?_
    change _ = s.loop.phase
    rw [hloop]
    rfl
  · rename_i hloop
    split at ht
    · cases ht
      exact hs.goto (by rintro _ _ ⟨⟩) (by rw [hloop]; rfl)
    · rename_i message queue hqueue
      obtain ⟨hpassed,hpopped⟩ := hs.popped hqueue
      have hsent := hpopped.sendStatus h hpassed sent
      have hsame : ({ s with toExternalQueue_ := queue }.sendStatus settings message sent).2.loop = .waiting :=
        (sendStatus_sameQueues settings _ message sent).loop.trans hloop
      dsimp only at ht
      split at ht
      · cases ht
        exact hsent.goto (by rintro _ _ ⟨⟩) (by rw [hsame]; rfl)
      · rename_i connection hsome
        cases ht
        have hstate := sendStatus_some _ hsome
        have he := hsent.endpoints connection
        rw [hsame] at he
        refine ⟨hsent.queue,by rintro _ _ ⟨⟩,?_⟩
        intro connection'
        by_cases hc : connection' = connection
        · subst hc
          simpa only [Client.goto, ClientLoop.phase, if_true] using h.begin _ _ hstate he
        · have he' := hsent.endpoints connection'
          rw [hsame] at he'
          simpa only [Client.goto, ClientLoop.phase, if_neg hc] using he'
  · rename_i hloop
    split at ht
    · cases ht
      exact hs.goto (by rintro _ _ ⟨⟩) (by rw [hloop]; rfl)
    · rename_i internalMessage queue hqueue
      split at ht
      · cases ht
        exact hs.goto (by rintro _ _ ⟨⟩) (by rw [hloop]; rfl)
      · cases ht
        obtain ⟨hpassed,hpopped⟩ := hs.popped hqueue
        exact hpopped.passOn h _ hpassed sent
  · rename_i hloop
    split at ht
    · rename_i hall
      cases ht
      refine hs.goto ?_ (by rw [hloop]; rfl)
      rintro _ _ ⟨⟩
      exact List.all_eq_true.mp hall
    · cases ht
  · rename_i connection connectedDevices forcedDevices fromQueue hloop
    split at ht
    · cases ht
      have he := hs.endpoints connection
      rw [hloop] at he
      simp only [ClientLoop.phase, if_true] at he
      refine hs.moves rfl ?_ ?_
      · intro connection' hc
        rw [hloop]
        simp only [ClientLoop.phase, if_neg hc]
      · simpa only [ClientLoop.phase, if_true] using
          h.startConnectThread _ _ _ (hs.awaiting _ _ (by rw [hloop]; rfl)) he
    · cases ht
      refine hs.goto ?_ (by rw [hloop]; rfl)
      rintro _ _ ⟨⟩
      exact hs.awaiting _ _ (by rw [hloop]; rfl)
  · rename_i hloop
    cases ht
    exact hs.awaitForced h hloop _
  · rename_i hloop
    dsimp only at ht
    split at ht
    all_goals
      cases ht
      exact hs.goto (by rintro _ _ ⟨⟩) (by rw [hloop]; rfl)
  · rename_i hloop
    cases ht
    exact hs.drainQueueDuringConnect h hloop _
  · rename_i connection fromQueue hloop
    dsimp only at ht
    split at ht
    · cases ht
    · rename_i hinFlight
      cases ht
      have he := h.fillErrorAggregator _ _ _ _ (.inr hinFlight) (hs.endpoints connection)
      rw [hloop] at he
      refine hs.moves rfl ?_ he
      intro connection' _
      rw [hloop]
      rfl
  · rename_i connection fromQueue hloop
    split at ht
    · cases ht
    · rename_i ok hresult
      dsimp only at ht
      cases ht
      have he := hs.endpoints connection
      rw [hloop] at he
      simp only [ClientLoop.phase, if_true] at he
      have hjoined : ∀ c, p c .outside (s.externalConnectionsList_ c) := by
        intro c
        by_cases hc : c = connection
        · subst hc
          exact h.join _ _ (Option.isSome_of_eq_some hresult) he
        · have he' := hs.endpoints c
          rw [hloop] at he'
          simpa only [ClientLoop.phase, if_neg hc] using he'
      refine ⟨?_,?_,?_⟩
      · split <;> exact hs.queue
      · intro _ _ hloop'
        simp only [Client.goto] at hloop'
        cases fromQueue <;> cases hloop'
      · intro c
        have houtside : (if fromQueue = true then ClientLoop.popping else .looping).phase c = .outside := by
          split <;> rfl
        simp only [Client.goto, houtside]
        split <;> exact hjoined c

/-- A step keeps the property of every connection, and what is in the queue as it should be. -/
theorem clientStep (hs : s.Carries settings passed p) {a : ClientAction β}
    (ha : ∀ internalMessage, a = .push internalMessage → passed internalMessage.devicestatus)
    (ht : s.clientStep settings a = some t) : t.Carries settings passed p := by
  cases a with
  | push internalMessage =>
    cases ht
    refine ⟨?_,hs.awaiting,hs.endpoints⟩
    intro m hm
    rcases List.mem_append.mp hm with hm | hm
    · exact hs.queue m hm
    · rw [List.mem_singleton.mp hm]
      exact ha internalMessage rfl
  | client connectedDevices sent => exact hs.handleAggregatedMessages h ht
  | thread connection answer =>
    obtain ⟨e,he,rfl⟩ := Option.map_eq_some_iff.mp ht
    exact hs.setEndpoint (h.initializeConnection _ _ _ _ _ he (hs.endpoints _))
  | receive connection serverDisconnect message =>
    simp only [Client.clientStep] at ht
    split at ht
    · rename_i hlistening
      cases ht
      exact hs.report (h.receivingHandlerLoop _ _ _ _ _ hlistening.1 hlistening.2 (hs.endpoints _))
    · cases ht
  | expire connection =>
    simp only [Client.clientStep] at ht
    split at ht
    · cases ht
    · cases ht
      exact hs.setEndpoint (h.expire _ _ _ (hs.endpoints _))
  | timeout connection =>
    simp only [Client.clientStep] at ht
    split at ht
    · cases ht
      exact hs.report (h.timeoutHandler _ _ _ (hs.endpoints _))
    · cases ht
  | reconnectTimer connection =>
    simp only [Client.clientStep] at ht
    split at ht
    · cases ht
      exact ⟨hs.queue,hs.awaiting,hs.endpoints⟩
    · cases ht
  | stop =>
    cases ht
    exact ⟨hs.queue,hs.awaiting,hs.endpoints⟩

end Carries

end Client

end ModuleGateway.ExternalClient
