import ModuleGateway.Library.Occurrences
import ModuleGateway.ExternalClient.MessageOrder

/-! # No connection is left alone

A connection that is down is brought up again by the next status of one of its devices, by its
reconnect timer, or by an item of `reconnectQueue_`; one that is up has its receive loop, and when
that ends it leaves an item behind. In every run each connection is in one of these hands, or
the client thread is in a connect sequence for it.
-/
namespace ModuleGateway.ExternalClient
open Structures ExternalConnection Execution

variable {β : Type}

/-- Past the section that sets `CONNECTED`. -/
def ConnectThread.established : ConnectThread β → Bool
  | .clearing _ | .finished true => true
  | _ => false

/-- A connect thread that has finished well is past it. -/
theorem established_of_result {e : Endpoint β} (h : e.connectResult = some true) :
    e.connection.connectThread.established = true := by
  unfold Endpoint.connectResult at h
  split at h
  · rename_i hthread
    obtain rfl := Option.some.inj h
    rw [hthread]
    rfl
  · cases h

namespace Endpoint
variable {modules : Modules β} {e e' : Endpoint β}

/-- A round of the receive loop that pushes nothing does not end it. -/
theorem receivingHandlerLoop_frame (modules : Modules β) (e : Endpoint β) (serverDisconnect : Bool)
    (message : Option (ServerMessage β)) :
    let r := e.receivingHandlerLoop modules serverDisconnect message
    r.2.connection.state_ = e.connection.state_ ∧ r.2.connection.connectThread = e.connection.connectThread ∧
      (r.1 = none → r.2.listening = e.listening) := by
  unfold Endpoint.receivingHandlerLoop
  split
  · exact ⟨rfl,rfl,by rintro ⟨⟩⟩
  · split
    · exact ⟨rfl,rfl,fun _ => rfl⟩
    · split
      · exact ⟨rfl,rfl,fun _ => rfl⟩
      · split
        · rename_i sessionId messageCounter deviceCommand
          obtain ⟨counter,queue,responses,hstate,-⟩ :=
            e.connection.handleCommand_frame modules sessionId messageCounter deviceCommand
          dsimp only
          rw [hstate]
          split
          · exact ⟨rfl,rfl,fun _ => rfl⟩
          · exact ⟨rfl,rfl,by rintro ⟨⟩⟩
        · dsimp only
          split
          · exact ⟨rfl,rfl,fun _ => rfl⟩
          · exact ⟨rfl,rfl,by rintro ⟨⟩⟩
        · exact ⟨rfl,rfl,by rintro ⟨⟩⟩

variable [BufferType β]

/-- The section that sets `CONNECTED` is the one that starts the receive loop. -/
theorem initializeConnection_established {answer : Answer β} (he : e.initializeConnection modules answer = some e')
    (h : e'.connection.connectThread.established = true) :
    (e'.connection.state_ = .CONNECTED ∧ e'.listening = true) ∨
      e.connection.connectThread.established = true ∧ e'.connection.state_ = e.connection.state_ ∧
        e'.listening = e.listening := by
  obtain ⟨c,hc,rfl⟩ := Option.map_eq_some_iff.mp he
  unfold ExternalConnection.initializeConnection at hc
  split at hc <;> rename_i hat
  · cases hc
  all_goals
    cases hc
    rw [hat] at h ⊢
  · rename_i devices
    obtain h' | ⟨state,-,h'⟩ := e.connection.openChannel_cases devices answer <;> rw [h'] at h <;> cases h
  · rename_i devices
    obtain h' | h' := e.connection.connectMessageHandle_cases devices answer <;> rw [h'] at h <;> cases h
  · cases h
  · rename_i devices device remaining
    obtain ⟨-,h'⟩ | ⟨deviceState,-,h'⟩ := e.connection.readStatus_cases devices device remaining <;>
      rw [h'] at h <;> cases h
  · cases h
  · cases h
  · rename_i devices responses
    obtain ⟨-,h'⟩ | ⟨messageCounter,h'⟩ :=
      e.connection.receiveStatusResponse_cases devices responses answer.received <;> rw [h'] at h <;> cases h
  · cases h
  · rename_i devices commands
    obtain ⟨counter,queue,responses,-,h' | h'⟩ :=
      receiveCommand_responses modules e.connection devices commands answer.received <;>
      rw [h'] at h <;> cases h
  · exact .inl ⟨rfl,rfl⟩
  · exact .inr ⟨rfl,rfl,rfl⟩

end Endpoint

namespace Client
variable {settings : ConnectionSettings β} {s t u : Client β}

/-- An item for the connection is still to be handled. -/
def Waits (s : Client β) (connection : ℕ) : Prop := ∃ item ∈ s.waitingItems, item.connection_ = connection

structure Attended (s : Client β) (connection : ℕ) : Prop where
  outside : s.loop.phase connection = .outside →
    (s.externalConnectionsList_ connection).connection.state_ = .NOT_INITIALIZED ∨
      ((s.externalConnectionsList_ connection).connection.state_ = .CONNECTED ∧
        (s.externalConnectionsList_ connection).listening = true) ∨
      connection ∈ s.timer_ ∨ s.Waits connection
  running : s.loop.phase connection = .running →
    (s.externalConnectionsList_ connection).connection.connectThread.established = true →
      (s.externalConnectionsList_ connection).connection.state_ = .CONNECTED ∧
        ((s.externalConnectionsList_ connection).listening = true ∨ s.Waits connection)

theorem waitingItems_congr (hqueue : t.reconnectQueue_ = s.reconnectQueue_)
    (hfront : t.loop.handlesFront = s.loop.handlesFront) : t.waitingItems = s.waitingItems := by
  rw [waitingItems, waitingItems, hqueue, hfront]

/-- An item that is pushed waits, and those before it do. -/
theorem waits_push {item : ReconnectQueueItem} (hqueue : t.reconnectQueue_ = s.reconnectQueue_ ++ [item])
    (hloop : t.loop = s.loop) (hfront : s.loop.handlesFront = true → s.reconnectQueue_ ≠ []) :
    t.Waits item.connection_ ∧ ∀ connection, s.Waits connection → t.Waits connection := by
  have hitems : t.waitingItems = s.waitingItems ++ [item] := by
    rw [waitingItems, waitingItems, hqueue, hloop]
    split
    · rename_i h
      obtain ⟨first,rest,hqueue⟩ := List.exists_cons_of_ne_nil (hfront h)
      rw [hqueue]
      rfl
    · rfl
  refine ⟨⟨item,by rw [hitems]; exact List.mem_append_right _ List.mem_cons_self,rfl⟩,?_⟩
  rintro connection ⟨item',hmem,hconnection⟩
  exact ⟨item',by rw [hitems]; exact List.mem_append_left _ hmem,hconnection⟩

/-- The front item is there while it is handled, and no connection is left alone before the end. -/
structure AttendsAll (s : Client β) : Prop where
  front : s.loop.handlesFront = true → s.reconnectQueue_ ≠ []
  attended : s.stopped = false → ∀ connection, s.Attended connection

theorem AttendsAll.init : (init : Client β).AttendsAll where
  front h := by cases h
  attended _ _ := ⟨fun _ => .inl rfl,by rintro ⟨⟩⟩

/-! ## What a step leaves as it is -/

/-- The connection stays as it is, or its session is closed outside of its connect sequences. -/
def SameAt (s t : Client β) (connection : ℕ) : Prop :=
  (t.externalConnectionsList_ connection).connection.connectThread =
      (s.externalConnectionsList_ connection).connection.connectThread ∧
    (((t.externalConnectionsList_ connection).connection.state_ =
          (s.externalConnectionsList_ connection).connection.state_ ∧
        (t.externalConnectionsList_ connection).listening = (s.externalConnectionsList_ connection).listening) ∨
      s.loop.phase connection = .outside ∧
        (t.externalConnectionsList_ connection).connection.state_ = .NOT_INITIALIZED)

/-- The timers go on, and every connection stays as it is. -/
structure Undisturbed (s t : Client β) : Prop where
  timer_ : s.timer_ ⊆ t.timer_
  stopped : t.stopped = s.stopped
  connections : ∀ connection, s.SameAt t connection

theorem Undisturbed.of_same (htimer : s.timer_ ⊆ t.timer_) (hstopped : t.stopped = s.stopped)
    (hconnections : t.externalConnectionsList_ = s.externalConnectionsList_) : s.Undisturbed t :=
  ⟨htimer,hstopped,fun connection => by rw [SameAt, hconnections]; exact ⟨rfl,.inl ⟨rfl,rfl⟩⟩⟩

theorem Undisturbed.refl (s : Client β) : s.Undisturbed s := .of_same (List.Subset.refl _) rfl rfl

theorem sameAt_setEndpoint_of_ne {connection connection' : ℕ} (e : Endpoint β) (hc : connection' ≠ connection) :
    s.SameAt (s.setEndpoint connection e) connection' := by
  simp only [SameAt, setEndpoint, Function.update_of_ne hc, and_self, true_or]

theorem undisturbed_setEndpoint {connection : ℕ} {e : Endpoint β}
    (hthread : e.connection.connectThread = (s.externalConnectionsList_ connection).connection.connectThread)
    (hstate : (e.connection.state_ = (s.externalConnectionsList_ connection).connection.state_ ∧
        e.listening = (s.externalConnectionsList_ connection).listening) ∨
      s.loop.phase connection = .outside ∧ e.connection.state_ = .NOT_INITIALIZED) :
    s.Undisturbed (s.setEndpoint connection e) := by
  refine ⟨List.Subset.refl _,rfl,?_⟩
  intro connection'
  by_cases hc : connection' = connection
  · subst hc
    simpa only [SameAt, setEndpoint, Function.update_self] using ⟨hthread,hstate⟩
  · exact sameAt_setEndpoint_of_ne e hc

/-- What is known of a connection goes on to hold where neither its phase nor its items change. -/
theorem Attended.of_sameAt {connection : ℕ} (hs : s.Attended connection) (h : s.SameAt t connection)
    (htimer : s.timer_ ⊆ t.timer_) (hphase : t.loop.phase connection = s.loop.phase connection)
    (hwaits : s.Waits connection → t.Waits connection) : t.Attended connection := by
  obtain ⟨hthread,hstates⟩ := h
  refine ⟨?_,?_⟩
  · intro houtside
    rw [hphase] at houtside
    rcases hstates with ⟨hstate,hlistening⟩ | ⟨-,hstate⟩
    · rw [hstate, hlistening]
      exact (hs.outside houtside).imp_right (Or.imp_right (Or.imp (fun hmem => htimer hmem) hwaits))
    · exact .inl hstate
  · intro hrunning hestablished
    rw [hphase] at hrunning
    rw [hthread] at hestablished
    rcases hstates with ⟨hstate,hlistening⟩ | ⟨houtside,-⟩
    · rw [hstate, hlistening]
      exact (hs.running hrunning hestablished).imp_right (Or.imp_right hwaits)
    · rw [hrunning] at houtside
      cases houtside

variable [BufferType β]

omit [BufferType β] in
theorem externalConnectionMap_supported {moduleNumber : ℤ} {connection : ℕ}
    (h : settings.externalConnectionMap_ moduleNumber = some connection) :
    Endpoint.isModuleSupported (settings.modules connection) moduleNumber = true := by
  obtain ⟨hlt,hsupported,-⟩ := List.findIdx?_eq_some_iff_getElem.mp h
  rw [ConnectionSettings.modules, List.getD_eq_getElem?_getD, List.getElem?_eq_getElem hlt]
  exact hsupported

theorem fillErrorAggregator_undisturbed (s : Client β) (modules : Modules β) (connection : ℕ)
    (deviceStatus : DeviceStatus β) : s.Undisturbed (s.setEndpoint connection
      ((s.externalConnectionsList_ connection).fillErrorAggregator modules deviceStatus)) := by
  obtain ⟨hstate,-,-,hthread,-⟩ :=
    (s.externalConnectionsList_ connection).connection.fillErrorAggregator_frame modules deviceStatus
  unfold Endpoint.fillErrorAggregator
  split
  · exact undisturbed_setEndpoint hthread (.inl ⟨hstate,rfl⟩)
  · exact undisturbed_setEndpoint rfl (.inl ⟨rfl,rfl⟩)

/-- A status is sent on connections that are not in a connect sequence. -/
theorem sendStatus_undisturbed (settings : ConnectionSettings β) (s : Client β)
    (internalMessage : InternalClientMessage β) (sent : Bool)
    (h : ∀ connection, settings.externalConnectionMap_ internalMessage.devicestatus.device.module_ = some connection →
      s.loop.phase connection = .outside) : s.Undisturbed (s.sendStatus settings internalMessage sent).2 := by
  simp only [Client.sendStatus]
  split
  · exact .refl s
  · rename_i connection hmap
    split
    · exact fillErrorAggregator_undisturbed s _ _ _
    · have hsupported := externalConnectionMap_supported hmap
      obtain ⟨hstate,-,-,hthread,-⟩ := (s.externalConnectionsList_ connection).connection.sendStatus_frame
        internalMessage.devicestatus hsupported (if internalMessage.disconnected then .DISCONNECT else .RUNNING)
        BufferType.unallocated sent
      refine undisturbed_setEndpoint ?_ ?_
      · simp only [Endpoint.sendStatus]
        split <;> exact hthread
      · simp only [Endpoint.sendStatus, hsupported, Bool.true_and, Bool.not_eq_true']
        cases sent with
        | true => exact .inl ⟨hstate,rfl⟩
        | false => exact .inr ⟨h connection hmap,hstate⟩

/-- A message that was popped in a connect sequence is passed on. -/
theorem passOn_undisturbed (settings : ConnectionSettings β) (s : Client β) (queue : List (InternalClientMessage β))
    (connection : ℕ) (internalMessage : InternalClientMessage β) (sent : Bool)
    (h : ∀ connection', connection' ≠ connection → s.loop.phase connection' = .outside) :
    let t := { s with toExternalQueue_ := queue }.passOn settings connection internalMessage sent
    s.Undisturbed t ∧ t.reconnectQueue_ = s.reconnectQueue_ ∧ t.loop = s.loop := by
  have hqueues := passOn_sameQueues settings { s with toExternalQueue_ := queue } connection internalMessage sent
  refine ⟨?_,hqueues.reconnectQueue_,hqueues.loop⟩
  have hpassed : { s with toExternalQueue_ := queue }.Undisturbed
      ({ s with toExternalQueue_ := queue }.passOn settings connection internalMessage sent) := by
    simp only [Client.passOn]
    split
    · exact fillErrorAggregator_undisturbed _ _ _ _
    · rename_i hunsupported
      refine sendStatus_undisturbed settings _ _ sent ?_
      intro connection' hmap
      refine h connection' ?_
      rintro rfl
      exact hunsupported (externalConnectionMap_supported hmap)
  exact ⟨hpassed.timer_,hpassed.stopped,hpassed.connections⟩

/-! ## One step -/

namespace AttendsAll

omit [BufferType β] in
/-- A step that concerns at most one connection, and takes no item away. -/
theorem step (hs : s.AttendsAll) (connection : ℕ) (htimer : s.timer_ ⊆ t.timer_) (hstopped : t.stopped = s.stopped)
    (hqueue : t.reconnectQueue_ = s.reconnectQueue_) (hfront : t.loop.handlesFront = s.loop.handlesFront)
    (hphase : ∀ connection', connection' ≠ connection → t.loop.phase connection' = s.loop.phase connection')
    (hothers : ∀ connection', connection' ≠ connection → s.SameAt t connection')
    (hattended : s.stopped = false → t.Attended connection) : t.AttendsAll := by
  refine ⟨by rw [hfront, hqueue]; exact hs.front,?_⟩
  intro hrunning connection'
  rw [hstopped] at hrunning
  by_cases hc : connection' = connection
  · subst hc
    exact hattended hrunning
  · refine (hs.attended hrunning connection').of_sameAt (hothers connection' hc) htimer (hphase connection' hc) ?_
    rw [Waits, Waits, waitingItems_congr hqueue hfront]
    exact id

omit [BufferType β] in
theorem of_undisturbed (hs : s.AttendsAll) (h : s.Undisturbed t) (hqueue : t.reconnectQueue_ = s.reconnectQueue_)
    (hphase : t.loop.phase = s.loop.phase) (hfront : t.loop.handlesFront = s.loop.handlesFront) : t.AttendsAll := by
  refine hs.step 0 h.timer_ h.stopped hqueue hfront (fun connection _ => congrFun hphase connection)
    (fun connection _ => h.connections connection) ?_
  intro hrunning
  refine (hs.attended hrunning 0).of_sameAt (h.connections 0) h.timer_ (congrFun hphase 0) ?_
  rw [Waits, Waits, waitingItems_congr hqueue hfront]
  exact id

omit [BufferType β] in
/-- The client thread goes on, and nobody's phase changes. -/
theorem goto (hs : s.AttendsAll) (h : s.Undisturbed u) (hqueue : u.reconnectQueue_ = s.reconnectQueue_)
    {l : ClientLoop} (hphase : l.phase = s.loop.phase) (hfront : l.handlesFront = s.loop.handlesFront) :
    (u.goto l).AttendsAll :=
  hs.of_undisturbed ⟨h.timer_,h.stopped,h.connections⟩ hqueue hphase hfront

omit [BufferType β] in
/-- The item at the front is handled: its connection is closed, and maybe comes up again. -/
theorem handlesItem (hs : s.AttendsAll) (hloop : s.loop = .looping) {reconnectItem : ReconnectQueueItem}
    {rest : List ReconnectQueueItem} (hqueue : s.reconnectQueue_ = reconnectItem :: rest) {e : Endpoint β}
    (hstate : e.connection.state_ = .NOT_INITIALIZED) {loop : ClientLoop} (hfront : loop.handlesFront = true)
    (hphase : ∀ connection, connection ≠ reconnectItem.connection_ → loop.phase connection = .outside)
    (hrunning : loop.phase reconnectItem.connection_ ≠ .running) :
    ((s.setEndpoint reconnectItem.connection_ e).goto loop).AttendsAll := by
  refine ⟨fun _ => by change s.reconnectQueue_ ≠ []; rw [hqueue]; exact List.cons_ne_nil _ _,?_⟩
  intro hstopped connection
  by_cases hc : connection = reconnectItem.connection_
  · subst hc
    refine ⟨fun _ => .inl ?_,fun h => absurd h hrunning⟩
    simpa only [Client.goto, setEndpoint, Function.update_self] using hstate
  · have hbefore := hs.attended hstopped connection
    have hsame : ((s.setEndpoint reconnectItem.connection_ e).goto loop).externalConnectionsList_ connection =
        s.externalConnectionsList_ connection := Function.update_of_ne hc ..
    refine ⟨fun _ => ?_,fun h => absurd ((hphase connection hc).symm.trans h) ConnectPhase.noConfusion⟩
    rw [hsame]
    refine (hbefore.outside (by rw [hloop]; rfl)).imp_right (Or.imp_right (Or.imp_right ?_))
    rintro ⟨item,hmem,rfl⟩
    refine ⟨item,?_,rfl⟩
    simp only [waitingItems, hloop, hqueue, ClientLoop.handlesFront, Bool.false_eq_true, if_false] at hmem
    have hitems : ((s.setEndpoint reconnectItem.connection_ e).goto loop).waitingItems = rest := by
      rw [waitingItems]
      simp only [Client.goto, setEndpoint, hfront, if_true, hqueue, List.tail_cons]
    rw [hitems]
    exact (List.mem_cons.mp hmem).resolve_left fun h => hc (congrArg ReconnectQueueItem.connection_ h)

theorem awaitForced (hs : s.AttendsAll) {connection : ℕ} {connectedDevices forcedDevices : List DeviceIdentification}
    {fromQueue : Bool} (hloop : s.loop = .receiving connection connectedDevices forcedDevices fromQueue)
    (sent : Bool) :
    (s.awaitForced settings connection connectedDevices forcedDevices fromQueue sent).AttendsAll := by
  unfold Client.awaitForced
  split
  · exact hs.goto (.refl s) rfl (by rw [hloop]; rfl) (by rw [hloop]; rfl)
  · rename_i internalMessage queue hqueue
    obtain ⟨hpassed,hitems,-⟩ := passOn_undisturbed settings s queue connection internalMessage sent
      fun connection' hc => by rw [hloop]; exact if_neg hc
    dsimp only
    split
    · split
      · exact hs.goto hpassed hitems (by rw [hloop]; rfl) (by rw [hloop]; rfl)
      · refine hs.goto (u := { s with toExternalQueue_ := queue ++ [internalMessage] }) ?_ rfl (by rw [hloop]; rfl)
          (by rw [hloop]; rfl)
        exact .of_same (List.Subset.refl _) rfl rfl
    · exact hs.goto hpassed hitems (by rw [hloop]; rfl) (by rw [hloop]; rfl)

theorem drainQueueDuringConnect (hs : s.AttendsAll) {connection : ℕ} {fromQueue : Bool}
    (hloop : s.loop = .polling connection fromQueue) (sent : Bool) :
    (s.drainQueueDuringConnect settings connection fromQueue sent).AttendsAll := by
  unfold Client.drainQueueDuringConnect
  split
  · exact hs.goto (.refl s) rfl (by rw [hloop]; rfl) (by rw [hloop]; rfl)
  · rename_i internalMessage queue hqueue
    obtain ⟨hpassed,hitems,-⟩ := passOn_undisturbed settings s queue connection internalMessage sent
      fun connection' hc => by rw [hloop]; exact if_neg hc
    dsimp only
    split
    · exact hs.goto (.refl s) rfl (by rw [hloop]; rfl) (by rw [hloop]; rfl)
    · split
      · have htaken : s.Undisturbed (s.setEndpoint connection { s.externalConnectionsList_ connection with
            connection := { (s.externalConnectionsList_ connection).connection with
              inFlight := some internalMessage.devicestatus } }) :=
          undisturbed_setEndpoint rfl (.inl ⟨rfl,rfl⟩)
        exact (hs.goto (l := .filling connection fromQueue) htaken rfl (by rw [hloop]; rfl)
          (by rw [hloop]; rfl)).of_undisturbed (.of_same (List.Subset.refl _) rfl rfl) rfl rfl rfl
      · exact hs.goto hpassed hitems (by rw [hloop]; rfl) (by rw [hloop]; rfl)

theorem handleAggregatedMessages (hs : s.AttendsAll) {connectedDevices : List DeviceIdentification} {sent : Bool}
    (ht : s.handleAggregatedMessages settings connectedDevices sent = some t) : t.AttendsAll := by
  unfold Client.handleAggregatedMessages at ht
  split at ht <;> rename_i hloop
  · split at ht
    · cases ht
    · split at ht
      · cases ht
        exact hs.goto (.refl s) rfl (by rw [hloop]; rfl) (by rw [hloop]; rfl)
      · rename_i reconnectItem rest hqueue
        dsimp only at ht
        split at ht
        · cases ht
          refine hs.handlesItem hloop hqueue rfl rfl (fun connection hc => if_neg hc) ?_
          simp only [ClientLoop.phase, if_true]
          exact ConnectPhase.noConfusion
        · cases ht
          exact hs.handlesItem hloop hqueue rfl rfl (fun _ _ => rfl) ConnectPhase.noConfusion
  · cases ht
    refine ⟨by rintro ⟨⟩,?_⟩
    intro hstopped connection
    have hpopped : s.Undisturbed ({ s with reconnectQueue_ := s.reconnectQueue_.tail }.goto .waiting) :=
      .of_same (List.Subset.refl _) rfl rfl
    refine (hs.attended hstopped connection).of_sameAt (hpopped.connections connection) hpopped.timer_ ?_ ?_
    · rw [hloop]
      rfl
    · rw [Waits, Waits, waitingItems, waitingItems, hloop]
      exact id
  · split at ht
    · cases ht
      exact hs.goto (.refl s) rfl (by rw [hloop]; rfl) (by rw [hloop]; rfl)
    · rename_i message queue hqueue
      have hqueues := sendStatus_sameQueues settings { s with toExternalQueue_ := queue } message sent
      have houtside : ∀ connection, s.loop.phase connection = .outside := fun _ => by rw [hloop]; rfl
      have hundisturbed := sendStatus_undisturbed settings { s with toExternalQueue_ := queue } message sent
        fun connection _ => houtside connection
      have hsent : s.Undisturbed ({ s with toExternalQueue_ := queue }.sendStatus settings message sent).2 :=
        ⟨hundisturbed.timer_,hundisturbed.stopped,hundisturbed.connections⟩
      dsimp only at ht
      split at ht
      · cases ht
        exact hs.goto hsent hqueues.reconnectQueue_ (by rw [hloop]; rfl) (by rw [hloop]; rfl)
      · rename_i connection _
        cases ht
        have hprepared : ClientLoop.phase (.draining connection false) connection = .prepared := if_pos rfl
        refine hs.step connection hsent.timer_ hsent.stopped hqueues.reconnectQueue_ (by rw [hloop]; rfl) ?_
          (fun connection' _ => hsent.connections connection') fun _ => ?_
        · intro connection' hc
          rw [hloop]
          exact if_neg hc
        · exact ⟨fun h => absurd (hprepared.symm.trans h) ConnectPhase.noConfusion,
            fun h => absurd (hprepared.symm.trans h) ConnectPhase.noConfusion⟩
  · rename_i connection fromQueue
    split at ht
    · cases ht
      exact hs.goto (.refl s) rfl (by rw [hloop]; rfl) (by rw [hloop]; rfl)
    · rename_i internalMessage queue hqueue
      split at ht
      · cases ht
        exact hs.goto (.refl s) rfl (by rw [hloop]; rfl) (by rw [hloop]; rfl)
      · cases ht
        obtain ⟨hpassed,hitems,hloop'⟩ := passOn_undisturbed settings s queue connection internalMessage sent
          fun connection' hc => by rw [hloop]; exact if_neg hc
        exact hs.of_undisturbed hpassed hitems (by rw [hloop']) (by rw [hloop'])
  · split at ht
    · cases ht
      exact hs.goto (.refl s) rfl (by rw [hloop]; rfl) (by rw [hloop]; rfl)
    · cases ht
  · rename_i connection devices forcedDevices fromQueue
    split at ht
    · cases ht
      have hrunning : ClientLoop.phase (.connecting connection fromQueue) connection = .running := if_pos rfl
      refine hs.step connection (List.Subset.refl _) rfl rfl (by rw [hloop]; rfl) ?_
        (fun connection' hc => sameAt_setEndpoint_of_ne _ hc) fun _ => ⟨?_,?_⟩
      · intro connection' hc
        rw [hloop]
        exact (if_neg hc).trans (if_neg hc).symm
      · exact fun h => absurd (hrunning.symm.trans h) ConnectPhase.noConfusion
      · intro _ hestablished
        simp only [Client.goto, setEndpoint, Function.update_self] at hestablished
        exact absurd hestablished Bool.false_ne_true
    · cases ht
      exact hs.goto (.refl s) rfl (by rw [hloop]; rfl) (by rw [hloop]; rfl)
  · cases ht
    exact hs.awaitForced hloop _
  · dsimp only at ht
    split at ht
    all_goals
      cases ht
      exact hs.goto (.refl s) rfl (by rw [hloop]; rfl) (by rw [hloop]; rfl)
  · cases ht
    exact hs.drainQueueDuringConnect hloop _
  · rename_i connection fromQueue
    dsimp only at ht
    split at ht
    · cases ht
    · cases ht
      exact hs.goto (fillErrorAggregator_undisturbed s _ _ _) rfl (by rw [hloop]; rfl) (by rw [hloop]; rfl)
  · rename_i connection fromQueue
    split at ht
    · cases ht
    · rename_i ok hresult
      dsimp only at ht
      cases ht
      have hphase : ∀ connection',
          ClientLoop.phase (if fromQueue then .popping else .looping) connection' = .outside := by
        intro connection'
        split <;> rfl
      have hfront : ClientLoop.handlesFront (if fromQueue then .popping else .looping) = s.loop.handlesFront := by
        rw [hloop]
        cases fromQueue <;> rfl
      refine hs.step connection ?_ ?_ ?_ hfront ?_ ?_ ?_
      · split
        · exact List.subset_append_left _ _
        · exact List.Subset.refl _
      · split <;> rfl
      · split <;> rfl
      · intro connection' hc
        change ClientLoop.phase (if fromQueue then .popping else .looping) connection' = _
        rw [hphase, hloop]
        exact (if_neg hc).symm
      · intro connection' _
        split <;> exact ⟨rfl,.inl ⟨rfl,rfl⟩⟩
      · intro hstopped
        have hrunning : s.loop.phase connection = .running := by
          rw [hloop]
          exact if_pos rfl
        refine ⟨fun _ => ?_,fun h => absurd ((hphase connection).symm.trans h) ConnectPhase.noConfusion⟩
        cases ok with
        | false =>
          -- The sequence failed, so the reconnect timer is armed.
          rw [hstopped]
          exact .inr (.inr (.inl (List.mem_append_right _ List.mem_cons_self)))
        | true =>
          obtain ⟨hstate,hnext⟩ := (hs.attended hstopped connection).running hrunning (established_of_result hresult)
          refine .inr (hnext.elim (fun hlistening => .inl ⟨hstate,hlistening⟩) fun hwaits => .inr (.inr ?_))
          obtain ⟨item,hmem,hconnection⟩ := hwaits
          refine ⟨item,?_,hconnection⟩
          have hitems : (s.goto (if fromQueue then .popping else .looping)).waitingItems = s.waitingItems :=
            waitingItems_congr rfl hfront
          exact hitems ▸ hmem

omit [BufferType β] in
/-- A thread of a connection ends its receive loop only with an item for it. -/
theorem report (hs : s.AttendsAll) {connection : ℕ} {r : Option Bool × Endpoint β}
    (hthread : r.2.connection.connectThread = (s.externalConnectionsList_ connection).connection.connectThread)
    (hstate : r.2.connection.state_ = (s.externalConnectionsList_ connection).connection.state_)
    (hlistening : r.1 = none → r.2.listening = (s.externalConnectionsList_ connection).listening) :
    (s.report connection r).AttendsAll := by
  unfold Client.report
  split
  · rename_i hnone
    exact hs.of_undisturbed (undisturbed_setEndpoint hthread (.inl ⟨hstate,hlistening hnone⟩)) rfl rfl rfl
  · rename_i reconnect _
    obtain ⟨hwaits,hbefore⟩ := waits_push (s := s)
      (t := (s.setEndpoint connection r.2).pushReconnect connection reconnect) rfl rfl hs.front
    refine ⟨fun _ => List.append_ne_nil_of_right_ne_nil _ (List.cons_ne_nil _ _),?_⟩
    intro hstopped connection'
    have hattended := hs.attended hstopped connection'
    by_cases hc : connection' = connection
    · subst hc
      have hsame : (((s.setEndpoint connection' r.2).pushReconnect connection'
          reconnect).externalConnectionsList_ connection') = r.2 := Function.update_self ..
      refine ⟨fun _ => .inr (.inr (.inr hwaits)),?_⟩
      intro hrunning hestablished
      rw [hsame, hthread] at hestablished
      rw [hsame, hstate]
      exact ⟨(hattended.running hrunning hestablished).1,.inr hwaits⟩
    · exact hattended.of_sameAt (sameAt_setEndpoint_of_ne r.2 hc) (List.Subset.refl _) rfl (hbefore connection')

omit [BufferType β] in
/-- The handler of the reconnect timer pushes an item in place of the timer. -/
theorem reconnectTimer (hs : s.AttendsAll) (connection : ℕ) :
    ({ s with timer_ := s.timer_.erase connection }.pushReconnect connection true).AttendsAll := by
  obtain ⟨hwaits,hbefore⟩ := waits_push (s := s)
    (t := { s with timer_ := s.timer_.erase connection }.pushReconnect connection true) rfl rfl hs.front
  refine ⟨fun _ => List.append_ne_nil_of_right_ne_nil _ (List.cons_ne_nil _ _),?_⟩
  intro hstopped connection'
  obtain ⟨houtside,hrunning⟩ := hs.attended hstopped connection'
  by_cases hc : connection' = connection
  · subst hc
    exact ⟨fun _ => .inr (.inr (.inr hwaits)),fun h hestablished => ⟨(hrunning h hestablished).1,.inr hwaits⟩⟩
  · refine ⟨fun h => ?_,fun h hestablished => (hrunning h hestablished).imp_right (Or.imp_right (hbefore connection'))⟩
    exact (houtside h).imp_right (Or.imp_right (Or.imp (List.mem_erase_of_ne hc).mpr (hbefore connection')))

/-- A section of the connect thread is in the sequence for its connection. -/
theorem thread (hs : s.AttendsAll) {connection : ℕ}
    (hconverses : (s.externalConnectionsList_ connection).Converses (settings.modules connection)
      (s.loop.phase connection)) {answer : Answer β} {e : Endpoint β}
    (he : (s.externalConnectionsList_ connection).initializeConnection (settings.modules connection) answer = some e) :
    (s.setEndpoint connection e).AttendsAll := by
  have hphase : s.loop.phase connection = .running := by
    by_contra hphase
    obtain ⟨ok,hfinished⟩ := hconverses.running hphase
    obtain ⟨c,hc,-⟩ := Option.map_eq_some_iff.mp he
    rw [ExternalConnection.initializeConnection, hfinished] at hc
    cases hc
  refine hs.step connection (List.Subset.refl _) rfl rfl rfl (fun _ _ => rfl)
    (fun connection' hc => sameAt_setEndpoint_of_ne e hc) fun hstopped => ⟨?_,?_⟩
  · intro houtside
    exact absurd (hphase.symm.trans houtside) ConnectPhase.noConfusion
  · intro _ hestablished
    have hsame : (s.setEndpoint connection e).externalConnectionsList_ connection = e := Function.update_self ..
    rw [hsame] at hestablished ⊢
    rcases Endpoint.initializeConnection_established he hestablished with
      ⟨hstate,hlistening⟩ | ⟨hbefore,hstate,hlistening⟩
    · exact ⟨hstate,.inl hlistening⟩
    · rw [hstate, hlistening]
      exact (hs.attended hstopped connection).running hphase hbefore

theorem clientStep (hs : s.AttendsAll) {a : ClientAction β}
    (hconverses : ∀ connection, (s.externalConnectionsList_ connection).Converses (settings.modules connection)
      (s.loop.phase connection))
    (ht : s.clientStep settings a = some t) : t.AttendsAll := by
  cases a with
  | push internalMessage =>
    cases ht
    exact hs.of_undisturbed (.of_same (List.Subset.refl _) rfl rfl) rfl rfl rfl
  | client connectedDevices sent => exact hs.handleAggregatedMessages ht
  | thread connection answer =>
    obtain ⟨e,he,rfl⟩ := Option.map_eq_some_iff.mp ht
    exact hs.thread (hconverses connection) he
  | receive connection serverDisconnect message =>
    simp only [Client.clientStep] at ht
    split at ht
    · cases ht
      obtain ⟨hstate,hthread,hlistening⟩ := Endpoint.receivingHandlerLoop_frame (settings.modules connection)
        (s.externalConnectionsList_ connection) serverDisconnect message
      exact hs.report hthread hstate hlistening
    · cases ht
  | expire connection =>
    simp only [Client.clientStep] at ht
    split at ht
    · cases ht
    · cases ht
      exact hs.of_undisturbed (undisturbed_setEndpoint rfl (.inl ⟨rfl,rfl⟩)) rfl rfl rfl
  | timeout connection =>
    simp only [Client.clientStep] at ht
    split at ht
    · cases ht
      unfold Endpoint.timeoutHandler
      split <;> exact hs.report rfl rfl fun _ => rfl
    · cases ht
  | reconnectTimer connection =>
    simp only [Client.clientStep] at ht
    split at ht
    · cases ht
      exact hs.reconnectTimer connection
    · cases ht
  | stop =>
    cases ht
    exact ⟨hs.front,by rintro ⟨⟩⟩

end AttendsAll

/-! ## Runs -/

theorem exec_attendsAll {as : List (ClientAction β)} {s : Client β} (he : exec (clientStep settings) init as = some s) :
    s.AttendsAll := by
  refine exec_run_invariant (I := fun _ s => s.AttendsAll) .init ?_ he
  intro as s a t hrun hs ht
  exact hs.clientStep (exec_converses hrun).endpoints ht

/-- The first status of the lidar starts a connect sequence, and the channel does not open. -/
def opensNoChannel : List (ClientAction (List UInt8)) :=
  [.push (statusMessage false lidar),.client [] true,.client [] true,.client [] true,.client [lidar] true] ++
    connectFails

/-- In every run of a gateway that is not stopped, a connection that the client thread is not busy with has never been
brought up or was dropped, so that its next status brings it up; or it is connected and its
receive loop goes on; or its reconnect timer is armed; or an item for it waits. -/
theorem exec_attended {as : List (ClientAction β)} {s : Client β} (he : exec (clientStep settings) init as = some s)
    (hstopped : s.stopped = false) (connection : ℕ) :
    s.loop.phase connection ≠ .outside ∨
      (s.externalConnectionsList_ connection).connection.state_ = .NOT_INITIALIZED ∨
      ((s.externalConnectionsList_ connection).connection.state_ = .CONNECTED ∧
        (s.externalConnectionsList_ connection).listening = true) ∨
      connection ∈ s.timer_ ∨ ∃ item ∈ s.waitingItems, item.connection_ = connection := by
  by_cases houtside : s.loop.phase connection = .outside
  · exact .inr (((exec_attendsAll he).attended hstopped connection).outside houtside)
  · exact .inl houtside

/-- The channel did not open: what is left is the reconnect timer. -/
theorem exec_attended_opensNoChannel :
    ∃ s : Client (List UInt8), exec (clientStep oneConnection) init opensNoChannel = some s ∧ s.loop = .looping ∧
      (s.externalConnectionsList_ 0).connection.state_ = .NOT_CONNECTED ∧ 0 ∈ s.timer_ := by
  have hs : (exec (clientStep oneConnection) init opensNoChannel).map (fun s =>
      (s.loop,s.stopped,(s.externalConnectionsList_ 0).connection.state_,s.reconnectQueue_)) =
        some (.looping,false,.NOT_CONNECTED,[]) := by decide +kernel
  obtain ⟨s,hrun,hlook⟩ := Option.map_eq_some_iff.mp hs
  simp only [Prod.mk.injEq] at hlook
  obtain ⟨hloop,hstopped,hstate,hqueue⟩ := hlook
  refine ⟨s,hrun,hloop,hstate,?_⟩
  rcases exec_attended hrun hstopped 0 with h | h | h | h | ⟨item,hmem,-⟩
  · exact absurd (by rw [hloop]; rfl) h
  · exact absurd (hstate.symm.trans h) ConnectionState.noConfusion
  · exact absurd (hstate.symm.trans h.1) ConnectionState.noConfusion
  · exact h
  · rw [waitingItems, hqueue, hloop] at hmem
    cases hmem

end Client

end ModuleGateway.ExternalClient
