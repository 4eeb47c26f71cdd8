import ModuleGateway.Library.Inevitable
import ModuleGateway.ExternalClient.Attended
import ModuleGateway.ExternalClient.ConnectSequence
import Mathlib.Data.Prod.Lex

/-! # A connect sequence comes to its end

Once its connect thread is started, a connect sequence leaves the two threads at work on it nothing but to end it,
whatever the server answers and however their steps are ordered: the client thread waits for messages, fills in or
passes on those that are in the queue, and joins the connect thread. It then has a session, or its reconnect timer
is set.
-/
namespace ModuleGateway.ExternalClient
open Structures ExternalConnection Execution

variable {β : Type} [BufferType β]

/-- The connect thread leaves the status alone that the client thread has in its hands. -/
theorem ExternalConnection.initializeConnection_inFlight {modules : Modules β} {s t : ExternalConnection β}
    {answer : Answer β} (h : s.initializeConnection modules answer = some t) : t.inFlight = s.inFlight := by
  unfold initializeConnection at h
  split at h
  · cases h
  all_goals obtain rfl := Option.some.inj h
  · obtain h | ⟨state,-,h⟩ := s.openChannel_cases _ answer <;> rw [h] <;> rfl
  · obtain h | h := s.connectMessageHandle_cases _ answer <;> rw [h] <;> rfl
  · rfl
  · obtain ⟨-,h⟩ | ⟨deviceState,-,h⟩ := s.readStatus_cases _ _ _ <;> rw [h] <;> rfl
  · simp only [ExternalConnection.sendStatus]
    split
    · rfl
    · split <;> rfl
  · rfl
  · obtain ⟨-,h⟩ | ⟨messageCounter,h⟩ := s.receiveStatusResponse_cases _ _ answer.received <;> rw [h] <;> rfl
  · rfl
  · obtain ⟨counter,queue,responses,-,h | h⟩ := Endpoint.receiveCommand_responses modules s _ _ answer.received <;>
      rw [h] <;> rfl
  · rfl
  · rfl

omit [BufferType β] in
theorem Endpoint.receivingHandlerLoop_inFlight (modules : Modules β) (e : Endpoint β) (serverDisconnect : Bool)
    (message : Option (ServerMessage β)) :
    (e.receivingHandlerLoop modules serverDisconnect message).2.connection.inFlight = e.connection.inFlight := by
  unfold Endpoint.receivingHandlerLoop
  split
  · rfl
  · split
    · rfl
    · split
      · rfl
      · split
        · rename_i sessionId messageCounter deviceCommand
          obtain ⟨counter,queue,responses,hstate,-⟩ :=
            e.connection.handleCommand_frame modules sessionId messageCounter deviceCommand
          dsimp only
          rw [hstate]
          split <;> rfl
        · dsimp only
          split <;> rfl
        · rfl

namespace Client
variable {settings : ConnectionSettings β} {s t : Client β}

omit [BufferType β] in
/-- The client thread takes the status it fills in from the queue. -/
def Filled (s : Client β) : Prop := ∀ connection fromQueue, s.loop = .filling connection fromQueue →
  (s.externalConnectionsList_ connection).connection.inFlight ≠ none

omit [BufferType β] in
theorem Filled.of_loop (h : ∀ connection fromQueue, t.loop ≠ .filling connection fromQueue) : t.Filled :=
  fun connection fromQueue hloop => absurd hloop (h connection fromQueue)

omit [BufferType β] in
/-- Another thread goes on. -/
theorem Filled.other (hs : s.Filled) {connection : ℕ} {e : Endpoint β}
    (he : e.connection.inFlight = (s.externalConnectionsList_ connection).connection.inFlight) :
    (s.setEndpoint connection e).Filled := by
  intro connection' fromQueue hloop
  have hfilled := hs connection' fromQueue hloop
  by_cases hc : connection' = connection
  · subst hc
    simpa only [setEndpoint, Function.update_self, he] using hfilled
  · simpa only [setEndpoint, Function.update_of_ne hc] using hfilled

omit [BufferType β] in
theorem Filled.report (hs : s.Filled) {connection : ℕ} {r : Option Bool × Endpoint β}
    (he : r.2.connection.inFlight = (s.externalConnectionsList_ connection).connection.inFlight) :
    (s.report connection r).Filled := by
  unfold Client.report
  split
  · exact hs.other he
  · exact hs.other he

/-- A message is passed on by a thread that fills in no status. -/
theorem Filled.passOn (hloop : ∀ connection fromQueue, s.loop ≠ .filling connection fromQueue)
    (queue : List (InternalClientMessage β)) (connection : ℕ) (internalMessage : InternalClientMessage β)
    (sent : Bool) : ({ s with toExternalQueue_ := queue }.passOn settings connection internalMessage sent).Filled := by
  apply Filled.of_loop
  rw [Carries.passOn_loop]
  exact hloop

theorem Filled.awaitForced (s : Client β) (connection : ℕ) (connectedDevices forcedDevices : List DeviceIdentification)
    (fromQueue sent : Bool) :
    (s.awaitForced settings connection connectedDevices forcedDevices fromQueue sent).Filled := by
  unfold Client.awaitForced
  split
  · exact .of_loop (by rintro _ _ ⟨⟩)
  · dsimp only
    split
    · split <;> exact .of_loop (by rintro _ _ ⟨⟩)
    · exact .of_loop (by rintro _ _ ⟨⟩)

/-- The status is in the hands of the client thread before it fills it in. -/
theorem Filled.drainQueueDuringConnect (s : Client β) (connection : ℕ) (fromQueue sent : Bool) :
    (s.drainQueueDuringConnect settings connection fromQueue sent).Filled := by
  unfold Client.drainQueueDuringConnect
  split
  · exact .of_loop (by rintro _ _ ⟨⟩)
  · dsimp only
    split
    · exact .of_loop (by rintro _ _ ⟨⟩)
    · split
      · rintro _ _ ⟨⟩
        simp only [goto, setEndpoint, Function.update_self]
        exact Option.some_ne_none _
      · exact .of_loop (by rintro _ _ ⟨⟩)

theorem Filled.client {connectedDevices : List DeviceIdentification} {sent : Bool}
    (ht : s.handleAggregatedMessages settings connectedDevices sent = some t) : t.Filled := by
  unfold Client.handleAggregatedMessages at ht
  split at ht <;> rename_i hloop
  · split at ht
    · cases ht
    · split at ht
      · cases ht
        exact .of_loop (by rintro _ _ ⟨⟩)
      · dsimp only at ht
        split at ht <;> cases ht <;> exact .of_loop (by rintro _ _ ⟨⟩)
  · cases ht
    exact .of_loop (by rintro _ _ ⟨⟩)
  · split at ht
    · cases ht
      exact .of_loop (by rintro _ _ ⟨⟩)
    · dsimp only at ht
      split at ht <;> cases ht <;> exact .of_loop (by rintro _ _ ⟨⟩)
  · split at ht
    · cases ht
      exact .of_loop (by rintro _ _ ⟨⟩)
    · split at ht <;> cases ht
      · exact .of_loop (by rintro _ _ ⟨⟩)
      · exact .passOn (by rw [hloop]; rintro _ _ ⟨⟩) _ _ _ _
  · split at ht <;> cases ht
    exact .of_loop (by rintro _ _ ⟨⟩)
  · split at ht <;> cases ht <;> exact .of_loop (by rintro _ _ ⟨⟩)
  · cases ht
    exact .awaitForced _ _ _ _ _ _
  · dsimp only at ht
    split at ht <;> cases ht <;> exact .of_loop (by rintro _ _ ⟨⟩)
  · cases ht
    exact .drainQueueDuringConnect _ _ _ _
  · dsimp only at ht
    split at ht <;> cases ht
    exact .of_loop (by rintro _ _ ⟨⟩)
  · split at ht <;> cases ht
    apply Filled.of_loop
    intro _ _
    simp only [goto]
    split <;> rintro ⟨⟩

theorem Filled.step (hs : s.Filled) {a : ClientAction β} (ht : s.clientStep settings a = some t) : t.Filled := by
  cases a with
  | client connectedDevices sent => exact .client ht
  | thread connection answer =>
    obtain ⟨e,he,rfl⟩ := Option.map_eq_some_iff.mp ht
    obtain ⟨c,hc,rfl⟩ := Option.map_eq_some_iff.mp he
    apply hs.other
    split <;> exact ExternalConnection.initializeConnection_inFlight hc
  | receive connection serverDisconnect message =>
    obtain ⟨-,rfl⟩ := Option.ite_some_none_eq_some.mp ht
    apply hs.report
    exact Endpoint.receivingHandlerLoop_inFlight _ _ _ _
  | expire connection =>
    obtain ⟨-,h⟩ := Option.ite_none_left_eq_some.mp ht
    cases h
    exact hs.other rfl
  | timeout connection =>
    obtain ⟨-,rfl⟩ := Option.ite_some_none_eq_some.mp ht
    apply hs.report
    unfold Endpoint.timeoutHandler
    split <;> rfl
  | reconnectTimer connection =>
    obtain ⟨-,rfl⟩ := Option.ite_some_none_eq_some.mp ht
    exact hs
  | _ =>
    cases ht
    exact hs

theorem exec_filled {as : List (ClientAction β)} (he : exec (clientStep settings) init as = some s) : s.Filled :=
  exec_invariant (.of_loop (by rintro _ _ ⟨⟩)) (fun _ _ _ hs ht => hs.step ht) he

/-! ## The end of a sequence -/

omit [BufferType β] in
/-- The loop of `drainQueueDuringConnect` is over. -/
def drained (s : Client β) (connection : ℕ) : Bool :=
  (s.externalConnectionsList_ connection).connectResult.isSome || s.stopped ||
    (s.externalConnectionsList_ connection).connection.state_ = .CONNECTED

omit [BufferType β] in
/-- The client thread waits for a message while the connect thread is at work. -/
def Idles (s : Client β) (connection : ℕ) : Prop :=
  (∃ fromQueue, s.loop = .polling connection fromQueue) ∧ s.toExternalQueue_ = [] ∧ s.drained connection = false

/-- The steps of the connect thread and of the client thread, but for the end of a wait without a message. -/
def sequences (connection : ℕ) (s : Client β) : ClientAction β → Prop
  | .thread connection' _ => connection' = connection
  | .client _ _ => ¬s.Idles connection
  | _ => False

/-- The connect thread is started and not joined. -/
inductive Inside (connection : ℕ) (fromQueue : Bool) (s : Client β) : Prop where
  | connecting (h : s.loop = .connecting connection fromQueue)
  | polling (h : s.loop = .polling connection fromQueue)
  | filling (h : s.loop = .filling connection fromQueue)
  | joining (h : s.loop = .joining connection fromQueue)

/-- The connect thread is joined; if it failed, the reconnect timer is set. -/
structure Ended (connection : ℕ) (fromQueue : Bool) (s : Client β) : Prop where
  loop : s.loop = if fromQueue then .popping else .looping
  result : ∃ ok, (s.externalConnectionsList_ connection).connectResult = some ok ∧
    (ok = false → s.stopped = false → connection ∈ s.timer_)

omit [BufferType β] in
/-- How far the client thread is from the join, with so many messages in its queue. -/
def distance (drained : Bool) (messages : ℕ) : ClientLoop → ℕ
  | .filling _ _ => if drained then 3 else 3*messages+3
  | .connecting _ _ => if drained then 2 else 3*messages+2
  | .polling _ _ => if drained then 4 else 3*messages+1
  | .joining _ _ => 1
  | _ => 0

omit [BufferType β] in
def left (s : Client β) (connection : ℕ) : ℕ ×ₗ ℕ :=
  toLex ((s.externalConnectionsList_ connection).connection.connectThread.left,
    distance (s.drained connection) s.toExternalQueue_.length s.loop)

variable {connection : ℕ} {fromQueue : Bool}

omit [BufferType β] in
/-- A step of the client thread, which leaves the connect thread and the state of the connection alone. -/
theorem left_client (hstopped : t.stopped = s.stopped)
    (hthread : (t.externalConnectionsList_ connection).connection.connectThread =
      (s.externalConnectionsList_ connection).connection.connectThread)
    (hstate : (t.externalConnectionsList_ connection).connection.state_ =
      (s.externalConnectionsList_ connection).connection.state_)
    (hdistance : distance (s.drained connection) t.toExternalQueue_.length t.loop <
      distance (s.drained connection) s.toExternalQueue_.length s.loop) :
    t.left connection < s.left connection := by
  have hdrained : t.drained connection = s.drained connection := by
    rw [drained, drained, Endpoint.connectResult, Endpoint.connectResult, hstopped, hthread, hstate]
  unfold left
  rw [hthread, hdrained]
  exact Prod.Lex.toLex_lt_toLex.mpr (.inr ⟨rfl,hdistance⟩)

omit [BufferType β] in
/-- The client thread goes on without a look at the connection. -/
theorem left_goto {loop : ClientLoop} (hdistance : distance (s.drained connection) s.toExternalQueue_.length loop <
    distance (s.drained connection) s.toExternalQueue_.length s.loop) :
    (s.goto loop).left connection < s.left connection :=
  left_client (t := s.goto loop) rfl rfl rfl hdistance

/-- The client thread drains its queue. -/
theorem drainQueueDuringConnect_left (hloop : s.loop = .polling connection fromQueue) (hidles : ¬s.Idles connection)
    (sent : Bool) :
    let t := s.drainQueueDuringConnect settings connection fromQueue sent
    t.Inside connection fromQueue ∧ t.left connection < s.left connection := by
  unfold Client.drainQueueDuringConnect
  split
  · rename_i hqueue
    -- the wait ends without a message, and the loop is over
    have hdrained : s.drained connection = true := by
      by_contra h
      exact hidles ⟨⟨fromQueue,hloop⟩,hqueue,Bool.eq_false_iff.mpr h⟩
    refine ⟨.connecting rfl,left_goto ?_⟩
    rw [hdrained, hloop]
    exact Nat.lt_add_of_pos_right Nat.two_pos
  · rename_i internalMessage queue hqueue
    dsimp only
    split
    · refine ⟨.joining rfl,left_goto ?_⟩
      rw [hloop, hqueue]
      simp only [distance, List.length_cons]
      split <;> omega
    · split
      · refine ⟨.filling rfl,left_client rfl ?_ ?_ ?_⟩
        · simp only [goto, setEndpoint, Function.update_self]
        · simp only [goto, setEndpoint, Function.update_self]
        · simp only [goto, setEndpoint, distance, hloop, hqueue, List.length_cons]
          split <;> omega
      · have hothers : ∀ connection', connection' ≠ connection → s.loop.phase connection' = .outside :=
          fun connection' hc => by rw [hloop]; exact if_neg hc
        obtain ⟨hpassed,-,-⟩ := passOn_undisturbed settings s queue connection internalMessage sent hothers
        have hqueue' := (passOn_sameQueues settings { s with toExternalQueue_ := queue } connection internalMessage
          sent).toExternalQueue_
        obtain ⟨hthread,⟨hstate,-⟩ | ⟨houtside,-⟩⟩ := hpassed.connections connection
        · refine ⟨.connecting rfl,left_client hpassed.stopped hthread hstate ?_⟩
          simp only [goto, hqueue']
          rw [hloop, hqueue]
          simp only [distance, List.length_cons]
          split <;> omega
        · rw [hloop] at houtside
          exact absurd (houtside.symm.trans (if_pos rfl)) ConnectPhase.noConfusion

/-- The client thread goes on in the sequence, or it joins the connect thread. -/
theorem handleAggregatedMessages_left {connectedDevices : List DeviceIdentification} {sent : Bool}
    (hs : s.Inside connection fromQueue) (hidles : ¬s.Idles connection)
    (ht : s.handleAggregatedMessages settings connectedDevices sent = some t) :
    (t.Inside connection fromQueue ∨ t.Ended connection fromQueue) ∧ t.left connection < s.left connection := by
  cases hs with
  | connecting hloop =>
    simp only [Client.handleAggregatedMessages, hloop] at ht
    split at ht
    · rename_i hover
      have hdrained : s.drained connection = true := hover
      cases ht
      refine ⟨.inl (.joining rfl),left_goto ?_⟩
      rw [hdrained, hloop]
      exact Nat.one_lt_two
    · rename_i hgoing
      have hdrained : s.drained connection = false := Bool.eq_false_iff.mpr hgoing
      cases ht
      refine ⟨.inl (.polling rfl),left_goto ?_⟩
      rw [hdrained, hloop]
      exact Nat.lt_succ_self _
  | polling hloop =>
    simp only [Client.handleAggregatedMessages, hloop] at ht
    cases ht
    obtain ⟨hinside,hlt⟩ := drainQueueDuringConnect_left hloop hidles sent
    exact ⟨.inl hinside,hlt⟩
  | filling hloop =>
    simp only [Client.handleAggregatedMessages, hloop] at ht
    split at ht
    · cases ht
    · rename_i deviceStatus hinFlight
      cases ht
      obtain ⟨hthread,hstates⟩ := (fillErrorAggregator_undisturbed s (settings.modules connection) connection
        deviceStatus).connections connection
      rcases hstates with ⟨hstate,-⟩ | ⟨houtside,-⟩
      · refine ⟨.inl (.connecting rfl),left_client rfl hthread hstate ?_⟩
        simp only [goto, setEndpoint, distance, hloop]
        split <;> omega
      · rw [hloop] at houtside
        exact absurd (houtside.symm.trans (if_pos rfl)) ConnectPhase.noConfusion
  | joining hloop =>
    simp only [Client.handleAggregatedMessages, hloop] at ht
    split at ht
    · cases ht
    · rename_i ok hresult
      cases ht
      have hlt : ∀ timer_ loop, loop = (if fromQueue then ClientLoop.popping else .looping) →
          ({ s with timer_ := timer_, loop := loop } : Client β).left connection < s.left connection := by
        intro timer_ loop hnext
        apply left_client (s := s) (t := { s with timer_ := timer_, loop := loop }) rfl rfl rfl
        dsimp only
        rw [hnext, hloop]
        split <;> exact Nat.zero_lt_one
      by_cases hfailed : (!ok && !s.stopped) = true
      · simp only [if_pos hfailed]
        refine ⟨.inr ⟨rfl,ok,hresult,fun _ _ => List.mem_append_right _ (List.mem_singleton_self _)⟩,hlt _ _ rfl⟩
      · simp only [if_neg hfailed]
        refine ⟨.inr ⟨rfl,ok,hresult,?_⟩,hlt _ _ rfl⟩
        intro hok hstopped
        have hstopped : s.stopped = false := hstopped
        exact absurd (by rw [hok, hstopped]; rfl) hfailed

/-- One step of the two threads. -/
theorem sequences_left {a : ClientAction β} (hs : s.Inside connection fromQueue) (ha : sequences connection s a)
    (ht : s.clientStep settings a = some t) :
    (t.Inside connection fromQueue ∨ t.Ended connection fromQueue) ∧ t.left connection < s.left connection := by
  cases a with
  | client connectedDevices sent => exact handleAggregatedMessages_left hs ha ht
  | thread connection' answer =>
    obtain rfl : connection' = connection := ha
    obtain ⟨e,he,rfl⟩ := Option.map_eq_some_iff.mp ht
    obtain ⟨c,hc,rfl⟩ := Option.map_eq_some_iff.mp he
    constructor
    · apply Or.inl
      cases hs with
      | connecting hloop => exact .connecting hloop
      | polling hloop => exact .polling hloop
      | filling hloop => exact .filling hloop
      | joining hloop => exact .joining hloop
    · apply Prod.Lex.toLex_lt_toLex.mpr
      apply Or.inl
      simp only [setEndpoint, Function.update_self]
      split <;> exact initializeConnection_left hc
  | push | receive | expire | timeout | reconnectTimer | stop => cases ha

/-- Until it is finished, the connect thread goes on whatever the answer. -/
theorem exists_thread (settings : ConnectionSettings β)
    (hresult : (s.externalConnectionsList_ connection).connectResult = none) (answer : Answer β) :
    ∃ t, s.clientStep settings (.thread connection answer) = some t := by
  cases hstep : (s.externalConnectionsList_ connection).connection.initializeConnection (settings.modules connection)
      answer with
  | none =>
    obtain ⟨ok,hfinished⟩ := initializeConnection_eq_none hstep
    rw [Endpoint.connectResult, hfinished] at hresult
    cases hresult
  | some c => exact ⟨_,by rw [Client.clientStep, Endpoint.initializeConnection, hstep]; rfl⟩

/-- One of the two threads goes on. -/
theorem exists_sequences (settings : ConnectionSettings β) (hs : s.Inside connection fromQueue) (hfilled : s.Filled) :
    ∃ a t, sequences connection s a ∧ s.clientStep settings a = some t := by
  have hthread (hresult : (s.externalConnectionsList_ connection).connectResult = none) :
      ∃ a t, sequences connection s a ∧ s.clientStep settings a = some t := by
    obtain ⟨t,ht⟩ := exists_thread settings hresult ⟨true,"",true,none⟩
    exact ⟨.thread connection ⟨true,"",true,none⟩,t,rfl,ht⟩
  have hclient {t : Client β} (hidles : ¬s.Idles connection)
      (ht : s.handleAggregatedMessages settings [] true = some t) :
      ∃ a t, sequences connection s a ∧ s.clientStep settings a = some t := ⟨.client [] true,t,hidles,ht⟩
  cases hs with
  | connecting hloop =>
    have hidles : ¬s.Idles connection := by
      rintro ⟨⟨fromQueue',hpolling⟩,-⟩
      cases hloop.symm.trans hpolling
    cases hdrained : s.drained connection with
    | true =>
      apply hclient (t := s.goto (.joining connection fromQueue)) hidles
      simp only [Client.handleAggregatedMessages, hloop]
      exact if_pos hdrained
    | false =>
      apply hclient (t := s.goto (.polling connection fromQueue)) hidles
      simp only [Client.handleAggregatedMessages, hloop]
      exact if_neg (Bool.eq_false_iff.mp hdrained)
  | polling hloop =>
    by_cases hidles : s.Idles connection
    · apply hthread
      simp only [Idles, drained, Bool.or_eq_false_iff] at hidles
      exact Option.isSome_eq_false_iff.mp hidles.2.2.1.1 |> Option.isNone_iff_eq_none.mp
    · exact hclient hidles (by simp only [Client.handleAggregatedMessages, hloop]; rfl)
  | filling hloop =>
    obtain ⟨deviceStatus,hinFlight⟩ := Option.ne_none_iff_exists'.mp (hfilled connection fromQueue hloop)
    apply hclient
    · rintro ⟨⟨fromQueue',hpolling⟩,-⟩
      cases hloop.symm.trans hpolling
    · simp only [Client.handleAggregatedMessages, hloop, hinFlight]
      rfl
  | joining hloop =>
    cases hresult : (s.externalConnectionsList_ connection).connectResult with
    | none => exact hthread hresult
    | some ok =>
      apply hclient
      · rintro ⟨⟨fromQueue',hpolling⟩,-⟩
        cases hloop.symm.trans hpolling
      · simp only [Client.handleAggregatedMessages, hloop, hresult]
        rfl

/-- In every state reached with the connect thread of a sequence at work, the steps of this thread and of the client
thread end the sequence, whatever the server answers and in whatever order they come, when no new message
arrives: the client thread goes back to its loop, with the result of the connect thread; if this failed and the
gateway is not stopped, the reconnect timer of the connection is set. -/
theorem exec_sequenceEnds {as : List (ClientAction β)} (he : exec (clientStep settings) init as = some s)
    (hs : s.Inside connection fromQueue) :
    Inevitable (clientStep settings) (sequences connection) (Ended connection fromQueue) s := by
  apply inevitable_of_rank (fun s => s.left connection) (I := fun s =>
    s.Filled ∧ (s.Inside connection fromQueue ∨ s.Ended connection fromQueue)) ⟨exec_filled he,.inl hs⟩
  · rintro s ⟨hfilled,hinside⟩ hended
    exact exists_sequences settings (hinside.resolve_right hended) hfilled
  · rintro s a t ⟨hfilled,hinside⟩ hended ha ht
    obtain ⟨hnext,hlt⟩ := sequences_left (hinside.resolve_right hended) ha ht
    exact ⟨⟨hfilled.step ht,hnext⟩,hlt⟩

/-- The connect thread for the lidar is started, and two more of its statuses arrive. -/
def connectsLidar : List (ClientAction (List UInt8)) :=
  [.push (statusMessage false lidar),.client [] true,.client [] true,.client [] true,.client [lidar] true,
    .client [] true,.push (statusMessage false lidar),.push (statusMessage true lidar)]

theorem exec_sequenceEnds_connectsLidar :
    ∃ s : Client (List UInt8), exec (clientStep oneConnection) init connectsLidar = some s ∧
      s.toExternalQueue_.length = 2 ∧
      Inevitable (clientStep oneConnection) (sequences 0) (Ended 0 false) s := by
  have hs : (exec (clientStep oneConnection) init connectsLidar).map (fun s => (s.loop,s.toExternalQueue_.length)) =
      some (.connecting 0 false,2) := by decide +kernel
  obtain ⟨s,hrun,hlook⟩ := Option.map_eq_some_iff.mp hs
  simp only [Prod.mk.injEq] at hlook
  obtain ⟨hloop,hlength⟩ := hlook
  exact ⟨s,hrun,hlength,exec_sequenceEnds hrun (.connecting hloop)⟩

end Client
end ModuleGateway.ExternalClient
