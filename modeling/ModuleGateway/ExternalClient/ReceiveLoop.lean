import ModuleGateway.ExternalClient.ExternalClient

/-! # The receive loop and the teardown of its connection

`deinitializeConnection` is cut at the accesses of what the receive thread accesses too, and the
thread at its test of `stopReceiving`. The thread is created when the connect sequence succeeds; its
first step, which takes `stopReceiving` back, may come any time later.
-/
namespace ModuleGateway.ExternalClient
open Structures ExternalConnection Execution

variable {β : Type}

/-- Where `listeningThread` is. A thread that has returned is still to be joined. -/
inductive ListeningThread where
  | absent
  | created
  | testing
  | receiving
  | returned
deriving DecidableEq

/-- Where `deinitializeConnection` is; its argument is `completeDisconnect`. -/
inductive Teardown where
  | none
  | stopping (completeDisconnect : Bool)
  | closing (completeDisconnect : Bool)
  | joining (completeDisconnect : Bool)
  | filling (completeDisconnect : Bool)
deriving DecidableEq

/-- `stopReceiving` is set and the join is not completed. -/
def Teardown.awaitsLoop : Teardown → Bool
  | .closing _ | .joining _ => true
  | _ => false

/-- A connection with its receive thread; `reconnectQueue_` holds the `reconnect` of its own items. -/
structure ReceiveThread (β : Type) where
  endpoint : Endpoint β
  stopReceiving : Bool
  listeningThread : ListeningThread
  teardown : Teardown
  reconnectQueue_ : List Bool

inductive ReceiveAction (β : Type) where
  | connect (devices : List DeviceIdentification)
  | initializeConnection (answer : Answer β)
  | sendStatus (status : DeviceStatus β) (deviceState : StatusDeviceState) (sent : Bool)
  | deinitializeConnection (completeDisconnect : Bool)
  | teardown
  | receivingHandlerLoop (serverDisconnect : Bool) (message : Option (ServerMessage β))

namespace ReceiveThread
variable [BufferType β] (modules : Modules β)

def init : ReceiveThread β := ⟨.init,false,.absent,.none,[]⟩

omit [BufferType β] in
/-- `listeningThread` can be assigned to, and joined without waiting. -/
def loopEnded (s : ReceiveThread β) : Bool := s.listeningThread = .absent || s.listeningThread = .returned

omit [BufferType β] in
/-- `deinitializeConnection` up to the exchange of `stopReceiving`. -/
def deinitializeConnection (s : ReceiveThread β) (completeDisconnect : Bool) : ReceiveThread β :=
  { s with
    endpoint :=
      { s.endpoint with
        connection :=
          { s.endpoint.connection with
            state_ := .NOT_INITIALIZED, clientMessageCounter_ := 0, serverMessageCounter_ := 0 } }
    teardown := .stopping completeDisconnect }

/-- The next step of `deinitializeConnection`; the join waits for the end of the loop. -/
def tearDown (s : ReceiveThread β) : Option (ReceiveThread β) :=
  match s.teardown with
  | .none => none
  | .stopping completeDisconnect =>
    some { s with stopReceiving := true, teardown := .closing completeDisconnect }
  | .closing completeDisconnect => some { s with teardown := .joining completeDisconnect }
  | .joining completeDisconnect =>
    if s.loopEnded then
      some { s with
        endpoint := { s.endpoint with listening := false }
        listeningThread := .absent
        teardown := .filling completeDisconnect }
    else none
  | .filling completeDisconnect =>
    let connection := s.endpoint.connection
    some { s with
      endpoint :=
        { s.endpoint with
          connection :=
            if completeDisconnect then connection.clearErrorAggregators
            else connection.fillErrorAggregatorWithNotAckedStatuses modules
          responseHandled_ := false }
      teardown := .none }

/-- A section of the connect thread. A status that cannot be sent starts a teardown, which runs on the
connect thread before its next section. -/
def initializeConnection (s : ReceiveThread β) (answer : Answer β) : Option (ReceiveThread β) :=
  match s.endpoint.connection.connectThread with
  | .sending _ _ _ _ _ =>
    (s.endpoint.initializeConnection modules { answer with sent := true }).map fun endpoint =>
      if answer.sent then { s with endpoint := endpoint }
      else { s with endpoint := endpoint }.deinitializeConnection false
  | .establishing _ =>
    if s.loopEnded then
      (s.endpoint.initializeConnection modules answer).map fun endpoint =>
        { s with endpoint := endpoint, listeningThread := .created }
    else none
  | _ => (s.endpoint.initializeConnection modules answer).map fun endpoint => { s with endpoint := endpoint }

/-- A status of the client thread. -/
def sendStatus (s : ReceiveThread β) (status : DeviceStatus β) (deviceState : StatusDeviceState) (sent : Bool) :
    ReceiveThread β :=
  let t := { s with endpoint := s.endpoint.sendStatus modules status deviceState true }
  if Endpoint.isModuleSupported modules status.device.module_ && !sent then t.deinitializeConnection false else t

/-- The next step of the receive thread. -/
def receivingHandlerLoop (s : ReceiveThread β) (serverDisconnect : Bool) (message : Option (ServerMessage β)) :
    Option (ReceiveThread β) :=
  match s.listeningThread with
  | .absent | .returned => none
  | .created => some { s with stopReceiving := false, listeningThread := .testing }
  | .testing => some { s with listeningThread := if s.stopReceiving then .returned else .receiving }
  | .receiving =>
    if s.endpoint.connection.state_ = .CONNECTING then some { s with listeningThread := .testing }
    else
      match s.endpoint.receivingHandlerLoop modules serverDisconnect message with
      | (none,endpoint) => some { s with endpoint := endpoint, listeningThread := .testing }
      | (some reconnect,endpoint) =>
        some { s with
          endpoint := endpoint
          listeningThread := .returned
          reconnectQueue_ := s.reconnectQueue_ ++ [reconnect] }

/-- The client thread calls its functions while no other one of them runs on the connection. -/
def step (s : ReceiveThread β) : ReceiveAction β → Option (ReceiveThread β)
  | .connect devices =>
    if s.teardown = .none ∧ s.endpoint.connection.isIdle ∧ s.endpoint.connection.state_ ≠ .CONNECTED then
      some { s with endpoint := s.endpoint.startConnectThread modules devices }
    else none
  | .initializeConnection answer => if s.teardown = .none then s.initializeConnection modules answer else none
  | .sendStatus status deviceState sent =>
    if s.teardown = .none ∧ s.endpoint.connection.isIdle ∧ s.endpoint.connection.state_ = .CONNECTED then
      some (s.sendStatus modules status deviceState sent)
    else none
  | .deinitializeConnection completeDisconnect =>
    if s.teardown = .none ∧ s.endpoint.connection.isIdle then some (s.deinitializeConnection completeDisconnect)
    else none
  | .teardown => s.tearDown modules
  | .receivingHandlerLoop serverDisconnect message => s.receivingHandlerLoop modules serverDisconnect message

omit [BufferType β] in
/-- From its exchange to the end of the join the teardown finds `stopReceiving` set, so that no loop
that runs on is waited for. -/
def Stopped (s : ReceiveThread β) : Prop := s.teardown.awaitsLoop = true → s.stopReceiving = true

omit [BufferType β] in
/-- The thread does not begin between the exchange of a teardown and the end of its join. -/
def BeginsInTime (s : ReceiveThread β) : ReceiveAction β → Prop
  | .receivingHandlerLoop _ _ => s.teardown.awaitsLoop = true → s.listeningThread ≠ .created
  | _ => True

instance (s : ReceiveThread β) (a : ReceiveAction β) : Decidable (s.BeginsInTime a) := by
  unfold BeginsInTime
  split <;> infer_instance

variable {modules} {s t : ReceiveThread β}

/-- A teardown that nothing comes into is that of the client. -/
theorem exec_teardown (hloop : s.loopEnded = true) (hteardown : s.teardown = .none)
    (hidle : s.endpoint.connection.isIdle = true) :
    ∃ t, exec (step modules) s (.deinitializeConnection false :: List.replicate 4 .teardown) = some t ∧
      t.endpoint = s.endpoint.deinitializeConnection modules ∧ t.listeningThread = .absent ∧
      t.teardown = .none := by
  have hstart : step modules s (.deinitializeConnection false) = some (s.deinitializeConnection false) :=
    if_pos ⟨hteardown,hidle⟩
  have hrest : ∃ t, exec (step modules) (s.deinitializeConnection false) (List.replicate 4 .teardown) = some t ∧
      t.endpoint = s.endpoint.deinitializeConnection modules ∧ t.listeningThread = .absent ∧
      t.teardown = .none := by
    obtain ⟨endpoint,stopReceiving,listeningThread,teardown,reconnectQueue⟩ := s
    cases listeningThread with
    | absent => exact ⟨_,rfl,rfl,rfl,rfl⟩
    | returned => exact ⟨_,rfl,rfl,rfl,rfl⟩
    | created | testing | receiving => cases hloop
  obtain ⟨t,ht,hend⟩ := hrest
  exact ⟨t,exec_cons_eq_some.mpr ⟨_,hstart,ht⟩,hend⟩

/-! ## What a step does to the flag -/

omit [BufferType β] in
theorem stopped_of_not_awaitsLoop (h : s.teardown.awaitsLoop = false) : s.Stopped := by
  intro hawaits
  rw [h] at hawaits
  cases hawaits

/-- The connect thread makes no teardown that waits, and begins one at most. -/
theorem initializeConnection_teardown {answer : Answer β} (hteardown : s.teardown = .none)
    (ht : s.initializeConnection modules answer = some t) : t.teardown.awaitsLoop = false := by
  unfold initializeConnection at ht
  split at ht
  · obtain ⟨endpoint,-,rfl⟩ := Option.map_eq_some_iff.mp ht
    split
    · exact congrArg Teardown.awaitsLoop hteardown
    · rfl
  · split at ht
    · obtain ⟨endpoint,-,rfl⟩ := Option.map_eq_some_iff.mp ht
      exact congrArg Teardown.awaitsLoop hteardown
    · cases ht
  · obtain ⟨endpoint,-,rfl⟩ := Option.map_eq_some_iff.mp ht
    exact congrArg Teardown.awaitsLoop hteardown

theorem tearDown_stopped (hs : s.Stopped) (ht : s.tearDown modules = some t) : t.Stopped := by
  unfold tearDown at ht
  cases hteardown : s.teardown with
  | none =>
    rw [hteardown] at ht
    cases ht
  | stopping completeDisconnect =>
    rw [hteardown] at ht
    obtain rfl := Option.some.inj ht
    exact fun _ => rfl
  | closing completeDisconnect =>
    rw [hteardown] at ht
    obtain rfl := Option.some.inj ht
    exact fun _ => hs (congrArg Teardown.awaitsLoop hteardown)
  | joining completeDisconnect =>
    rw [hteardown] at ht
    dsimp only at ht
    split at ht
    · obtain rfl := Option.some.inj ht
      exact stopped_of_not_awaitsLoop rfl
    · cases ht
  | filling completeDisconnect =>
    rw [hteardown] at ht
    obtain rfl := Option.some.inj ht
    exact stopped_of_not_awaitsLoop rfl

omit [BufferType β] in
/-- Only the first step of the thread touches the flag. -/
theorem receivingHandlerLoop_flag {serverDisconnect : Bool} {message : Option (ServerMessage β)}
    (ht : s.receivingHandlerLoop modules serverDisconnect message = some t) :
    t.teardown = s.teardown ∧
      t.stopReceiving = if s.listeningThread = .created then false else s.stopReceiving := by
  unfold receivingHandlerLoop at ht
  cases hthread : s.listeningThread with
  | absent | returned =>
    rw [hthread] at ht
    cases ht
  | created | testing =>
    rw [hthread] at ht
    obtain rfl := Option.some.inj ht
    exact ⟨rfl,rfl⟩
  | receiving =>
    rw [hthread] at ht
    dsimp only at ht
    split at ht
    · obtain rfl := Option.some.inj ht
      exact ⟨rfl,rfl⟩
    · split at ht
      · obtain rfl := Option.some.inj ht
        exact ⟨rfl,rfl⟩
      · obtain rfl := Option.some.inj ht
        exact ⟨rfl,rfl⟩

/-- A step keeps the flag set exactly when it is not the late first step of the thread. -/
theorem Stopped.step_iff {a : ReceiveAction β} (hs : s.Stopped) (ht : s.step modules a = some t) :
    t.Stopped ↔ s.BeginsInTime a := by
  cases a with
  | connect devices =>
    refine iff_of_true ?_ trivial
    simp only [step] at ht
    split at ht
    · rename_i hidle
      obtain rfl := Option.some.inj ht
      exact stopped_of_not_awaitsLoop (congrArg Teardown.awaitsLoop hidle.1)
    · cases ht
  | initializeConnection answer =>
    refine iff_of_true ?_ trivial
    simp only [step] at ht
    split at ht
    · rename_i hteardown
      exact stopped_of_not_awaitsLoop (initializeConnection_teardown hteardown ht)
    · cases ht
  | sendStatus status deviceState sent =>
    refine iff_of_true ?_ trivial
    simp only [step] at ht
    split at ht
    · rename_i hidle
      obtain rfl := Option.some.inj ht
      refine stopped_of_not_awaitsLoop ?_
      unfold ReceiveThread.sendStatus
      dsimp only
      split
      · rfl
      · exact congrArg Teardown.awaitsLoop hidle.1
    · cases ht
  | deinitializeConnection completeDisconnect =>
    refine iff_of_true ?_ trivial
    simp only [step] at ht
    split at ht
    · obtain rfl := Option.some.inj ht
      exact stopped_of_not_awaitsLoop rfl
    · cases ht
  | teardown => exact iff_of_true (tearDown_stopped hs ht) trivial
  | receivingHandlerLoop serverDisconnect message =>
    obtain ⟨hteardown,hflag⟩ := receivingHandlerLoop_flag ht
    unfold Stopped BeginsInTime
    rw [hteardown, hflag]
    by_cases hthread : s.listeningThread = .created
    · simp [hthread]
    · simp only [ne_eq, hthread, not_false_eq_true, implies_true, iff_true]
      exact hs

/-! ## Every run -/

/-- A run waits for no loop with `stopReceiving` taken back exactly when the thread never begins
between the exchange of a teardown and the end of its join. -/
theorem exec_stopped_iff {as : List (ReceiveAction β)} {s : ReceiveThread β}
    (he : exec (step modules) init as = some s) :
    (∀ bs t, bs <+: as → exec (step modules) init bs = some t → t.Stopped) ↔
      Guarded (step modules) BeginsInTime init as := by
  have hinit : (init : ReceiveThread β).Stopped := stopped_of_not_awaitsLoop rfl
  constructor
  · intro hall
    refine guarded_of_forall_prefix he hall ?_
    intro bs t a v _ hv hbefore hafter
    exact (hbefore.step_iff hv).mp hafter
  · rintro hg bs t ⟨cs,rfl⟩ ht
    exact exec_guarded_invariant hinit (fun _ _ _ hs ha hstep => (hs.step_iff hstep).mpr ha) (hg.of_append ht) ht

/-! ## A thread that begins late -/

/-- A session without devices. -/
def establish : List (ReceiveAction (List UInt8)) :=
  .connect [] :: [none,some (.connectResponse "one" false),none,none,none,none,none].map fun received =>
    .initializeConnection ⟨true,"one",true,received⟩

/-- The connection is torn down before the thread has made a step. -/
def beginsLate : List (ReceiveAction (List UInt8)) :=
  establish ++ [.deinitializeConnection false,.teardown,.receivingHandlerLoop false none,.teardown]

theorem beginsLate_waits_forever :
    ¬∀ (modules : Modules (List UInt8)) as s, exec (step modules) init as = some s → s.Stopped := by
  intro hall
  have h := hall (fun _ => none) beginsLate _ rfl
  exact absurd (h rfl) (by decide)

/-- The thread is in its loop when the connection is torn down. -/
def beginsEarly : List (ReceiveAction (List UInt8)) :=
  establish ++ [.receivingHandlerLoop false none,.receivingHandlerLoop false none,.deinitializeConnection false,
    .teardown,.receivingHandlerLoop false none,.receivingHandlerLoop false none,.teardown,.teardown,.teardown]

theorem exec_stopped_beginsEarly :
    ∃ s, exec (step fun _ => none) init beginsEarly = some s ∧ s.listeningThread = .absent ∧
      ∀ bs t, bs <+: beginsEarly → exec (step fun _ => none) init bs = some t → t.Stopped := by
  have hg : Guarded (step fun _ => none) BeginsInTime init beginsEarly := by decide +kernel
  exact ⟨_,rfl,rfl,(exec_stopped_iff rfl).mpr hg⟩

end ReceiveThread

end ModuleGateway.ExternalClient
