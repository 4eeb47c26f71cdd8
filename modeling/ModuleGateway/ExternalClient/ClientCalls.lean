import ModuleGateway.ExternalClient.DisconnectMessages

/-! # The calls of the ExternalClient thread

`sendStatus` starts a connect sequence, and a connect sequence sends the statuses of the other
connections with `sendStatus`. Here every call is on a stack, and `insideConnectSequence_` is what the
code tests: nothing else keeps the two functions from calling each other further.
-/
namespace ModuleGateway.ExternalClient
open Structures Execution Client

variable {β : Type}

/-- Where the loop of `handleAggregatedMessages` is. It pops the item at the front of
`reconnectQueue_` after the call that the item asked for. -/
inductive LoopPoint where
  | looping
  | popping
  | waiting
  | sending
  | sent (ret : Bool)
  | ended
deriving DecidableEq

/-- `filled` is before the second look at the state, `started` is after a connect sequence. -/
inductive SendPoint where
  | entered
  | filled (connection : ℕ)
  | started
deriving DecidableEq

/-- In the wait for the forced devices `awaiting` is before its condition, and `receiving` is before
the wait of the queue. -/
inductive SequencePoint where
  | draining
  | forcing
  | awaiting (connectedDevices forcedDevices : List DeviceIdentification)
  | receiving (connectedDevices forcedDevices : List DeviceIdentification)
  | joining
deriving DecidableEq

inductive DrainPoint (β : Type) where
  | looping
  | receiving
  | filling (deviceStatus : DeviceStatus β)

/-- A call that has not returned. -/
inductive Call (β : Type) where
  | sendStatus (internalMessage : InternalClientMessage β) (point : SendPoint)
  | startExternalConnectSequence (connection : ℕ) (point : SequencePoint)
  | drainQueueDuringConnect (connection : ℕ) (point : DrainPoint β)

/-- The functions of the thread that are called below `handleAggregatedMessages`. -/
inductive ClientFunction where
  | sendStatus
  | startExternalConnectSequence
  | drainQueueDuringConnect
deriving DecidableEq

def Call.function : Call β → ClientFunction
  | .sendStatus _ _ => .sendStatus
  | .startExternalConnectSequence _ _ => .startExternalConnectSequence
  | .drainQueueDuringConnect _ _ => .drainQueueDuringConnect

/-- The client with its flag and its calls, the last one first. `handleAggregatedMessages` is below
them all. Where the thread is in `client` is not looked at. -/
structure ClientCalls (β : Type) where
  client : Client β
  loop : LoopPoint
  calls : List (Call β)
  insideConnectSequence_ : Bool

namespace ClientCalls
variable [BufferType β] (settings : ConnectionSettings β)

/-- The thread starts, whatever the queues and the connections are. -/
def started (client : Client β) : ClientCalls β := ⟨client,.looping,[],false⟩

omit [BufferType β] in
def setEndpoint (s : ClientCalls β) (connection : ℕ) (e : Endpoint β) : ClientCalls β :=
  { s with client := s.client.setEndpoint connection e }

omit [BufferType β] in
/-- The queue without the message at its front. -/
def popped (s : ClientCalls β) (queue : List (InternalClientMessage β)) : ClientCalls β :=
  { s with client := { s.client with toExternalQueue_ := queue } }

omit [BufferType β] in
/-- A call to `startExternalConnectSequence`, with the assignment it begins with. -/
def callSequence (s : ClientCalls β) (connection : ℕ) (callers : List (Call β)) : ClientCalls β :=
  { s with calls := .startExternalConnectSequence connection .draining :: callers, insideConnectSequence_ := true }

omit [BufferType β] in
def callSendStatus (s : ClientCalls β) (internalMessage : InternalClientMessage β) (callers : List (Call β)) :
    ClientCalls β :=
  { s with calls := .sendStatus internalMessage .entered :: callers }

omit [BufferType β] in
/-- `sendStatus` returns; only the loop looks at the result. -/
def returnStatus (s : ClientCalls β) (ret : Bool) (callers : List (Call β)) : ClientCalls β :=
  { s with
    calls := callers
    loop := if callers.isEmpty then .sent ret else s.loop }

/-- The next section of `handleAggregatedMessages`. -/
def handleAggregatedMessages (s : ClientCalls β) : Option (ClientCalls β) :=
  match s.loop with
  | .looping =>
    if s.client.stopped then some { s with loop := .ended }
    else
      match s.client.reconnectQueue_ with
      | [] => some { s with loop := .waiting }
      | reconnectItem :: _ =>
        let connection := reconnectItem.connection_
        let e := (s.client.externalConnectionsList_ connection).deinitializeConnection (settings.modules connection)
        if reconnectItem.reconnect then
          some (callSequence { s.setEndpoint connection e with loop := .popping } connection [])
        else some { s.setEndpoint connection e.setNotInitialized with loop := .popping }
  | .popping =>
    some { s with
      client := { s.client with reconnectQueue_ := s.client.reconnectQueue_.tail }
      loop := .waiting }
  | .waiting =>
    match s.client.toExternalQueue_ with
    | [] => some { s with loop := .looping }
    | message :: queue => some (callSendStatus { s.popped queue with loop := .sending } message [])
  | .sending => none
  | .sent _ => some { s with loop := .looping }
  | .ended => none

/-- The next section of `sendStatus`. -/
def sendStatus (s : ClientCalls β) (internalMessage : InternalClientMessage β) (sent : Bool)
    (callers : List (Call β)) : SendPoint → ClientCalls β
  | .entered =>
    let deviceStatus := internalMessage.devicestatus
    match settings.externalConnectionMap_ deviceStatus.device.module_ with
    | none => s.returnStatus true callers
    | some connection =>
      let e := s.client.externalConnectionsList_ connection
      if e.connection.state_ ≠ .CONNECTED then
        { s.setEndpoint connection (e.fillErrorAggregator (settings.modules connection) deviceStatus) with
          calls := .sendStatus internalMessage (.filled connection) :: callers }
      else
        let deviceState := if internalMessage.disconnected then .DISCONNECT else .RUNNING
        (s.setEndpoint connection
          (e.sendStatus (settings.modules connection) deviceStatus deviceState sent)).returnStatus
            (!internalMessage.disconnected) callers
  | .filled connection =>
    if (s.client.externalConnectionsList_ connection).connection.state_ = .NOT_INITIALIZED then
      if s.insideConnectSequence_ then s.returnStatus true callers
      else s.callSequence connection (.sendStatus internalMessage .started :: callers)
    else s.returnStatus true callers
  | .started => s.returnStatus true callers

/-- The next section of `startExternalConnectSequence`. -/
def startExternalConnectSequence (s : ClientCalls β) (connection : ℕ) (connectedDevices : List DeviceIdentification)
    (callers : List (Call β)) : SequencePoint → Option (ClientCalls β)
  | .draining =>
    match s.client.toExternalQueue_ with
    | [] => some { s with calls := .startExternalConnectSequence connection .forcing :: callers }
    | internalMessage :: queue =>
      if internalMessage.disconnected then
        some { s with calls := .startExternalConnectSequence connection .forcing :: callers }
      else
        let s := s.popped queue
        let deviceStatus := internalMessage.devicestatus
        if Endpoint.isModuleSupported (settings.modules connection) deviceStatus.device.module_ then
          some (s.setEndpoint connection ((s.client.externalConnectionsList_ connection).fillErrorAggregator
            (settings.modules connection) deviceStatus))
        else
          some (s.callSendStatus internalMessage (.startExternalConnectSequence connection .draining :: callers))
  | .forcing =>
    if connectedDevices.all fun device =>
        Endpoint.isModuleSupported (settings.modules connection) device.module_ then
      let forcedDevices :=
        (s.client.externalConnectionsList_ connection).forceAggregationOnAllDevices connectedDevices
      some { s with
        calls := .startExternalConnectSequence connection (.awaiting connectedDevices forcedDevices) :: callers }
    else none
  | .awaiting connectedDevices forcedDevices =>
    if forcedDevices.isEmpty || s.client.stopped then
      let e := (s.client.externalConnectionsList_ connection).startConnectThread (settings.modules connection)
        connectedDevices
      some { s.setEndpoint connection e with
        calls := .drainQueueDuringConnect connection .looping ::
          .startExternalConnectSequence connection .joining :: callers }
    else
      some { s with
        calls := .startExternalConnectSequence connection (.receiving connectedDevices forcedDevices) :: callers }
  | .receiving connectedDevices forcedDevices =>
    let again (forcedDevices : List DeviceIdentification) : List (Call β) :=
      .startExternalConnectSequence connection (.awaiting connectedDevices forcedDevices) :: callers
    match s.client.toExternalQueue_ with
    | [] => some { s with calls := again forcedDevices }
    | internalMessage :: queue =>
      let deviceStatus := internalMessage.devicestatus
      let device := deviceStatus.device
      if Endpoint.isModuleSupported (settings.modules connection) device.module_ then
        if forcedDevices.any device.isSame then
          let e := (s.client.externalConnectionsList_ connection).fillErrorAggregator (settings.modules connection)
            deviceStatus
          some { (s.popped queue).setEndpoint connection e with
            calls := again (forcedDevices.eraseP device.isSame) }
        else some { s.popped (queue ++ [internalMessage]) with calls := again forcedDevices }
      else some ((s.popped queue).callSendStatus internalMessage (again forcedDevices))
  | .joining =>
    match (s.client.externalConnectionsList_ connection).connectResult with
    | none => none
    | some ok =>
      let timer_ := if !ok && !s.client.stopped then s.client.timer_ ++ [connection] else s.client.timer_
      some { s with
        client := { s.client with timer_ := timer_ }
        calls := callers
        insideConnectSequence_ := false }

/-- The next section of `drainQueueDuringConnect`. -/
def drainQueueDuringConnect (s : ClientCalls β) (connection : ℕ) (callers : List (Call β)) :
    DrainPoint β → ClientCalls β
  | .looping =>
    let e := s.client.externalConnectionsList_ connection
    if e.connectResult.isSome || s.client.stopped || e.connection.state_ = .CONNECTED then
      { s with calls := callers }
    else { s with calls := .drainQueueDuringConnect connection .receiving :: callers }
  | .receiving =>
    let again : List (Call β) := .drainQueueDuringConnect connection .looping :: callers
    match s.client.toExternalQueue_ with
    | [] => { s with calls := again }
    | internalMessage :: queue =>
      let e := s.client.externalConnectionsList_ connection
      if e.connectResult.isSome || e.connection.state_ = .CONNECTED || internalMessage.disconnected then
        { s with calls := callers }
      else
        let deviceStatus := internalMessage.devicestatus
        if Endpoint.isModuleSupported (settings.modules connection) deviceStatus.device.module_ then
          { s.popped queue with calls := .drainQueueDuringConnect connection (.filling deviceStatus) :: callers }
        else (s.popped queue).callSendStatus internalMessage again
  | .filling deviceStatus =>
    let e := (s.client.externalConnectionsList_ connection).fillErrorAggregator (settings.modules connection)
      deviceStatus
    { s.setEndpoint connection e with calls := .drainQueueDuringConnect connection .looping :: callers }

/-- The call made last goes on. -/
def clientThread (s : ClientCalls β) (connectedDevices : List DeviceIdentification) (sent : Bool) :
    Option (ClientCalls β) :=
  match s.calls with
  | [] => s.handleAggregatedMessages settings
  | .sendStatus internalMessage point :: callers =>
    some (s.sendStatus settings internalMessage sent callers point)
  | .startExternalConnectSequence connection point :: callers =>
    s.startExternalConnectSequence settings connection connectedDevices callers point
  | .drainQueueDuringConnect connection point :: callers =>
    some (s.drainQueueDuringConnect settings connection callers point)

/-- The other threads do what they do in the client. -/
def step (s : ClientCalls β) : ClientAction β → Option (ClientCalls β)
  | .client connectedDevices sent => s.clientThread settings connectedDevices sent
  | a => (s.client.clientStep settings a).map fun client => { s with client := client }

/-- The connect sequences that are active. -/
def activeSequences (s : ClientCalls β) : ℕ :=
  s.calls.countP fun call => call.function = .startExternalConnectSequence

end ClientCalls

/-! ## The calls alone -/

namespace ClientFunction

/-- Whom a function calls. -/
inductive Calls : ClientFunction → ClientFunction → Prop where
  | sequence : Calls .sendStatus .startExternalConnectSequence
  | otherStatus : Calls .startExternalConnectSequence .sendStatus
  | drain : Calls .startExternalConnectSequence .drainQueueDuringConnect
  | drainedStatus : Calls .drainQueueDuringConnect .sendStatus

/-- Calls on a stack, each made by the one below it and the last by the loop. -/
inductive Nested : List ClientFunction → Prop where
  | loop : Nested []
  | loopSends : Nested [.sendStatus]
  | loopStarts : Nested [.startExternalConnectSequence]
  | call {caller callee : ClientFunction} {callers : List ClientFunction} (h : caller.Calls callee)
      (hcallers : Nested (caller :: callers)) : Nested (callee :: caller :: callers)

/-- What a section of the thread may do to the calls and to the flag. -/
inductive CallStep : List ClientFunction → Bool → List ClientFunction → Bool → Prop where
  | goOn (calls : List ClientFunction) (inside : Bool) : CallStep calls inside calls inside
  | loopSends (inside : Bool) : CallStep [] inside [.sendStatus] inside
  | loopStarts (inside : Bool) : CallStep [] inside [.startExternalConnectSequence] true
  | call {caller callee : ClientFunction} (callers : List ClientFunction) (inside : Bool) (h : caller.Calls callee)
      (hstarts : callee ≠ .startExternalConnectSequence) :
      CallStep (caller :: callers) inside (callee :: caller :: callers) inside
  | starts (callers : List ClientFunction) :
      CallStep (.sendStatus :: callers) false (.startExternalConnectSequence :: .sendStatus :: callers) true
  | returns {function : ClientFunction} (callers : List ClientFunction) (inside : Bool)
      (hends : function ≠ .startExternalConnectSequence) : CallStep (function :: callers) inside callers inside
  | ends (callers : List ClientFunction) (inside : Bool) :
      CallStep (.startExternalConnectSequence :: callers) inside callers false

/-- The flag counts the connect sequences. -/
structure Flagged (calls : List ClientFunction) (inside : Bool) : Prop where
  nested : Nested calls
  count : calls.count .startExternalConnectSequence = inside.toNat

variable {calls calls' : List ClientFunction} {inside inside' : Bool} {function : ClientFunction}

theorem Nested.of_cons (h : Nested (function :: calls)) : Nested calls := by
  cases h with
  | loopSends => exact .loop
  | loopStarts => exact .loop
  | call _ hcallers => exact hcallers

/-- A connect sequence starts with the flag down, and the flag comes down with the only one there is. -/
theorem Flagged.step (hs : Flagged calls inside) (h : CallStep calls inside calls' inside') :
    Flagged calls' inside' := by
  obtain ⟨hnested,hcount⟩ := hs
  cases h with
  | goOn => exact ⟨hnested,hcount⟩
  | loopSends => exact ⟨.loopSends,hcount⟩
  | loopStarts => exact ⟨.loopStarts,rfl⟩
  | call callers inside h hstarts =>
    refine ⟨.call h hnested,?_⟩
    rw [List.count_cons_of_ne hstarts, hcount]
  | starts callers =>
    refine ⟨.call .sequence hnested,?_⟩
    rw [List.count_cons_self, hcount]
    rfl
  | returns callers inside hends =>
    refine ⟨hnested.of_cons,?_⟩
    rw [← hcount, List.count_cons_of_ne hends]
  | ends callers inside =>
    refine ⟨hnested.of_cons,?_⟩
    rw [List.count_cons_self] at hcount
    have hle := Bool.toNat_le inside
    simp only [Bool.toNat_false]
    omega

/-- What the function called last leaves of the three calls that a connect sequence accounts for. -/
def slack : List ClientFunction → ℕ
  | .drainQueueDuringConnect :: _ => 1
  | .startExternalConnectSequence :: _ => 2
  | _ => 0

theorem Nested.length_le (h : Nested calls) :
    calls.length + slack calls ≤ 3*calls.count .startExternalConnectSequence + 1 := by
  induction h with
  | loop => decide
  | loopSends => decide
  | loopStarts => decide
  | call h hcallers ih =>
    cases h <;>
      simp only [slack, List.length_cons, List.count_cons, beq_iff_eq, reduceCtorEq, if_true, if_false] at ih ⊢ <;>
      omega

end ClientFunction

/-! ## The calls of the code -/

namespace ClientCalls
open ClientFunction
variable [BufferType β] {settings : ConnectionSettings β} {s t : ClientCalls β}

/-- From `s` to `t` the calls and the flag make a step. -/
def CallsStep (s t : ClientCalls β) : Prop :=
  CallStep (s.calls.map Call.function) s.insideConnectSequence_ (t.calls.map Call.function) t.insideConnectSequence_

omit [BufferType β] in
theorem CallsStep.goOn (hcalls : t.calls.map Call.function = s.calls.map Call.function)
    (hinside : t.insideConnectSequence_ = s.insideConnectSequence_) : CallsStep s t := by
  unfold CallsStep
  rw [hcalls, hinside]
  exact .goOn _ _

omit [BufferType β] in
/-- The call made last goes on to another of its points. -/
theorem CallsStep.moves {call call' : Call β} {callers : List (Call β)} (hcalls : s.calls = call :: callers)
    (ht : t.calls = call' :: callers) (hfunction : call'.function = call.function)
    (hinside : t.insideConnectSequence_ = s.insideConnectSequence_) : CallsStep s t := by
  refine .goOn ?_ hinside
  rw [hcalls, ht, List.map_cons, List.map_cons, hfunction]

omit [BufferType β] in
theorem CallsStep.returns {call : Call β} {callers : List (Call β)} (hcalls : s.calls = call :: callers)
    (hends : call.function ≠ .startExternalConnectSequence) (ht : t.calls = callers)
    (hinside : t.insideConnectSequence_ = s.insideConnectSequence_) : CallsStep s t := by
  unfold CallsStep
  rw [hcalls, ht, hinside]
  exact .returns _ _ hends

omit [BufferType β] in
theorem CallsStep.call {call caller callee : Call β} {callers : List (Call β)} (hcalls : s.calls = call :: callers)
    (ht : t.calls = callee :: caller :: callers) (hinside : t.insideConnectSequence_ = s.insideConnectSequence_)
    (hcaller : caller.function = call.function) (h : caller.function.Calls callee.function)
    (hstarts : callee.function ≠ .startExternalConnectSequence) : CallsStep s t := by
  unfold CallsStep
  rw [hcalls, ht, hinside, List.map_cons, List.map_cons, List.map_cons, ← hcaller]
  exact .call _ _ h hstarts

theorem handleAggregatedMessages_calls (hcalls : s.calls = []) (ht : s.handleAggregatedMessages settings = some t) :
    CallsStep s t := by
  unfold handleAggregatedMessages at ht
  split at ht
  · split at ht
    · obtain rfl := Option.some.inj ht
      exact .goOn rfl rfl
    · split at ht
      · obtain rfl := Option.some.inj ht
        exact .goOn rfl rfl
      · dsimp only at ht
        split at ht
        · obtain rfl := Option.some.inj ht
          unfold CallsStep
          rw [hcalls]
          exact .loopStarts _
        · obtain rfl := Option.some.inj ht
          exact .goOn rfl rfl
  · obtain rfl := Option.some.inj ht
    exact .goOn rfl rfl
  · split at ht
    · obtain rfl := Option.some.inj ht
      exact .goOn rfl rfl
    · obtain rfl := Option.some.inj ht
      unfold CallsStep
      rw [hcalls]
      exact .loopSends _
  · cases ht
  · obtain rfl := Option.some.inj ht
    exact .goOn rfl rfl
  · cases ht

/-- A connect sequence is started only where the flag was found down. -/
theorem sendStatus_calls {internalMessage : InternalClientMessage β} {sent : Bool} {callers : List (Call β)}
    {point : SendPoint} (hcalls : s.calls = .sendStatus internalMessage point :: callers) :
    CallsStep s (s.sendStatus settings internalMessage sent callers point) := by
  cases point with
  | entered =>
    simp only [sendStatus]
    split
    · exact .returns hcalls nofun rfl rfl
    · split
      · exact .moves hcalls rfl rfl rfl
      · exact .returns hcalls nofun rfl rfl
  | filled connection =>
    simp only [sendStatus]
    split
    · split
      · exact .returns hcalls nofun rfl rfl
      · rename_i hinside
        unfold CallsStep
        rw [hcalls, Bool.eq_false_of_not_eq_true hinside]
        exact .starts _
    · exact .returns hcalls nofun rfl rfl
  | started => exact .returns hcalls nofun rfl rfl

theorem startExternalConnectSequence_calls {connection : ℕ} {connectedDevices : List DeviceIdentification}
    {callers : List (Call β)} {point : SequencePoint}
    (hcalls : s.calls = .startExternalConnectSequence connection point :: callers)
    (ht : s.startExternalConnectSequence settings connection connectedDevices callers point = some t) :
    CallsStep s t := by
  cases point with
  | draining =>
    simp only [startExternalConnectSequence] at ht
    split at ht
    · obtain rfl := Option.some.inj ht
      exact .moves hcalls rfl rfl rfl
    · split at ht
      · obtain rfl := Option.some.inj ht
        exact .moves hcalls rfl rfl rfl
      · split at ht
        · obtain rfl := Option.some.inj ht
          exact .goOn rfl rfl
        · obtain rfl := Option.some.inj ht
          exact .call hcalls rfl rfl rfl .otherStatus nofun
  | forcing =>
    simp only [startExternalConnectSequence] at ht
    split at ht
    · obtain rfl := Option.some.inj ht
      exact .moves hcalls rfl rfl rfl
    · cases ht
  | awaiting connectedDevices forcedDevices =>
    simp only [startExternalConnectSequence] at ht
    split at ht
    · obtain rfl := Option.some.inj ht
      exact .call hcalls rfl rfl rfl .drain nofun
    · obtain rfl := Option.some.inj ht
      exact .moves hcalls rfl rfl rfl
  | receiving connectedDevices forcedDevices =>
    simp only [startExternalConnectSequence] at ht
    split at ht
    · obtain rfl := Option.some.inj ht
      exact .moves hcalls rfl rfl rfl
    · split at ht
      · split at ht
        all_goals
          obtain rfl := Option.some.inj ht
          exact .moves hcalls rfl rfl rfl
      · obtain rfl := Option.some.inj ht
        exact .call hcalls rfl rfl rfl .otherStatus nofun
  | joining =>
    simp only [startExternalConnectSequence] at ht
    split at ht
    · cases ht
    · obtain rfl := Option.some.inj ht
      unfold CallsStep
      rw [hcalls]
      exact .ends _ _

theorem drainQueueDuringConnect_calls {connection : ℕ} {callers : List (Call β)} {point : DrainPoint β}
    (hcalls : s.calls = .drainQueueDuringConnect connection point :: callers) :
    CallsStep s (s.drainQueueDuringConnect settings connection callers point) := by
  cases point with
  | looping =>
    simp only [drainQueueDuringConnect]
    split
    · exact .returns hcalls nofun rfl rfl
    · exact .moves hcalls rfl rfl rfl
  | receiving =>
    simp only [drainQueueDuringConnect]
    split
    · exact .moves hcalls rfl rfl rfl
    · split
      · exact .returns hcalls nofun rfl rfl
      · split
        · exact .moves hcalls rfl rfl rfl
        · exact .call hcalls rfl rfl rfl .drainedStatus nofun
  | filling deviceStatus =>
    exact .moves hcalls rfl rfl rfl

/-- Every section of the thread is a step of the calls, and the other threads leave them alone. -/
theorem step_calls {a : ClientAction β} (ht : s.step settings a = some t) : CallsStep s t := by
  cases a with
  | client connectedDevices sent =>
    simp only [step, clientThread] at ht
    split at ht
    · rename_i hcalls
      exact handleAggregatedMessages_calls hcalls ht
    · rename_i hcalls
      obtain rfl := Option.some.inj ht
      exact sendStatus_calls hcalls
    · rename_i hcalls
      exact startExternalConnectSequence_calls hcalls ht
    · rename_i hcalls
      obtain rfl := Option.some.inj ht
      exact drainQueueDuringConnect_calls hcalls
  | _ =>
    simp only [step] at ht
    obtain ⟨client,-,rfl⟩ := Option.map_eq_some_iff.mp ht
    exact .goOn rfl rfl

omit [BufferType β] in
theorem activeSequences_eq_count (s : ClientCalls β) :
    s.activeSequences = (s.calls.map Call.function).count .startExternalConnectSequence := by
  rw [activeSequences, List.count, List.countP_map]
  rfl

/-- Inside a connect sequence `sendStatus` does what the client does with a message that is passed on. -/
theorem sendStatus_returns {internalMessage : InternalClientMessage β} {caller : Call β} {callers : List (Call β)}
    (sent : Bool) (hinside : s.insideConnectSequence_ = true)
    (hcalls : s.calls = .sendStatus internalMessage .entered :: caller :: callers) :
    ∃ as, (∀ a ∈ as, a = .client [] sent) ∧ exec (step settings) s as = some { s with
      client := (s.client.sendStatus settings internalMessage sent).2
      calls := caller :: callers } := by
  have hentered : s.step settings (.client [] sent) =
      some (s.sendStatus settings internalMessage sent (caller :: callers) .entered) := by
    simp only [step, clientThread, hcalls]
  cases hmap : settings.externalConnectionMap_ internalMessage.devicestatus.device.module_ with
  | none =>
    simp only [sendStatus, hmap] at hentered
    refine ⟨[.client [] sent],by simp,?_⟩
    simp only [Client.sendStatus, hmap]
    exact exec_cons_eq_some.mpr ⟨_,hentered,rfl⟩
  | some connection =>
    by_cases hstate : (s.client.externalConnectionsList_ connection).connection.state_ = .CONNECTED
    · simp only [sendStatus, hmap, hstate, ne_eq, not_true, if_false] at hentered
      refine ⟨[.client [] sent],by simp,?_⟩
      simp only [Client.sendStatus, hmap, hstate, ne_eq, not_true, if_false]
      exact exec_cons_eq_some.mpr ⟨_,hentered,rfl⟩
    · simp only [sendStatus, hmap, hstate, ne_eq, not_false_eq_true, if_true] at hentered
      -- Whatever the second look at the state finds, the flag keeps a second sequence from starting.
      refine ⟨[.client [] sent,.client [] sent],by simp,?_⟩
      simp only [Client.sendStatus, hmap, hstate, ne_eq, not_false_eq_true, if_true]
      refine exec_cons_eq_some.mpr ⟨_,hentered,exec_cons_eq_some.mpr ⟨_,?_,rfl⟩⟩
      simp only [step, clientThread, sendStatus, setEndpoint, hinside, if_true, ite_self]
      rfl

/-! ## Every run -/

/-- At most one connect sequence is active, `insideConnectSequence_` is true exactly while one is, and the
thread is never more than four calls below its loop. -/
theorem exec_activeSequences {client : Client β} {as : List (ClientAction β)}
    (he : exec (step settings) (started client) as = some s) :
    s.activeSequences ≤ 1 ∧ (s.insideConnectSequence_ = true ↔ s.activeSequences = 1) ∧ s.calls.length ≤ 4 := by
  have hstarted : Flagged ((started client).calls.map Call.function) (started client).insideConnectSequence_ :=
    ⟨.loop,rfl⟩
  have hflagged : Flagged (s.calls.map Call.function) s.insideConnectSequence_ :=
    exec_invariant (I := fun s : ClientCalls β => Flagged (s.calls.map Call.function) s.insideConnectSequence_)
      hstarted (fun _ _ _ hs ht => hs.step (step_calls ht)) he
  have hcount := hflagged.count
  rw [← activeSequences_eq_count] at hcount
  have hlength := hflagged.nested.length_le
  rw [← activeSequences_eq_count, List.length_map] at hlength
  have hle := Bool.toNat_le s.insideConnectSequence_
  refine ⟨by omega,?_,by omega⟩
  rw [hcount]
  exact Bool.toNat_eq_one.symm

/-- Two connections, for modules 1 and 2. -/
def twoConnections : ConnectionSettings (List UInt8) :=
  [ExternalConnection.moduleOne,fun module_ => ExternalConnection.moduleOne (module_ - 1)]

/-- A status of each of them; the first one starts a connect sequence, which comes upon the second one. -/
def sendsInside : List (ClientAction (List UInt8)) :=
  [.push (statusMessage false ExternalConnection.lidar),
    .push (statusMessage false { ExternalConnection.lidar with module_ := 2 })] ++
    List.replicate 6 (.client [] true)

theorem exec_activeSequences_sendsInside :
    ∃ s : ClientCalls (List UInt8), exec (step twoConnections) (started init) sendsInside = some s ∧
      s.calls.map Call.function = [.sendStatus,.startExternalConnectSequence,.sendStatus] ∧
      s.activeSequences ≤ 1 ∧ (s.insideConnectSequence_ = true ↔ s.activeSequences = 1) ∧ s.calls.length ≤ 4 := by
  have hrun : (exec (step twoConnections) (started init) sendsInside).map (fun s => s.calls.map Call.function) =
      some [.sendStatus,.startExternalConnectSequence,.sendStatus] := by decide +kernel
  obtain ⟨s,hs,hcalls⟩ := Option.map_eq_some_iff.mp hrun
  exact ⟨s,hs,hcalls,exec_activeSequences hs⟩

end ClientCalls

end ModuleGateway.ExternalClient
