import ModuleGateway.ExternalClient.Attended
import ModuleGateway.ExternalClient.ChannelCalls

/-! # The dummy channel

`DummyCommunication` takes every message and gives none. A connect sequence needs a response, so a connection
over this channel never comes up: each attempt sends a connect message and fails, and leaves a timer, an
item or the next status behind to try again.
-/
namespace ModuleGateway.ExternalClient
open Structures ExternalConnection Execution

variable {β : Type}

structure DummyCommunication where
  isConnected_ : Bool

namespace DummyCommunication

def initializeConnection (s : DummyCommunication) : DummyCommunication := { s with isConnected_ := true }

def sendMessage (s : DummyCommunication) : Bool := s.isConnected_

def receiveMessage (_ : DummyCommunication) : Option (ServerMessage β) := none

def consumeServerDisconnectNotification (_ : DummyCommunication) : Bool := false

def closeConnection (s : DummyCommunication) : DummyCommunication := { s with isConnected_ := false }

/-- A call with the result it gives. -/
def call (s : DummyCommunication) : ChannelCall β → Option DummyCommunication
  | .initializeConnection ok => if ok then some s.initializeConnection else none
  | .sendMessage _ sent => if sent = none ∨ sent = some s.sendMessage then some s else none
  | .receiveMessage m => if m.isSome = (s.receiveMessage : Option (ServerMessage β)).isSome then some s else none
  | .consumeServerDisconnectNotification pending =>
    if pending = s.consumeServerDisconnectNotification then some s else none
  | .closeConnection => some s.closeConnection

def channel : ICommunicationChannel β DummyCommunication Empty := ⟨⟨false⟩,call,fun _ event => event.elim⟩

end DummyCommunication

namespace Endpoint

/-- The connection is down or in the first step of a connect sequence, and has sent connect messages only. -/
structure NeverUp (e : Endpoint β) : Prop where
  state_ : e.connection.state_ ≠ .CONNECTED
  listening : e.listening = false
  connectThread : e.connection.connectThread = .finished false ∨
    ∃ devices, e.connection.connectThread = .opening devices ∨ e.connection.connectThread = .connecting devices
  sent : ∀ m ∈ e.connection.sent, ∃ sessionId devices, m = .connect sessionId devices
  commandQueue_ : e.connection.commandQueue_ = []

variable {modules : Modules β} {phase phase' : ConnectPhase} {e e' : Endpoint β} {s t : DummyCommunication}

theorem NeverUp.init : (init : Endpoint β).NeverUp where
  state_ := ConnectionState.noConfusion
  listening := rfl
  connectThread := .inl rfl
  sent _ hm := by cases hm
  commandQueue_ := rfl

theorem NeverUp.congr (h : e.NeverUp) (hstate : e'.connection.state_ ≠ .CONNECTED) (hlistening : e'.listening = false)
    (hthread : e'.connection.connectThread = e.connection.connectThread)
    (hsent : e'.connection.sent = e.connection.sent)
    (hqueue : e'.connection.commandQueue_ = e.connection.commandQueue_) : e'.NeverUp :=
  ⟨hstate,hlistening,by rw [hthread]; exact h.connectThread,by rw [hsent]; exact h.sent,
    hqueue.trans h.commandQueue_⟩

variable [BufferType β]

/-- The thread gets no response to its connect message. -/
theorem NeverUp.initializeConnection (h : e.NeverUp) {answer : Answer β}
    (he' : e.initializeConnection modules answer = some e')
    (hcalls : exec DummyCommunication.call s (e.connectCalls e' answer) = some t) : e'.NeverUp := by
  obtain ⟨c,hc,rfl⟩ := Option.map_eq_some_iff.mp he'
  rcases h.connectThread with hat | ⟨devices,hat | hat⟩
  · rw [ExternalConnection.initializeConnection, hat] at hc
    cases hc
  · rw [ExternalConnection.initializeConnection, hat] at hc
    obtain rfl := Option.some.inj hc
    rw [hat]
    obtain hcases | ⟨state,hconnected,hcases⟩ := e.connection.openChannel_cases devices answer <;> rw [hcases]
    · exact ⟨ConnectionState.noConfusion,h.listening,.inr ⟨devices,.inr rfl⟩,h.sent,h.commandQueue_⟩
    · exact ⟨fun hup => h.state_ (hconnected hup),h.listening,.inl rfl,h.sent,h.commandQueue_⟩
  · rw [ExternalConnection.initializeConnection, hat] at hc
    obtain rfl := Option.some.inj hc
    simp only [connectCalls, hat] at hcalls
    obtain ⟨u,-,hrest⟩ := exec_cons_eq_some.mp hcalls
    have hnone : answer.sent = true → answer.received = none := by
      intro hsent
      rw [if_pos hsent] at hrest
      obtain ⟨v,hv,-⟩ := exec_cons_eq_some.mp hrest
      cases hreceived : answer.received with
      | none => rfl
      | some m =>
        rw [hreceived] at hv
        cases hv
    have hfails : ∃ c : ExternalConnection β, e.connection.connectMessageHandle devices answer = c.fail ∧
        c.sent = e.connection.sent ++ [.connect answer.sessionId devices] ∧
          c.commandQueue_ = e.connection.commandQueue_ := by
      refine ⟨{ e.connection with
        sessionId_ := answer.sessionId
        sent := e.connection.sent ++ [.connect answer.sessionId devices] },?_,rfl,rfl⟩
      unfold ExternalConnection.connectMessageHandle
      cases hsent : answer.sent with
      | false => rfl
      | true =>
        rw [hnone hsent]
        rfl
    obtain ⟨c,hfails,hsent,hqueue⟩ := hfails
    rw [hat, hfails]
    refine ⟨ConnectionState.noConfusion,h.listening,.inl rfl,?_,hqueue.trans h.commandQueue_⟩
    intro m hm
    change m ∈ c.sent at hm
    rw [hsent] at hm
    rcases List.mem_append.mp hm with hm | hm
    · exact h.sent m hm
    · exact ⟨_,_,List.mem_singleton.mp hm⟩

theorem NeverUp.moves (h : e.NeverUp) {calls : List (ChannelCall β)} (hmoves : e.Moves modules phase calls phase' e')
    (hcalls : exec DummyCommunication.call s calls = some t) : e'.NeverUp := by
  have hfills : ∀ status : DeviceStatus β, (e.fillErrorAggregator modules status).NeverUp := by
    intro status
    unfold Endpoint.fillErrorAggregator
    split
    · unfold ExternalConnection.fillErrorAggregator
      split <;> exact h.congr h.state_ h.listening rfl rfl rfl
    · exact h
  cases hmoves with
  | stays => exact h
  | fillErrorAggregator _ _ status => exact hfills status
  | sendStatus _ _ _ _ _ hstate => exact absurd hstate h.state_
  | take => exact h.congr h.state_ h.listening rfl rfl rfl
  | initializeConnection _ _ answer _ he' => exact h.initializeConnection he' hcalls
  | expire => exact h.congr h.state_ h.listening rfl rfl rfl
  | timeoutHandler =>
    unfold Endpoint.timeoutHandler
    split <;> exact h.congr h.state_ h.listening rfl rfl rfl
  | reconnect => exact h.congr ConnectionState.noConfusion rfl rfl rfl rfl
  | drop => exact h.congr ConnectionState.noConfusion rfl rfl rfl rfl
  | begin _ status _ => exact hfills status
  | startConnectThread _ devices _ =>
    exact ⟨h.state_,h.listening,.inr ⟨devices,.inl rfl⟩,h.sent,h.commandQueue_⟩
  | cancelPendingConnect => exact h
  | join => exact h

end Endpoint

namespace DummyCommunication
variable [BufferType β] {settings : ConnectionSettings β} {connection : ℕ} {as : List (ChannelledAction β Empty)}
  {s : Channelled β DummyCommunication}

/-- Over the dummy channel a connection never comes up, sends nothing but connect messages and receives no command, and
it tries again for ever. -/
theorem exec_neverUp (he : exec (Channelled.step channel settings connection) (.init channel) as = some s) :
    let e := s.client.externalConnectionsList_ connection
    e.connection.state_ ≠ .CONNECTED ∧ e.listening = false ∧
      (∀ m ∈ e.connection.sent, ∃ sessionId devices, m = .connect sessionId devices) ∧ e.connection.commandQueue_ = [] ∧
      (s.client.stopped = false → s.client.loop.phase connection = .outside →
        e.connection.state_ = .NOT_INITIALIZED ∨ connection ∈ s.client.timer_ ∨
          ∃ item ∈ s.client.waitingItems, item.connection_ = connection) := by
  intro e
  have hdown : e.NeverUp := by
    refine Channelled.exec_channelled (I := fun _ e _ _ => e.NeverUp) .init ?_ ?_ ?_ ?_ he
    · intro phase e calls phase' e' c c' received hmoves _ hcalls h
      exact h.moves hmoves hcalls
    · intro phase e c c' message _ _ h
      exact h
    · intro phase e c c' message serverDisconnect hlistening _ e' _ h
      exact absurd (h.listening.symm.trans hlistening) Bool.false_ne_true
    · intro phase e c event
      exact event.elim
  refine ⟨hdown.state_,hdown.listening,hdown.sent,hdown.commandQueue_,?_⟩
  intro hstopped houtside
  obtain ⟨bs,hbs⟩ := Channelled.exec_client he
  rcases ((Client.exec_attendsAll hbs).attended hstopped connection).outside houtside with
    hstate | ⟨hstate,-⟩ | htimer | hwaits
  · exact .inl hstate
  · exact absurd hstate hdown.state_
  · exact .inr (.inl htimer)
  · exact .inr (.inr hwaits)

/-- A first attempt of a lidar. -/
def lidarAttempt : List (ChannelledAction (List UInt8) Empty) :=
  [.client (.push (Client.statusMessage false lidar)),.client (.client [] true),.client (.client [] true),
    .client (.client [] true),.client (.client [lidar] true),.client (.client [] true),
    .client (.thread 0 ⟨true,"one",true,none⟩),.client (.thread 0 ⟨true,"one",true,none⟩),.client (.client [] true),
    .client (.client [] true)]

theorem exec_neverUp_lidar :
    ∃ s : Channelled (List UInt8) DummyCommunication,
      exec (Channelled.step channel Client.oneConnection 0) (.init channel) lidarAttempt = some s ∧
      (s.client.externalConnectionsList_ 0).connection.sent.length = 1 ∧
      (s.client.externalConnectionsList_ 0).connection.state_ ≠ .CONNECTED := by
  have hs : (exec (Channelled.step channel Client.oneConnection 0) (.init channel) lidarAttempt).map
      (fun s => (s.client.externalConnectionsList_ 0).connection.sent.length) = some 1 := by decide +kernel
  obtain ⟨s,hrun,hlength⟩ := Option.map_eq_some_iff.mp hs
  obtain ⟨hstate,-⟩ := exec_neverUp hrun
  exact ⟨s,hrun,hlength,hstate⟩

end DummyCommunication

end ModuleGateway.ExternalClient
