import ModuleGateway.ExternalClient.ReconnectSession
import ModuleGateway.ExternalClient.ConnectPhases

/-! # The order of the messages to an external server

An external server expects a connect message with a list of devices, then a `CONNECTING` status
of each of them in this order, and other statuses and responses to commands only after that, all of
them with the session id of the connect message. Whatever fails, it is with a connect message
that a connection goes on.
-/
namespace ModuleGateway.ExternalClient
open Structures ExternalConnection Execution

variable {β : Type}

/-- Where the messages to the server are: nothing was sent, or a session is on, with the devices
whose first status is still to come. -/
inductive Conversation where
  | closed
  | session (sessionId : String) (devices : List DeviceIdentification)

namespace Conversation

/-- The messages that may be next. -/
def next : Conversation → ClientMessage β → Option Conversation
  | _,.connect sessionId devices => some (.session sessionId devices)
  | .session sessionId (device :: devices),.status status =>
    if status.sessionId = sessionId ∧ status.deviceState = .CONNECTING ∧ status.deviceStatus.device = device then
      some (.session sessionId devices)
    else none
  | .session sessionId [],.status status =>
    if status.sessionId = sessionId then some (.session sessionId []) else none
  | .session sessionId [],.commandResponse sessionId' _ _ =>
    if sessionId' = sessionId then some (.session sessionId []) else none
  | _,_ => none

theorem exec_next_concat {messages : List (ClientMessage β)} {m : ClientMessage β} {c d : Conversation}
    (h : exec next .closed messages = some c) (hd : c.next m = some d) :
    exec next .closed (messages ++ [m]) = some d :=
  exec_concat_eq_some.mpr ⟨c,h,hd⟩

/-- Responses to commands leave a session as it is. -/
theorem exec_next_responses {sessionId : String} {responses : List (ClientMessage β)}
    (h : ∀ m ∈ responses, ∃ type messageCounter, m = .commandResponse sessionId type messageCounter) :
    exec next (.session sessionId []) responses = some (.session sessionId []) := by
  induction responses with
  | nil => rfl
  | cons m responses ih =>
    obtain ⟨type,messageCounter,rfl⟩ := h m List.mem_cons_self
    exact exec_cons_eq_some.mpr ⟨_,if_pos rfl,ih fun m' hm => h m' (List.mem_cons_of_mem _ hm)⟩

end Conversation

namespace ConnectThread

/-- From the answer to the connect message on. -/
def begun : ConnectThread β → Bool
  | .finished _ | .opening _ | .connecting _ => false
  | _ => true

/-- Up to the section that sets `CONNECTED`. -/
def unestablished : ConnectThread β → Bool
  | .finished _ | .clearing _ => false
  | _ => true

end ConnectThread

variable [BufferType β]

namespace Endpoint
variable {modules : Modules β} {phase : ConnectPhase} {e e' : Endpoint β}

omit [BufferType β] in
/-- The connection has a session in which something may be sent. -/
def talks (e : Endpoint β) : Prop :=
  e.connection.state_ = .CONNECTED ∨ e.listening = true ∨ e.connection.connectThread.begun = true

omit [BufferType β] in
/-- The messages so far are in order, and the server waits for what the connection sends next. -/
structure Converses (modules : Modules β) (phase : ConnectPhase) (e : Endpoint β) : Prop where
  running : phase ≠ .running → ∃ ok, e.connection.connectThread = .finished ok
  down : phase = .prepared ∨ e.connection.connectThread.unestablished = true →
    e.connection.state_ ≠ .CONNECTED ∧ e.listening = false
  notInitialized : e.connection.state_ = .NOT_INITIALIZED → e.listening = false
  pending : ∀ device ∈ e.connection.connectThread.pending, (modules device.module_).isSome
  conversation : ∃ conversation, exec Conversation.next .closed e.connection.sent = some conversation ∧
    (e.talks → conversation = .session e.connection.sessionId_ e.connection.connectThread.pending)

namespace Converses

omit [BufferType β]

theorem init : (Endpoint.init : Endpoint β).Converses modules .outside where
  running _ := ⟨false,rfl⟩
  down h := by rcases h with h | h <;> cases h
  notInitialized _ := rfl
  pending _ hmem := by cases hmem
  conversation := ⟨.closed,rfl,by rintro (h | h | h) <;> cases h⟩

theorem congr (h : e.Converses modules phase) (hstate : e'.connection.state_ = e.connection.state_)
    (hsession : e'.connection.sessionId_ = e.connection.sessionId_) (hsent : e'.connection.sent = e.connection.sent)
    (hthread : e'.connection.connectThread = e.connection.connectThread) (hlistening : e'.listening = e.listening) :
    e'.Converses modules phase := by
  obtain ⟨hrunning,hdown,hnot,hpending,hconversation⟩ := h
  refine ⟨?_,?_,?_,?_,?_⟩
  · rwa [hthread]
  · rwa [hthread, hstate, hlistening]
  · rwa [hstate, hlistening]
  · rwa [hthread]
  · rwa [talks, hstate, hsession, hsent, hthread, hlistening]

theorem running_of_unestablished (h : e.Converses modules phase)
    (hthread : e.connection.connectThread.unestablished = true) : phase = .running := by
  by_contra hphase
  obtain ⟨ok,hok⟩ := h.running hphase
  rw [hok] at hthread
  cases hthread

/-- Without a connect thread at work nothing is awaited. -/
theorem pending_eq_nil (hthread : ¬e.connection.connectThread.unestablished = true) :
    e.connection.connectThread.pending = [] := by
  cases hat : e.connection.connectThread with
  | finished ok => rfl
  | clearing devices => rfl
  | _ => exact absurd (by rw [hat]; rfl) hthread

/-- A session in which everything may be sent. -/
theorem opened (h : e.Converses modules phase) (hopen : e.connection.state_ = .CONNECTED ∨ e.listening = true) :
    ¬e.connection.connectThread.unestablished = true ∧
      exec Conversation.next .closed e.connection.sent = some (.session e.connection.sessionId_ []) := by
  have hthread : ¬e.connection.connectThread.unestablished = true := by
    intro hthread
    obtain ⟨hstate,hlistening⟩ := h.down (.inr hthread)
    rcases hopen with hopen | hopen
    · exact hstate hopen
    · rw [hlistening] at hopen
      cases hopen
  refine ⟨hthread,?_⟩
  obtain ⟨conversation,hexec,htalks⟩ := h.conversation
  rw [hexec, htalks (hopen.elim .inl fun hlistening => .inr (.inl hlistening)), pending_eq_nil hthread]

/-- The connection sends something in an open session. -/
theorem sends (h : e.Converses modules phase) (hthread : ¬e.connection.connectThread.unestablished = true)
    (hphase : phase = .prepared → e'.connection.state_ ≠ .CONNECTED ∧ e'.listening = false)
    (hsame : e'.connection.connectThread = e.connection.connectThread)
    (hnot : e'.connection.state_ = .NOT_INITIALIZED → e'.listening = false)
    (hexec : exec Conversation.next .closed e'.connection.sent = some (.session e'.connection.sessionId_ [])) :
    e'.Converses modules phase := by
  have hpending := pending_eq_nil hthread
  refine ⟨by rw [hsame]; exact h.running,?_,hnot,by rw [hsame]; exact h.pending,?_⟩
  · rintro (hprepared | hunestablished)
    · exact hphase hprepared
    · rw [hsame] at hunestablished
      exact absurd hunestablished hthread
  · exact ⟨_,hexec,fun _ => by rw [hsame, hpending]⟩

/-- The connect thread has failed. -/
theorem failed (hphase : phase = .running) {c : ExternalConnection β} {ok : Bool}
    (hthread : c.connectThread = .finished ok) (hstate : c.state_ ≠ .CONNECTED)
    (hlistening : e.listening = false) {conversation : Conversation}
    (hexec : exec Conversation.next .closed c.sent = some conversation) :
    ({ e with connection := c } : Endpoint β).Converses modules phase := by
  refine ⟨fun h => absurd hphase h,fun _ => ⟨hstate,hlistening⟩,fun _ => hlistening,?_,conversation,hexec,?_⟩
  · rw [hthread]
    rintro _ ⟨⟩
  · rintro (h | h | h)
    · exact absurd h hstate
    · rw [hlistening] at h
      cases h
    · rw [hthread] at h
      cases h

/-- The connect thread goes on. -/
theorem proceeds (hphase : phase = .running) {c : ExternalConnection β} (hstate : c.state_ ≠ .CONNECTED)
    (hlistening : e.listening = false) (hpending : ∀ device ∈ c.connectThread.pending, (modules device.module_).isSome)
    {conversation : Conversation} (hexec : exec Conversation.next .closed c.sent = some conversation)
    (hbegun : c.connectThread.begun = true → conversation = .session c.sessionId_ c.connectThread.pending) :
    ({ e with connection := c } : Endpoint β).Converses modules phase := by
  refine ⟨fun h => absurd hphase h,fun _ => ⟨hstate,hlistening⟩,fun _ => hlistening,hpending,conversation,hexec,?_⟩
  rintro (h | h | h)
  · exact absurd h hstate
  · rw [hlistening] at h
    cases h
  · exact hbegun h

end Converses

/-! ## The functions of a connection -/

section Functions
variable {settings : Modules β}

theorem Converses.fillErrorAggregator (h : e.Converses modules phase) (modules' : Modules β)
    (deviceStatus : DeviceStatus β) : (e.fillErrorAggregator modules' deviceStatus).Converses modules phase := by
  unfold Endpoint.fillErrorAggregator
  split
  · obtain ⟨hstate,hsession,hsent,hthread,-⟩ := e.connection.fillErrorAggregator_frame modules' deviceStatus
    exact h.congr hstate hsession hsent hthread rfl
  · exact h

theorem Converses.sendStatus (h : e.Converses modules phase) (hstate : e.connection.state_ = .CONNECTED)
    (status : DeviceStatus β) (deviceState : StatusDeviceState) (sent : Bool) :
    (e.sendStatus modules status deviceState sent).Converses modules phase := by
  obtain ⟨hthread,hexec⟩ := h.opened (.inl hstate)
  have hprepared : phase ≠ .prepared := fun hphase => (h.down (.inl hphase)).1 hstate
  by_cases hmodule : (modules status.device.module_).isSome
  · obtain ⟨hstate',hsession,hsent,hsame,-⟩ := e.connection.sendStatus_frame status hmodule deviceState
      BufferType.unallocated sent
    have hnext : exec Conversation.next .closed (e.connection.sendStatus modules status deviceState
        BufferType.unallocated sent).sent = some (.session (e.connection.sendStatus modules status deviceState
          BufferType.unallocated sent).sessionId_ []) := by
      rw [hsent, hsession]
      exact Conversation.exec_next_concat hexec (if_pos rfl)
    have hsupported : Endpoint.isModuleSupported modules status.device.module_ = true := hmodule
    simp only [Endpoint.sendStatus, hsupported, Bool.true_and, Bool.not_eq_true']
    split
    · exact h.sends hthread (fun hphase => absurd hphase hprepared) hsame (fun _ => rfl) hnext
    · rename_i hsent'
      refine h.sends hthread (fun hphase => absurd hphase hprepared) hsame ?_ hnext
      rw [hstate', if_pos (Bool.not_eq_false _ ▸ hsent'), hstate]
      rintro ⟨⟩
  · have hunsupported : Endpoint.isModuleSupported modules status.device.module_ = false :=
      Bool.eq_false_iff.mpr hmodule
    simp only [Endpoint.sendStatus, hunsupported, Bool.false_and, Bool.false_eq_true, if_false,
      e.connection.sendStatus_none status hmodule]
    exact h

omit [BufferType β] in
theorem Converses.handleCommand (h : e.Converses modules phase) (hlistening : e.listening = true) (sessionId : String)
    (messageCounter : UInt32) (deviceCommand : DeviceCommand β) :
    ({ e with connection := (e.connection.handleCommand modules sessionId messageCounter deviceCommand).2 } :
      Endpoint β).Converses modules phase := by
  obtain ⟨hthread,hexec⟩ := h.opened (.inr hlistening)
  obtain ⟨counter,queue,responses,hstate,hresponses⟩ :=
    e.connection.handleCommand_frame modules sessionId messageCounter deviceCommand
  rw [hstate]
  refine h.sends hthread (fun hphase => h.down (.inl hphase)) rfl h.notInitialized ?_
  refine exec_append_eq_some.mpr ⟨_,hexec,Conversation.exec_next_responses ?_⟩
  intro m hm
  obtain ⟨type,rfl⟩ := hresponses m hm
  exact ⟨type,messageCounter,rfl⟩

omit [BufferType β] in
/-- The receive loop ends. -/
theorem Converses.stopsListening (h : e.Converses modules phase) :
    ({ e with listening := false } : Endpoint β).Converses modules phase := by
  obtain ⟨conversation,hexec,htalks⟩ := h.conversation
  refine ⟨h.running,fun hdown => ⟨(h.down hdown).1,rfl⟩,fun _ => rfl,h.pending,conversation,hexec,?_⟩
  rintro (hstate | hlistening | hbegun)
  · exact htalks (.inl hstate)
  · cases hlistening
  · exact htalks (.inr (.inr hbegun))

omit [BufferType β] in
theorem Converses.receivingHandlerLoop (h : e.Converses modules phase) (hlistening : e.listening = true)
    (serverDisconnect : Bool) (message : Option (ServerMessage β)) :
    (e.receivingHandlerLoop modules serverDisconnect message).2.Converses modules phase := by
  have hacknowledged : ∀ handler : SentMessagesHandler β,
      ({ e with connection := { e.connection with sentMessagesHandler_ := handler } } :
        Endpoint β).Converses modules phase := fun _ => h.congr rfl rfl rfl rfl rfl
  unfold Endpoint.receivingHandlerLoop
  split
  · exact h.stopsListening
  · split
    · exact h
    · split
      · exact h
      · split
        · have hcommand := h.handleCommand hlistening
          dsimp only
          split
          · exact hcommand _ _ _
          · exact (hcommand _ _ _).stopsListening
        · dsimp only
          split
          · exact hacknowledged _
          · exact (hacknowledged _).stopsListening
        · exact h.stopsListening

omit [BufferType β] in
/-- A command of the third step is answered in the session, whether the step fails or not. -/
theorem receiveCommand_responses (modules : Modules β) (s : ExternalConnection β) (devices : List DeviceIdentification)
    (commands : ℕ) (received : Option (ServerMessage β)) : ∃ counter queue responses,
      let u := { s with serverMessageCounter_ := counter, commandQueue_ := queue, sent := s.sent ++ responses }
      (∀ m ∈ responses, ∃ type messageCounter, m = .commandResponse s.sessionId_ type messageCounter) ∧
        (s.receiveCommand modules devices commands received = u.fail ∨
          s.receiveCommand modules devices commands received = u.goto (.commanding devices commands)) := by
  have hnothing : s.fail = { s with
      serverMessageCounter_ := s.serverMessageCounter_
      commandQueue_ := s.commandQueue_
      sent := s.sent ++ [] }.fail := by
    rw [List.append_nil]
  unfold ExternalConnection.receiveCommand
  split
  · rename_i sessionId messageCounter deviceCommand
    obtain ⟨counter,queue,responses,hstate,hresponses⟩ :=
      s.handleCommand_frame modules sessionId messageCounter deviceCommand
    refine ⟨counter,queue,responses,?_,?_⟩
    · intro m hm
      obtain ⟨type,rfl⟩ := hresponses m hm
      exact ⟨type,messageCounter,rfl⟩
    · split
      · rename_i u hu
        rw [hu] at hstate
        exact .inr (congrArg (goto · _) hstate)
      · rename_i u _ hu
        rw [hu] at hstate
        exact .inl (congrArg fail hstate)
  · exact ⟨_,_,[],by rintro _ ⟨⟩,.inl hnothing⟩

/-- A section of the connect thread. -/
theorem Converses.initializeConnection (h : e.Converses modules phase) {answer : Answer β}
    (he' : e.initializeConnection modules answer = some e') : e'.Converses modules phase := by
  obtain ⟨c,hc,rfl⟩ := Option.map_eq_some_iff.mp he'
  obtain ⟨conversation,hexec,htalks⟩ := h.conversation
  have hpending := h.pending
  unfold ExternalConnection.initializeConnection at hc
  split at hc <;> rename_i hat
  · cases hc
  all_goals
    rw [hat] at hpending
    have hdown := h.down
    have hrunning := h.running_of_unestablished
    have hbegun : e.connection.connectThread.begun = true → conversation =
      .session e.connection.sessionId_ e.connection.connectThread.pending := fun hbegun => htalks (.inr (.inr hbegun))
    rw [hat] at hdown hrunning hbegun
    rw [hat]
  · rename_i devices
    obtain ⟨hstate,hlistening⟩ := hdown (.inr rfl)
    cases hc
    obtain h | ⟨state,hopened,h⟩ := e.connection.openChannel_cases devices answer <;> rw [h]
    · exact .proceeds (hrunning rfl) ConnectionState.noConfusion hlistening hpending hexec (by rintro ⟨⟩)
    · exact .failed (hrunning rfl) rfl (fun h => hstate (hopened h)) hlistening hexec
  · rename_i devices
    obtain ⟨hstate,hlistening⟩ := hdown (.inr rfl)
    cases hc
    have hconnect := Conversation.exec_next_concat (m := .connect answer.sessionId devices) hexec rfl
    obtain h | h := e.connection.connectMessageHandle_cases devices answer <;> rw [h]
    · exact .failed (hrunning rfl) rfl ConnectionState.noConfusion hlistening hconnect
    · exact .proceeds (hrunning rfl) hstate hlistening hpending hconnect fun _ => rfl
  · obtain ⟨hstate,hlistening⟩ := hdown (.inr rfl)
    cases hc
    exact .proceeds (hrunning rfl) hstate hlistening (by rintro _ ⟨⟩) hexec hbegun
  · rename_i devices device remaining
    obtain ⟨hstate,hlistening⟩ := hdown (.inr rfl)
    cases hc
    obtain ⟨-,h⟩ | ⟨deviceState,-,h⟩ := e.connection.readStatus_cases devices device remaining <;> rw [h]
    · exact .failed (hrunning rfl) rfl ConnectionState.noConfusion hlistening hexec
    · exact .proceeds (hrunning rfl) hstate hlistening hpending hexec hbegun
  · rename_i devices device status error remaining
    obtain ⟨hstate,hlistening⟩ := hdown (.inr rfl)
    cases hc
    obtain ⟨hstate',hsession,hsent,-⟩ := e.connection.sendStatus_frame ⟨device,status⟩
      (hpending device List.mem_cons_self) .CONNECTING error answer.sent
    have hannounced : (e.connection.createStatus ⟨device,status⟩ .CONNECTING error).deviceState = .CONNECTING := by
      simp only [createStatus, switched, ite_self, switchDeviceState]
    have hnext : exec Conversation.next .closed (e.connection.sendStatus modules ⟨device,status⟩ .CONNECTING error
        answer.sent).sent = some (.session e.connection.sessionId_ remaining) := by
      rw [hsent]
      refine Conversation.exec_next_concat hexec ?_
      rw [hbegun rfl]
      exact if_pos ⟨rfl,hannounced,rfl⟩
    have hproceeds : ({ e with
        connection := (e.connection.sendStatus modules ⟨device,status⟩ .CONNECTING error answer.sent).goto
          (.reading devices remaining) } : Endpoint β).Converses modules phase := by
      refine .proceeds (hrunning rfl) ?_ hlistening ?_ hnext ?_
      · change (e.connection.sendStatus modules ⟨device,status⟩ .CONNECTING error answer.sent).state_ ≠ _
        rw [hstate']
        split
        · exact hstate
        · exact ConnectionState.noConfusion
      · exact fun device' hmem => hpending device' (List.mem_cons_of_mem device hmem)
      · exact fun _ => congrArg (Conversation.session · remaining) hsession.symm
    exact hproceeds.congr rfl rfl rfl rfl rfl
  · obtain ⟨hstate,hlistening⟩ := hdown (.inr rfl)
    cases hc
    exact .proceeds (hrunning rfl) hstate hlistening (by rintro _ ⟨⟩) hexec hbegun
  · rename_i devices responses
    obtain ⟨hstate,hlistening⟩ := hdown (.inr rfl)
    cases hc
    obtain ⟨-,h⟩ | ⟨messageCounter,h⟩ := e.connection.receiveStatusResponse_cases devices responses answer.received <;>
      rw [h]
    · exact .failed (hrunning rfl) rfl ConnectionState.noConfusion hlistening hexec
    · exact .proceeds (hrunning rfl) hstate hlistening (by rintro _ ⟨⟩) hexec hbegun
  · obtain ⟨hstate,hlistening⟩ := hdown (.inr rfl)
    cases hc
    exact .proceeds (hrunning rfl) hstate hlistening (by rintro _ ⟨⟩) hexec hbegun
  · rename_i devices commands
    obtain ⟨hstate,hlistening⟩ := hdown (.inr rfl)
    cases hc
    obtain ⟨counter,queue,responses,hresponses,h⟩ :=
      receiveCommand_responses modules e.connection devices commands answer.received
    obtain rfl := hbegun rfl
    have hanswered := exec_append_eq_some.mpr ⟨_,hexec,Conversation.exec_next_responses hresponses⟩
    rcases h with h | h <;> rw [h]
    · exact .failed (hrunning rfl) rfl ConnectionState.noConfusion hlistening hanswered
    · exact .proceeds (hrunning rfl) hstate hlistening (by rintro _ ⟨⟩) hanswered fun _ => rfl
  · cases hc
    refine ⟨fun hphase => absurd (hrunning rfl) hphase,?_,fun h => ConnectionState.noConfusion h,by rintro _ ⟨⟩,
      conversation,hexec,fun _ => hbegun rfl⟩
    rintro (hprepared | hunestablished)
    · rw [hprepared] at hrunning
      exact ConnectPhase.noConfusion (hrunning rfl)
    · exact absurd hunestablished Bool.false_ne_true
  · cases hc
    refine ⟨fun _ => ⟨true,rfl⟩,?_,h.notInitialized,by rintro _ ⟨⟩,conversation,hexec,fun _ => hbegun rfl⟩
    rintro (hprepared | hunestablished)
    · exact hdown (.inl hprepared)
    · exact absurd hunestablished Bool.false_ne_true

end Functions

end Endpoint

/-! ## Runs -/

namespace Client
variable {settings : ConnectionSettings β}

/-- Every function of a connection keeps the order of its messages. -/
theorem endpointKeeps_converses : EndpointKeeps settings (fun _ => True) fun connection phase e =>
    e.Converses (settings.modules connection) phase where
  fillErrorAggregator _ _ _ _ _ he := he.fillErrorAggregator _ _
  sendStatus _ _ _ _ _ _ _ hstate he := he.sendStatus hstate _ _ _
  take _ _ _ _ _ he := he.congr rfl rfl rfl rfl rfl
  initializeConnection _ _ _ _ _ h he := he.initializeConnection h
  receivingHandlerLoop _ _ _ _ _ hlistening _ he := he.receivingHandlerLoop hlistening _ _
  expire _ _ _ he := he.congr rfl rfl rfl rfl rfl
  timeoutHandler _ _ e he := by
    unfold Endpoint.timeoutHandler
    split <;> exact he.congr rfl rfl rfl rfl rfl
  deinitializeConnection connection e he := by
    obtain ⟨ok,hthread⟩ := he.running ConnectPhase.noConfusion
    obtain ⟨conversation,hexec,-⟩ := he.conversation
    have hdown : ∀ phase, phase ≠ .running → ∀ c : ExternalConnection β, c.state_ ≠ .CONNECTED →
        c.connectThread = e.connection.connectThread → c.sent = e.connection.sent →
        ({ e with connection := c, listening := false, responseHandled_ := false } : Endpoint β).Converses
          (settings.modules connection) phase := by
      intro phase hphase c hstate hsame hsent
      rw [hthread] at hsame
      refine ⟨fun _ => ⟨ok,hsame⟩,fun _ => ⟨hstate,rfl⟩,fun _ => rfl,?_,conversation,by rw [hsent]; exact hexec,?_⟩
      · rw [hsame]
        rintro _ ⟨⟩
      · rintro (h | h | h)
        · exact absurd h hstate
        · cases h
        · rw [hsame] at h
          cases h
    exact ⟨hdown _ ConnectPhase.noConfusion _ ConnectionState.noConfusion rfl rfl,
      hdown _ ConnectPhase.noConfusion _ ConnectionState.noConfusion rfl rfl⟩
  begin connection e hstate he := by
    obtain ⟨ok,hthread⟩ := he.running ConnectPhase.noConfusion
    refine ⟨fun _ => ⟨ok,hthread⟩,fun _ => ⟨?_,he.notInitialized hstate⟩,he.notInitialized,he.pending,he.conversation⟩
    rw [hstate]
    exact ConnectionState.noConfusion
  startConnectThread connection e connectedDevices hdevices he := by
    obtain ⟨hstate,hlistening⟩ := he.down (.inl rfl)
    obtain ⟨conversation,hexec,-⟩ := he.conversation
    refine ⟨fun h => absurd rfl h,fun _ => ⟨hstate,hlistening⟩,fun _ => hlistening,hdevices,conversation,hexec,?_⟩
    rintro (h | h | h)
    · exact absurd h hstate
    · exact absurd (hlistening.symm.trans h) Bool.false_ne_true
    · exact absurd h Bool.false_ne_true
  join connection e hresult he := by
    have hthread : ∃ ok, e.connection.connectThread = .finished ok := by
      unfold Endpoint.connectResult at hresult
      split at hresult
      · exact ⟨_,‹_›⟩
      · cases hresult
    obtain ⟨ok,hok⟩ := hthread
    refine ⟨fun _ => ⟨ok,hok⟩,?_,he.notInitialized,he.pending,he.conversation⟩
    rintro (hphase | hunestablished)
    · cases hphase
    · exact he.down (.inr hunestablished)

theorem exec_converses {as : List (ClientAction β)} {s : Client β} (he : exec (clientStep settings) init as = some s) :
    s.Carries settings (fun _ => True) fun connection phase e => e.Converses (settings.modules connection) phase :=
  exec_invariant (I := fun s : Client β => s.Carries settings (fun _ => True) fun connection phase e =>
    e.Converses (settings.modules connection) phase) (.init fun _ => .init)
    (fun _ _ _ hs ht => hs.clientStep endpointKeeps_converses (fun _ _ => trivial) ht) he

/-- In every run, what a connection has handed to its channel is in the order that the server expects, and
a connection that is connected has sent the first status of every device it announced. -/
theorem exec_messageOrder {as : List (ClientAction β)} {s : Client β} (he : exec (clientStep settings) init as = some s)
    (connection : ℕ) :
    let c := (s.externalConnectionsList_ connection).connection
    ∃ conversation, exec Conversation.next .closed c.sent = some conversation ∧
      (c.state_ = .CONNECTED → conversation = .session c.sessionId_ []) := by
  have hconverses := (exec_converses he).endpoints connection
  obtain ⟨conversation,hexec,htalks⟩ := hconverses.conversation
  refine ⟨conversation,hexec,?_⟩
  intro hstate
  obtain ⟨-,hopen⟩ := hconverses.opened (.inl hstate)
  exact Option.some.inj (hexec.symm.trans hopen)

/-- Two sessions, one after the other. -/
theorem exec_messageOrder_failsOnceInEach :
    ∃ s : Client (List UInt8), exec (clientStep oneConnection) init failsOnceInEach = some s ∧
      (s.externalConnectionsList_ 0).connection.sent.length = 6 ∧
      exec Conversation.next .closed (s.externalConnectionsList_ 0).connection.sent = some (.session "two" []) := by
  have hs : (exec (clientStep oneConnection) init failsOnceInEach).map (fun s =>
      ((s.externalConnectionsList_ 0).connection.sent.length,(s.externalConnectionsList_ 0).connection.state_,
        (s.externalConnectionsList_ 0).connection.sessionId_)) = some (6,.CONNECTED,"two") := by decide +kernel
  obtain ⟨s,hrun,hlook⟩ := Option.map_eq_some_iff.mp hs
  simp only [Prod.mk.injEq] at hlook
  obtain ⟨hlength,hstate,hsession⟩ := hlook
  obtain ⟨conversation,hexec,hopen⟩ := exec_messageOrder hrun 0
  refine ⟨s,hrun,hlength,?_⟩
  rw [hexec, hopen hstate, hsession]

end Client

end ModuleGateway.ExternalClient
