import ModuleGateway.ExternalClient.Attended
import ModuleGateway.ExternalClient.MqttCommunication

/-! # Sessions over MQTT

Each connect sequence makes a client of its own, so what a session takes from its server, what it
publishes and the disconnect notification that ends it are its own, whatever the broker delivers and whenever the
client loses its connection.
-/
namespace ModuleGateway.ExternalClient
open Structures ExternalConnection Execution

variable {β κ : Type} [AsyncClient β κ]

/-! ## A connection and its channel -/

namespace Endpoint

/-- The connect sequence failed, or was never begun, and nothing is received. -/
structure Ended (e : Endpoint β) : Prop where
  state_ : e.connection.state_ = .NOT_CONNECTED
  connectThread : ∃ ok, e.connection.connectThread = .finished ok
  listening : e.listening = false

variable {phase phase' : ConnectPhase} {e e' : Endpoint β} {s t : MqttCommunication κ}

theorem Ended.not_talks (h : e.Ended) : ¬e.talks := by
  obtain ⟨hstate,⟨ok,hthread⟩,hlistening⟩ := h
  simp [talks, hstate, hthread, hlistening, ConnectThread.begun]

/-- Without a session there is no client and no notification is pending; one that is still pending was found by a
connect sequence, which failed. What the client has published is a conversation of its own. -/
structure OverMqtt (phase : ConnectPhase) (e : Endpoint β) (s : MqttCommunication κ) : Prop where
  fresh : e.connection.state_ = .NOT_INITIALIZED ∨ phase = .prepared ∨
    (∃ devices, e.connection.connectThread = .opening devices) → s.client_ = none
  nothingPending : s.client_ = none → s.serverDisconnectPending_ = false
  pending : s.serverDisconnectPending_ = true → e.Ended
  published : ∀ client, s.client_ = some client → ∃ conversation,
    exec Conversation.next .closed (AsyncClient.published client) = some conversation ∧
      (e.talks → conversation = .session e.connection.sessionId_ e.connection.connectThread.pending)

namespace OverMqtt

theorem of_none (hclient : s.client_ = none) (hpending : s.serverDisconnectPending_ = false) : OverMqtt phase e s where
  fresh _ := hclient
  nothingPending _ := hpending
  pending h := absurd (hpending.symm.trans h) Bool.false_ne_true
  published _ h := absurd (hclient.symm.trans h) (Option.some_ne_none _).symm

/-- What the channel does not see. -/
theorem congr (h : OverMqtt phase e s) (hstate : e'.connection.state_ = e.connection.state_)
    (hsession : e'.connection.sessionId_ = e.connection.sessionId_)
    (hthread : e'.connection.connectThread = e.connection.connectThread) (hlistening : e'.listening = e.listening) :
    OverMqtt phase e' s := by
  obtain ⟨hfresh,hnothing,hpending,hpublished⟩ := h
  refine ⟨by rwa [hstate, hthread],hnothing,?_,?_⟩
  · intro hp
    obtain ⟨hstate',hthread',hlistening'⟩ := hpending hp
    exact ⟨hstate.trans hstate',by rwa [hthread],hlistening.trans hlistening'⟩
  · simpa only [talks, hstate, hsession, hthread, hlistening] using hpublished

/-- The connect sequence has failed. -/
theorem of_ended (hphase : phase = .running) (hended : e'.Ended)
    (hnothing : t.client_ = none → t.serverDisconnectPending_ = false)
    (hpublished : ∀ client, t.client_ = some client → ∃ conversation,
      exec Conversation.next .closed (AsyncClient.published client) = some conversation) : OverMqtt phase e' t where
  fresh hfresh := by
    obtain ⟨ok,hthread⟩ := hended.connectThread
    simp [hphase, hended.state_, hthread] at hfresh
  nothingPending := hnothing
  pending _ := hended
  published client hclient := by
    obtain ⟨conversation,hexec⟩ := hpublished client hclient
    exact ⟨conversation,hexec,fun htalks => absurd htalks hended.not_talks⟩

/-- A message was received that is no notification, or one that is put aside. -/
theorem keeps (h : OverMqtt phase e s) (hkeeps : s.Keeps t) (hpending : t.serverDisconnectPending_ = false) :
    OverMqtt phase e t where
  fresh hfresh := hkeeps.closed.mpr (h.fresh hfresh)
  nothingPending _ := hpending
  pending hnow := absurd (hpending.symm.trans hnow) Bool.false_ne_true
  published client hclient := by
    obtain ⟨before,hbefore,hpublished⟩ := hkeeps.published client hclient
    rw [hpublished]
    exact h.published before hbefore

/-- The connect sequence goes on with what it received. -/
theorem proceeds (h : OverMqtt phase e s) (hkeeps : s.Keeps t)
    (hpending : t.serverDisconnectPending_ = true → e'.Ended)
    (hnothing : t.client_ = none → t.serverDisconnectPending_ = false)
    (hstate : e'.connection.state_ = .NOT_INITIALIZED → e.connection.state_ = .NOT_INITIALIZED)
    (hthread : ∀ devices, e'.connection.connectThread ≠ .opening devices)
    (htalks : e'.talks → e.talks ∧ e'.connection.sessionId_ = e.connection.sessionId_ ∧
      e'.connection.connectThread.pending = e.connection.connectThread.pending) : OverMqtt phase e' t where
  fresh hfresh := by
    refine hkeeps.closed.mpr (h.fresh ?_)
    rcases hfresh with hnot | hprepared | ⟨devices,hopening⟩
    · exact .inl (hstate hnot)
    · exact .inr (.inl hprepared)
    · exact absurd hopening (hthread devices)
  nothingPending := hnothing
  pending := hpending
  published client hclient := by
    obtain ⟨before,hbefore,hpublished⟩ := hkeeps.published client hclient
    obtain ⟨conversation,hexec,hsession⟩ := h.published before hbefore
    refine ⟨conversation,by rw [hpublished]; exact hexec,?_⟩
    intro htalks'
    obtain ⟨hbefore',hid,hrest⟩ := htalks htalks'
    rw [hid, hrest]
    exact hsession hbefore'

/-! ## The moves -/

variable {modules : Modules β} {parse : List UInt8 → Option (ServerMessage β)} {serverDisconnectTopic_ : String}

theorem sendCalls_supported {sent : Bool} {m : ClientMessage β}
    (hsent : e'.connection.sent = e.connection.sent ++ [m]) :
    e.sendCalls e' sent = .sendMessage m (some sent) :: if sent then [] else [.closeConnection] := by
  simp [sendCalls, hsent, appended_append]

variable [DecidableEq β]

/-- A status in an open session is published, or the client is reset. -/
theorem sends (h : OverMqtt phase e s) (hrunning : phase ≠ .prepared) {sent : Bool} {m : ClientMessage β}
    (hcalls : exec (MqttCommunication.call parse serverDisconnectTopic_) s
      (.sendMessage m (some sent) :: if sent then [] else [.closeConnection]) = some t)
    (hpending : s.serverDisconnectPending_ = false)
    (hstate : sent = true → e'.connection.state_ = e.connection.state_)
    (hthread : ∀ devices, e'.connection.connectThread ≠ .opening devices)
    {conversation : Conversation} (htalks : e.talks)
    (hnext : (Conversation.session e.connection.sessionId_ e.connection.connectThread.pending).next m =
      some conversation)
    (hafter : e'.talks → conversation = .session e'.connection.sessionId_ e'.connection.connectThread.pending) :
    OverMqtt phase e' t := by
  obtain ⟨u,hu,hrest⟩ := exec_cons_eq_some.mp hcalls
  obtain ⟨rfl,hsent⟩ := MqttCommunication.call_sendMessage hu
  obtain ⟨hpending',-,hfails,hpublishes⟩ := s.sendMessage_spec m
  cases sent with
  | false =>
    obtain ⟨v,hv,hdone⟩ := exec_cons_eq_some.mp hrest
    obtain rfl : _ = v := Option.some.inj hv
    obtain rfl : _ = t := Option.some.inj hdone
    exact .of_none rfl rfl
  | true =>
    obtain rfl : _ = t := Option.some.inj hrest
    obtain ⟨client,hclient,hnow⟩ := hpublishes (by simpa using hsent.symm)
    refine ⟨?_,by simp [hnow],by simp [hpending', hpending],?_⟩
    · rintro (hnot | hprepared | ⟨devices,hopening⟩)
      · have hclosed := h.fresh (.inl ((hstate rfl).symm.trans hnot))
        exact absurd (hclient.symm.trans hclosed) (Option.some_ne_none _)
      · exact absurd hprepared hrunning
      · exact absurd hopening (hthread devices)
    · intro client' hclient'
      obtain rfl := Option.some.inj (hnow.symm.trans hclient')
      obtain ⟨before,hexec,hsession⟩ := h.published client hclient
      obtain rfl := hsession htalks
      refine ⟨conversation,?_,hafter⟩
      rw [(AsyncClient.publish_spec client m).2.2]
      exact Conversation.exec_next_concat hexec hnext

omit [DecidableEq β] in
/-- An attempt to open the channel sends nothing, and leaves the initial state. -/
theorem openChannel_spec (c : ExternalConnection β) (devices : List DeviceIdentification) (answer : Answer β) :
    let u := c.openChannel devices answer
    u.state_ ≠ .NOT_INITIALIZED ∧ (u.state_ = .CONNECTED → c.state_ = .CONNECTED) ∧
      u.connectThread.begun = false ∧ ∀ devices', u.connectThread ≠ .opening devices' := by
  simp only [openChannel]
  split <;> split <;> simp_all [ExternalConnection.goto, ConnectThread.begun]

/-- Responses in an open session are published where the client is connected, in the conversation. -/
theorem answers (h : OverMqtt phase e s) (htalks : e.talks) (hrest : e.connection.connectThread.pending = [])
    {u : MqttCommunication κ} {responses : List (ClientMessage β)} (hkeeps : s.Keeps u)
    (hresponses : ∀ m ∈ responses, ∃ type messageCounter,
      m = .commandResponse e.connection.sessionId_ type messageCounter)
    (hsent : exec (MqttCommunication.call parse serverDisconnectTopic_) u
      (responses.map fun m => .sendMessage m none) = some t) (client : κ)
    (hclient : t.client_ = some client) :
    exec Conversation.next .closed (AsyncClient.published client) = some (.session e.connection.sessionId_ []) := by
  obtain ⟨-,-,hclients⟩ := MqttCommunication.exec_responses_published hsent
  obtain ⟨middle,published,hmiddle,happended,hsublist⟩ := hclients client hclient
  obtain ⟨before,hbefore,hsame⟩ := hkeeps.published middle hmiddle
  obtain ⟨conversation,hexec,hsession⟩ := h.published before hbefore
  obtain rfl := hsession htalks
  rw [hrest] at hexec
  rw [happended, hsame]
  exact exec_append_eq_some.mpr ⟨_,hexec,
    Conversation.exec_next_responses fun m hm => hresponses m (hsublist.mem hm)⟩

/-- A section that receives a message, and then may answer it in the session. -/
theorem receives (h : OverMqtt phase e s) (hphase : phase = .running) (htalks : e.talks)
    (hrest : e.connection.connectThread.pending = []) {received : Option (ServerMessage β)}
    {responses : List (ClientMessage β)}
    (hresponses : ∀ m ∈ responses, ∃ type messageCounter,
      m = .commandResponse e.connection.sessionId_ type messageCounter)
    (hcalls : exec (MqttCommunication.call parse serverDisconnectTopic_) s
      (.receiveMessage received :: responses.map fun m => .sendMessage m none) = some t)
    (hpending : s.serverDisconnectPending_ = false) (hnone : received = none → e'.Ended)
    (hnext : e'.Ended ∨ e'.connection.state_ = e.connection.state_ ∧
      (∀ devices, e'.connection.connectThread ≠ .opening devices) ∧
        e'.connection.sessionId_ = e.connection.sessionId_ ∧ e'.connection.connectThread.pending = []) :
    OverMqtt phase e' t := by
  obtain ⟨u,hu,hsent⟩ := exec_cons_eq_some.mp hcalls
  obtain ⟨hkeeps,hfound⟩ := MqttCommunication.call_receiveMessage_keeps hu
  obtain ⟨hpending',hclosed,-⟩ := MqttCommunication.exec_responses_published hsent
  have hnothing : t.client_ = none → t.serverDisconnectPending_ = false := by
    intro hclient
    rw [hpending']
    rcases hfound with hsame | ⟨-,hopen⟩
    · exact hsame.trans hpending
    · exact absurd (hclosed.mp hclient) hopen
  have hpublished := h.answers htalks hrest hkeeps hresponses hsent
  rcases hnext with hended | ⟨hstate,hthread,hid,hempty⟩
  · exact .of_ended hphase hended hnothing fun client hclient => ⟨_,hpublished client hclient⟩
  · refine ⟨?_,hnothing,?_,fun client hclient => ⟨_,hpublished client hclient,?_⟩⟩
    · rintro (hnot | hprepared | ⟨devices,hopening⟩)
      · exact hclosed.mpr (hkeeps.closed.mpr (h.fresh (.inl (hstate.symm.trans hnot))))
      · exact hclosed.mpr (hkeeps.closed.mpr (h.fresh (.inr (.inl hprepared))))
      · exact absurd hopening (hthread devices)
    · intro hnow
      rcases hfound with hsame | ⟨hreceived,-⟩
      · rw [hpending', hsame, hpending] at hnow
        cases hnow
      · exact hnone hreceived
    · intro _
      rw [hid, hempty]

/-- The first message of a session. -/
theorem connects (h : OverMqtt phase e s) (hphase : phase = .running) {answer : Answer β}
    {devices : List DeviceIdentification}
    (hcalls : exec (MqttCommunication.call parse serverDisconnectTopic_) s
      (.sendMessage (.connect answer.sessionId devices) (some answer.sent) ::
        if answer.sent then [.receiveMessage answer.received] else []) = some t)
    (hpending : s.serverDisconnectPending_ = false) (hfails : answer.sent = false ∨ answer.received = none → e'.Ended)
    (hnext : e'.Ended ∨ e'.connection.state_ = e.connection.state_ ∧
      (∀ devices, e'.connection.connectThread ≠ .opening devices) ∧
        e'.connection.sessionId_ = answer.sessionId ∧ e'.connection.connectThread.pending = devices) :
    OverMqtt phase e' t := by
  obtain ⟨u,hu,hrest⟩ := exec_cons_eq_some.mp hcalls
  obtain ⟨rfl,hsent⟩ := MqttCommunication.call_sendMessage hu
  obtain ⟨hpending',hclosed,hunsent,hpublishes⟩ := s.sendMessage_spec (.connect answer.sessionId devices)
  cases hanswer : answer.sent with
  | false =>
    rw [hanswer] at hrest hsent
    obtain rfl : _ = t := Option.some.inj hrest
    rw [hunsent (by simpa using hsent.symm)]
    refine .of_ended hphase (hfails (.inl hanswer)) h.nothingPending fun client hclient => ?_
    obtain ⟨conversation,hexec,-⟩ := h.published client hclient
    exact ⟨conversation,hexec⟩
  | true =>
    rw [hanswer] at hrest hsent
    obtain ⟨client,hclient,hnow⟩ := hpublishes (by simpa using hsent.symm)
    obtain ⟨v,hv,hdone⟩ := exec_cons_eq_some.mp hrest
    obtain rfl : v = t := Option.some.inj hdone
    obtain ⟨hkeeps,hfound⟩ := MqttCommunication.call_receiveMessage_keeps hv
    obtain ⟨before,hexec,-⟩ := h.published client hclient
    have hconnect := Conversation.exec_next_concat (m := .connect answer.sessionId devices) hexec rfl
    have hopen : v.client_ ≠ none := fun hnone => by simp [hkeeps.closed.mp hnone] at hnow
    have hpublished : ∀ client, v.client_ = some client →
        exec Conversation.next .closed (AsyncClient.published client) = some (.session answer.sessionId devices) := by
      intro client' hclient'
      obtain ⟨middle,hmiddle,hsame⟩ := hkeeps.published client' hclient'
      obtain rfl := Option.some.inj (hnow.symm.trans hmiddle)
      rw [hsame, (AsyncClient.publish_spec client _).2.2]
      exact hconnect
    rcases hnext with hended | ⟨hstate,hthread,hid,hremaining⟩
    · exact .of_ended hphase hended (fun hnone => absurd hnone hopen) fun client' hclient' =>
        ⟨_,hpublished client' hclient'⟩
    · refine ⟨?_,fun hnone => absurd hnone hopen,?_,fun client' hclient' => ⟨_,hpublished client' hclient',?_⟩⟩
      · rintro (hnot | hprepared | ⟨devices',hopening⟩)
        · have hclosed := h.fresh (.inl (hstate.symm.trans hnot))
          exact absurd (hclient.symm.trans hclosed) (Option.some_ne_none _)
        · rw [hphase] at hprepared
          cases hprepared
        · exact absurd hopening (hthread devices')
      · intro hnotified
        rcases hfound with hsame | ⟨hreceived,-⟩
        · rw [hsame, hpending', hpending] at hnotified
          cases hnotified
        · exact hfails (.inr hreceived)
      · intro _
        rw [hid, hremaining]

variable [BufferType β]

theorem sendStatus (h : OverMqtt phase e s) (hconverses : e.Converses modules phase)
    (hstate : e.connection.state_ = .CONNECTED) (status : DeviceStatus β) (deviceState : StatusDeviceState)
    (sent : Bool) (hcalls : exec (MqttCommunication.call parse serverDisconnectTopic_) s
      (e.sendCalls (e.sendStatus modules status deviceState sent) sent) = some t) :
    OverMqtt phase (e.sendStatus modules status deviceState sent) t := by
  have hpending : s.serverDisconnectPending_ = false := by
    by_contra hpending
    have hended := h.pending (Bool.not_eq_false _ ▸ hpending)
    rw [hended.state_] at hstate
    cases hstate
  have hthread : ¬e.connection.connectThread.unestablished = true := (hconverses.opened (.inl hstate)).1
  have hempty := Converses.pending_eq_nil hthread
  by_cases hmodule : (modules status.device.module_).isSome
  · obtain ⟨hstate',hsession,hsent,hsame,-⟩ := e.connection.sendStatus_frame status hmodule deviceState
      BufferType.unallocated sent
    have hconnection : (e.sendStatus modules status deviceState sent).connection =
        e.connection.sendStatus modules status deviceState BufferType.unallocated sent := by
      simp only [Endpoint.sendStatus]
      split <;> rfl
    have hnext : (Conversation.session e.connection.sessionId_ e.connection.connectThread.pending).next
        (.status (e.connection.createStatus status deviceState BufferType.unallocated)) =
          some (.session e.connection.sessionId_ []) := by
      rw [hempty]
      exact if_pos rfl
    rw [sendCalls_supported (by rw [hconnection]; exact hsent)] at hcalls
    refine h.sends ?_ hcalls hpending ?_ ?_ (.inl hstate) hnext ?_
    · rintro rfl
      exact (hconverses.down (.inl rfl)).1 hstate
    · rintro rfl
      rw [hconnection, hstate', if_pos rfl]
    · intro devices hopening
      rw [hconnection, hsame] at hopening
      rw [hopening] at hthread
      exact hthread rfl
    · intro _
      rw [hconnection, hsession, hsame, hempty]
  · have hsame : e.sendStatus modules status deviceState sent = e := by
      simp [Endpoint.sendStatus, Endpoint.isModuleSupported, hmodule, e.connection.sendStatus_none status hmodule]
    rw [hsame, sendCalls_nil rfl] at hcalls
    obtain rfl : s = t := Option.some.inj hcalls
    rw [hsame]
    exact h

/-- A section of the connect thread. -/
theorem initializeConnection (h : OverMqtt phase e s) (hconverses : e.Converses modules phase) {answer : Answer β}
    (he' : e.initializeConnection modules answer = some e')
    (hcalls : exec (MqttCommunication.call parse serverDisconnectTopic_) s (e.connectCalls e' answer) = some t) :
    OverMqtt phase e' t := by
  obtain ⟨c,hc,rfl⟩ := Option.map_eq_some_iff.mp he'
  have hdown := hconverses.down
  have hrunning := hconverses.running_of_unestablished
  have hdevices := hconverses.pending
  have hpending : s.serverDisconnectPending_ = false := by
    by_contra hpending
    obtain ⟨ok,hfinished⟩ := (h.pending (Bool.not_eq_false _ ▸ hpending)).connectThread
    rw [ExternalConnection.initializeConnection, hfinished] at hc
    cases hc
  unfold ExternalConnection.initializeConnection at hc
  split at hc <;> rename_i hat
  · cases hc
  all_goals
    cases hc
    have hbegun : e.connection.connectThread.begun = true → e.talks := fun hbegun => .inr (.inr hbegun)
    rw [hat] at hdown hrunning hdevices hbegun
    simp only [connectCalls, hat] at hcalls
    rw [hat]
  · rename_i devices
    obtain ⟨hstate,hlistening⟩ := hdown (.inr rfl)
    obtain ⟨hnot,hconnected,hbegun,hthread⟩ := openChannel_spec e.connection devices answer
    have hclosed := h.fresh (.inr (.inr ⟨devices,hat⟩))
    obtain ⟨u,hu,hdone⟩ := exec_cons_eq_some.mp hcalls
    obtain rfl : u = t := Option.some.inj hdone
    simp only [MqttCommunication.call, MqttCommunication.initializeConnection, hclosed] at hu
    obtain rfl := Option.some.inj hu
    refine ⟨?_,by simp [MqttCommunication.connect],by simp [MqttCommunication.connect, hpending],?_⟩
    · rintro (hnot' | hprepared | ⟨devices',hopening⟩)
      · exact absurd hnot' hnot
      · rw [hrunning rfl] at hprepared
        cases hprepared
      · exact absurd hopening (hthread devices')
    · rintro _ ⟨⟩
      refine ⟨.closed,by rw [(AsyncClient.create_spec answer.opened).2.2]; rfl,?_⟩
      rintro (hup | hup | hup)
      · exact absurd (hconnected hup) hstate
      · exact absurd (hlistening.symm.trans hup) Bool.false_ne_true
      · exact absurd (hbegun.symm.trans hup) Bool.false_ne_true
  · rename_i devices
    obtain ⟨hstate,hlistening⟩ := hdown (.inr rfl)
    have hended : ∀ c : ExternalConnection β, Endpoint.Ended { e with connection := c.fail } :=
      fun c => ⟨rfl,⟨false,rfl⟩,hlistening⟩
    refine h.connects (hrunning rfl) hcalls hpending ?_ ?_
    · rintro (hsent | hreceived)
      · simp only [connectMessageHandle, hsent, Bool.not_false, if_true]
        exact hended _
      · simp only [connectMessageHandle, hreceived, ite_self]
        exact hended _
    · obtain hcases | hcases := e.connection.connectMessageHandle_cases devices answer <;> rw [hcases]
      · exact .inl (hended _)
      · exact .inr ⟨rfl,by rintro _ ⟨⟩,rfl,rfl⟩
  · obtain rfl : s = t := Option.some.inj hcalls
    exact h.proceeds (.refl s) (by simp [hpending]) h.nothingPending id (by rintro _ ⟨⟩)
      fun _ => ⟨hbegun rfl,rfl,by rw [hat]; rfl⟩
  · rename_i devices device remaining
    obtain ⟨hstate,hlistening⟩ := hdown (.inr rfl)
    obtain rfl : s = t := Option.some.inj hcalls
    obtain ⟨-,hcases⟩ | ⟨deviceState,-,hcases⟩ := e.connection.readStatus_cases devices device remaining <;> rw [hcases]
    · refine .of_ended (hrunning rfl) ⟨rfl,⟨false,rfl⟩,hlistening⟩ h.nothingPending fun client hclient => ?_
      obtain ⟨conversation,hexec,-⟩ := h.published client hclient
      exact ⟨conversation,hexec⟩
    · exact h.proceeds (.refl s) (by simp [hpending]) h.nothingPending id (by rintro _ ⟨⟩)
        fun _ => ⟨hbegun rfl,rfl,by rw [hat]; rfl⟩
  · rename_i devices device status error remaining
    obtain ⟨hstate',hsession,hsent,-⟩ := e.connection.sendStatus_frame ⟨device,status⟩
      (hdevices device List.mem_cons_self) .CONNECTING error answer.sent
    have hannounced : (e.connection.createStatus ⟨device,status⟩ .CONNECTING error).deviceState = .CONNECTING := by
      simp only [createStatus, switched, ite_self, switchDeviceState]
    have hnext : (Conversation.session e.connection.sessionId_ e.connection.connectThread.pending).next
        (.status (e.connection.createStatus ⟨device,status⟩ .CONNECTING error)) =
          some (.session e.connection.sessionId_ remaining) := by
      rw [hat]
      exact if_pos ⟨rfl,hannounced,rfl⟩
    rw [sendCalls_supported hsent] at hcalls
    refine h.sends ?_ hcalls hpending ?_ (by rintro _ ⟨⟩) (hbegun rfl) hnext ?_
    · rw [hrunning rfl]
      exact ConnectPhase.noConfusion
    · intro hanswer
      exact hstate'.trans (if_pos hanswer)
    · intro _
      exact congrArg (Conversation.session · remaining) hsession.symm
  · obtain rfl : s = t := Option.some.inj hcalls
    exact h.proceeds (.refl s) (by simp [hpending]) h.nothingPending id (by rintro _ ⟨⟩)
      fun _ => ⟨hbegun rfl,rfl,by rw [hat]; rfl⟩
  · rename_i devices responses
    obtain ⟨hstate,hlistening⟩ := hdown (.inr rfl)
    have hended : ∀ c : ExternalConnection β, Endpoint.Ended { e with connection := c.fail } :=
      fun c => ⟨rfl,⟨false,rfl⟩,hlistening⟩
    have hresponses : ∀ m ∈ ([] : List (ClientMessage β)),
        ∃ type messageCounter, m = .commandResponse e.connection.sessionId_ type messageCounter := by rintro _ ⟨⟩
    refine h.receives (hrunning rfl) (hbegun rfl) (by rw [hat]; rfl) hresponses hcalls hpending ?_ ?_
    · intro hreceived
      simp only [receiveStatusResponse, hreceived]
      exact hended _
    · obtain ⟨-,hcases⟩ | ⟨messageCounter,hcases⟩ :=
        e.connection.receiveStatusResponse_cases devices responses answer.received <;> rw [hcases]
      · exact .inl (hended _)
      · exact .inr ⟨rfl,by rintro _ ⟨⟩,rfl,rfl⟩
  · obtain rfl : s = t := Option.some.inj hcalls
    exact h.proceeds (.refl s) (by simp [hpending]) h.nothingPending id (by rintro _ ⟨⟩)
      fun _ => ⟨hbegun rfl,rfl,by rw [hat]; rfl⟩
  · rename_i devices commands
    obtain ⟨hstate,hlistening⟩ := hdown (.inr rfl)
    have hended : ∀ c : ExternalConnection β, Endpoint.Ended { e with connection := c.fail } :=
      fun c => ⟨rfl,⟨false,rfl⟩,hlistening⟩
    obtain ⟨counter,queue,responses,hresponses,hcases⟩ :=
      receiveCommand_responses modules e.connection devices commands answer.received
    have hnone : answer.received = none → Endpoint.Ended { e with
        connection := e.connection.receiveCommand modules devices commands answer.received } := by
      intro hreceived
      simp only [receiveCommand, hreceived]
      exact hended _
    have hsent : (e.connection.receiveCommand modules devices commands answer.received).sent =
        e.connection.sent ++ responses := by
      rcases hcases with hcases | hcases <;> rw [hcases] <;> rfl
    simp only [responseCalls, hsent, appended_append] at hcalls
    refine h.receives (hrunning rfl) (hbegun rfl) (by rw [hat]; rfl) ?_ hcalls hpending hnone ?_
    · intro m hm
      obtain ⟨type,messageCounter,rfl⟩ := hresponses m hm
      exact ⟨type,messageCounter,rfl⟩
    · rcases hcases with hcases | hcases <;> rw [hcases]
      · exact .inl (hended _)
      · exact .inr ⟨rfl,by rintro _ ⟨⟩,rfl,rfl⟩
  · obtain rfl : s = t := Option.some.inj hcalls
    exact h.proceeds (.refl s) (by simp [hpending]) h.nothingPending (by rintro ⟨⟩) (by rintro _ ⟨⟩)
      fun _ => ⟨hbegun rfl,rfl,by rw [hat]; rfl⟩
  · obtain rfl : s = t := Option.some.inj hcalls
    exact h.proceeds (.refl s) (by simp [hpending]) h.nothingPending id (by rintro _ ⟨⟩)
      fun _ => ⟨hbegun rfl,rfl,by rw [hat]; rfl⟩

omit [DecidableEq β] [BufferType β] in
/-- A round of the receive loop sends responses to a command. -/
theorem receivingHandlerLoop_sends (modules : Modules β) (e : Endpoint β) (serverDisconnect : Bool)
    (message : Option (ServerMessage β)) :
    let e' := (e.receivingHandlerLoop modules serverDisconnect message).2
    e'.connection.sessionId_ = e.connection.sessionId_ ∧ ∃ responses,
      e'.connection.sent = e.connection.sent ++ responses ∧
        ∀ m ∈ responses, ∃ type messageCounter, m = .commandResponse e.connection.sessionId_ type messageCounter := by
  have hnothing : ∃ responses, e.connection.sent = e.connection.sent ++ responses ∧
      ∀ m ∈ responses, ∃ type messageCounter, m = .commandResponse e.connection.sessionId_ type messageCounter :=
    ⟨[],by simp,by simp⟩
  unfold Endpoint.receivingHandlerLoop
  split
  · exact ⟨rfl,hnothing⟩
  · split
    · exact ⟨rfl,hnothing⟩
    · split
      · exact ⟨rfl,hnothing⟩
      · split
        · rename_i sessionId messageCounter deviceCommand
          obtain ⟨counter,queue,responses,hstate,hresponses⟩ :=
            e.connection.handleCommand_frame modules sessionId messageCounter deviceCommand
          dsimp only
          rw [hstate]
          have hsends : ∃ responses', e.connection.sent ++ responses = e.connection.sent ++ responses' ∧
              ∀ m ∈ responses', ∃ type messageCounter,
                m = .commandResponse e.connection.sessionId_ type messageCounter := by
            refine ⟨responses,rfl,fun m hm => ?_⟩
            obtain ⟨type,rfl⟩ := hresponses m hm
            exact ⟨type,messageCounter,rfl⟩
          split
          · exact ⟨rfl,hsends⟩
          · exact ⟨rfl,hsends⟩
        · dsimp only
          split
          · exact ⟨rfl,hnothing⟩
          · exact ⟨rfl,hnothing⟩
        · exact ⟨rfl,hnothing⟩

omit [BufferType β] in
/-- The second half of a round of the receive loop, for what was so before a notification was found. -/
theorem receivingHandlerLoop (h : OverMqtt phase e { s with serverDisconnectPending_ := false })
    (hconverses : e.Converses modules phase) (hlistening : e.listening = true) {serverDisconnect : Bool}
    {message : Option (ServerMessage β)}
    (hcalls : exec (MqttCommunication.call parse serverDisconnectTopic_) s (e.receiveCalls
      (e.receivingHandlerLoop modules serverDisconnect message).2 serverDisconnect) = some t) :
    OverMqtt phase (e.receivingHandlerLoop modules serverDisconnect message).2 t := by
  obtain ⟨hstate,hthread,-⟩ := Endpoint.receivingHandlerLoop_frame modules e serverDisconnect message
  obtain ⟨hsession,responses,hsent,hresponses⟩ := receivingHandlerLoop_sends modules e serverDisconnect message
  have htalks : e.talks := .inr (.inl hlistening)
  have hempty := Converses.pending_eq_nil (hconverses.opened (.inr hlistening)).1
  simp only [receiveCalls, responseCalls, hsent, appended_append] at hcalls
  obtain ⟨u,hu,hanswered⟩ := exec_cons_eq_some.mp hcalls
  obtain ⟨rfl,-⟩ := MqttCommunication.call_consume hu
  obtain ⟨hpending,hclosed,-⟩ := MqttCommunication.exec_responses_published hanswered
  refine ⟨?_,fun _ => hpending,fun hnow => absurd (hpending.symm.trans hnow) Bool.false_ne_true,?_⟩
  · rw [hstate, hthread]
    exact fun hfresh => hclosed.mpr (h.fresh hfresh)
  · intro client hclient
    refine ⟨_,h.answers htalks hempty (.refl _) hresponses hanswered client hclient,fun _ => ?_⟩
    rw [hsession, hthread, hempty]

theorem moves (h : OverMqtt phase e s) {calls : List (ChannelCall β)} (hmoves : e.Moves modules phase calls phase' e')
    (hconverses : e.Converses modules phase)
    (hcalls : exec (MqttCommunication.call parse serverDisconnectTopic_) s calls = some t) : OverMqtt phase' e' t := by
  have hfills : ∀ status : DeviceStatus β, OverMqtt phase (e.fillErrorAggregator modules status) s := by
    intro status
    obtain ⟨hstate,hsession,-,hthread,-⟩ := e.connection.fillErrorAggregator_frame modules status
    unfold Endpoint.fillErrorAggregator
    split
    · exact h.congr hstate hsession hthread rfl
    · exact h
  have hcloses : ∀ phase' (e' : Endpoint β), exec (MqttCommunication.call parse serverDisconnectTopic_) s
      [.closeConnection] = some t → OverMqtt phase' e' t := by
    intro phase' e' hcalls
    obtain ⟨u,hu,hdone⟩ := exec_cons_eq_some.mp hcalls
    obtain rfl : _ = u := Option.some.inj hu
    obtain rfl : _ = t := Option.some.inj hdone
    exact .of_none rfl rfl
  cases hmoves with
  | stays =>
    obtain rfl : s = t := Option.some.inj hcalls
    exact h
  | fillErrorAggregator _ _ status =>
    obtain rfl : s = t := Option.some.inj hcalls
    exact hfills status
  | sendStatus _ _ status deviceState sent hstate => exact h.sendStatus hconverses hstate status deviceState sent hcalls
  | take _ status _ =>
    obtain rfl : s = t := Option.some.inj hcalls
    exact h.congr rfl rfl rfl rfl
  | initializeConnection _ _ answer _ he' => exact h.initializeConnection hconverses he' hcalls
  | expire =>
    obtain rfl : s = t := Option.some.inj hcalls
    exact h.congr rfl rfl rfl rfl
  | timeoutHandler =>
    obtain rfl : s = t := Option.some.inj hcalls
    unfold Endpoint.timeoutHandler
    split <;> exact h.congr rfl rfl rfl rfl
  | reconnect => exact hcloses _ _ hcalls
  | drop => exact hcloses _ _ hcalls
  | begin _ status hnot =>
    obtain rfl : s = t := Option.some.inj hcalls
    have hclosed := h.fresh (.inl hnot)
    exact .of_none hclosed (h.nothingPending hclosed)
  | startConnectThread =>
    obtain rfl : s = t := Option.some.inj hcalls
    have hclosed := h.fresh (.inr (.inl rfl))
    exact .of_none hclosed (h.nothingPending hclosed)
  | cancelPendingConnect => exact hcloses _ _ hcalls
  | join =>
    obtain rfl : s = t := Option.some.inj hcalls
    refine ⟨?_,h.nothingPending,h.pending,h.published⟩
    rintro (hnot | hprepared | hopening)
    · exact h.fresh (.inl hnot)
    · cases hprepared
    · exact h.fresh (.inr (.inr hopening))

omit [BufferType β] [DecidableEq β] in
/-- What the broker and the network do concerns no call. -/
theorem event {event : MqttEvent} (h : OverMqtt phase e s) (ht : s.event event = some t) : OverMqtt phase e t := by
  obtain ⟨client,hclient,hmap⟩ := Option.bind_eq_some_iff.mp ht
  obtain ⟨client',hevent,rfl⟩ := Option.map_eq_some_iff.mp hmap
  obtain ⟨-,-,hpublished⟩ := AsyncClient.network_spec hevent
  refine ⟨?_,by rintro ⟨⟩,h.pending,?_⟩
  · intro hfresh
    exact absurd (hclient.symm.trans (h.fresh hfresh)) (Option.some_ne_none _)
  · rintro _ ⟨⟩
    rw [hpublished]
    exact h.published client hclient

end OverMqtt

end Endpoint

/-! ## Runs -/

namespace MqttCommunication
variable [BufferType β] [DecidableEq β] {parse : List UInt8 → Option (ServerMessage β)}
  {serverDisconnectTopic_ : String} {settings : ConnectionSettings β} {connection : ℕ}
  {as : List (ChannelledAction β MqttEvent)}
  {s t : Channelled β (MqttCommunication κ)}

/-- The channel before the round of the receive loop that has received has looked for a notification. -/
def seen (s : MqttCommunication κ) (received : Option (Option (ServerMessage β))) : MqttCommunication κ :=
  if received.isSome then { s with serverDisconnectPending_ := false } else s

omit [AsyncClient β κ] [BufferType β] [DecidableEq β] in
theorem seen_client (s : MqttCommunication κ) (received : Option (Option (ServerMessage β))) :
    (s.seen received).client_ = s.client_ := by
  unfold seen
  split <;> rfl

omit [BufferType β] in
/-- Calls that only send and close do not look for a notification. -/
theorem exec_sends {c c' : MqttCommunication κ} {calls : List (ChannelCall β)}
    (hcalls : ∀ k ∈ calls, k = .closeConnection ∨ ∃ m sent, k = .sendMessage m sent)
    (h : exec (call parse serverDisconnectTopic_) c calls = some c') :
    exec (call parse serverDisconnectTopic_) { c with serverDisconnectPending_ := false } calls =
        some { c' with serverDisconnectPending_ := false } ∧
      c'.serverDisconnectPending_ = (c.serverDisconnectPending_ && !calls.any ChannelCall.closes) := by
  induction calls generalizing c with
  | nil =>
    obtain rfl : c = c' := Option.some.inj h
    simp
  | cons k calls ih =>
    obtain ⟨u,hu,hrest⟩ := exec_cons_eq_some.mp h
    obtain ⟨hexec,hpending⟩ := ih (fun k hk => hcalls k (List.mem_cons_of_mem _ hk)) hrest
    rcases hcalls k List.mem_cons_self with rfl | ⟨m,sent,rfl⟩
    · obtain rfl := Option.some.inj hu
      refine ⟨exec_cons_eq_some.mpr ⟨_,rfl,hexec⟩,?_⟩
      simpa [closeConnection, ChannelCall.closes] using hpending
    · obtain ⟨rfl,hsent⟩ := call_sendMessage hu
      have hsame : ({ c with serverDisconnectPending_ := false } : MqttCommunication κ).sendMessage m =
          ((c.sendMessage m).1,{ (c.sendMessage m).2 with serverDisconnectPending_ := false }) := by
        simp only [sendMessage]
        split
        · rfl
        · split <;> rfl
      refine ⟨exec_cons_eq_some.mpr ⟨_,?_,hexec⟩,?_⟩
      · simp only [call, hsame, if_pos hsent]
      · rw [hpending, (c.sendMessage_spec m).1]
        rfl

end MqttCommunication

namespace Endpoint
variable [BufferType β] {modules : Modules β} {phase phase' : ConnectPhase} {e e' : Endpoint β}
  {calls : List (ChannelCall β)}

/-- While the receive loop is there, nobody else receives. -/
theorem Moves.sends (hmoves : e.Moves modules phase calls phase' e') (hconverses : e.Converses modules phase)
    (hlistening : e.listening = true) :
    (∀ k ∈ calls, k = .closeConnection ∨ ∃ m sent, k = .sendMessage m sent) ∧
      (calls.any ChannelCall.closes = false → e'.listening = true) := by
  have hfills : ∀ status : DeviceStatus β, (e.fillErrorAggregator modules status).listening = e.listening := by
    intro status
    unfold Endpoint.fillErrorAggregator
    split <;> rfl
  cases hmoves with
  | sendStatus _ _ status deviceState sent _ =>
    constructor
    · intro k hk
      simp only [sendCalls, List.mem_append, List.mem_map] at hk
      rcases hk with ⟨m,-,rfl⟩ | hk
      · exact .inr ⟨m,some sent,rfl⟩
      · split at hk
        · cases hk
        · exact .inl (List.mem_singleton.mp hk)
    · intro hopen
      by_cases hmodule : (modules status.device.module_).isSome
      · obtain ⟨-,-,hsent,-⟩ := e.connection.sendStatus_frame status hmodule deviceState BufferType.unallocated sent
        have hconnection : (e.sendStatus modules status deviceState sent).connection.sent =
            (e.connection.sendStatus modules status deviceState BufferType.unallocated sent).sent := by
          simp only [Endpoint.sendStatus]
          split <;> rfl
        rw [OverMqtt.sendCalls_supported (hconnection.trans hsent)] at hopen
        cases sent with
        | true => simpa [Endpoint.sendStatus] using hlistening
        | false => simp [ChannelCall.closes] at hopen
      · simpa [Endpoint.sendStatus, Endpoint.isModuleSupported, hmodule] using hlistening
  | initializeConnection _ _ answer _ he' =>
    obtain ⟨c,-,rfl⟩ := Option.map_eq_some_iff.mp he'
    have hthread := (hconverses.opened (.inr hlistening)).1
    have hnone : ∀ e' : Endpoint β, e.connectCalls e' answer = [] := by
      intro e'
      unfold connectCalls
      cases hat : e.connection.connectThread with
      | finished ok => rfl
      | clearing devices => rfl
      | _ => exact absurd (by rw [hat]; rfl) hthread
    rw [hnone]
    refine ⟨by simp,fun _ => ?_⟩
    split
    · rfl
    · exact hlistening
    · exact hlistening
  | fillErrorAggregator _ _ status => exact ⟨by simp,fun _ => (hfills status).trans hlistening⟩
  | begin _ status => exact ⟨by simp,fun _ => (hfills status).trans hlistening⟩
  | timeoutHandler =>
    refine ⟨by simp,fun _ => ?_⟩
    unfold Endpoint.timeoutHandler
    split <;> exact hlistening
  | reconnect => exact ⟨by simp,by simp [ChannelCall.closes]⟩
  | drop => exact ⟨by simp,by simp [ChannelCall.closes]⟩
  | cancelPendingConnect => exact ⟨by simp,fun _ => hlistening⟩
  | _ => exact ⟨by simp,fun _ => hlistening⟩

end Endpoint

namespace MqttCommunication
variable [BufferType β] [DecidableEq β] {parse : List UInt8 → Option (ServerMessage β)}
  {serverDisconnectTopic_ : String} {settings : ConnectionSettings β} {connection : ℕ}
  {as : List (ChannelledAction β MqttEvent)}
  {s t : Channelled β (MqttCommunication κ)}

/-- What is known of a connection over MQTT in every state. A notification that a round has received waits for its
other half. -/
structure Receives (phase : ConnectPhase) (e : Endpoint β) (s : MqttCommunication κ)
    (received : Option (Option (ServerMessage β))) : Prop where
  overMqtt : e.OverMqtt phase (s.seen received)
  listening : received.isSome = true → e.listening = true
  pending : received.isSome = true → s.serverDisconnectPending_ = true → received = some none

theorem Receives.moves {phase phase' : ConnectPhase} {e e' : Endpoint β} {calls : List (ChannelCall β)}
    {c c' : MqttCommunication κ} {received : Option (Option (ServerMessage β))} {modules : Modules β}
    (h : Receives phase e c received) (hmoves : e.Moves modules phase calls phase' e')
    (hconverses : e.Converses modules phase)
    (hcalls : exec (call parse serverDisconnectTopic_) c calls = some c') :
    Receives phase' e' c' (if calls.any ChannelCall.closes then none else received) := by
  cases received with
  | none =>
    rw [ite_self]
    exact ⟨h.overMqtt.moves hmoves hconverses hcalls,by rintro ⟨⟩,by rintro ⟨⟩⟩
  | some message =>
    obtain ⟨hsends,hgoes⟩ := hmoves.sends hconverses (h.listening rfl)
    obtain ⟨hseen,hpending⟩ := exec_sends hsends hcalls
    have hover := h.overMqtt.moves hmoves hconverses hseen
    cases hcloses : calls.any ChannelCall.closes with
    | true =>
      have hc : c' = { c' with serverDisconnectPending_ := false } := by
        rw [hcloses, Bool.not_true, Bool.and_false] at hpending
        rw [← hpending]
      refine ⟨?_,by rintro ⟨⟩,by rintro ⟨⟩⟩
      rw [hc]
      exact hover
    | false =>
      refine ⟨hover,fun _ => hgoes hcloses,fun _ hnow => h.pending rfl ?_⟩
      rw [hcloses, Bool.not_false, Bool.and_true] at hpending
      exact hpending.symm.trans hnow

theorem exec_receives (he : exec (Channelled.step (channel parse serverDisconnectTopic_) settings connection)
    (.init (channel parse serverDisconnectTopic_)) as = some s) :
    Receives (s.client.loop.phase connection) (s.client.externalConnectionsList_ connection) s.channel s.received := by
  refine Channelled.exec_channelled ⟨.of_none rfl rfl,by rintro ⟨⟩,by rintro ⟨⟩⟩ ?_ ?_ ?_ ?_ he
  · intro phase e calls phase' e' c c' received hmoves hconverses hcalls h
    exact h.moves hmoves hconverses hcalls
  · intro phase e c c' message hlistening hcall h
    obtain ⟨hkeeps,hfound⟩ := call_receiveMessage_keeps hcall
    have hpending : c.serverDisconnectPending_ ≠ true := by
      intro hpending
      rw [(h.overMqtt.pending hpending).listening] at hlistening
      cases hlistening
    refine ⟨?_,fun _ => hlistening,?_⟩
    · exact h.overMqtt.keeps (t := { c' with serverDisconnectPending_ := false }) ⟨hkeeps.closed,hkeeps.published⟩ rfl
    · intro _ hnow
      rcases hfound with hsame | ⟨rfl,-⟩
      · exact absurd (hsame.symm.trans hnow) hpending
      · rfl
  · intro phase e c c' message serverDisconnect hlistening hconverses e' hcalls h
    exact ⟨h.overMqtt.receivingHandlerLoop hconverses hlistening hcalls,by rintro ⟨⟩,by rintro ⟨⟩⟩
  · intro phase e c event c' received hevent h
    obtain ⟨client,hclient,hmap⟩ := Option.bind_eq_some_iff.mp hevent
    obtain ⟨client',hnetwork,rfl⟩ := Option.map_eq_some_iff.mp hmap
    have hseen : (c.seen received).event event = some (seen { c with client_ := some client' } received) := by
      unfold seen
      split <;> simp [MqttCommunication.event, hclient, hnetwork]
    exact ⟨h.overMqtt.event hseen,h.listening,h.pending⟩

/-- What each client has published is a conversation with the server, from a connect message on, and one that is
complete up to the last status of the devices when the connection is up. -/
theorem exec_published (he : exec (Channelled.step (channel parse serverDisconnectTopic_) settings connection)
    (.init (channel parse serverDisconnectTopic_)) as = some s) (client : κ)
    (hclient : s.channel.client_ = some client) :
    let c := (s.client.externalConnectionsList_ connection).connection
    ∃ conversation, exec Conversation.next .closed (AsyncClient.published client) = some conversation ∧
      (c.state_ = .CONNECTED → conversation = .session c.sessionId_ []) := by
  intro c
  obtain ⟨conversation,hexec,hsession⟩ := (exec_receives he).overMqtt.published client
    ((seen_client s.channel s.received).trans hclient)
  refine ⟨conversation,hexec,?_⟩
  intro hstate
  obtain ⟨bs,hbs⟩ := Channelled.exec_client he
  have hconverses := (Client.exec_converses hbs).endpoints connection
  obtain rfl := hsession (.inl hstate)
  rw [Endpoint.Converses.pending_eq_nil (hconverses.opened (.inl hstate)).1]

/-! ## What a session takes -/

open AsyncClient (arrived consumed create_spec try_consume_eq_some publish_spec network_spec)

/-- The messages among those that arrived, as `receiveMessage` gives them. -/
def readable (parse : List UInt8 → Option (ServerMessage β)) (serverDisconnectTopic_ : String)
    (msgs : List (Option MqttMessage)) : List (ServerMessage β) := msgs.filterMap (read parse serverDisconnectTopic_)

/-- The messages that were taken since the channel was initialized. -/
def record (taken : List (ServerMessage β)) : ChannelCall β → List (ServerMessage β)
  | .initializeConnection _ => []
  | .receiveMessage (some m) => taken ++ [m]
  | _ => taken

/-- The messages that the connection has taken since its last connect sequence began. -/
def sessionReceived (κ : Type) [AsyncClient β κ] (parse : List UInt8 → Option (ServerMessage β))
    (serverDisconnectTopic_ : String) (settings : ConnectionSettings β) (connection : ℕ) (as : List (ChannelledAction β MqttEvent)) :
    List (ServerMessage β) :=
  observe (Channelled.step (channel parse serverDisconnectTopic_) settings connection)
    (fun s a t taken => (s.calls connection a t).foldl record taken)
    (.init (channel (κ := κ) parse serverDisconnectTopic_)) [] as

omit [BufferType β] [DecidableEq β] in
/-- What was taken from the client is what came first to its queue. -/
def Taken (parse : List UInt8 → Option (ServerMessage β)) (serverDisconnectTopic_ : String)
    (taken : List (ServerMessage β)) (s : MqttCommunication κ) : Prop :=
  ∀ client, s.client_ = some client → consumed client ≤ (arrived client).length ∧
    taken = readable parse serverDisconnectTopic_ ((arrived client).take (consumed client))

omit [BufferType β] in
theorem Taken.call {s t : MqttCommunication κ} {taken : List (ServerMessage β)} {k : ChannelCall β}
    (h : Taken parse serverDisconnectTopic_ taken s) (hfresh : ∀ ok, k = .initializeConnection ok → s.client_ = none)
    (ht : s.call parse serverDisconnectTopic_ k = some t) :
    Taken parse serverDisconnectTopic_ (record taken k) t := by
  cases k with
  | initializeConnection ok =>
    have hclosed := hfresh ok rfl
    simp only [MqttCommunication.call, initializeConnection, hclosed] at ht
    obtain rfl := Option.some.inj ht
    obtain ⟨harrived,hconsumed,-⟩ := create_spec (κ := κ) ok
    rintro _ ⟨⟩
    rw [harrived, hconsumed]
    exact ⟨le_rfl,rfl⟩
  | sendMessage m sent =>
    obtain ⟨rfl,-⟩ := call_sendMessage ht
    obtain ⟨-,-,hunsent,hpublishes⟩ := s.sendMessage_spec m
    cases hsent : (s.sendMessage m).1 with
    | false =>
      rw [hunsent hsent]
      exact h
    | true =>
      obtain ⟨client,hclient,hnow⟩ := hpublishes hsent
      obtain ⟨harrived,hconsumed,-⟩ := publish_spec client m
      intro client' hclient'
      obtain rfl := Option.some.inj (hnow.symm.trans hclient')
      rw [harrived, hconsumed]
      exact h client hclient
  | receiveMessage m =>
    obtain ⟨rfl,rfl⟩ := call_receiveMessage ht
    obtain ⟨hnothing,-⟩ | ⟨client,client',msg,hclient,hmsg,hread,hnow,-⟩ := s.receiveMessage_cases parse
      serverDisconnectTopic_
    · rw [hnothing]
      exact h
    · intro client'' hclient'
      obtain rfl := Option.some.inj (hnow.symm.trans hclient')
      obtain ⟨hle,rfl⟩ := h client hclient
      obtain ⟨hnext,harrived,hconsumed,-⟩ := try_consume_eq_some hmsg
      obtain ⟨hlt,-⟩ := List.getElem?_eq_some_iff.mp hnext
      rw [harrived, hconsumed]
      refine ⟨hlt,?_⟩
      rw [hread, List.take_add_one, hnext]
      cases hm : read parse serverDisconnectTopic_ msg <;> simp [record, readable, hm]
  | consumeServerDisconnectNotification pending =>
    obtain ⟨rfl,-⟩ := call_consume ht
    exact h
  | closeConnection =>
    obtain rfl := Option.some.inj ht
    rintro _ ⟨⟩

omit [BufferType β] in
/-- The calls of a section; the one that makes a client is alone. -/
theorem Taken.calls {s t : MqttCommunication κ} {taken : List (ServerMessage β)} {calls : List (ChannelCall β)}
    (h : Taken parse serverDisconnectTopic_ taken s)
    (hfresh : ∀ ok, .initializeConnection ok ∈ calls → s.client_ = none ∧ calls = [.initializeConnection ok])
    (ht : exec (MqttCommunication.call parse serverDisconnectTopic_) s calls = some t) :
    Taken parse serverDisconnectTopic_ (calls.foldl record taken) t := by
  have hlist : ∀ calls : List (ChannelCall β), (∀ ok, .initializeConnection ok ∉ calls) → ∀ s taken,
      Taken parse serverDisconnectTopic_ taken s →
        exec (MqttCommunication.call parse serverDisconnectTopic_) s calls = some t →
          Taken parse serverDisconnectTopic_ (calls.foldl record taken) t := by
    intro calls
    induction calls with
    | nil =>
      intro _ s taken h ht
      obtain rfl : s = t := Option.some.inj ht
      exact h
    | cons k calls ih =>
      intro hno s taken h ht
      obtain ⟨u,hu,hrest⟩ := exec_cons_eq_some.mp ht
      refine ih (fun ok hmem => hno ok (List.mem_cons_of_mem k hmem)) u _ (h.call ?_ hu) hrest
      rintro ok rfl
      exact absurd List.mem_cons_self (hno ok)
  by_cases hmem : ∃ ok, .initializeConnection ok ∈ calls
  · obtain ⟨ok,hmem⟩ := hmem
    obtain ⟨hclosed,rfl⟩ := hfresh ok hmem
    obtain ⟨u,hu,hdone⟩ := exec_cons_eq_some.mp ht
    obtain rfl : u = t := Option.some.inj hdone
    exact h.call (fun _ _ => hclosed) hu
  · exact hlist calls (not_exists.mp hmem) s taken h ht

end MqttCommunication

/-- A channel is initialized by the first section of the connect thread. -/
theorem Endpoint.Moves.initializes [BufferType β] {modules : Modules β} {phase phase' : ConnectPhase}
    {e e' : Endpoint β} {calls : List (ChannelCall β)} (hmoves : e.Moves modules phase calls phase' e') {ok : Bool}
    (h : .initializeConnection ok ∈ calls) :
    (∃ devices, e.connection.connectThread = .opening devices) ∧ calls = [.initializeConnection ok] := by
  have hresponses : ∀ e' : Endpoint β, .initializeConnection ok ∉ e.responseCalls e' := by simp [responseCalls]
  have hsends : ∀ (e' : Endpoint β) sent, .initializeConnection ok ∉ e.sendCalls e' sent := by
    intro e' sent
    simp only [sendCalls, List.mem_append, not_or]
    refine ⟨by simp,?_⟩
    split <;> simp
  cases hmoves with
  | sendStatus => exact absurd h (hsends _ _)
  | initializeConnection _ _ answer _ _ =>
    unfold connectCalls at h ⊢
    split at h <;> rename_i hat
    · obtain rfl : ok = answer.opened := by simpa using h
      exact ⟨⟨_,hat⟩,rfl⟩
    · split at h <;> simp at h
    · exact absurd h (hsends _ _)
    · simp at h
    · exact absurd h (by simp [hresponses])
    · simp at h
  | _ => simp at h

namespace MqttCommunication
variable [BufferType β] [DecidableEq β] {parse : List UInt8 → Option (ServerMessage β)}
  {serverDisconnectTopic_ : String} {settings : ConnectionSettings β} {connection : ℕ}
  {as : List (ChannelledAction β MqttEvent)}
  {s t : Channelled β (MqttCommunication κ)}

open AsyncClient (arrived consumed network_spec)

/-- Each connect sequence makes a client of its own, and what the connection has taken since then are the messages
that came to this client, in their order and each of them once, up to the last one that was taken. -/
theorem exec_received (he : exec (Channelled.step (channel parse serverDisconnectTopic_) settings connection)
    (.init (channel parse serverDisconnectTopic_)) as = some s) :
    ((∃ devices, (s.client.externalConnectionsList_ connection).connection.connectThread = .opening devices) →
      s.channel.client_ = none) ∧
    ∀ client, s.channel.client_ = some client → consumed client ≤ (arrived client).length ∧
      sessionReceived κ parse serverDisconnectTopic_ settings connection as =
        readable parse serverDisconnectTopic_ ((arrived client).take (consumed client)) := by
  have hfresh : ∀ {as s}, exec (Channelled.step (channel parse serverDisconnectTopic_) settings connection)
      (.init (channel (κ := κ) parse serverDisconnectTopic_)) as = some s →
        (∃ devices, (s.client.externalConnectionsList_ connection).connection.connectThread = .opening devices) →
          s.channel.client_ = none := by
    intro as s he hopening
    rw [← seen_client s.channel s.received]
    exact (exec_receives he).overMqtt.fresh (.inr (.inr hopening))
  refine ⟨hfresh he,?_⟩
  refine exec_run_invariant (I := fun as s => Taken parse serverDisconnectTopic_
    (sessionReceived κ parse serverDisconnectTopic_ settings connection as) s.channel) (by rintro _ ⟨⟩) ?_ he
  intro as s a t hrun h ht
  rw [sessionReceived, observe_concat hrun ht]
  cases a with
  | client a =>
    obtain ⟨hloop,hclient,hcalls,-⟩ := Channelled.step_client ht
    obtain ⟨bs,hbs⟩ := Channelled.exec_client hrun
    refine Taken.calls h ?_ hcalls
    intro ok hmem
    obtain ⟨hopening,halone⟩ :=
      (Client.clientStep_moves hloop (Client.exec_converses hbs).awaiting hclient).initializes hmem
    exact ⟨hfresh hrun hopening,halone⟩
  | receive message =>
    obtain ⟨-,-,-,hcall,-⟩ := Channelled.step_receive ht
    exact h.call (by rintro _ ⟨⟩) hcall
  | handle serverDisconnect =>
    obtain ⟨message,-,-,-,hcalls⟩ := Channelled.step_handle ht
    refine Taken.calls h ?_ hcalls
    intro ok hmem
    simp [Channelled.calls, Endpoint.receiveCalls, Endpoint.responseCalls] at hmem
  | channel event =>
    obtain ⟨c,hc,rfl⟩ := Option.map_eq_some_iff.mp ht
    obtain ⟨client,hclient,hmap⟩ := Option.bind_eq_some_iff.mp hc
    obtain ⟨client',hnetwork,rfl⟩ := Option.map_eq_some_iff.mp hmap
    obtain ⟨harrived,hconsumed,-⟩ := network_spec hnetwork
    obtain ⟨hle,htaken⟩ := h client hclient
    rintro _ ⟨⟩
    rw [harrived, hconsumed, List.take_append_of_le_length hle]
    exact ⟨hle.trans (by simp),htaken⟩

/-! ## Disconnect notifications -/

/-- While a round of the receive loop waits for its other half, nobody looks for a notification. -/
theorem step_round (he : exec (Channelled.step (channel parse serverDisconnectTopic_) settings connection)
    (.init (channel parse serverDisconnectTopic_)) as = some s) {a : ChannelledAction β MqttEvent}
    {message : Option (ServerMessage β)} (hs : s.received = some message)
    (hstep : s.step (channel parse serverDisconnectTopic_) settings connection a = some t)
    (hreceived : t.received.isSome = true) :
    t.received = some message ∧ t.channel.serverDisconnectPending_ = s.channel.serverDisconnectPending_ := by
  cases a with
  | client a =>
    obtain ⟨hloop,hclient,hcalls,hnext⟩ := Channelled.step_client hstep
    obtain ⟨bs,hbs⟩ := Channelled.exec_client he
    have hconverses := Client.exec_converses hbs
    have hmoves := Client.clientStep_moves hloop hconverses.awaiting hclient
    obtain ⟨hsends,-⟩ := hmoves.sends (hconverses.endpoints connection) ((exec_receives he).listening (by rw [hs]; rfl))
    obtain ⟨-,hpending⟩ := exec_sends hsends hcalls
    split at hnext <;> rename_i hcloses
    · rw [hnext] at hreceived
      cases hreceived
    · rw [Bool.eq_false_iff.mpr hcloses, Bool.not_false, Bool.and_true] at hpending
      exact ⟨hnext.trans hs,hpending⟩
  | receive message' =>
    cases (Channelled.step_receive hstep).2.1.symm.trans hs
  | handle serverDisconnect =>
    obtain ⟨-,-,hnone,-⟩ := Channelled.step_handle hstep
    rw [hnone] at hreceived
    cases hreceived
  | channel event =>
    obtain ⟨c,hc,rfl⟩ := Option.map_eq_some_iff.mp hstep
    obtain ⟨client,-,hmap⟩ := Option.bind_eq_some_iff.mp hc
    obtain ⟨client',-,rfl⟩ := Option.map_eq_some_iff.mp hmap
    exact ⟨hs,rfl⟩

/-- A round of the receive loop, up to its other half. -/
theorem exec_round (he : exec (Channelled.step (channel parse serverDisconnectTopic_) settings connection)
    (.init (channel parse serverDisconnectTopic_)) as = some s) {message : Option (ServerMessage β)}
    (hs : s.received = some message) {bs : List (ChannelledAction β MqttEvent)}
    (hround : Guarded (Channelled.step (channel parse serverDisconnectTopic_) settings connection)
      (fun s _ => s.received.isSome = true) s bs)
    (hrun : exec (Channelled.step (channel parse serverDisconnectTopic_) settings connection) s bs = some t)
    (ht : t.received.isSome = true) :
    t.received = some message ∧ t.channel.serverDisconnectPending_ = s.channel.serverDisconnectPending_ := by
  induction bs generalizing as s with
  | nil =>
    obtain rfl : s = t := Option.some.inj hrun
    exact ⟨hs,rfl⟩
  | cons b bs ih =>
    obtain ⟨u,hu,hrest⟩ := exec_cons_eq_some.mp hrun
    have hguarded := hround.2 u hu
    have hreceived : u.received.isSome = true := by
      cases bs with
      | nil =>
        obtain rfl : u = t := Option.some.inj hrest
        exact ht
      | cons b bs => exact hguarded.1
    obtain ⟨hsame,hpending⟩ := step_round he hs hu hreceived
    obtain ⟨hsame',hpending'⟩ := ih (exec_concat_eq_some.mpr ⟨s,he,hu⟩) hsame hguarded hrest
    exact ⟨hsame',hpending'.trans hpending⟩

/-- A notification that a connect sequence finds makes it fail, and no later session sees it. In a round of the receive
loop in which nobody closes the channel, the loop drops the connection if and only if the round has received a
notification of its own session. -/
theorem exec_serverDisconnect (he : exec (Channelled.step (channel parse serverDisconnectTopic_) settings connection)
    (.init (channel parse serverDisconnectTopic_)) as = some s) :
    (s.channel.serverDisconnectPending_ = true →
      (s.client.externalConnectionsList_ connection).Ended ∨ s.received = some none) ∧
    ∀ message bs serverDisconnect u v t,
      s.step (channel parse serverDisconnectTopic_) settings connection (.receive message) = some u →
      exec (Channelled.step (channel parse serverDisconnectTopic_) settings connection) u bs = some v →
      Guarded (Channelled.step (channel parse serverDisconnectTopic_) settings connection)
        (fun s _ => s.received.isSome = true) u bs →
      v.step (channel parse serverDisconnectTopic_) settings connection (.handle serverDisconnect) = some t →
      (serverDisconnect = true ↔ s.channel.Notified serverDisconnectTopic_) ∧
      (serverDisconnect = true → message = none ∧ (t.client.externalConnectionsList_ connection).listening = false ∧
        t.client.reconnectQueue_ = v.client.reconnectQueue_ ++
          [⟨connection,false,(v.client.externalConnectionsList_ connection).session⟩]) := by
  have hreceives := exec_receives he
  constructor
  · intro hpending
    cases hreceived : s.received with
    | none =>
      have hover := hreceives.overMqtt
      rw [hreceived] at hover
      exact .inl (hover.pending hpending)
    | some message => exact .inr (hreceived ▸ hreceives.pending (by rw [hreceived]; rfl) hpending)
  · intro message bs serverDisconnect u v t hu hv hround ht
    obtain ⟨hlistening,hnone,-,hcall,hreceived⟩ := Channelled.step_receive hu
    obtain ⟨message',hhand,-,hclient,hcalls⟩ := Channelled.step_handle ht
    have hreachable := exec_concat_eq_some.mpr ⟨s,he,hu⟩
    obtain ⟨hsame,hpending⟩ := exec_round hreachable hreceived hround hv (Option.isSome_of_eq_some hhand)
    obtain rfl := Option.some.inj (hhand.symm.trans hsame)
    obtain ⟨w,hw,-⟩ := exec_cons_eq_some.mp hcalls
    have hw : call parse serverDisconnectTopic_ v.channel (.consumeServerDisconnectNotification serverDisconnect) =
      some w := hw
    obtain ⟨-,rfl⟩ := call_consume hw
    constructor
    · rw [hpending, (call_receiveMessage hcall).1]
      have hbefore : s.channel.serverDisconnectPending_ ≠ true := by
        intro hbefore
        have hover := hreceives.overMqtt
        rw [hnone] at hover
        rw [(hover.pending hbefore).listening] at hlistening
        cases hlistening
      obtain ⟨hnothing,hnot⟩ | ⟨-,-,-,-,-,-,-,hfound⟩ := s.channel.receiveMessage_cases parse serverDisconnectTopic_
      · rw [hnothing]
        exact iff_of_false hbefore hnot
      · rw [hfound, or_iff_right hbefore]
    · intro hdisconnect
      have hv' := exec_receives (exec_append_eq_some.mpr ⟨u,hreachable,hv⟩)
      rw [hdisconnect] at hclient
      obtain ⟨-,hclient⟩ := Option.ite_some_none_eq_some.mp hclient
      refine ⟨Option.some.inj (hhand.symm.trans (hv'.pending (Option.isSome_of_eq_some hhand) hdisconnect)),?_⟩
      rw [← hclient]
      simp [Endpoint.receivingHandlerLoop, Client.report, Client.pushReconnect, Client.setEndpoint]

/-! ## A lidar over MQTT -/

/-- The payloads of one server, as its client reads them. -/
def parseByte : List UInt8 → Option (ServerMessage (List UInt8))
  | [0] => some (.connectResponse "one" false)
  | [1] => some (.statusResponse "one" true 1)
  | [2] => some (.command "one" 1 ⟨lidar,[0]⟩)
  | _ => none

def fromServer (payload : List UInt8) : ChannelledAction (List UInt8) MqttEvent :=
  .channel (.arrives ⟨"company/car/external_server",payload⟩)

def threadSection (received : Option (ServerMessage (List UInt8))) : ChannelledAction (List UInt8) MqttEvent :=
  .client (.thread 0 ⟨true,"one",true,received⟩)

/-- The lidar appears and its session is established. -/
def lidarSession : List (ChannelledAction (List UInt8) MqttEvent) :=
  [.client (.push (Client.statusMessage false lidar)),.client (.client [] true),.client (.client [] true),
    .client (.client [] true),.client (.client [lidar] true),.client (.client [] true),
    threadSection none,fromServer [0],threadSection (some (.connectResponse "one" false)),threadSection none,
    threadSection none,threadSection none,fromServer [1],threadSection (some (.statusResponse "one" true 1)),
    threadSection none,fromServer [2],threadSection (some (.command "one" 1 ⟨lidar,[0]⟩)),threadSection none,
    threadSection none,threadSection none,.client (.client [] true),.client (.client [] true)]

/-- The server disconnects, with a message behind the notification. -/
def lidarNotified : List (ChannelledAction (List UInt8) MqttEvent) :=
  lidarSession ++ [.channel (.arrives ⟨"company/car/external_server_disconnect",[]⟩),fromServer [1]]

abbrev lidarChannel : ICommunicationChannel (List UInt8) (MqttCommunication (ConsumerQueue (List UInt8))) MqttEvent :=
  channel parseByte "company/car/external_server_disconnect"

theorem exec_published_lidar :
    ∃ (s : Channelled (List UInt8) (MqttCommunication (ConsumerQueue (List UInt8))))
        (client : ConsumerQueue (List UInt8)),
      exec (Channelled.step lidarChannel Client.oneConnection 0) (.init lidarChannel) lidarSession = some s ∧
      s.channel.client_ = some client ∧ client.published.length = 3 ∧
      exec Conversation.next .closed (AsyncClient.published client) = some (.session "one" []) := by
  have hs : (exec (Channelled.step lidarChannel Client.oneConnection 0) (.init lidarChannel) lidarSession).map
      (fun s => (s.channel.client_.map (fun client => client.published.length),
        (s.client.externalConnectionsList_ 0).connection.state_,
        (s.client.externalConnectionsList_ 0).connection.sessionId_)) = some (some 3,.CONNECTED,"one") := by
    decide +kernel
  obtain ⟨s,hrun,hlook⟩ := Option.map_eq_some_iff.mp hs
  simp only [Prod.mk.injEq, Option.map_eq_some_iff] at hlook
  obtain ⟨⟨client,hclient,hlength⟩,hstate,hsession⟩ := hlook
  obtain ⟨conversation,hexec,hup⟩ := exec_published hrun client hclient
  refine ⟨s,client,hrun,hclient,hlength,?_⟩
  rw [hexec, hup hstate, hsession]

/-- The three messages of the connect sequence were taken, the notification and the message behind it were not. -/
theorem exec_received_lidar :
    ∃ (s : Channelled (List UInt8) (MqttCommunication (ConsumerQueue (List UInt8))))
        (client : ConsumerQueue (List UInt8)),
      exec (Channelled.step lidarChannel Client.oneConnection 0) (.init lidarChannel) lidarNotified = some s ∧
      s.channel.client_ = some client ∧ client.arrived.length = 5 ∧
      sessionReceived (ConsumerQueue (List UInt8)) parseByte "company/car/external_server_disconnect"
          Client.oneConnection 0 lidarNotified =
        readable parseByte "company/car/external_server_disconnect" (client.arrived.take 3) := by
  have hs : (exec (Channelled.step lidarChannel Client.oneConnection 0) (.init lidarChannel) lidarNotified).map
      (fun s => s.channel.client_.map fun client => (client.arrived.length,client.consumed)) = some (some (5,3)) := by
    decide +kernel
  obtain ⟨s,hrun,hlook⟩ := Option.map_eq_some_iff.mp hs
  obtain ⟨client,hclient,hcounts⟩ := Option.map_eq_some_iff.mp hlook
  obtain ⟨harrived,hconsumed⟩ := Prod.mk.inj hcounts
  obtain ⟨-,htaken⟩ := (exec_received hrun).2 client hclient
  have hthree : consumed client = 3 := hconsumed
  rw [hthree] at htaken
  exact ⟨s,client,hrun,hclient,harrived,htaken⟩

/-- The loop receives the notification, and drops the connection. -/
theorem exec_serverDisconnect_lidar :
    ∃ s u t : Channelled (List UInt8) (MqttCommunication (ConsumerQueue (List UInt8))),
      exec (Channelled.step lidarChannel Client.oneConnection 0) (.init lidarChannel) lidarNotified = some s ∧
      s.step lidarChannel Client.oneConnection 0 (.receive none) = some u ∧
      u.step lidarChannel Client.oneConnection 0 (.handle true) = some t ∧
      s.channel.Notified "company/car/external_server_disconnect" ∧ ∃ session,
        t.client.reconnectQueue_ = u.client.reconnectQueue_ ++ [⟨0,false,session⟩] := by
  have ht : (exec (Channelled.step lidarChannel Client.oneConnection 0) (.init lidarChannel)
      (lidarNotified ++ [.receive none,.handle true])).isSome = true := by decide +kernel
  obtain ⟨t,htrun⟩ := Option.isSome_iff_exists.mp ht
  obtain ⟨s,hsrun,hround⟩ := exec_append_eq_some.mp htrun
  obtain ⟨u,hu,hrest⟩ := exec_cons_eq_some.mp hround
  obtain ⟨t',hstep,-⟩ := exec_cons_eq_some.mp hrest
  obtain ⟨hnotified,hdrops⟩ := (exec_serverDisconnect hsrun).2 none [] true u u t' hu rfl trivial hstep
  exact ⟨s,u,t',hsrun,hu,hstep,hnotified.mp rfl,_,(hdrops rfl).2.2⟩

end MqttCommunication

end ModuleGateway.ExternalClient
