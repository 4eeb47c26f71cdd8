import ModuleGateway.Library.Execution
import ModuleGateway.ExternalClient.ExternalConnection

/-! # The QUIC channel

`QuicCommunication` with its two queues, its sender threads and the events of MsQuic, cut where
another thread can come in between. Every attempt of `initializeConnection` that finds no
connection has a number. A message keeps the number of the attempt in which it came into a queue;
no function looks at it.
-/
namespace ModuleGateway.ExternalClient
open Structures Execution

variable {β μ : Type}

/-- A message and the number of the connection during which it came into its queue. -/
structure Numbered (μ : Type) where
  message : μ
  connection : ℕ

/-- A message that left its queue, and the number of the connection it left it for. -/
structure Delivery (μ : Type) where
  message : Numbered μ
  connection : ℕ

/-- The connection is the one during which the message was queued. -/
def Delivery.inTime (d : Delivery μ) : Prop := d.message.connection = d.connection

instance (d : Delivery μ) : Decidable d.inTime := inferInstanceAs (Decidable (_ = _))

/-- Where a thread is in `senderLoop`: at the loop condition, in `outboundCv_.wait`, connected and
in possession of `outboundMutex_`, or in `sendViaQuicStream`. -/
inductive SenderPhase (β : Type) where
  | testing
  | waiting
  | taking
  | sending (message : Numbered (ClientMessage β))

/-- A running sender thread and the connection whose `CONNECTED` event started it. -/
structure Sender (β : Type) where
  connection : ℕ
  phase : SenderPhase β

def SenderPhase.isTaking : SenderPhase β → Bool
  | .taking => true
  | _ => false

/-- The thread is past its last test for `CONNECTED`. -/
def Sender.isBusy (w : Sender β) : Bool :=
  match w.phase with
  | .taking | .sending _ => true
  | _ => false

/-- A connection that MsQuic still delivers events for. `starts` says that its `CONNECTED` event
started a sender thread, `connected` that the event was delivered at all. -/
structure LiveConnection where
  number : ℕ
  connected : Bool
  starts : Bool

/-- How `ConnectionOpen` and `ConnectionStart` end. -/
inductive OpenOutcome where
  | openFailed
  | startFailed
  | started
deriving DecidableEq

/-- `ending` counts the handlers of `SHUTDOWN_COMPLETE` that have not reset `connection_` yet,
`sends` are the calls of `sendMessage` past their test, and `receiving` says that a call of
`receiveMessage` is past its test and holds `inboundMutex_`. -/
structure QuicCommunication (β : Type) where
  connectionState_ : ConnectionState
  cancelReceive_ : Bool
  connection_ : Option ℕ
  inboundQueue_ : List (Numbered (ServerMessage β))
  outboundQueue_ : List (Numbered (ClientMessage β))
  senders : List (Sender β)
  attempts : ℕ
  opening : Bool
  live : Option LiveConnection
  ending : ℕ
  sends : List (ClientMessage β)
  receiving : Bool
  handed : List (Delivery (ClientMessage β))
  returned : List (Delivery (ServerMessage β))

namespace QuicCommunication

def init : QuicCommunication β where
  connectionState_ := .NOT_CONNECTED
  cancelReceive_ := false
  connection_ := none
  inboundQueue_ := []
  outboundQueue_ := []
  senders := []
  attempts := 0
  opening := false
  live := none
  ending := 0
  sends := []
  receiving := false
  handed := []
  returned := []

/-! ## The functions of the channel -/

/-- Up to the exchange of the state. -/
def initializeConnection (s : QuicCommunication β) : QuicCommunication β :=
  if s.connectionState_ = .NOT_CONNECTED then
    { s with
      cancelReceive_ := false
      connectionState_ := .CONNECTING
      attempts := s.attempts + 1
      opening := true }
  else { s with cancelReceive_ := false }

/-- The rest of `initializeConnection`. -/
def openConnection (s : QuicCommunication β) (outcome : OpenOutcome) : Option (QuicCommunication β) :=
  if s.opening = false then none
  else
    match outcome with
    | .openFailed => some { s with opening := false, connectionState_ := .NOT_CONNECTED }
    | .startFailed =>
      some { s with opening := false, connection_ := none, connectionState_ := .NOT_CONNECTED }
    | .started =>
      some { s with
        opening := false
        connection_ := some s.attempts
        live := some ⟨s.attempts,false,false⟩ }

/-- A sender thread holds `outboundMutex_`. -/
def outboundLocked (s : QuicCommunication β) : Bool := s.senders.any fun w => w.phase.isTaking

/-- Whether the message is accepted; it is queued in a section of its own. -/
def sendMessage (s : QuicCommunication β) (message : ClientMessage β) : QuicCommunication β × Bool :=
  if s.connectionState_ = .NOT_CONNECTED then (s,false)
  else ({ s with sends := s.sends ++ [message] },true)

/-- An accepted message goes into the queue. -/
def enqueue (s : QuicCommunication β) (i : ℕ) : Option (QuicCommunication β) :=
  if s.outboundLocked then none
  else
    (s.sends[i]?).map fun message =>
      { s with
        sends := s.sends.eraseIdx i
        outboundQueue_ := s.outboundQueue_ ++ [⟨message,s.attempts⟩] }

/-- The states in which `receiveMessage` waits and returns messages. -/
def mayReceive (s : QuicCommunication β) : Bool :=
  s.connectionState_ = .CONNECTING || s.connectionState_ = .CLOSING || s.connectionState_ = .CONNECTED

/-- Up to the last test of `receiveMessage`. A call that returns no message changes nothing; it
ends when nothing keeps it waiting or when the time is over. -/
def receiveMessage (s : QuicCommunication β) (timeout : Bool) : Option (QuicCommunication β) :=
  if s.receiving then none
  else if !s.inboundQueue_.isEmpty || s.cancelReceive_ || !s.mayReceive then
    some (if !s.mayReceive || s.inboundQueue_.isEmpty then s else { s with receiving := true })
  else if timeout then some s
  else none

/-- The front of the queue is returned. -/
def returnMessage (s : QuicCommunication β) : Option (QuicCommunication β) :=
  if s.receiving = false then none
  else
    match s.inboundQueue_ with
    | [] => none
    | message :: rest =>
      some { s with
        receiving := false
        inboundQueue_ := rest
        returned := s.returned ++ [⟨message,s.attempts⟩] }

def cancelReceive (s : QuicCommunication β) : QuicCommunication β := { s with cancelReceive_ := true }

/-! ## The sender thread -/

def setPhase (s : QuicCommunication β) (i : ℕ) (w : Sender β) (phase : SenderPhase β) : QuicCommunication β :=
  { s with senders := s.senders.set i { w with phase := phase } }

def endSender (s : QuicCommunication β) (i : ℕ) : QuicCommunication β :=
  { s with senders := s.senders.eraseIdx i }

/-- `opened` says that the stream was opened and the message serialized. -/
def sendViaQuicStream (s : QuicCommunication β) (message : Numbered (ClientMessage β)) (opened : Bool) :
    QuicCommunication β :=
  match s.connection_ with
  | some connection => if opened then { s with handed := s.handed ++ [⟨message,connection⟩] } else s
  | none => s

def senderLoop (s : QuicCommunication β) (i : ℕ) (opened : Bool) : Option (QuicCommunication β) :=
  match s.senders[i]? with
  | none => none
  | some w =>
    match w.phase with
    | .testing =>
      some (if s.connectionState_ = .CONNECTED then s.setPhase i w .waiting else s.endSender i)
    | .waiting =>
      if s.outboundLocked then none
      else if s.connectionState_ ≠ .CONNECTED then some (s.endSender i)
      else if s.outboundQueue_.isEmpty then none
      else some (s.setPhase i w .taking)
    | .taking =>
      match s.outboundQueue_ with
      | [] => none
      | message :: rest => some { s.setPhase i w (.sending message) with outboundQueue_ := rest }
    | .sending message => some ((s.sendViaQuicStream message opened).setPhase i w .testing)

/-! ## The events of MsQuic -/

/-- `ready` events are handled after the handler of `CONNECTED`, which ends by joining the sender
thread of an earlier connection. -/
def ready (s : QuicCommunication β) (c : LiveConnection) : Bool :=
  !c.starts || s.senders.all fun w => w.connection == c.number

/-- `QUIC_CONNECTION_EVENT_CONNECTED` -/
def onConnected (s : QuicCommunication β) : Option (QuicCommunication β) :=
  match s.live with
  | none => none
  | some c =>
    if c.connected then none
    else if s.connectionState_ = .CONNECTING then
      some { s with
        connectionState_ := .CONNECTED
        live := some ⟨c.number,true,true⟩
        senders := s.senders ++ [⟨c.number,.testing⟩] }
    else some { s with live := some ⟨c.number,true,false⟩ }

/-- `QUIC_CONNECTION_EVENT_SHUTDOWN_INITIATED_BY_PEER` -/
def onShutdownInitiatedByPeer (s : QuicCommunication β) : Option (QuicCommunication β) :=
  match s.live with
  | none => none
  | some c => if s.ready c then some { s with connectionState_ := .CLOSING } else none

/-- `QUIC_CONNECTION_EVENT_SHUTDOWN_COMPLETE`, the last event of its connection. -/
def onShutdownComplete (s : QuicCommunication β) : Option (QuicCommunication β) :=
  match s.live with
  | none => none
  | some c =>
    if s.ready c then
      some { s with connectionState_ := .NOT_CONNECTED, live := none, ending := s.ending + 1 }
    else none

/-- The end of the handler of `SHUTDOWN_COMPLETE`. -/
def resetConnection (s : QuicCommunication β) : Option (QuicCommunication β) :=
  if s.ending = 0 then none else some { s with connection_ := none, ending := s.ending - 1 }

def onMessageDecoded (s : QuicCommunication β) (message : Numbered (ServerMessage β)) : QuicCommunication β :=
  { s with inboundQueue_ := s.inboundQueue_ ++ [message] }

/-- `QUIC_STREAM_EVENT_RECEIVE` of a stream of the connection, with what the bytes parse to. -/
def onStreamReceive (s : QuicCommunication β) (parsed : Option (ServerMessage β)) :
    Option (QuicCommunication β) :=
  match s.live with
  | none => none
  | some c =>
    if s.receiving || !s.ready c then none
    else
      match parsed with
      | none => some s
      | some message => some (s.onMessageDecoded ⟨message,c.number⟩)

end QuicCommunication

inductive QuicAction (β : Type) where
  | initializeConnection
  | openConnection (outcome : OpenOutcome)
  | sendMessage (message : ClientMessage β)
  | enqueue (i : ℕ)
  | receiveMessage (timeout : Bool)
  | returnMessage
  | cancelReceive
  | senderLoop (i : ℕ) (opened : Bool)
  | connected
  | shutdownInitiatedByPeer
  | shutdownComplete
  | resetConnection
  | streamReceive (parsed : Option (ServerMessage β))

namespace QuicCommunication

def quicStep (s : QuicCommunication β) : QuicAction β → Option (QuicCommunication β)
  | .initializeConnection => some s.initializeConnection
  | .openConnection outcome => s.openConnection outcome
  | .sendMessage message => some (s.sendMessage message).1
  | .enqueue i => s.enqueue i
  | .receiveMessage timeout => s.receiveMessage timeout
  | .returnMessage => s.returnMessage
  | .cancelReceive => some s.cancelReceive
  | .senderLoop i opened => s.senderLoop i opened
  | .connected => s.onConnected
  | .shutdownInitiatedByPeer => s.onShutdownInitiatedByPeer
  | .shutdownComplete => s.onShutdownComplete
  | .resetConnection => s.resetConnection
  | .streamReceive parsed => s.onStreamReceive parsed

/-! ## What the functions leave alone -/

section Frame
variable {s t : QuicCommunication β}

theorem receiveMessage_frame {timeout : Bool} (ht : s.receiveMessage timeout = some t) :
    t = { s with receiving := t.receiving } := by
  unfold receiveMessage at ht
  split at ht
  · cases ht
  · split at ht
    · cases ht
      split <;> rfl
    · obtain ⟨-,rfl⟩ := Option.ite_some_none_eq_some.mp ht
      rfl

theorem returnMessage_frame (ht : s.returnMessage = some t) :
    t = { s with receiving := t.receiving, inboundQueue_ := t.inboundQueue_, returned := t.returned } := by
  unfold returnMessage at ht
  split at ht
  · cases ht
  · split at ht <;> cases ht
    rfl

theorem onStreamReceive_frame {parsed : Option (ServerMessage β)} (ht : s.onStreamReceive parsed = some t) :
    t = { s with inboundQueue_ := t.inboundQueue_ } := by
  unfold onStreamReceive at ht
  split at ht
  · cases ht
  · split at ht
    · cases ht
    · split at ht <;> cases ht <;> rfl

theorem sendMessage_frame (s : QuicCommunication β) (message : ClientMessage β) :
    (s.sendMessage message).1 = { s with sends := (s.sendMessage message).1.sends } := by
  unfold sendMessage
  split <;> rfl

theorem enqueue_frame {i : ℕ} (ht : s.enqueue i = some t) :
    t = { s with sends := t.sends, outboundQueue_ := t.outboundQueue_ } := by
  unfold enqueue at ht
  split at ht
  · cases ht
  · obtain ⟨message,-,rfl⟩ := Option.map_eq_some_iff.mp ht
    rfl

theorem sendViaQuicStream_frame (s : QuicCommunication β) (message : Numbered (ClientMessage β)) (opened : Bool) :
    s.sendViaQuicStream message opened = { s with handed := (s.sendViaQuicStream message opened).handed } := by
  unfold sendViaQuicStream
  split
  · split <;> rfl
  · rfl

theorem senderLoop_frame {i : ℕ} {opened : Bool} (ht : s.senderLoop i opened = some t) :
    t = { s with senders := t.senders, outboundQueue_ := t.outboundQueue_, handed := t.handed } := by
  unfold senderLoop at ht
  split at ht
  · cases ht
  · split at ht
    · cases ht
      split <;> rfl
    · split at ht
      · cases ht
      · split at ht
        · cases ht
          rfl
        · obtain ⟨-,ht⟩ := Option.ite_none_left_eq_some.mp ht
          cases ht
          rfl
    · split at ht <;> cases ht
      rfl
    · cases ht
      rw [setPhase, sendViaQuicStream_frame]

end Frame

/-- `initializeConnection` opens no connection while a message of an earlier one is queued or in
the hands of a sender thread. -/
def opensEmpty (s : QuicCommunication β) : QuicAction β → Bool
  | .initializeConnection =>
    s.connectionState_ != .NOT_CONNECTED ||
      (s.inboundQueue_.isEmpty && s.outboundQueue_.isEmpty && s.senders.all fun w => !w.isBusy)
  | _ => true

/-! ## Every run -/

/-- Every message under way belongs to the latest attempt, and so does the connection that a
sender thread can use. -/
structure InTime (s : QuicCommunication β) : Prop where
  inbound : ∀ m ∈ s.inboundQueue_, m.connection = s.attempts
  outbound : ∀ m ∈ s.outboundQueue_, m.connection = s.attempts
  sending : ∀ w ∈ s.senders, ∀ m, w.phase = .sending m → m.connection = s.attempts
  live : ∀ c, s.live = some c → c.number = s.attempts
  idle : s.connectionState_ = .NOT_CONNECTED ∨ s.opening = true → s.live = none
  opening : s.opening = true → s.connectionState_ = .CONNECTING
  connected : s.connectionState_ = .CONNECTED → s.live.isSome
  connection : (s.live.isSome ∨ ∃ w ∈ s.senders, w.isBusy = true) →
    ∀ n, s.connection_ = some n → n = s.attempts
  handed : ∀ d ∈ s.handed, d.inTime
  returned : ∀ d ∈ s.returned, d.inTime

variable {s t : QuicCommunication β}

theorem InTime.init : InTime (init : QuicCommunication β) := by
  constructor <;> simp [QuicCommunication.init]

theorem InTime.initializeConnection (hs : s.InTime) (hg : s.opensEmpty .initializeConnection = true) :
    s.initializeConnection.InTime := by
  unfold QuicCommunication.initializeConnection
  split
  · rename_i hstate
    have hlive : s.live = none := hs.idle (.inl hstate)
    simp only [opensEmpty, hstate, bne_self_eq_false, Bool.false_or, Bool.and_eq_true, List.isEmpty_iff,
      List.all_eq_true, Bool.not_eq_true'] at hg
    obtain ⟨⟨hin,hout⟩,hsenders⟩ := hg
    constructor
    · intro m hm
      rw [hin] at hm
      cases hm
    · intro m hm
      rw [hout] at hm
      cases hm
    · intro w hw m hm
      have hbusy := hsenders w hw
      simp only [Sender.isBusy, hm] at hbusy
      cases hbusy
    · intro c hc
      rw [hlive] at hc
      cases hc
    · intro _
      exact hlive
    · intro _
      rfl
    · intro h
      cases h
    · rintro (h | ⟨w,hw,hbusy⟩)
      · rw [hlive] at h
        cases h
      · rw [hsenders w hw] at hbusy
        cases hbusy
    · exact hs.handed
    · exact hs.returned
  · exact ⟨hs.inbound,hs.outbound,hs.sending,hs.live,hs.idle,hs.opening,hs.connected,hs.connection,hs.handed,
      hs.returned⟩

theorem InTime.openConnection (hs : s.InTime) {outcome : OpenOutcome}
    (ht : s.openConnection outcome = some t) : t.InTime := by
  unfold QuicCommunication.openConnection at ht
  split at ht
  · cases ht
  · rename_i hclosed
    have hopening : s.opening = true := Bool.eq_true_of_not_eq_false hclosed
    have hlive : s.live = none := hs.idle (.inr hopening)
    cases outcome with
    | openFailed =>
      cases ht
      exact { hs with
        idle := fun _ => hlive
        opening := fun h => by cases h
        connected := fun h => by cases h }
    | startFailed =>
      cases ht
      exact { hs with
        idle := fun _ => hlive
        opening := fun h => by cases h
        connected := fun h => by cases h
        connection := fun _ n hn => by cases hn }
    | started =>
      cases ht
      exact { hs with
        live := fun c hc => by cases hc; rfl
        idle := fun h => by simp [hs.opening hopening] at h
        opening := fun h => by cases h
        connected := fun _ => rfl
        connection := fun _ n hn => by cases hn; rfl }

theorem InTime.enqueue (hs : s.InTime) {i : ℕ} (ht : s.enqueue i = some t) : t.InTime := by
  unfold QuicCommunication.enqueue at ht
  split at ht
  · cases ht
  · obtain ⟨message,_,rfl⟩ := Option.map_eq_some_iff.mp ht
    refine { hs with outbound := ?_ }
    intro m hm
    obtain hm | hm := List.mem_append.mp hm
    · exact hs.outbound m hm
    · obtain rfl := List.mem_singleton.mp hm
      rfl

theorem InTime.receiveMessage (hs : s.InTime) {timeout : Bool} (ht : s.receiveMessage timeout = some t) :
    t.InTime := by
  rw [receiveMessage_frame ht]
  exact { hs with }

theorem InTime.returnMessage (hs : s.InTime) (ht : s.returnMessage = some t) : t.InTime := by
  unfold QuicCommunication.returnMessage at ht
  split at ht
  · cases ht
  · split at ht
    · cases ht
    · rename_i message rest hqueue
      cases ht
      have hmem : ∀ m ∈ message :: rest, m.connection = s.attempts := hqueue ▸ hs.inbound
      refine { hs with inbound := fun m hm => hmem m (List.mem_cons_of_mem message hm), returned := ?_ }
      intro d hd
      obtain hd | hd := List.mem_append.mp hd
      · exact hs.returned d hd
      · obtain rfl := List.mem_singleton.mp hd
        exact hmem message List.mem_cons_self

/-- Sender threads start, go on and end, as long as a busy one works for the latest attempt. -/
theorem InTime.withSenders (hs : s.InTime) {senders : List (Sender β)}
    (h : ∀ w ∈ senders, w ∈ s.senders ∨ (∀ m, w.phase = .sending m → m.connection = s.attempts) ∧
      (w.isBusy = true → ∀ n, s.connection_ = some n → n = s.attempts)) :
    InTime { s with senders := senders } := by
  refine { hs with sending := ?_, connection := ?_ }
  · intro w hw m hm
    obtain hold | hnew := h w hw
    · exact hs.sending w hold m hm
    · exact hnew.1 m hm
  · rintro (hlive | ⟨w,hw,hbusy⟩)
    · exact hs.connection (.inl hlive)
    · obtain hold | hnew := h w hw
      · exact hs.connection (.inr ⟨w,hold,hbusy⟩)
      · exact hnew.2 hbusy

theorem InTime.endSender (hs : s.InTime) (i : ℕ) : (s.endSender i).InTime :=
  hs.withSenders fun _ hw => .inl (List.mem_of_mem_eraseIdx hw)

theorem InTime.setPhase (hs : s.InTime) {i : ℕ} {w : Sender β} {phase : SenderPhase β}
    (hmessage : ∀ m, phase = .sending m → m.connection = s.attempts)
    (hbusy : (Sender.mk w.connection phase).isBusy = true → ∀ n, s.connection_ = some n → n = s.attempts) :
    (s.setPhase i w phase).InTime := by
  apply hs.withSenders
  intro v hv
  obtain hv | rfl := List.mem_or_eq_of_mem_set hv
  · exact .inl hv
  · exact .inr ⟨hmessage,hbusy⟩

theorem InTime.sendViaQuicStream (hs : s.InTime) {message : Numbered (ClientMessage β)} {opened : Bool}
    (hmessage : message.connection = s.attempts) (hconnection : ∀ n, s.connection_ = some n → n = s.attempts) :
    (s.sendViaQuicStream message opened).InTime := by
  unfold QuicCommunication.sendViaQuicStream
  split
  · rename_i connection hn
    split
    · refine { hs with handed := ?_ }
      intro d hd
      obtain hd | hd := List.mem_append.mp hd
      · exact hs.handed d hd
      · obtain rfl := List.mem_singleton.mp hd
        exact hmessage.trans (hconnection connection hn).symm
    · exact hs
  · exact hs

/-- One step of the loop; a message is taken in the state `CONNECTED`, in which the handle is that
of the latest attempt. -/
theorem InTime.senderLoop (hs : s.InTime) {i : ℕ} {opened : Bool} (ht : s.senderLoop i opened = some t) :
    t.InTime := by
  unfold QuicCommunication.senderLoop at ht
  split at ht
  · cases ht
  · rename_i w hw
    have hmem : w ∈ s.senders := List.mem_of_getElem? hw
    split at ht
    · cases ht
      split
      · exact hs.setPhase (fun m hm => by cases hm) (fun h => by cases h)
      · exact hs.endSender i
    · split at ht
      · cases ht
      · split at ht
        · cases ht
          exact hs.endSender i
        · rename_i hconnected
          split at ht
          · cases ht
          · cases ht
            have hlive := hs.connected (not_not.mp hconnected)
            exact hs.setPhase (fun m hm => by cases hm) fun _ => hs.connection (.inl hlive)
    · rename_i hphase
      split at ht
      · cases ht
      · rename_i message rest hqueue
        cases ht
        have hbusy : w.isBusy = true := by simp [Sender.isBusy, hphase]
        have hout : ∀ m ∈ message :: rest, m.connection = s.attempts := hqueue ▸ hs.outbound
        have hset : (s.setPhase i w (.sending message)).InTime := by
          apply hs.setPhase
          · intro m hm
            cases hm
            exact hout message List.mem_cons_self
          · intro _
            exact hs.connection (.inr ⟨w,hmem,hbusy⟩)
        exact { hset with outbound := fun m hm => hout m (List.mem_cons_of_mem message hm) }
    · rename_i message hphase
      cases ht
      have hbusy : w.isBusy = true := by simp [Sender.isBusy, hphase]
      have hsent : (s.sendViaQuicStream message opened).InTime :=
        hs.sendViaQuicStream (hs.sending w hmem message hphase) (hs.connection (.inr ⟨w,hmem,hbusy⟩))
      exact hsent.setPhase (fun m hm => by cases hm) (fun h => by cases h)

theorem InTime.working (hs : s.InTime) {c : LiveConnection} (hc : s.live = some c) :
    s.connectionState_ ≠ .NOT_CONNECTED ∧ s.opening ≠ true := by
  apply not_or.mp
  intro h
  rw [hs.idle h] at hc
  cases hc

theorem InTime.onConnected (hs : s.InTime) (ht : s.onConnected = some t) : t.InTime := by
  unfold QuicCommunication.onConnected at ht
  split at ht
  · cases ht
  · rename_i c hc
    have hnumber : c.number = s.attempts := hs.live c hc
    obtain ⟨hstate,hopening⟩ := hs.working hc
    have hhandle := hs.connection (.inl (hc ▸ rfl))
    split at ht
    · cases ht
    · split at ht
      · cases ht
        have hstarted : InTime { s with senders := s.senders ++ [⟨c.number,.testing⟩] } := by
          apply hs.withSenders
          intro w hw
          obtain hw | hw := List.mem_append.mp hw
          · exact .inl hw
          · obtain rfl := List.mem_singleton.mp hw
            exact .inr ⟨nofun,nofun⟩
        exact { hstarted with
          live := fun d hd => by cases hd; exact hnumber
          idle := fun h => by simp [hopening] at h
          opening := fun h => absurd h hopening
          connected := fun _ => rfl
          connection := fun _ => hhandle }
      · cases ht
        exact { hs with
          live := fun d hd => by cases hd; exact hnumber
          idle := fun h => absurd h (not_or.mpr ⟨hstate,hopening⟩)
          connected := fun _ => rfl
          connection := fun _ => hhandle }

theorem InTime.onShutdownInitiatedByPeer (hs : s.InTime) (ht : s.onShutdownInitiatedByPeer = some t) :
    t.InTime := by
  unfold QuicCommunication.onShutdownInitiatedByPeer at ht
  split at ht
  · cases ht
  · rename_i c hc
    split at ht
    · cases ht
      have hopening := (hs.working hc).2
      exact { hs with
        idle := fun h => by simp [hopening] at h
        opening := fun h => absurd h hopening
        connected := fun h => by cases h }
    · cases ht

theorem InTime.onShutdownComplete (hs : s.InTime) (ht : s.onShutdownComplete = some t) : t.InTime := by
  unfold QuicCommunication.onShutdownComplete at ht
  split at ht
  · cases ht
  · rename_i c hc
    split at ht
    · cases ht
      have hopening := (hs.working hc).2
      have hhandle := hs.connection (.inl (hc ▸ rfl))
      exact { hs with
        live := fun d hd => by cases hd
        idle := fun _ => rfl
        opening := fun h => absurd h hopening
        connected := fun h => by cases h
        connection := fun _ => hhandle }
    · cases ht

theorem InTime.resetConnection (hs : s.InTime) (ht : s.resetConnection = some t) : t.InTime := by
  unfold QuicCommunication.resetConnection at ht
  split at ht
  · cases ht
  · cases ht
    exact { hs with connection := fun _ n hn => by cases hn }

theorem InTime.onStreamReceive (hs : s.InTime) {parsed : Option (ServerMessage β)}
    (ht : s.onStreamReceive parsed = some t) : t.InTime := by
  unfold QuicCommunication.onStreamReceive at ht
  split at ht
  · cases ht
  · rename_i c hc
    split at ht
    · cases ht
    · cases parsed with
      | none =>
        cases ht
        exact hs
      | some message =>
        cases ht
        refine { hs with inbound := ?_ }
        intro m hm
        obtain hm | hm := List.mem_append.mp hm
        · exact hs.inbound m hm
        · obtain rfl := List.mem_singleton.mp hm
          exact hs.live c hc

theorem InTime.step (hs : s.InTime) {a : QuicAction β} (hg : s.opensEmpty a = true)
    (ht : s.quicStep a = some t) : t.InTime := by
  cases a with
  | initializeConnection =>
    cases ht
    exact hs.initializeConnection hg
  | openConnection outcome => exact hs.openConnection ht
  | sendMessage message =>
    cases ht
    rw [sendMessage_frame]
    exact { hs with }
  | enqueue i => exact hs.enqueue ht
  | receiveMessage timeout => exact hs.receiveMessage ht
  | returnMessage => exact hs.returnMessage ht
  | cancelReceive =>
    cases ht
    exact { hs with }
  | senderLoop i opened => exact hs.senderLoop ht
  | connected => exact hs.onConnected ht
  | shutdownInitiatedByPeer => exact hs.onShutdownInitiatedByPeer ht
  | shutdownComplete => exact hs.onShutdownComplete ht
  | resetConnection => exact hs.resetConnection ht
  | streamReceive parsed => exact hs.onStreamReceive ht

/-- In a run in which every connection is opened with empty queues and no message in the hands of
a sender thread, a message goes out on the connection during which it was queued, and is returned
before the next connection is opened. -/
theorem exec_inTime {as : List (QuicAction β)}
    (hg : Guarded quicStep (fun s a => opensEmpty s a = true) init as) (he : exec quicStep init as = some s) :
    (∀ d ∈ s.handed, d.inTime) ∧ ∀ d ∈ s.returned, d.inTime := by
  have hs : s.InTime := exec_guarded_invariant InTime.init (fun _ _ _ hs ha ht => hs.step ha ht) hg he
  exact ⟨hs.handed,hs.returned⟩

def greeting (sessionId : String) : ClientMessage (List UInt8) := .connect sessionId []

def greeted (sessionId : String) : ServerMessage (List UInt8) := .connectResponse sessionId false

/-- The handshake, up to the wait of the new sender thread. -/
def handshake : List (QuicAction (List UInt8)) :=
  [.initializeConnection,.openConnection .started,.connected,.senderLoop 0 true]

/-- A message is queued, and one of the server comes in. -/
def exchange (sessionId : String) : List (QuicAction (List UInt8)) :=
  [.sendMessage (greeting sessionId),.enqueue 0,.streamReceive (some (greeted sessionId))]

/-- The sender thread takes a message and hands it over, and a message is returned. -/
def emptied : List (QuicAction (List UInt8)) :=
  [.senderLoop 0 true,.senderLoop 0 true,.senderLoop 0 true,.receiveMessage false,.returnMessage]

/-- The connection is shut down; its sender thread ends. -/
def shutdown : List (QuicAction (List UInt8)) := [.shutdownComplete,.resetConnection,.senderLoop 0 true]

/-- The connection is shut down before the sender thread comes to the queued message and before
the reply is asked for: both wait for the next connection. -/
theorem reconnect_crosses :
    ∃ s, exec quicStep init (handshake ++ exchange "a" ++ shutdown ++ handshake ++ emptied) = some s ∧
      s.handed = [⟨⟨greeting "a",1⟩,2⟩] ∧ s.returned = [⟨⟨greeted "a",1⟩,2⟩] := ⟨_,rfl,rfl,rfl⟩

def twoConnections : List (QuicAction (List UInt8)) :=
  handshake ++ exchange "a" ++ emptied ++ shutdown ++ handshake ++ exchange "b" ++ emptied

theorem twoConnections_opensEmpty :
    Guarded quicStep (fun s a => opensEmpty s a = true) init twoConnections := by decide +kernel

theorem exec_inTime_twoConnections :
    ∃ s, exec quicStep init twoConnections = some s ∧ s.handed.map Delivery.connection = [1,2] ∧
      (∀ d ∈ s.handed, d.inTime) ∧ ∀ d ∈ s.returned, d.inTime :=
  ⟨_,rfl,rfl,exec_inTime twoConnections_opensEmpty rfl⟩

end QuicCommunication
end ModuleGateway.ExternalClient
