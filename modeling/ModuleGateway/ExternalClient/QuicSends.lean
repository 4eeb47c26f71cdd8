import ModuleGateway.ExternalClient.QuicCommunication

/-! # What becomes of the messages that are sent

The outbound queue and the sender loop of one QUIC connection, with `sendViaQuicStream` cut at its
three calls that may fail. A message leaves the queue before the first of them, and a failure returns
to the loop without it.
-/
namespace ModuleGateway.ExternalClient
open Structures Execution

variable {β : Type}

/-- Where `senderLoop` is: at the loop condition, in `outboundCv_.wait`, past it and in possession of
`outboundMutex_`, before `StreamOpen`, before the serialization, before `StreamSend`. -/
inductive SendPhase (β : Type) where
  | testing
  | waiting
  | taking
  | opening (message : ClientMessage β)
  | serializing (message : ClientMessage β)
  | sending (message : ClientMessage β)
  | ended

namespace SendPhase

/-- The message that has left the queue. -/
def inHand : SendPhase β → List (ClientMessage β)
  | .opening message | .serializing message | .sending message => [message]
  | _ => []

def isTaking : SendPhase β → Bool
  | .taking => true
  | _ => false

end SendPhase

/-- `calls` are the calls of `sendMessage` past their test. -/
structure QuicSends (β : Type) where
  connectionState_ : ConnectionState
  outboundQueue_ : List (ClientMessage β)
  calls : List (ClientMessage β)
  phase : SendPhase β

/-- A call of `sendMessage` makes its test, and later its message is queued and it returns true.
`senderLoop` says whether the call of MsQuic or of the serializer that the loop is at succeeds. -/
inductive SendAction (β : Type) where
  | sendMessage (message : ClientMessage β)
  | enqueue (i : ℕ)
  | connected
  | shutdownInitiatedByPeer
  | shutdownComplete
  | senderLoop (succeeds : Bool)

namespace QuicSends

/-- The connection is opened; messages of before may be queued. -/
def opened (outboundQueue_ : List (ClientMessage β)) : QuicSends β := ⟨.CONNECTING,outboundQueue_,[],.ended⟩

def goto (s : QuicSends β) (phase : SendPhase β) : QuicSends β := { s with phase := phase }

/-- `sendMessage` up to its test. -/
def sendMessage (s : QuicSends β) (message : ClientMessage β) : QuicSends β × Bool :=
  if s.connectionState_ = .NOT_CONNECTED then (s,false) else ({ s with calls := s.calls ++ [message] },true)

/-- The rest of `sendMessage`, under `outboundMutex_`. -/
def enqueue (s : QuicSends β) (i : ℕ) : Option (QuicSends β) :=
  if s.phase.isTaking then none
  else
    s.calls[i]?.map fun message =>
      { s with calls := s.calls.eraseIdx i, outboundQueue_ := s.outboundQueue_ ++ [message] }

/-- `QUIC_CONNECTION_EVENT_CONNECTED` -/
def onConnected (s : QuicSends β) : QuicSends β :=
  if s.connectionState_ = .CONNECTING then { s with connectionState_ := .CONNECTED, phase := .testing } else s

def senderLoop (s : QuicSends β) (succeeds : Bool) : Option (QuicSends β) :=
  match s.phase with
  | .testing => some (s.goto (if s.connectionState_ = .CONNECTED then .waiting else .ended))
  | .waiting =>
    if s.connectionState_ ≠ .CONNECTED then some (s.goto .ended)
    else if s.outboundQueue_.isEmpty then none
    else some (s.goto .taking)
  | .taking =>
    match s.outboundQueue_ with
    | [] => none
    | message :: rest => some ({ s with outboundQueue_ := rest }.goto (.opening message))
  | .opening message => some (s.goto (if succeeds then .serializing message else .testing))
  | .serializing message => some (s.goto (if succeeds then .sending message else .testing))
  | .sending _ => some (s.goto .testing)
  | .ended => none

def step (s : QuicSends β) : SendAction β → Option (QuicSends β)
  | .sendMessage message => some (s.sendMessage message).1
  | .enqueue i => s.enqueue i
  | .connected => some s.onConnected
  | .shutdownInitiatedByPeer => some { s with connectionState_ := .CLOSING }
  | .shutdownComplete => some { s with connectionState_ := .NOT_CONNECTED }
  | .senderLoop succeeds => s.senderLoop succeeds

end QuicSends

/-! ## Accepted and sent -/

/-- The messages for which `sendMessage` returned true, and those of the calls of `StreamSend` that
succeeded. -/
structure SendHistory (β : Type) where
  accepted : List (ClientMessage β)
  sent : List (ClientMessage β)

namespace QuicSends

def seeSends (s : QuicSends β) (a : SendAction β) (_ : QuicSends β) (history : SendHistory β) : SendHistory β :=
  match a, s.phase with
  | .enqueue i, _ => { history with accepted := history.accepted ++ s.calls[i]?.toList }
  | .senderLoop true, .sending message => { history with sent := history.sent ++ [message] }
  | _, _ => history

/-- What was sent, is on its way or is queued. -/
def present (s : QuicSends β) (history : SendHistory β) : List (ClientMessage β) :=
  history.sent ++ s.phase.inHand ++ s.outboundQueue_

/-- Every accepted message is there, once and in the order of acceptance. -/
def KeepsMessages (s : QuicSends β) (history : SendHistory β) : Prop := s.present history = history.accepted

/-- The call that the sender loop is at does not fail. -/
def CallSucceeds (s : QuicSends β) (a : SendAction β) : Prop :=
  match a with
  | .senderLoop succeeds => s.phase.inHand.isEmpty = false → succeeds = true
  | _ => True

instance (s : QuicSends β) (a : SendAction β) : Decidable (s.CallSucceeds a) := by
  unfold CallSucceeds
  split <;> infer_instance

variable {s t : QuicSends β} {history : SendHistory β} {a : SendAction β}

/-- A step that neither accepts nor sends a message. -/
theorem present_same (hsee : seeSends s a t history = history) (hhand : t.phase.inHand = s.phase.inHand)
    (hqueue : t.outboundQueue_ = s.outboundQueue_) :
    ∃ new, t.present (seeSends s a t history) = s.present history ++ new ∧
      (seeSends s a t history).accepted = history.accepted ++ new := by
  refine ⟨[],?_,?_⟩
  · rw [hsee, List.append_nil, present, present, hhand, hqueue]
  · rw [hsee, List.append_nil]

/-- The sender loop takes the front of the queue into its hand, and sends it or loses it. -/
theorem present_senderLoop (history : SendHistory β) {succeeds : Bool} (ht : s.senderLoop succeeds = some t) :
    (s.CallSucceeds (.senderLoop succeeds) ∧
        ∃ new, t.present (seeSends s (.senderLoop succeeds) t history) = s.present history ++ new ∧
          (seeSends s (.senderLoop succeeds) t history).accepted = history.accepted ++ new) ∨
      ¬s.CallSucceeds (.senderLoop succeeds) ∧ ∃ message,
        s.present history = history.sent ++ message :: s.outboundQueue_ ∧
          t.present (seeSends s (.senderLoop succeeds) t history) = history.sent ++ s.outboundQueue_ := by
  unfold senderLoop at ht
  cases hphase : s.phase with
  | testing =>
    rw [hphase] at ht
    obtain rfl := Option.some.inj ht
    refine .inl ⟨by simp [CallSucceeds, hphase, SendPhase.inHand],present_same ?_ ?_ rfl⟩
    · cases succeeds <;> simp [seeSends, hphase]
    · rw [hphase, goto]
      split <;> rfl
  | waiting =>
    rw [hphase] at ht
    dsimp only at ht
    refine .inl ⟨by simp [CallSucceeds, hphase, SendPhase.inHand],?_⟩
    have hsee : seeSends s (.senderLoop succeeds) t history = history := by
      cases succeeds <;> simp [seeSends, hphase]
    split at ht
    · obtain rfl := Option.some.inj ht
      exact present_same hsee (by rw [hphase]; rfl) rfl
    · split at ht
      · cases ht
      · obtain rfl := Option.some.inj ht
        exact present_same hsee (by rw [hphase]; rfl) rfl
  | taking =>
    rw [hphase] at ht
    dsimp only at ht
    cases hqueue : s.outboundQueue_ with
    | nil =>
      rw [hqueue] at ht
      cases ht
    | cons message rest =>
      rw [hqueue] at ht
      obtain rfl := Option.some.inj ht
      have hsee : ∀ u, seeSends s (.senderLoop succeeds) u history = history := by
        intro u
        cases succeeds <;> simp [seeSends, hphase]
      refine .inl ⟨by simp [CallSucceeds, hphase, SendPhase.inHand],[],?_,?_⟩
      · rw [hsee]
        simp [present, goto, hphase, SendPhase.inHand, hqueue]
      · rw [hsee, List.append_nil]
  | opening message | serializing message =>
    rw [hphase] at ht
    obtain rfl := Option.some.inj ht
    cases succeeds with
    | true =>
      exact .inl ⟨fun _ => rfl,present_same (by simp [seeSends, hphase]) (by rw [hphase]; rfl) rfl⟩
    | false =>
      refine .inr ⟨by simp [CallSucceeds, hphase, SendPhase.inHand],message,?_,?_⟩
      · simp [present, hphase, SendPhase.inHand]
      · simp [present, seeSends, goto, SendPhase.inHand]
  | sending message =>
    rw [hphase] at ht
    obtain rfl := Option.some.inj ht
    cases succeeds with
    | true =>
      refine .inl ⟨fun _ => rfl,[],?_,?_⟩
      · simp [present, seeSends, goto, hphase, SendPhase.inHand]
      · simp [seeSends, hphase]
    | false =>
      refine .inr ⟨by simp [CallSucceeds, hphase, SendPhase.inHand],message,?_,?_⟩
      · simp [present, hphase, SendPhase.inHand]
      · simp [present, seeSends, goto, SendPhase.inHand]
  | ended =>
    rw [hphase] at ht
    cases ht

/-- Before the connection is established no sender loop runs. -/
def SenderWaits (s : QuicSends β) : Prop := s.connectionState_ = .CONNECTING → s.phase = .ended

theorem SenderWaits.step (hs : s.SenderWaits) (ht : s.step a = some t) : t.SenderWaits := by
  intro hstate
  cases a with
  | sendMessage message =>
    obtain rfl := Option.some.inj ht
    unfold sendMessage at hstate ⊢
    split at hstate
    · rename_i hclosed
      rw [if_pos hclosed]
      exact hs hstate
    · rename_i hopen
      rw [if_neg hopen]
      exact hs hstate
  | enqueue i =>
    have ht : s.enqueue i = some t := ht
    unfold enqueue at ht
    split at ht
    · cases ht
    · obtain ⟨message,-,rfl⟩ := Option.map_eq_some_iff.mp ht
      exact hs hstate
  | connected =>
    obtain rfl := Option.some.inj ht
    unfold onConnected at hstate ⊢
    split at hstate
    · cases hstate
    · rename_i hno
      exact absurd hstate hno
  | shutdownInitiatedByPeer =>
    obtain rfl := Option.some.inj ht
    cases hstate
  | shutdownComplete =>
    obtain rfl := Option.some.inj ht
    cases hstate
  | senderLoop succeeds =>
    have hsame : t.connectionState_ = s.connectionState_ := by
      have ht : s.senderLoop succeeds = some t := ht
      unfold senderLoop at ht
      split at ht
      · obtain rfl := Option.some.inj ht
        rfl
      · split at ht
        · obtain rfl := Option.some.inj ht
          rfl
        · split at ht
          · cases ht
          · obtain rfl := Option.some.inj ht
            rfl
      · split at ht
        · cases ht
        · obtain rfl := Option.some.inj ht
          rfl
      · obtain rfl := Option.some.inj ht
        rfl
      · obtain rfl := Option.some.inj ht
        rfl
      · obtain rfl := Option.some.inj ht
        rfl
      · cases ht
    have hended := hs (hsame.symm.trans hstate)
    have ht : s.senderLoop succeeds = some t := ht
    unfold senderLoop at ht
    rw [hended] at ht
    cases ht

/-- A failure loses the message in hand, every other step keeps what there is. -/
theorem present_step (history : SendHistory β) (hs : s.SenderWaits) (ht : s.step a = some t) :
    (s.CallSucceeds a ∧ ∃ new, t.present (seeSends s a t history) = s.present history ++ new ∧
        (seeSends s a t history).accepted = history.accepted ++ new) ∨
      ¬s.CallSucceeds a ∧ (seeSends s a t history).accepted = history.accepted ∧
        ∃ message, s.present history = history.sent ++ message :: s.outboundQueue_ ∧
          t.present (seeSends s a t history) = history.sent ++ s.outboundQueue_ := by
  cases a with
  | sendMessage message =>
    obtain rfl := Option.some.inj ht
    refine .inl ⟨trivial,present_same rfl ?_ ?_⟩ <;>
    · unfold sendMessage
      split <;> rfl
  | enqueue i =>
    have ht : s.enqueue i = some t := ht
    unfold enqueue at ht
    split at ht
    · cases ht
    · obtain ⟨message,hi,rfl⟩ := Option.map_eq_some_iff.mp ht
      refine .inl ⟨trivial,[message],?_,?_⟩
      · simp [present, seeSends]
      · simp [seeSends, hi]
  | connected =>
    obtain rfl := Option.some.inj ht
    refine .inl ⟨trivial,present_same rfl ?_ ?_⟩
    · unfold onConnected
      split
      · rename_i hstate
        rw [hs hstate]
        rfl
      · rfl
    · unfold onConnected
      split <;> rfl
  | shutdownInitiatedByPeer =>
    obtain rfl := Option.some.inj ht
    exact .inl ⟨trivial,present_same rfl rfl rfl⟩
  | shutdownComplete =>
    obtain rfl := Option.some.inj ht
    exact .inl ⟨trivial,present_same rfl rfl rfl⟩
  | senderLoop succeeds =>
    rcases present_senderLoop history ht with h | ⟨hfails,message,hpresent,hlost⟩
    · exact .inl h
    · refine .inr ⟨hfails,?_,message,hpresent,hlost⟩
      unfold CallSucceeds at hfails
      cases succeeds with
      | true => exact absurd (fun _ => rfl) hfails
      | false => rfl

/-! ## Every run -/

/-- What is present was accepted, in the same order. -/
theorem sublist_step (hs : s.SenderWaits) (hsub : (s.present history).Sublist history.accepted)
    (ht : s.step a = some t) :
    (t.present (seeSends s a t history)).Sublist (seeSends s a t history).accepted := by
  rcases present_step history hs ht with ⟨-,new,hpresent,haccepted⟩ | ⟨-,haccepted,message,hbefore,hlost⟩
  · rw [hpresent, haccepted]
    exact hsub.append_right new
  · rw [hlost, haccepted]
    refine List.Sublist.trans ?_ hsub
    rw [hbefore]
    exact (List.Sublist.refl _).append (List.sublist_cons_self message _)

/-- A message that is lost never comes back. -/
theorem KeepsMessages.step_iff (hs : s.SenderWaits) (hsub : (s.present history).Sublist history.accepted)
    (ht : s.step a = some t) :
    t.KeepsMessages (seeSends s a t history) ↔ s.KeepsMessages history ∧ s.CallSucceeds a := by
  unfold KeepsMessages
  rcases present_step history hs ht with
    ⟨hsucceeds,new,hpresent,haccepted⟩ | ⟨hfails,haccepted,message,hbefore,hlost⟩
  · rw [hpresent, haccepted, List.append_left_inj]
    exact (and_iff_left hsucceeds).symm
  · refine iff_of_false ?_ fun h => hfails h.2
    intro hkept
    rw [hlost, haccepted] at hkept
    rw [hbefore, ← hkept] at hsub
    have hlength := hsub.length_le
    simp only [List.length_append, List.length_cons] at hlength
    omega

/-- Within a connection every accepted message was sent, is on its way or is queued, once and in the
order of acceptance, exactly when no call of the sender loop failed. -/
theorem exec_keepsMessages_iff {as : List (SendAction β)} {queue : List (ClientMessage β)} {s : QuicSends β}
    (he : exec step (opened queue) as = some s) :
    s.KeepsMessages (observe step seeSends (opened queue) ⟨queue,[]⟩ as) ↔
      Guarded step CallSucceeds (opened queue) as := by
  have hinit : (opened queue).SenderWaits ∧
      ((opened queue).present ⟨queue,[]⟩).Sublist (⟨queue,[]⟩ : SendHistory β).accepted :=
    ⟨fun _ => rfl,List.Sublist.refl _⟩
  induction as using List.reverseRecOn generalizing s with
  | nil =>
    obtain rfl : opened queue = s := Option.some.inj he
    exact iff_of_true rfl trivial
  | append_singleton as a ih =>
    obtain ⟨t,ht,hs⟩ := exec_concat_eq_some.mp he
    have hinv : t.SenderWaits ∧ (t.present (observe step seeSends (opened queue) ⟨queue,[]⟩ as)).Sublist
        (observe step seeSends (opened queue) ⟨queue,[]⟩ as).accepted := by
      refine exec_observe_invariant
        (I := fun t history => t.SenderWaits ∧ (t.present history).Sublist history.accepted) hinit ?_
        (guarded_true _ _) ht
      intro s history a t hs _ hstep
      exact ⟨hs.1.step hstep,sublist_step hs.1 hs.2 hstep⟩
    rw [observe_concat ht hs, KeepsMessages.step_iff hinv.1 hinv.2 hs, guarded_concat_iff ht]
    exact and_congr_left' (ih ht)

end QuicSends

/-! ## The sends of a channel -/

/-- Where the sender loop of the channel is. The calls of `sendViaQuicStream` are one section there. -/
def SendPhase.ofSender : SenderPhase β → SendPhase β
  | .testing => .testing
  | .waiting => .waiting
  | .taking => .taking
  | .sending message => .opening message.message

namespace QuicCommunication

/-- The state, the outbound queue and the sender thread of a channel. -/
def toSends (s : QuicCommunication β) : QuicSends β where
  connectionState_ := s.connectionState_
  outboundQueue_ := s.outboundQueue_.map Numbered.message
  calls := s.sends
  phase := match s.senders with
    | [w] => .ofSender w.phase
    | _ => .ended

/-- No attempt to connect begins, and no sender thread is left when `CONNECTED` comes. -/
def oneConnection (s : QuicCommunication β) : QuicAction β → Prop
  | .initializeConnection => s.connectionState_ ≠ .NOT_CONNECTED
  | .connected => s.senders = []
  | _ => True

/-- One connection and what it has handed to MsQuic. -/
structure SendsAre (s : QuicCommunication β) (c : QuicSends β × SendHistory β) : Prop where
  sends : c.1 = s.toSends
  sent : c.2.sent = s.handed.map fun d => d.message.message
  single : s.senders.length ≤ 1

variable {s t : QuicCommunication β} {c : QuicSends β × SendHistory β}

theorem single_sender (hs : s.senders.length ≤ 1) {i : ℕ} {w : Sender β} (hw : s.senders[i]? = some w) :
    i = 0 ∧ s.senders = [w] := by
  obtain ⟨hi,hget⟩ := List.getElem?_eq_some_iff.mp hw
  obtain rfl : i = 0 := by omega
  obtain ⟨v,hv⟩ := List.length_eq_one_iff.mp (by omega : s.senders.length = 1)
  refine ⟨rfl,?_⟩
  rw [hv] at hw ⊢
  rw [Option.some.inj hw]

theorem toSends_phase {w : Sender β} (hs : s.senders = [w]) : s.toSends.phase = .ofSender w.phase := by
  simp only [toSends, hs]

theorem toSends_setPhase {w : Sender β} (hs : s.senders = [w]) (phase : SenderPhase β) :
    (s.setPhase 0 w phase).toSends = s.toSends.goto (.ofSender phase) := by
  simp [toSends, setPhase, hs, QuicSends.goto]

theorem toSends_endSender {w : Sender β} (hs : s.senders = [w]) :
    (s.endSender 0).toSends = s.toSends.goto .ended := by
  simp [toSends, endSender, hs, QuicSends.goto]

theorem outboundLocked_toSends (hs : s.senders.length ≤ 1) : s.toSends.phase.isTaking = s.outboundLocked := by
  unfold toSends outboundLocked
  match hsenders : s.senders with
  | [] => rfl
  | [w] =>
    cases hphase : w.phase <;> simp [hphase, SendPhase.ofSender, SendPhase.isTaking, SenderPhase.isTaking]
  | _ :: _ :: _ => simp [hsenders] at hs

/-- A step that the outbound side does not see. -/
theorem SendsAre.unseen (hc : s.SendsAre c) (hstate : t.connectionState_ = s.connectionState_)
    (hqueue : t.outboundQueue_ = s.outboundQueue_) (hsends : t.sends = s.sends) (hsenders : t.senders = s.senders)
    (hhanded : t.handed = s.handed) :
    ∃ bs d, exec (watched QuicSends.step QuicSends.seeSends) c bs = some d ∧ t.SendsAre d := by
  refine ⟨[],c,rfl,?_,?_,?_⟩
  · rw [hc.sends, toSends, toSends, hstate, hqueue, hsends, hsenders]
  · rw [hhanded]
    exact hc.sent
  · rw [hsenders]
    exact hc.single

/-- A step that is one step there, and hands nothing over. -/
theorem SendsAre.one (hc : s.SendsAre c) (b : SendAction β) (hb : c.1.step b = some t.toSends)
    (hsent : (c.1.seeSends b t.toSends c.2).sent = c.2.sent) (hhanded : t.handed = s.handed)
    (hsingle : t.senders.length ≤ 1) :
    ∃ bs d, exec (watched QuicSends.step QuicSends.seeSends) c bs = some d ∧ t.SendsAre d := by
  refine ⟨[b],(t.toSends,c.1.seeSends b t.toSends c.2),?_,rfl,?_,hsingle⟩
  · exact exec_cons_eq_some.mpr ⟨_,watched_eq_some.mpr ⟨hb,rfl⟩,rfl⟩
  · rw [hsent, hhanded]
    exact hc.sent

/-- The calls of `sendViaQuicStream`, all of them or only the first one, which fails. -/
theorem SendsAre.sendViaQuicStream (hc : s.SendsAre c) {w : Sender β} {message : Numbered (ClientMessage β)}
    {opened : Bool} (hs : s.senders = [w]) (hphase : w.phase = .sending message) :
    ∃ bs d, exec (watched QuicSends.step QuicSends.seeSends) c bs = some d ∧
      ((s.sendViaQuicStream message opened).setPhase 0 w .testing).SendsAre d := by
  obtain ⟨c,history⟩ := c
  obtain rfl : c = s.toSends := hc.sends
  have hopening : s.toSends.phase = .opening message.message := by
    rw [toSends_phase hs, hphase]
    rfl
  by_cases hhanded : s.connection_.isSome = true ∧ opened = true
  · obtain ⟨connection,hconnection⟩ := Option.isSome_iff_exists.mp hhanded.1
    let serializing := s.toSends.goto (.serializing message.message)
    let sending := s.toSends.goto (.sending message.message)
    have hfirst : s.toSends.step (.senderLoop true) = some serializing := by
      simp only [QuicSends.step, QuicSends.senderLoop, hopening, if_true, serializing]
    refine ⟨[.senderLoop true,.senderLoop true,.senderLoop true],
      (s.toSends.goto .testing,{ history with sent := history.sent ++ [message.message] }),?_,?_,?_,?_⟩
    · refine exec_cons_eq_some.mpr ⟨(serializing,history),watched_eq_some.mpr ⟨hfirst,?_⟩,rfl⟩
      simp [QuicSends.seeSends, hopening]
    · simp [toSends, QuicSends.goto, QuicCommunication.sendViaQuicStream, hconnection, hhanded.2, setPhase, hs,
        SendPhase.ofSender]
    · simp only [QuicCommunication.sendViaQuicStream, hconnection, hhanded.2, if_true, setPhase, List.map_append,
        List.map_cons, List.map_nil]
      rw [← hc.sent]
    · simp [QuicCommunication.sendViaQuicStream, hconnection, hhanded.2, setPhase, hs]
  · have hkept : s.sendViaQuicStream message opened = s := by
      unfold QuicCommunication.sendViaQuicStream
      split
      · rename_i connection hconnection
        exact if_neg fun h => hhanded ⟨by rw [hconnection]; rfl,h⟩
      · rfl
    rw [hkept]
    refine hc.one (.senderLoop false) ?_ rfl rfl (by simp [setPhase, hs])
    rw [toSends_setPhase hs]
    simp [QuicSends.step, QuicSends.senderLoop, hopening, SendPhase.ofSender]

/-- A section of the loop with no message in hand. -/
theorem SendsAre.advance (hc : s.SendsAre c) (hhand : c.1.phase.inHand = [])
    (hstep : c.1.senderLoop true = some t.toSends) (hhanded : t.handed = s.handed) (hsingle : t.senders.length ≤ 1) :
    ∃ bs d, exec (watched QuicSends.step QuicSends.seeSends) c bs = some d ∧ t.SendsAre d := by
  refine hc.one (.senderLoop true) hstep ?_ hhanded hsingle
  cases hat : c.1.phase with
  | sending message => simp [hat, SendPhase.inHand] at hhand
  | _ => simp [QuicSends.seeSends, hat]

/-- A section of the sender thread; the last one makes up to three calls. -/
theorem SendsAre.senderLoop (hc : s.SendsAre c) {i : ℕ} {opened : Bool} (ht : s.senderLoop i opened = some t) :
    ∃ bs d, exec (watched QuicSends.step QuicSends.seeSends) c bs = some d ∧ t.SendsAre d := by
  unfold QuicCommunication.senderLoop at ht
  split at ht
  · cases ht
  · rename_i w hw
    obtain ⟨rfl,hs⟩ := single_sender hc.single hw
    have hphase : c.1.phase = .ofSender w.phase := by rw [hc.sends, toSends_phase hs]
    have hstate : c.1.connectionState_ = s.connectionState_ := by rw [hc.sends]; rfl
    have hqueue : c.1.outboundQueue_ = s.outboundQueue_.map Numbered.message := by rw [hc.sends]; rfl
    have hset : ∀ phase, (s.setPhase 0 w phase).senders.length ≤ 1 := by simp [setPhase, hs]
    have hend : (s.endSender 0).senders.length ≤ 1 := by simp [endSender, hs]
    split at ht <;> rename_i hat <;> rw [hat] at hphase
    · have hhand : c.1.phase.inHand = [] := by rw [hphase]; rfl
      obtain rfl := Option.some.inj ht
      split
      · rename_i hconnected
        refine hc.advance hhand ?_ rfl (hset _)
        rw [toSends_setPhase hs, ← hc.sends]
        simp [QuicSends.senderLoop, hphase, SendPhase.ofSender, hstate, hconnected]
      · rename_i hconnected
        refine hc.advance hhand ?_ rfl hend
        rw [toSends_endSender hs, ← hc.sends]
        simp [QuicSends.senderLoop, hphase, SendPhase.ofSender, hstate, hconnected]
    · have hhand : c.1.phase.inHand = [] := by rw [hphase]; rfl
      split at ht
      · cases ht
      · split at ht
        · rename_i hconnected
          cases ht
          refine hc.advance hhand ?_ rfl hend
          rw [toSends_endSender hs, ← hc.sends]
          simp [QuicSends.senderLoop, hphase, SendPhase.ofSender, hstate, hconnected]
        · rename_i hconnected
          split at ht
          · cases ht
          · rename_i hempty
            cases ht
            refine hc.advance hhand ?_ rfl (hset _)
            rw [toSends_setPhase hs, ← hc.sends]
            have hempty : c.1.outboundQueue_.isEmpty = false := by simpa [hqueue] using hempty
            simp [QuicSends.senderLoop, hphase, SendPhase.ofSender, hstate, not_not.mp hconnected,
              hempty]
    · have hhand : c.1.phase.inHand = [] := by rw [hphase]; rfl
      split at ht
      · cases ht
      · rename_i message rest hcons
        cases ht
        rw [hcons, List.map_cons] at hqueue
        refine hc.advance hhand ?_ rfl (hset _)
        simp only [QuicSends.senderLoop, hphase, SendPhase.ofSender, hqueue]
        rw [hc.sends]
        simp [toSends, setPhase, hs, QuicSends.goto, SendPhase.ofSender]
    · cases ht
      exact hc.sendViaQuicStream hs hat

/-- A step of the channel is a run of the outbound side. -/
theorem SendsAre.step {a : QuicAction β} (hc : s.SendsAre c) (hg : s.oneConnection a) (ht : s.quicStep a = some t) :
    ∃ bs d, exec (watched QuicSends.step QuicSends.seeSends) c bs = some d ∧ t.SendsAre d := by
  have hstate : c.1.connectionState_ = s.connectionState_ := by rw [hc.sends]; rfl
  cases a with
  | initializeConnection =>
    cases ht
    unfold QuicCommunication.initializeConnection
    rw [if_neg hg]
    exact hc.unseen rfl rfl rfl rfl rfl
  | openConnection outcome =>
    have ht : s.openConnection outcome = some t := ht
    unfold QuicCommunication.openConnection at ht
    split at ht
    · cases ht
    · cases outcome with
      | openFailed | startFailed =>
        cases ht
        refine hc.one .shutdownComplete ?_ rfl rfl hc.single
        rw [hc.sends]
        rfl
      | started =>
        cases ht
        exact hc.unseen rfl rfl rfl rfl rfl
  | sendMessage message =>
    cases ht
    unfold QuicCommunication.sendMessage
    split
    · exact hc.unseen rfl rfl rfl rfl rfl
    · rename_i hopen
      refine hc.one (.sendMessage message) ?_ rfl rfl hc.single
      simp only [QuicSends.step, QuicSends.sendMessage, hstate, hopen, if_false]
      rw [hc.sends]
      rfl
  | enqueue i =>
    have ht : s.enqueue i = some t := ht
    unfold QuicCommunication.enqueue at ht
    split at ht
    · cases ht
    · rename_i hfree
      obtain ⟨message,hi,rfl⟩ := Option.map_eq_some_iff.mp ht
      refine hc.one (.enqueue i) ?_ rfl rfl hc.single
      have hlocked : s.toSends.phase.isTaking = false := by
        rw [outboundLocked_toSends hc.single]
        exact Bool.eq_false_iff.mpr hfree
      have hcall : s.toSends.calls[i]? = some message := hi
      rw [hc.sends]
      simp only [QuicSends.step, QuicSends.enqueue, hlocked, hcall, Option.map_some]
      simp [toSends]
  | receiveMessage timeout =>
    rw [receiveMessage_frame ht]
    exact hc.unseen rfl rfl rfl rfl rfl
  | returnMessage =>
    rw [returnMessage_frame ht]
    exact hc.unseen rfl rfl rfl rfl rfl
  | cancelReceive =>
    cases ht
    exact hc.unseen rfl rfl rfl rfl rfl
  | senderLoop i opened => exact hc.senderLoop ht
  | connected =>
    have ht : s.onConnected = some t := ht
    have hnone : s.senders = [] := hg
    unfold QuicCommunication.onConnected at ht
    split at ht
    · cases ht
    · split at ht
      · cases ht
      · split at ht
        · rename_i hconnecting
          cases ht
          refine hc.one .connected ?_ rfl rfl (by simp [hnone])
          simp only [QuicSends.step, QuicSends.onConnected, hstate, hconnecting, if_true]
          rw [hc.sends]
          simp [toSends, hnone, SendPhase.ofSender]
        · cases ht
          exact hc.unseen rfl rfl rfl rfl rfl
  | shutdownInitiatedByPeer =>
    have ht : s.onShutdownInitiatedByPeer = some t := ht
    unfold QuicCommunication.onShutdownInitiatedByPeer at ht
    split at ht
    · cases ht
    · obtain ⟨-,rfl⟩ := Option.ite_some_none_eq_some.mp ht
      refine hc.one .shutdownInitiatedByPeer ?_ rfl rfl hc.single
      rw [hc.sends]
      rfl
  | shutdownComplete =>
    have ht : s.onShutdownComplete = some t := ht
    unfold QuicCommunication.onShutdownComplete at ht
    split at ht
    · cases ht
    · obtain ⟨-,rfl⟩ := Option.ite_some_none_eq_some.mp ht
      refine hc.one .shutdownComplete ?_ rfl rfl hc.single
      rw [hc.sends]
      rfl
  | resetConnection =>
    have ht : s.resetConnection = some t := ht
    obtain ⟨-,ht⟩ := Option.ite_none_left_eq_some.mp ht
    cases ht
    exact hc.unseen rfl rfl rfl rfl rfl
  | streamReceive parsed =>
    rw [onStreamReceive_frame ht]
    exact hc.unseen rfl rfl rfl rfl rfl

/-- Within a connection the channel sends as its outbound side alone does, and has handed to MsQuic what was sent
there. -/
theorem exec_sends (accepted : List (ClientMessage β)) {as : List (QuicAction β)} (hsingle : s.senders.length ≤ 1)
    (hhanded : s.handed = []) (hg : Guarded quicStep oneConnection s as) (he : exec quicStep s as = some t) :
    ∃ bs, exec QuicSends.step s.toSends bs = some t.toSends ∧
      (observe QuicSends.step QuicSends.seeSends s.toSends ⟨accepted,[]⟩ bs).sent =
        t.handed.map fun d => d.message.message := by
  have hs : s.SendsAre (s.toSends,⟨accepted,[]⟩) := ⟨rfl,by rw [hhanded]; rfl,hsingle⟩
  obtain ⟨bs,c,hbs,hc⟩ := exec_forward hs (fun s c a t hc ha ht => hc.step ha ht) hg he
  obtain ⟨hrun,hseen⟩ := exec_watched_eq_some.mp hbs
  refine ⟨bs,?_,?_⟩
  · rw [← hc.sends]
    exact hrun
  · rw [← hc.sent, hseen]

end QuicCommunication

/-! ## A stream that is not opened -/

namespace QuicSends

/-- The command response of the client. -/
def response (messageCounter : UInt32) : ClientMessage (List UInt8) := .commandResponse "one" .OK messageCounter

/-- Two messages are accepted, and the loop takes the first one. -/
def takesFirst : List (SendAction (List UInt8)) :=
  [.connected,.sendMessage (response 1),.enqueue 0,.sendMessage (response 2),.enqueue 0] ++
    List.replicate 3 (.senderLoop true)

/-- `StreamOpen` fails for the first message. -/
def openFails : List (SendAction (List UInt8)) := takesFirst ++ [.senderLoop false]

theorem openFails_loses_message :
    ¬∀ queue (as : List (SendAction (List UInt8))) s, exec step (opened queue) as = some s →
      s.KeepsMessages (observe step seeSends (opened queue) ⟨queue,[]⟩ as) := by
  intro hall
  have h := hall [] openFails _ rfl
  exact absurd (congrArg List.length h) (by decide)

/-- Both messages are sent. -/
def sendsBoth : List (SendAction (List UInt8)) := takesFirst ++ List.replicate 9 (.senderLoop true)

theorem exec_keepsMessages_sendsBoth :
    ∃ s, exec step (opened []) sendsBoth = some s ∧ s.outboundQueue_ = [] ∧
      s.KeepsMessages (observe step seeSends (opened []) ⟨[],[]⟩ sendsBoth) := by
  have hg : Guarded step CallSucceeds (opened []) sendsBoth := by decide +kernel
  exact ⟨_,rfl,rfl,(exec_keepsMessages_iff rfl).mpr hg⟩

end QuicSends

end ModuleGateway.ExternalClient
