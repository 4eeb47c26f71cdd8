import ModuleGateway.Library.Execution
import ModuleGateway.ExternalClient.ExternalConnection

/-! # What a status is acknowledged by

Status responses are read in two places. The connect sequence looks at their type and at their
session before it takes a status out of the list, the receive loop only at their counter.
-/
namespace ModuleGateway.ExternalClient
open Structures Execution

variable {β : Type}

/-- `ExternalProtocol::StatusResponse`; the flag says that the type is `OK`. -/
structure StatusResponse where
  sessionId : String
  ok : Bool
  messageCounter : UInt32

namespace ExternalConnection

/-- The response that a step calls `acknowledgeStatus` with. -/
def handledResponse (s : ExternalConnection β) : ConnectionAction β → Option StatusResponse
  | .receive (.statusResponse sessionId ok messageCounter) => some ⟨sessionId,ok,messageCounter⟩
  | .thread answer =>
    match s.connectThread, answer.received with
    | .acknowledging _ (_ + 1), some (.statusResponse sessionId ok messageCounter) =>
      if ok ∧ sessionId = s.sessionId_ then some ⟨sessionId,ok,messageCounter⟩ else none
    | _, _ => none
  | _ => none

/-- The status that is taken out for it, if there is one with its counter. -/
def answeredStatus (s : ExternalConnection β) (a : ConnectionAction β) : Option (Status β) :=
  (s.handledResponse a).bind fun response =>
    s.sentMessagesHandler_.notAckedStatuses_.find? fun status => status.messageCounter = response.messageCounter

variable [BufferType β] (modules : Modules β)

/-- Every status that leaves the list in a step as acknowledged is answered: the response is of the
session, of type `OK`, and has its counter. -/
def AcknowledgesAnswered (s : ExternalConnection β) (a : ConnectionAction β) : Prop :=
  ∀ t, connectionStep modules s a = some t →
    ∀ status ∈ appended s.sentMessagesHandler_.acknowledged t.sentMessagesHandler_.acknowledged,
      s.handledResponse a = some ⟨s.sessionId_,true,status.messageCounter⟩

omit [BufferType β] in
/-- A response that comes to the receive loop with the counter of a status that waits is of the
session and of type `OK`. -/
def RespondsInSession (s : ExternalConnection β) : ConnectionAction β → Prop
  | .receive (.statusResponse sessionId ok messageCounter) =>
    messageCounter ∈ s.sentMessagesHandler_.notAckedStatuses_.map Status.messageCounter →
      sessionId = s.sessionId_ ∧ ok = true
  | _ => True

omit [BufferType β] in
instance (s : ExternalConnection β) : ∀ a, Decidable (s.RespondsInSession a)
  | .receive (.statusResponse _ _ _) => inferInstanceAs (Decidable (_ → _))
  | .receive (.command _ _ _) | .receive (.connectResponse _ _) | .connect _ | .thread _
  | .sendStatus _ _ _ | .take _ | .fill | .deinitializeConnection _ => .isTrue trivial

/-! ## One step -/

variable {modules} {s t : ExternalConnection β} {a : ConnectionAction β}

omit [BufferType β] in
theorem acknowledgeStatus_acknowledged_find (handler : SentMessagesHandler β) (counter : UInt32) :
    (handler.acknowledgeStatus counter).2.acknowledged = handler.acknowledged ++
      (handler.notAckedStatuses_.find? fun status => status.messageCounter = counter).toList := by
  rw [SentMessagesHandler.acknowledgeStatus]
  cases handler.notAckedStatuses_.find? fun status => status.messageCounter = counter with
  | none => exact (List.append_nil _).symm
  | some status => rfl

theorem sendStatus_acknowledged (status : DeviceStatus β) (deviceState : StatusDeviceState) (errorMessage : β)
    (sent : Bool) : (s.sendStatus modules status deviceState errorMessage sent).sentMessagesHandler_.acknowledged =
      s.sentMessagesHandler_.acknowledged := by
  by_cases hmodule : (modules status.device.module_).isSome
  · obtain ⟨-,-,-,-,-,-,hacked⟩ := s.sendStatus_frame status hmodule deviceState errorMessage sent
    exact hacked
  · rw [s.sendStatus_none status hmodule]

omit [BufferType β] in
theorem receiveStatusResponse_acknowledged (devices : List DeviceIdentification) (responses : ℕ)
    (answer : Answer β) (hthread : s.connectThread = .acknowledging devices (responses + 1)) :
    (s.receiveStatusResponse devices responses answer.received).sentMessagesHandler_.acknowledged =
      s.sentMessagesHandler_.acknowledged ++ (s.answeredStatus (.thread answer)).toList := by
  simp only [answeredStatus, handledResponse, hthread, receiveStatusResponse]
  cases answer.received with
  | none => exact (List.append_nil _).symm
  | some message =>
    cases message with
    | connectResponse sessionId alreadyLogged => exact (List.append_nil _).symm
    | command sessionId messageCounter deviceCommand => exact (List.append_nil _).symm
    | statusResponse sessionId ok messageCounter =>
      dsimp only
      by_cases hok : ok = true
      · by_cases hsession : sessionId = s.sessionId_
        · rw [if_neg (by simp [hok]), if_neg (not_not_intro hsession), if_pos ⟨hok,hsession⟩]
          exact acknowledgeStatus_acknowledged_find s.sentMessagesHandler_ messageCounter
        · rw [if_neg (by simp [hok]), if_pos hsession, if_neg fun h => hsession h.2]
          exact (List.append_nil _).symm
      · rw [if_pos (by simp [hok]), if_neg fun h => hok h.1]
        exact (List.append_nil _).symm

/-- A section of the connect thread. -/
theorem initializeConnection_acknowledged {answer : Answer β} (h : s.initializeConnection modules answer = some t) :
    t.sentMessagesHandler_.acknowledged =
      s.sentMessagesHandler_.acknowledged ++ (s.answeredStatus (.thread answer)).toList := by
  have hplace : ∀ connectThread, s.connectThread = connectThread →
      (∀ devices responses, connectThread ≠ .acknowledging devices (responses + 1)) →
      (s.answeredStatus (.thread answer)).toList = [] := by
    intro connectThread hthread hother
    rw [answeredStatus, handledResponse]
    split
    · rename_i hacknowledging _
      exact absurd (hthread.symm.trans hacknowledging) (hother _ _)
    · rfl
  cases hthread : s.connectThread with
  | finished ok => simp only [initializeConnection, hthread, reduceCtorEq] at h
  | opening devices =>
    simp only [initializeConnection, hthread, Option.some.injEq] at h
    rw [hplace _ hthread fun _ _ => nofun, List.append_nil, ← h]
    obtain hopened | ⟨state,-,hfailed⟩ := s.openChannel_cases devices answer
    · rw [hopened]
      rfl
    · rw [hfailed]
      rfl
  | connecting devices =>
    simp only [initializeConnection, hthread, Option.some.injEq] at h
    rw [hplace _ hthread fun _ _ => nofun, List.append_nil, ← h]
    obtain hfailed | hreading := s.connectMessageHandle_cases devices answer
    · rw [hfailed]
      rfl
    · rw [hreading]
      rfl
  | reading devices remaining =>
    rw [hplace _ hthread fun _ _ => nofun, List.append_nil]
    cases remaining with
    | nil =>
      simp only [initializeConnection, hthread, Option.some.injEq] at h
      rw [← h]
      rfl
    | cons device remaining =>
      simp only [initializeConnection, hthread, Option.some.injEq] at h
      rw [← h]
      obtain ⟨-,hfailed⟩ | ⟨deviceState,-,hsending⟩ := s.readStatus_cases devices device remaining
      · rw [hfailed]
        rfl
      · rw [hsending]
        rfl
  | sending devices device status error remaining =>
    simp only [initializeConnection, hthread, Option.some.injEq] at h
    rw [hplace _ hthread fun _ _ => nofun, List.append_nil, ← h]
    exact sendStatus_acknowledged _ _ _ _
  | acknowledging devices responses =>
    cases responses with
    | zero =>
      simp only [initializeConnection, hthread, Option.some.injEq] at h
      rw [hplace _ hthread fun _ _ => nofun, List.append_nil, ← h]
      rfl
    | succ responses =>
      simp only [initializeConnection, hthread, Option.some.injEq] at h
      rw [← h]
      exact receiveStatusResponse_acknowledged devices responses answer hthread
  | commanding devices commands =>
    rw [hplace _ hthread fun _ _ => nofun, List.append_nil]
    cases commands with
    | zero =>
      simp only [initializeConnection, hthread, Option.some.injEq] at h
      rw [← h]
      rfl
    | succ commands =>
      simp only [initializeConnection, hthread, Option.some.injEq] at h
      rw [← h]
      obtain ⟨counter,queue,responses,-,⟨-,hfailed⟩ | hcommanding⟩ :=
        s.receiveCommand_cases modules devices commands answer.received
      · rw [hfailed]
        rfl
      · rw [hcommanding]
        rfl
  | establishing devices =>
    simp only [initializeConnection, hthread, Option.some.injEq] at h
    rw [hplace _ hthread fun _ _ => nofun, List.append_nil, ← h]
    rfl
  | clearing devices =>
    simp only [initializeConnection, hthread, Option.some.injEq] at h
    rw [hplace _ hthread fun _ _ => nofun, List.append_nil, ← h]
    rfl

/-- Only a response that is handled acknowledges anything, and at most one status. -/
theorem connectionStep_acknowledged (h : connectionStep modules s a = some t) :
    t.sentMessagesHandler_.acknowledged =
      s.sentMessagesHandler_.acknowledged ++ (s.answeredStatus a).toList := by
  cases a with
  | connect devices =>
    simp only [connectionStep, Option.ite_none_right_eq_some, Option.some.injEq] at h
    rw [← h.2]
    exact (List.append_nil _).symm
  | thread answer => exact initializeConnection_acknowledged h
  | sendStatus status deviceState sent =>
    simp only [connectionStep, Option.ite_none_right_eq_some, Option.some.injEq] at h
    rw [← h.2]
    exact (sendStatus_acknowledged status deviceState _ sent).trans (List.append_nil _).symm
  | take status =>
    simp only [connectionStep, Option.ite_none_right_eq_some, Option.some.injEq] at h
    rw [← h.2]
    exact (List.append_nil _).symm
  | fill =>
    simp only [connectionStep, Option.map_eq_some_iff] at h
    obtain ⟨status,-,rfl⟩ := h
    obtain ⟨-,-,-,-,-,-,hacked⟩ := s.fillErrorAggregator_frame modules status
    exact hacked.trans (List.append_nil _).symm
  | receive message =>
    simp only [connectionStep, Option.ite_none_right_eq_some] at h
    obtain ⟨-,h⟩ := h
    cases message with
    | connectResponse sessionId alreadyLogged =>
      obtain rfl := Option.some.inj h
      exact (List.append_nil _).symm
    | statusResponse sessionId ok messageCounter =>
      obtain rfl := Option.some.inj h
      exact acknowledgeStatus_acknowledged_find s.sentMessagesHandler_ messageCounter
    | command sessionId messageCounter deviceCommand =>
      obtain rfl := Option.some.inj h
      obtain ⟨counter,queue,responses,hstate,-⟩ := s.handleCommand_frame modules sessionId messageCounter deviceCommand
      rw [hstate]
      exact (List.append_nil _).symm
  | deinitializeConnection completeDisconnect =>
    simp only [connectionStep, Option.ite_none_right_eq_some, Option.some.injEq] at h
    rw [← h.2]
    obtain ⟨-,-,-,-,-,-,hacked⟩ := s.deinitializeConnection_frame modules completeDisconnect
    exact hacked.trans (List.append_nil _).symm

/-- The connect sequence makes sure of it by itself, for the receive loop the response has to. -/
theorem acknowledgesAnswered_iff (h : connectionStep modules s a = some t) :
    AcknowledgesAnswered modules s a ↔ s.RespondsInSession a := by
  have hstep : AcknowledgesAnswered modules s a ↔
      ∀ status ∈ s.answeredStatus a, s.handledResponse a = some ⟨s.sessionId_,true,status.messageCounter⟩ := by
    have happended := connectionStep_acknowledged h
    simp only [AcknowledgesAnswered, h, Option.some.injEq, forall_eq', happended, appended_append, Option.mem_toList]
    exact Iff.rfl
  have hcounter : ∀ status ∈ s.answeredStatus a, ∀ response, s.handledResponse a = some response →
      status.messageCounter = response.messageCounter := by
    intro status hstatus response hresponse
    rw [answeredStatus, hresponse] at hstatus
    have hfind : s.sentMessagesHandler_.notAckedStatuses_.find? (fun status =>
        status.messageCounter = response.messageCounter) = some status := hstatus
    simpa using List.find?_some hfind
  rw [hstep]
  cases a with
  | receive message =>
    cases message with
    | statusResponse sessionId ok messageCounter =>
      constructor
      · intro hanswered hwaits
        obtain ⟨status,hmem,hstatus⟩ := List.mem_map.mp hwaits
        cases hfind : s.answeredStatus (.receive (.statusResponse sessionId ok messageCounter)) with
        | none => exact absurd (decide_eq_true hstatus) (List.find?_eq_none.mp hfind status hmem)
        | some answered =>
          have hresponse := Option.some.inj (hanswered answered hfind)
          exact ⟨congrArg StatusResponse.sessionId hresponse,congrArg StatusResponse.ok hresponse⟩
      · intro hresponds status hstatus
        have hsame := hcounter status hstatus _ rfl
        obtain ⟨rfl,rfl⟩ := hresponds (List.mem_map.mpr ⟨status,List.mem_of_find?_eq_some hstatus,hsame⟩)
        rw [hsame]
        rfl
    | command sessionId messageCounter deviceCommand => exact iff_of_true (fun _ h => nomatch h) trivial
    | connectResponse sessionId alreadyLogged => exact iff_of_true (fun _ h => nomatch h) trivial
  | thread answer =>
    refine iff_of_true (fun status hstatus => ?_) trivial
    obtain ⟨response,hresponse,-⟩ := Option.bind_eq_some_iff.mp hstatus
    rw [hcounter status hstatus response hresponse, hresponse]
    simp only [handledResponse] at hresponse
    split at hresponse
    · simp only [Option.ite_none_right_eq_some, Option.some.injEq] at hresponse
      obtain ⟨⟨rfl,rfl⟩,rfl⟩ := hresponse
      rfl
    · cases hresponse
  | connect devices => exact iff_of_true (fun _ h => nomatch h) trivial
  | sendStatus status deviceState sent => exact iff_of_true (fun _ h => nomatch h) trivial
  | take status => exact iff_of_true (fun _ h => nomatch h) trivial
  | fill => exact iff_of_true (fun _ h => nomatch h) trivial
  | deinitializeConnection completeDisconnect => exact iff_of_true (fun _ h => nomatch h) trivial

/-! ## Runs -/

/-- In a run every status is acknowledged by a response of its session and of type `OK` if and only
if no other response comes to the receive loop with the counter of a status that waits. -/
theorem exec_acknowledgesAnswered_iff {as : List (ConnectionAction β)}
    (he : exec (connectionStep modules) s as = some t) :
    Guarded (connectionStep modules) (AcknowledgesAnswered modules) s as ↔
      Guarded (connectionStep modules) RespondsInSession s as :=
  guarded_congr (fun _ _ _ h => acknowledgesAnswered_iff h) he

/-- The camera is connected, its next status is sent and has the counter 2. -/
def statusSent : List (ConnectionAction (List UInt8)) :=
  statusWhileDown camera [7] ++ connectSequence camera ++ [.sendStatus ⟨camera,[8]⟩ .RUNNING true]

/-- The response of the session takes the status out of the list. -/
theorem exec_acknowledgesAnswered_statusSent :
    Guarded (connectionStep moduleOne) (AcknowledgesAnswered moduleOne) init
      (statusSent ++ [.receive (.statusResponse "session" true 2)]) := by
  obtain ⟨t,ht⟩ : ∃ t, exec (connectionStep moduleOne) init
      (statusSent ++ [.receive (.statusResponse "session" true 2)]) = some t := ⟨_,rfl⟩
  exact (exec_acknowledgesAnswered_iff ht).mpr (by decide)

/-- The next session, in which the camera's next status has the counter 2 again. -/
def statusSentAgain : List (ConnectionAction (List UInt8)) :=
  let replies := [none,some (.connectResponse "second" false),none,none,none,
    some (.statusResponse "second" true 1),none,some (.command "second" 1 ⟨camera,[0]⟩),none,none,none]
  .deinitializeConnection false :: .connect [camera] ::
    replies.map (fun received => .thread ⟨true,"second",true,received⟩) ++ [.sendStatus ⟨camera,[9]⟩ .RUNNING true]

/-- The late response for the status `[8]` of the first session takes `[9]` out of the list. -/
theorem statusSentAgain_acknowledged_late :
    ¬∀ as t, exec (connectionStep moduleOne) init as = some t →
      Guarded (connectionStep moduleOne) (AcknowledgesAnswered moduleOne) init as := by
  intro hall
  have h := hall (statusSent ++ statusSentAgain ++ [.receive (.statusResponse "session" true 2)]) _ rfl
  exact absurd ((exec_acknowledgesAnswered_iff rfl).mp h) (by decide)

end ExternalConnection

end ModuleGateway.ExternalClient
