import ModuleGateway.Modules.HandlerThreads

/-! # Answers of the message thread

The message at the front of `fromInternalQueue_` stays there while it is handled. It gets at most
one answer, a connect response or a command, and is taken out of the queue afterwards.
-/
namespace ModuleGateway.Modules
open Structures Execution

variable {β : Type}

/-- The message at the front has got its answer, or will not get one. -/
def MessageThread.answered : MessageThread β → Bool
  | .waiting | .checking _ _ | .collecting _ _ _ _ | .counting _ _ _ _ _ | .handling | .commanding _ _ _ => false
  | .sending _ _ | .forcing _ | .disconnecting _ | .removing _ | .popping | .terminated => true

namespace ModuleHandler
variable {moduleLibrary_ : ModuleLibrary β} {s t : ModuleHandler β}

/-- What a step of the message thread does to its two queues: nothing but disconnect requests, the
answer to the message at the front, or the end of that message. -/
inductive Answers (s t : ModuleHandler β) : Prop
  | quiet (devices : List DeviceIdentification) (incoming : t.fromInternalQueue_ = s.fromInternalQueue_)
      (outgoing : t.toInternalQueue_ = s.toInternalQueue_ ++ devices.map .disconnect)
      (before : s.thread ≠ .popping)
      (after : s.thread.answered = true → t.thread.answered = true)
  | answers (message : InternalServer β) (incoming : t.fromInternalQueue_ = s.fromInternalQueue_)
      (outgoing : t.toInternalQueue_ = s.toInternalQueue_ ++ [.message message])
      (before : s.thread.answered = false) (after : t.thread.answered = true)
  | pops (incoming : t.fromInternalQueue_ = s.fromInternalQueue_.tail)
      (outgoing : t.toInternalQueue_ = s.toInternalQueue_) (before : s.thread = .popping)
      (after : t.thread.answered = false)

/-- A step that pushes nothing to the Internal Server. -/
theorem Answers.silent (incoming : t.fromInternalQueue_ = s.fromInternalQueue_)
    (outgoing : t.toInternalQueue_ = s.toInternalQueue_) (before : s.thread ≠ .popping)
    (after : s.thread.answered = true → t.thread.answered = true) : Answers s t :=
  .quiet [] incoming (outgoing.trans (List.append_nil _).symm) before after

/-- A step from a state without an answer leaves it open whether there will be one. -/
theorem Answers.unanswered (before : s.thread.answered = false) (incoming : t.fromInternalQueue_ = s.fromInternalQueue_)
    (outgoing : t.toInternalQueue_ = s.toInternalQueue_) : Answers s t := by
  apply Answers.silent incoming outgoing
  · intro hpopping
    rw [hpopping] at before
    cases before
  · rw [before]
    nofun

theorem handleStatus_answers (status : DeviceStatus β) (hbefore : s.thread.answered = false) :
    Answers s (s.handleStatus moduleLibrary_ status) := by
  obtain h | ⟨_,_,_,-,-,⟨_,-,-,h⟩ | ⟨-,h⟩ | ⟨_,-,h⟩⟩ := s.handleStatus_cases moduleLibrary_ status
  all_goals
    rw [h]
    exact .unanswered hbefore rfl rfl

theorem handleMessage_answers (hbefore : s.thread.answered = false) (h : s.handleMessage moduleLibrary_ = some t) :
    Answers s t := by
  obtain ⟨-,-,-,rfl | ⟨-,-,rfl⟩ | ⟨device,-,rfl⟩ | ⟨status,-,rfl⟩⟩ := handleMessage_cases h
  · exact .unanswered hbefore rfl rfl
  · exact .unanswered hbefore rfl rfl
  · exact .answers _ rfl rfl hbefore rfl
  · exact handleStatus_answers status hbefore

/-- The steps outside `get_command`. -/
theorem handleMessages_answers [BufferType β] (h : s.handleMessages moduleLibrary_ = some t)
    (hcommanding : ∀ status device rc, s.thread ≠ .commanding status device rc) : Answers s t := by
  unfold handleMessages at h
  split at h <;> rename_i hthread
  · cases h
    exact .unanswered (by rw [hthread]; rfl) rfl rfl
  · cases h
    have hbefore : s.thread.answered = false := by rw [hthread]; rfl
    unfold checkModule
    split
    · exact .unanswered hbefore rfl rfl
    · dsimp only
      split <;> exact .unanswered hbefore rfl rfl
  · obtain ⟨module_,-,rfl⟩ := Option.map_eq_some_iff.mp h
    have hbefore : s.thread.answered = false := by rw [hthread]; rfl
    unfold collectStatus
    split
    · exact .unanswered hbefore rfl rfl
    · split <;> exact .unanswered hbefore rfl rfl
  · cases h
    unfold countTimeouts
    dsimp only
    split
    · refine .quiet [_] rfl rfl ?_ ?_ <;> rw [hthread] <;> nofun
    · exact .unanswered (by rw [hthread]; rfl) rfl rfl
  · exact handleMessage_answers (by rw [hthread]; rfl) h
  · exact absurd hthread (hcommanding _ _ _)
  · cases h
    exact .silent rfl rfl (by rw [hthread]; nofun) fun _ => rfl
  · obtain ⟨module_,-,rfl⟩ := Option.map_eq_some_iff.mp h
    exact .silent rfl rfl (by rw [hthread]; nofun) fun _ => rfl
  · obtain ⟨module_,-,rfl⟩ := Option.map_eq_some_iff.mp h
    unfold forceStatus
    split <;> exact .silent rfl rfl (by rw [hthread]; nofun) fun _ => rfl
  · obtain ⟨module_,-,rfl⟩ := Option.map_eq_some_iff.mp h
    exact .silent rfl rfl (by rw [hthread]; nofun) fun _ => rfl
  · obtain ⟨module_,-,rfl⟩ := Option.map_eq_some_iff.mp h
    exact .silent rfl rfl (by rw [hthread]; nofun) fun _ => rfl
  · cases h
    exact .pops rfl rfl hthread rfl
  · cases h

end ModuleHandler

namespace HandlerThreads
variable [BufferType β] {moduleLibrary_ : ModuleLibrary β} {s t : HandlerThreads β}

theorem handleMessages_answers (h : s.handleMessages moduleLibrary_ = some t) : s.handler.Answers t.handler := by
  unfold handleMessages at h
  split at h
  · rename_i status device rc hthread
    split at h
    · cases h
      refine .answers _ rfl rfl ?_ rfl
      rw [hthread]
      rfl
    · rename_i hnone
      obtain ⟨module_,-,rfl⟩ := Option.map_eq_some_iff.mp h
      obtain ⟨hand,thread,heq,-⟩ := takeCommand_eq module_ s status device hnone
      rw [heq]
      exact .unanswered (by rw [hthread]; rfl) rfl rfl
  · rename_i hcommanding
    obtain ⟨handler,hhandler,rfl⟩ := Option.map_eq_some_iff.mp h
    exact ModuleHandler.handleMessages_answers hhandler hcommanding

/-- A step of another thread: no message is taken, and what is pushed are forwarded commands. -/
structure Leaves (s t : HandlerThreads β) (forwarded : List (ModuleHandlerMessage β)) : Prop where
  incoming : t.handler.fromInternalQueue_ = s.handler.fromInternalQueue_
  outgoing : t.handler.toInternalQueue_ = s.handler.toInternalQueue_ ++ forwarded
  thread : t.handler.thread = s.handler.thread

/-- The actions by which the Internal Server reaches the two queues. -/
def ThreadAction.ofServer : ThreadAction β → Bool
  | .receive _ | .listened => true
  | _ => false

theorem threadStep_leaves {a : ThreadAction β} (hmessages : a ≠ .messages) (ha : a.ofServer = false)
    (ht : s.threadStep (moduleLibrary_,a) = some t) : ∃ forwarded, s.Leaves t forwarded := by
  cases a with
  | messages => exact absurd rfl hmessages
  | receive message => cases ha
  | listened => cases ha
  | forwards =>
    simp only [threadStep, handleCommandForwards] at ht
    split at ht
    · rename_i hand _
      cases ht
      cases hand with
      | none => exact ⟨[],rfl,(List.append_nil _).symm,rfl⟩
      | some hand => exact ⟨_,rfl,rfl,rfl⟩
    · split at ht
      · cases ht
      · obtain ⟨-,rfl⟩ | ⟨module_,hand,-,rfl,-⟩ := takeForwarded_eq ht <;>
          exact ⟨[],rfl,(List.append_nil _).symm,rfl⟩
  | command command device =>
    simp only [threadStep, handleCommands] at ht
    split at ht
    · cases ht
      obtain h | ⟨module_,-,-,h,-⟩ := updateCommand_eq moduleLibrary_ s command device <;>
        rw [h] <;> exact ⟨[],rfl,(List.append_nil _).symm,rfl⟩
    · cases ht
  | event =>
    obtain ⟨device,-,rfl⟩ := Option.map_eq_some_iff.mp ht
    exact ⟨[],rfl,(List.append_nil _).symm,rfl⟩
  | force device =>
    obtain ⟨module_,-,rfl⟩ := Option.map_eq_some_iff.mp ht
    exact ⟨[],rfl,(List.append_nil _).symm,rfl⟩
  | tick number deviceId =>
    obtain ⟨module_,-,rfl⟩ := Option.map_eq_some_iff.mp ht
    exact ⟨[],rfl,(List.append_nil _).symm,rfl⟩
  | erase number i =>
    obtain ⟨aggregator,-,rfl⟩ := Option.map_eq_some_iff.mp ht
    exact ⟨[],rfl,(List.append_nil _).symm,rfl⟩
  | sent =>
    cases ht
    exact ⟨[],rfl,(List.append_nil _).symm,rfl⟩

end HandlerThreads

end ModuleGateway.Modules
