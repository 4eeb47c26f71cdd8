import ModuleGateway.Modules.IsolatedHandler
import ModuleGateway.Structures.AtomicQueue
import Mathlib.Data.Fintype.Option

/-! # The Module Handler over its queue

The message thread takes the messages of the Internal Server from an `AtomicQueue`, into which any number of
threads push. Its wait, its look at the front and its pop are calls of the queue, between whose steps the other
threads go on. What the Module Handler does then it also does when every call is a single step.
-/
namespace ModuleGateway.Modules
open Structures Execution Monitor

variable {β : Type}

namespace ModuleHandler

def withQueue (s : ModuleHandler β) (queue : List (InternalClientMessage β)) : ModuleHandler β :=
  { s with fromInternalQueue_ := queue }

variable (moduleLibrary_ : ModuleLibrary β) (s : ModuleHandler β) (queue : List (InternalClientMessage β))

/-- What `handleMessages` does with the message at the front. -/
def dispatch (message : InternalClientMessage β) : ModuleHandler β :=
  if message.disconnected then s.handleDisconnect moduleLibrary_ message.getDeviceId
  else
    match message with
    | .message _ (.deviceConnect device) => s.handleConnect moduleLibrary_ device
    | .message _ (.deviceStatus status) => s.handleStatus moduleLibrary_ status
    | _ => s.goto .popping

theorem handleDisconnect_withQueue (device : DeviceIdentification) :
    (s.withQueue queue).handleDisconnect moduleLibrary_ device =
      (s.handleDisconnect moduleLibrary_ device).withQueue queue := by
  unfold handleDisconnect
  split
  · rfl
  · rw [apply_ite (fun t => withQueue t queue)]
    rfl

theorem handleStatus_withQueue (status : DeviceStatus β) :
    (s.withQueue queue).handleStatus moduleLibrary_ status =
      (s.handleStatus moduleLibrary_ status).withQueue queue := by
  unfold handleStatus
  dsimp only
  split
  · rfl
  · rw [apply_ite (fun t => withQueue t queue)]
    congr 1
    simp only [withQueue]
    split <;> rfl

theorem handleMessage_withQueue (message : InternalClientMessage β) :
    (s.withQueue (message :: queue)).handleMessage moduleLibrary_ =
      some ((s.dispatch moduleLibrary_ message).withQueue (message :: queue)) := by
  simp only [handleMessage, dispatch,
    show (s.withQueue (message :: queue)).fromInternalQueue_ = message :: queue from rfl]
  by_cases hdisconnected : message.disconnected = true
  · simp only [hdisconnected, if_true, handleDisconnect_withQueue]
  · rw [if_neg hdisconnected, if_neg hdisconnected]
    cases message with
    | message disconnect data =>
      cases data with
      | deviceStatus status => exact congrArg some (s.handleStatus_withQueue moduleLibrary_ _ status)
      | _ => rfl
    | _ => rfl

theorem checkModule_withQueue (modules : List ℤ) (message : Bool) :
    (s.withQueue queue).checkModule modules message = (s.checkModule modules message).withQueue queue := by
  cases modules with
  | nil => rfl
  | cons number modules =>
    unfold checkModule
    rw [apply_ite (fun t => withQueue t queue)]
    rfl

theorem collectStatus_withQueue (module_ : ModuleLibraryHandler β) (modules : List ℤ) (message : Bool) (number : ℤ)
    (devices : List DeviceIdentification) : (collectStatus module_ (s.withQueue queue) modules message number devices) =
      (collectStatus module_ s modules message number devices).withQueue queue := by
  cases devices with
  | nil => rfl
  | cons device devices =>
    simp only [collectStatus, withQueue]
    split <;> rfl

theorem countTimeouts_withQueue (modules : List ℤ) (message : Bool) (number : ℤ) (device : DeviceIdentification)
    (devices : List DeviceIdentification) : (s.withQueue queue).countTimeouts modules message number device devices =
      (s.countTimeouts modules message number device devices).withQueue queue := by
  unfold countTimeouts
  rw [apply_ite (fun t => withQueue t queue)]
  rfl

theorem retrieveCommand_withQueue [BufferType β] (module_ : ModuleLibraryHandler β) (status : β)
    (device : DeviceIdentification) (rc : ℕ) : retrieveCommand module_ (s.withQueue queue) status device rc =
      (retrieveCommand module_ s status device rc).withQueue queue := by
  simp only [retrieveCommand, withQueue]
  split <;> rfl

theorem forceStatus_withQueue (module_ : ModuleLibraryHandler β) (device : DeviceIdentification) :
    forceStatus module_ (s.withQueue queue) device = (forceStatus module_ s device).withQueue queue := by
  simp only [forceStatus, withQueue]
  split <;> rfl

/-- The message thread looks at the queue in three places. -/
theorem handleMessages_withQueue [BufferType β] (hwaiting : s.thread ≠ .waiting) (hhandling : s.thread ≠ .handling)
    (hpopping : s.thread ≠ .popping) :
    (s.withQueue queue).handleMessages moduleLibrary_ = (s.handleMessages moduleLibrary_).map (·.withQueue queue) := by
  unfold handleMessages
  rw [show (s.withQueue queue).thread = s.thread from rfl]
  cases hthread : s.thread with
  | waiting => exact absurd hthread hwaiting
  | handling => exact absurd hthread hhandling
  | popping => exact absurd hthread hpopping
  | checking modules message => exact congrArg some (s.checkModule_withQueue queue modules message)
  | collecting modules message number devices =>
    simp only [Option.map_map]
    congr 1
    funext module_
    exact s.collectStatus_withQueue queue module_ modules message number devices
  | counting modules message number device devices =>
    exact congrArg some (s.countTimeouts_withQueue queue modules message number device devices)
  | commanding status device rc =>
    simp only [Option.map_map]
    congr 1
    funext module_
    exact s.retrieveCommand_withQueue queue module_ status device rc
  | sending device rc =>
    cases rc with
    | zero => rfl
    | succ rc =>
      simp only [Option.map_map]
      rfl
  | forcing device =>
    simp only [Option.map_map]
    congr 1
    funext module_
    exact s.forceStatus_withQueue queue module_ device
  | disconnecting device | removing device =>
    simp only [Option.map_map]
    rfl
  | terminated => rfl

end ModuleHandler

namespace HandlerThreads

def withQueue (s : HandlerThreads β) (queue : List (InternalClientMessage β)) : HandlerThreads β :=
  s.withHandler (s.handler.withQueue queue)

variable [BufferType β] (moduleLibrary_ : ModuleLibrary β) (s : HandlerThreads β)
  (queue : List (InternalClientMessage β))

theorem handleMessages_withQueue (hwaiting : s.handler.thread ≠ .waiting) (hhandling : s.handler.thread ≠ .handling)
    (hpopping : s.handler.thread ≠ .popping) :
    (s.withQueue queue).handleMessages moduleLibrary_ = (s.handleMessages moduleLibrary_).map (·.withQueue queue) := by
  have hrest : ((s.withQueue queue).handler.handleMessages moduleLibrary_).map (s.withQueue queue).withHandler =
      ((s.handler.handleMessages moduleLibrary_).map s.withHandler).map (·.withQueue queue) := by
    rw [show (s.withQueue queue).handler = s.handler.withQueue queue from rfl,
      s.handler.handleMessages_withQueue moduleLibrary_ queue hwaiting hhandling hpopping, Option.map_map,
      Option.map_map]
    rfl
  unfold handleMessages
  rw [show (s.withQueue queue).handler.thread = s.handler.thread from rfl,
    show (s.withQueue queue).statusHand = s.statusHand from rfl]
  cases hthread : s.handler.thread with
  | commanding status device rc =>
    cases hhand : s.statusHand with
    | some hand => rfl
    | none =>
      simp only [Option.map_map]
      congr 1
      funext module_
      simp only [takeCommand, withQueue, ModuleHandler.withQueue, withHandler, Function.comp]
      split <;> rfl
  | _ => exact hrest

/-- The other threads do not look at the queue. -/
theorem threadStep_withQueue {a : ThreadAction β} (hmessages : a ≠ .messages)
    (hreceive : ∀ message, a ≠ .receive message) :
    (s.withQueue queue).threadStep (moduleLibrary_,a) = (s.threadStep (moduleLibrary_,a)).map (·.withQueue queue) := by
  cases a with
  | messages => exact absurd rfl hmessages
  | receive message => exact absurd rfl (hreceive message)
  | forwards =>
    unfold threadStep handleCommandForwards
    rw [show (s.withQueue queue).forwardThread = s.forwardThread from rfl,
      show (s.withQueue queue).handler.commandForwardingQueue_ = s.handler.commandForwardingQueue_ from rfl]
    cases hforward : s.forwardThread with
    | acted hand => cases hand <;> rfl
    | waiting =>
      cases hevents : s.handler.commandForwardingQueue_ with
      | nil => rfl
      | cons deviceId events =>
        simp only [takeForwarded, withQueue, ModuleHandler.withQueue, withHandler]
        split
        · rfl
        · split <;> rfl
  | command command device =>
    unfold threadStep handleCommands
    rw [show (s.withQueue queue).updated = s.updated from rfl]
    cases hupdated : s.updated with
    | some other => rfl
    | none =>
      simp only [updateCommand, withQueue, ModuleHandler.withQueue, withHandler, Option.map_some, Option.some.injEq]
      split
      · rfl
      · by_cases hallocated : isAllocated command
        · simp only [hallocated, if_true]
          split <;> rfl
        · simp only [hallocated]
          rfl
  | event =>
    simp only [threadStep, Option.map_map]
    rfl
  | force device | tick number deviceId =>
    simp only [threadStep, Option.map_map]
    rfl
  | erase number i =>
    simp only [threadStep, Option.map_map]
    rfl
  | sent => rfl
  | listened => rfl

end HandlerThreads

/-! ## The threads at their calls -/

/-- `library` are the modules as they are at the moment, `pending` is the message that a thread of the Internal
Server is pushing. The messages that came in are in the queue. -/
structure QueueThreads (P β : Type) where
  threads : HandlerThreads β
  library : ModuleLibrary β
  pending : P → Option (InternalClientMessage β)

/-- A step of the Module Handler that is no call, other answers of the modules from now on, or a message of the
Internal Server. -/
inductive QueueAction (P β : Type) where
  | thread (action : HandlerThreads.ThreadAction β)
  | answer (library : ModuleLibrary β)
  | produce (producer : P) (message : InternalClientMessage β)

namespace QueueThreads
variable {P : Type}

def init (library : ModuleLibrary β) : QueueThreads P β := ⟨.init,library,fun _ => none⟩

/-- The call that a thread is at; `none` is the message thread. -/
def call (s : QueueThreads P β) : Option P → Option (QueueMethod (InternalClientMessage β))
  | none =>
    match s.threads.handler.thread with
    | .waiting => some .waitForValueWithTimeout
    | .handling => some .front
    | .popping => some .pop
    | _ => none
  | some producer => (s.pending producer).map .pushAndNotify

variable [DecidableEq P]

def withHandler (s : QueueThreads P β) (handler : ModuleHandler β) : QueueThreads P β :=
  { s with threads := s.threads.withHandler handler }

def resume (s : QueueThreads P β) : Option P → QueueResult (InternalClientMessage β) → QueueThreads P β
  | none,.isEmpty b => s.withHandler (s.threads.handler.goto (.checking s.library.keys !b))
  | none,.value message => s.withHandler (s.threads.handler.dispatch s.library message)
  | none,_ => s.withHandler (s.threads.handler.goto .waiting)
  | some producer,_ => { s with pending := Function.update s.pending producer none }

def step [BufferType β] (s : QueueThreads P β) : QueueAction P β → Option (QueueThreads P β)
  | .thread (.receive _) => none
  | .thread action => (s.threads.threadStep (s.library,action)).map fun threads => { s with threads }
  | .answer library => some { s with library }
  | .produce producer message => some { s with pending := Function.update s.pending producer (some message) }

def mover : QueueAction P β → Option (Option P)
  | .thread .messages => some none
  | .thread _ | .answer _ => none
  | .produce producer _ => some (some producer)

variable [BufferType β] {s t : QueueThreads P β}

omit [DecidableEq P] in
/-- Only the message thread moves the message thread. -/
theorem thread_eq {action : HandlerThreads.ThreadAction β} {threads : HandlerThreads β} (hmessages : action ≠ .messages)
    (h : s.threads.threadStep (s.library,action) = some threads) :
    threads.handler.thread = s.threads.handler.thread := by
  cases haction : action.ofServer with
  | false =>
    obtain ⟨forwarded,hleaves⟩ := HandlerThreads.threadStep_leaves hmessages haction h
    exact hleaves.thread
  | true =>
    cases action <;> cases haction <;> cases h <;> rfl

theorem step_thread {action : HandlerThreads.ThreadAction β} (h : s.step (.thread action) = some t) :
    ∃ threads, s.threads.threadStep (s.library,action) = some threads ∧ { s with threads := threads } = t := by
  cases action <;> first | exact Option.map_eq_some_iff.mp h | cases h

/-- The message thread and the threads that push. -/
def queueThreads : Clients (Option P) (QueueThreads P β) (QueueAction P β) (QueueMethod (InternalClientMessage β))
    (QueueResult (InternalClientMessage β)) where
  call := call
  resume := resume
  mover := mover
  step := step
  call_resume s t r u hu := by
    cases t with
    | none =>
      obtain ⟨producer,rfl⟩ := Option.ne_none_iff_exists'.mp hu
      cases r <;> rfl
    | some producer =>
      cases u with
      | none => rfl
      | some other =>
        have hne : other ≠ producer := by
          rintro rfl
          exact hu rfl
        simp only [call, resume, Function.update_of_ne hne]
  call_step s a s' t hstep hmover := by
    cases a with
    | thread action =>
      obtain ⟨threads,hthreads,rfl⟩ := step_thread hstep
      cases t with
      | some producer => rfl
      | none =>
        have hmessages : action ≠ .messages := by
          rintro rfl
          exact hmover rfl
        simp only [call, thread_eq hmessages hthreads]
    | answer library =>
      cases hstep
      rfl
    | produce producer message =>
      cases hstep
      cases t with
      | none => rfl
      | some other =>
        have hne : other ≠ producer := by
          rintro rfl
          exact hmover rfl
        simp only [call, Function.update_of_ne hne]

/-! ## Every call as a single step -/

/-- What the message thread does with the result of a call. -/
theorem perform_messages {queue rest : List (InternalClientMessage β)} {method : QueueMethod (InternalClientMessage β)}
    {r : QueueResult (InternalClientMessage β)} (hcall : s.call none = some method)
    (hbody : AtomicQueue.body method queue = some (r,rest)) :
    (s.threads.withQueue queue).threadStep (s.library,.messages) = some ((s.resume none r).threads.withQueue rest) := by
  simp only [HandlerThreads.threadStep, HandlerThreads.handleMessages,
    show (s.threads.withQueue queue).handler.thread = s.threads.handler.thread from rfl]
  cases hthread : s.threads.handler.thread with
  | waiting =>
    simp only [call, hthread, Option.some.injEq] at hcall
    subst hcall
    cases hbody
    simp only [ModuleHandler.handleMessages,
      show (s.threads.withQueue queue).handler.thread = s.threads.handler.thread from rfl, hthread]
    rfl
  | handling =>
    simp only [call, hthread, Option.some.injEq] at hcall
    subst hcall
    cases queue with
    | nil => cases hbody
    | cons message queue =>
      cases hbody
      simp only [ModuleHandler.handleMessages,
        show (s.threads.withQueue (message :: queue)).handler = s.threads.handler.withQueue (message :: queue) from rfl,
        show (s.threads.handler.withQueue (message :: queue)).thread = s.threads.handler.thread from rfl, hthread]
      rw [ModuleHandler.handleMessage_withQueue]
      rfl
  | popping =>
    simp only [call, hthread, Option.some.injEq] at hcall
    subst hcall
    cases queue with
    | nil => cases hbody
    | cons message queue =>
      cases hbody
      simp only [ModuleHandler.handleMessages,
        show (s.threads.withQueue (message :: rest)).handler.thread = s.threads.handler.thread from rfl, hthread]
      rfl
  | _ => simp [call, hthread] at hcall

/-- A step of the Module Handler that is no call. -/
theorem own_threads {queue : List (InternalClientMessage β)} {action : HandlerThreads.ThreadAction β}
    (hfree : ∀ u, mover (.thread action : QueueAction P β) = some u → s.call u = none)
    (h : s.step (.thread action) = some t) :
    (s.threads.withQueue queue).threadStep (s.library,action) = some (t.threads.withQueue queue) := by
  obtain ⟨threads,hthreads,rfl⟩ := step_thread h
  by_cases hmessages : action = .messages
  · subst hmessages
    have hcall := hfree none rfl
    have hrest := s.threads.handleMessages_withQueue s.library queue
    rw [show s.threads.handleMessages s.library = some threads from hthreads] at hrest
    apply hrest
    all_goals
      intro hthread
      simp [call, hthread] at hcall
  · rw [HandlerThreads.threadStep_withQueue _ _ _ hmessages, hthreads]
    · rfl
    · rintro message rfl
      cases h

/-- The modules that a step meets were there from the beginning or came later, and the messages that come in were
pushed by some thread. -/
def CallOf (first : ModuleLibrary β) (bs : List (AtomicAction (Option P) (QueueAction P β)))
    (call : ModuleLibrary β × HandlerThreads.ThreadAction β) : Prop :=
  (call.1 = first ∨ .own (.answer call.1) ∈ bs) ∧
    ∀ message, call.2 = .receive message → ∃ producer, .own (.produce producer message) ∈ bs

/-- Where the Module Handler is after the steps so far. -/
structure Follows (first : ModuleLibrary β) (bs : List (AtomicAction (Option P) (QueueAction P β)))
    (s : List (InternalClientMessage β) × QueueThreads P β) : Prop where
  library : s.2.library = first ∨ .own (.answer s.2.library) ∈ bs
  pending : ∀ producer message, s.2.pending producer = some message → .own (.produce producer message) ∈ bs
  calls : ∃ calls, exec HandlerThreads.threadStep .init calls = some (s.2.threads.withQueue s.1) ∧
    ∀ call ∈ calls, CallOf first bs call

variable {first : ModuleLibrary β} {bs : List (AtomicAction (Option P) (QueueAction P β))}

omit [DecidableEq P] in
theorem Follows.init : Follows first [] (([] : List (InternalClientMessage β)),(init first : QueueThreads P β)) where
  library := .inl rfl
  pending _ _ h := by cases h
  calls := ⟨[],rfl,by rintro _ ⟨⟩⟩

omit [BufferType β] [DecidableEq P] in
theorem CallOf.concat {call : ModuleLibrary β × HandlerThreads.ThreadAction β} (h : CallOf first bs call)
    (b : AtomicAction (Option P) (QueueAction P β)) : CallOf first (bs ++ [b]) call := by
  refine ⟨h.1.imp_right (List.mem_append_left _),?_⟩
  intro message hmessage
  obtain ⟨producer,hproducer⟩ := h.2 message hmessage
  exact ⟨producer,List.mem_append_left _ hproducer⟩

omit [DecidableEq P] in
/-- The Module Handler takes a step. -/
theorem Follows.goes {queue rest : List (InternalClientMessage β)} (hs : Follows first bs (queue,s))
    {b : AtomicAction (Option P) (QueueAction P β)} (hlibrary : t.library = s.library)
    (hpending : ∀ producer message, t.pending producer = some message → s.pending producer = some message)
    {action : HandlerThreads.ThreadAction β}
    (hstep : (s.threads.withQueue queue).threadStep (s.library,action) = some (t.threads.withQueue rest))
    (hreceive : ∀ message, action = .receive message → ∃ producer, s.pending producer = some message) :
    Follows first (bs ++ [b]) (rest,t) where
  library := by
    rw [hlibrary]
    exact hs.library.imp_right (List.mem_append_left _)
  pending producer message h := List.mem_append_left _ (hs.pending producer message (hpending producer message h))
  calls := by
    obtain ⟨calls,hcalls,hall⟩ := hs.calls
    refine ⟨calls ++ [(s.library,action)],exec_concat_eq_some.mpr ⟨_,hcalls,hstep⟩,?_⟩
    intro call hcall
    rcases List.mem_append.mp hcall with hcall | hcall
    · exact (hall call hcall).concat b
    · obtain rfl := List.mem_singleton.mp hcall
      refine ⟨hs.library.imp_right (List.mem_append_left _),?_⟩
      intro message hmessage
      obtain ⟨producer,hproducer⟩ := hreceive message hmessage
      exact ⟨producer,List.mem_append_left _ (hs.pending producer message hproducer)⟩

theorem Follows.step {s t : List (InternalClientMessage β) × QueueThreads P β} (hs : Follows first bs s)
    {b : AtomicAction (Option P) (QueueAction P β)} (h : atomicStep AtomicQueue queueThreads s b = some t) :
    Follows first (bs ++ [b]) t := by
  obtain ⟨queue,s⟩ := s
  cases b with
  | own a =>
    obtain ⟨hfree,h⟩ := Option.ite_none_right_eq_some.mp h
    obtain ⟨s',hs',rfl⟩ := Option.map_eq_some_iff.mp h
    cases a with
    | thread action =>
      have hlibrary : s'.library = s.library ∧ s'.pending = s.pending := by
        obtain ⟨threads,-,rfl⟩ := step_thread hs'
        exact ⟨rfl,rfl⟩
      apply hs.goes hlibrary.1 ?_ (own_threads ?_ hs')
      · rintro message rfl
        cases hs'
      · rw [hlibrary.2]
        exact fun _ _ h => h
      · intro u (hu : mover (.thread action : QueueAction P β) = some u)
        simpa [queueThreads, hu] using hfree
    | answer library =>
      cases hs'
      obtain ⟨calls,hcalls,hall⟩ := hs.calls
      refine ⟨.inr (List.mem_append_right _ (List.mem_singleton_self _)),?_,calls,hcalls,fun call hcall =>
        (hall call hcall).concat _⟩
      exact fun producer message h => List.mem_append_left _ (hs.pending producer message h)
    | produce producer message =>
      cases hs'
      obtain ⟨calls,hcalls,hall⟩ := hs.calls
      refine ⟨hs.library.imp_right (List.mem_append_left _),?_,calls,hcalls,fun call hcall =>
        (hall call hcall).concat _⟩
      intro other sent (hsent : Function.update s.pending producer (some message) other = some sent)
      by_cases hother : other = producer
      · subst hother
        rw [Function.update_self] at hsent
        cases hsent
        exact List.mem_append_right _ (List.mem_singleton_self _)
      · rw [Function.update_of_ne hother] at hsent
        exact List.mem_append_left _ (hs.pending other sent hsent)
  | perform u =>
    obtain ⟨method,hmethod,h⟩ := Option.bind_eq_some_iff.mp h
    obtain ⟨⟨r,rest⟩,hr,rfl⟩ := Option.map_eq_some_iff.mp h
    cases u with
    | none =>
      apply hs.goes ?_ ?_ (perform_messages hmethod hr)
      · rintro message ⟨⟩
      · cases r <;> rfl
      · cases r <;> exact fun _ _ h => h
    | some producer =>
      obtain ⟨message,hmessage,rfl⟩ := Option.map_eq_some_iff.mp hmethod
      cases hr
      have hreceive : (s.threads.withQueue queue).threadStep (s.library,.receive message) =
          some ((s.resume (some producer) .none).threads.withQueue (queue ++ [message])) := rfl
      refine hs.goes (t := s.resume (some producer) .none) rfl ?_ hreceive ?_
      · intro other sent (hsent : Function.update s.pending producer none other = some sent)
        by_cases hother : other = producer
        · subst hother
          rw [Function.update_self] at hsent
          cases hsent
        · rwa [Function.update_of_ne hother] at hsent
      · rintro _ ⟨⟩
        exact ⟨producer,hmessage⟩

theorem exec_follows {s : List (InternalClientMessage β) × QueueThreads P β}
    (he : exec (atomicStep AtomicQueue queueThreads) ([],init first) bs = some s) : Follows first bs s :=
  exec_history_invariant (I := Follows first) .init (fun _ _ _ _ hs _ ht => hs.step ht) (guarded_true _ bs) he

/-! ## Over the mutex -/

theorem Follows.defined {s : List (InternalClientMessage β) × QueueThreads P β} (hs : Follows first bs s) :
    Defined AtomicQueue queueThreads s := by
  obtain ⟨queue,s⟩ := s
  obtain ⟨calls,hcalls,-⟩ := hs.calls
  have hfront : s.threads.handler.thread.hasMessage = true → queue ≠ [] :=
    (HandlerThreads.exec_coherent hcalls).placed.message
  intro u method hmethod
  cases u with
  | some producer =>
    obtain ⟨message,-,rfl⟩ := Option.map_eq_some_iff.mp hmethod
    rfl
  | none =>
    simp only [queueThreads, call] at hmethod
    split at hmethod <;> rename_i hthread <;> cases hmethod
    · rfl
    · obtain ⟨message,rest,rfl⟩ := List.exists_cons_of_ne_nil (hfront (by rw [hthread]; rfl))
      rfl
    · obtain ⟨message,rest,rfl⟩ := List.exists_cons_of_ne_nil (hfront (by rw [hthread]; rfl))
      rfl

/-- The threads over the mutex and the condition variable of the queue. -/
abbrev Locked (P β : Type) :=
  State (Option P) (List (InternalClientMessage β)) (QueueMethod (InternalClientMessage β)) (QueueThreads P β)

/-- What the Module Handler does over the queue it does with every call as a single step: with modules that were there
and messages that were pushed. No call meets an empty queue that it may not meet. -/
theorem exec_queued {as : List (Action (Option P) (QueueAction P β))} {s : Locked P β}
    (he : exec (Monitor.step AtomicQueue queueThreads) (State.init [] (init first)) as = some s) :
    (∃ calls, exec HandlerThreads.threadStep .init calls = some (s.clients.threads.withQueue s.object) ∧
      ∀ call ∈ calls, (call.1 = first ∨ .own (.answer call.1) ∈ as) ∧
        ∀ message, call.2 = .receive message → ∃ producer, .own (.produce producer message) ∈ as) ∧
      ∀ u method seen, s.phase u = .writing method seen → (AtomicQueue.body method seen).isSome = true := by
  obtain ⟨bs,hbs,hown⟩ := exec_refines he
  have hs := exec_follows hbs
  obtain ⟨calls,hcalls,hall⟩ := hs.calls
  refine ⟨⟨calls,hcalls,?_⟩,?_⟩
  · intro call hcall
    obtain ⟨hlibrary,hreceive⟩ := hall call hcall
    refine ⟨hlibrary.imp_right (hown _),?_⟩
    intro message hmessage
    obtain ⟨producer,hproducer⟩ := hreceive message hmessage
    exact ⟨producer,hown _ hproducer⟩
  · intro u method seen hu
    exact (exec_sound he).defined hs.defined hu

theorem queueThreads_singleWaiter :
    SingleWaiter AtomicQueue (queueThreads : Clients (Option P) (QueueThreads P β) _ _ _) none := by
  apply singleWaiter_of_calls
  · intro s u hcall
    cases u with
    | none => rfl
    | some producer => simp [queueThreads, call] at hcall
  · intro s u message hcall
    cases u with
    | none =>
      simp only [queueThreads, call] at hcall
      split at hcall <;> cases hcall
    | some producer => simp [queueThreads, call] at hcall

/-- The message thread waits when the camera connects, and is about to pop the message at the end. -/
def cameraConnects : List (Action (Option Bool) (QueueAction Bool (List UInt8))) :=
  [.enter none,.run none,.run none,.own (.produce true (.message false (.deviceConnect StatusAggregator.camera))),
    .enter (some true)] ++ List.replicate 3 (.run (some true)) ++ [.notify (some true) 0,.run (some true)] ++
  List.replicate 5 (.run none) ++ [.own (.thread .messages),.own (.thread .messages),.enter none] ++
  List.replicate 4 (.run none)

theorem exec_queued_cameraConnects :
    ∃ s, exec (Monitor.step AtomicQueue queueThreads) (State.init [] (init HandlerThreads.pushLibrary))
        cameraConnects = some s ∧
      s.clients.threads.handler.toInternalQueue_.length = 1 ∧
      (∃ calls, exec HandlerThreads.threadStep .init calls = some (s.clients.threads.withQueue s.object) ∧
        ∀ call ∈ calls, (call.1 = HandlerThreads.pushLibrary ∨ .own (.answer call.1) ∈ cameraConnects) ∧
          ∀ message, call.2 = .receive message → ∃ producer, .own (.produce producer message) ∈ cameraConnects) ∧
        ∀ u method seen, s.phase u = .writing method seen → (AtomicQueue.body method seen).isSome = true := by
  refine ⟨_,rfl,rfl,?_⟩
  exact exec_queued (show exec (Monitor.step AtomicQueue queueThreads) (State.init [] (init HandlerThreads.pushLibrary))
    cameraConnects = some _ from rfl)

/-- The message thread alone waits. -/
theorem callsReturned {s : Locked P β} (hs : Sound AtomicQueue queueThreads s) (hrest : AtRest AtomicQueue s) :
    (∀ producer, s.phase (some producer) = .outside) ∧
      (s.phase none = .outside ∨ s.phase none = .asleep .waitForValueWithTimeout ∧ s.object = []) := by
  constructor
  · intro producer
    apply (hrest (some producer)).resolve_right
    rintro ⟨method,hasleep,-⟩
    cases queueThreads_singleWaiter.asleep hs hasleep
  · apply (hrest none).imp_right
    rintro ⟨method,hasleep,hready⟩
    have hneeds := hs.awaits none method (by rw [hasleep]; rfl)
    cases method <;> cases hneeds
    refine ⟨hasleep,?_⟩
    simpa [Object.ready, AtomicQueue] using hready

/-- While no new call begins, every call that a thread has begun returns, in whatever order the steps come and
without any time limit having to end; the message thread alone may be left waiting, at an empty queue. -/
theorem exec_callsReturn [Fintype P] {as : List (Action (Option P) (QueueAction P β))} {s : Locked P β}
    (he : exec (Monitor.step AtomicQueue queueThreads) (State.init [] (init first)) as = some s) :
    Inevitable (Monitor.step AtomicQueue queueThreads) (fun _ a => a.Internal)
      (fun s => (∀ producer, s.phase (some producer) = .outside) ∧
        (s.phase none = .outside ∨ s.phase none = .asleep .waitForValueWithTimeout ∧ s.object = [])) s := by
  have hsettles := exec_atRest queueThreads_singleWaiter (fun _ _ hbs => (exec_follows hbs).defined) he
  apply (hsettles.and_invariant (exec_sound he) fun s a t hs _ ht => hs.step (step_cases ht)).mono
  rintro s ⟨hrest,hs⟩
  exact callsReturned hs hrest

theorem exec_callsReturn_cameraConnects :
    ∃ s, exec (Monitor.step AtomicQueue queueThreads) (State.init [] (init HandlerThreads.pushLibrary))
        cameraConnects = some s ∧
      Inevitable (Monitor.step AtomicQueue queueThreads) (fun _ a => a.Internal)
        (fun s => (∀ producer, s.phase (some producer) = .outside) ∧
          (s.phase none = .outside ∨ s.phase none = .asleep .waitForValueWithTimeout ∧ s.object = [])) s := by
  refine ⟨_,rfl,?_⟩
  exact exec_callsReturn (show exec (Monitor.step AtomicQueue queueThreads)
    (State.init [] (init HandlerThreads.pushLibrary)) cameraConnects = some _ from rfl)

end QueueThreads

end ModuleGateway.Modules
