import ModuleGateway.Modules.Answers
import ModuleGateway.Modules.IsolatedThread

/-! # The threads of the Module Handler and one device

A step of a thread is one of the device if what the thread works on is the device's: the message or
the event at the front, the command that is added, the timer, the erasure. Without the other devices
these steps are the same ones, and the other steps change nothing of what is there.
-/
namespace ModuleGateway.Modules
open Structures Execution

variable {β : Type}

/-- How often a value is in a list without one of its entries. -/
theorem count_eraseIdx {γ : Type*} [DecidableEq γ] {posted : List γ} {i : ℕ} {x : γ} (h : posted[i]? = some x)
    (k : γ) : posted.count k = (posted.eraseIdx i).count k + if x = k then 1 else 0 := by
  obtain ⟨hi,rfl⟩ := List.getElem?_eq_some_iff.mp h
  rw [← (List.getElem_cons_eraseIdx_perm hi).count_eq k, List.count_cons]
  simp only [beq_iff_eq]

namespace StatusAggregator
variable {s t : StatusAggregator β} {k : DeviceKey} {flag : Bool}

/-- The erasure of the device. -/
theorem Isolates.runPosted (h : s.Isolates k flag t) {i : ℕ} (hi : s.posted[i]? = some k) {s' : StatusAggregator β}
    (hs : s.runPosted i = some s') : ∃ t', t.runPosted 0 = some t' ∧ s'.Isolates k flag t' := by
  obtain ⟨device,hdevice,rfl⟩ := Option.map_eq_some_iff.mp hs
  obtain rfl : k = device := Option.some.inj (hi.symm.trans hdevice)
  have hposted : t.posted = k :: (s.posted.eraseIdx i).filter (· = k) := by
    rw [h.posted, List.filter_eq, List.filter_eq, count_eraseIdx hi, if_pos rfl]
    rfl
  have hrun : t.runPosted 0 = some { t with devices := t.devices.erase k, posted := t.posted.eraseIdx 0 } := by
    unfold StatusAggregator.runPosted
    rw [hposted]
    rfl
  refine ⟨_,hrun,?_,?_,h.timeouts,h.ready,h.set,?_⟩
  · dsimp only
    rw [AList.lookup_erase, AList.lookup_erase]
  · intro key hkey
    dsimp only
    rw [AList.lookup_erase_ne hkey]
    exact h.others key hkey
  · dsimp only
    rw [hposted]
    rfl

/-- The erasure of another device. -/
theorem Isolates.runPosted_other (h : s.Isolates k flag t) {i : ℕ} (hi : s.posted[i]? ≠ some k)
    {s' : StatusAggregator β} (hs : s.runPosted i = some s') : s'.Isolates k flag t := by
  obtain ⟨device,hdevice,rfl⟩ := Option.map_eq_some_iff.mp hs
  have hne : device ≠ k := by
    rintro rfl
    exact hi hdevice
  refine ⟨?_,h.others,h.timeouts,h.ready,h.set,?_⟩
  · dsimp only
    rw [AList.lookup_erase_ne hne.symm]
    exact h.lookup
  · dsimp only
    rw [h.posted, List.filter_eq, List.filter_eq, count_eraseIdx hdevice, if_neg hne, Nat.add_zero]

end StatusAggregator

namespace HandlerThreads
variable {s t : HandlerThreads β} {k : DeviceKey} {r : Round}

/-- The forward event at the front is one of the device. -/
def eventAtFront (s : HandlerThreads β) (k : DeviceKey) : Bool :=
  s.handler.commandForwardingQueue_.head?.any fun device => device.key = k

/-- What the threads hold belongs to what they work on. -/
structure Coherent (s : HandlerThreads β) : Prop where
  placed : s.handler.Placed
  inPlace : s.handler.InPlace fun _ _ => true
  hand : s.HandInPlace
  event : ∀ hand, s.forwardThread = .acted hand → ∃ device, s.handler.commandForwardingQueue_.head? = some device ∧
    ∀ taken, hand = some taken → taken.device = device

/-- `t` is `s` without the other devices. -/
structure Alone (k : DeviceKey) (r : Round) (s t : HandlerThreads β) : Prop where
  handler : s.handler.Alone k r t.handler
  statusHand : t.statusHand = s.statusHand.filter fun hand => hand.device.key = k
  forwardThread : t.forwardThread = if s.eventAtFront k then s.forwardThread else .waiting
  updated : t.updated = s.updated.filter fun device => device.key = k
  accepted : t.accepted k = s.accepted k

theorem Alone.init : (init : HandlerThreads β).Alone k .init init where
  handler := ⟨⟨.init,fun _ _ => rfl,rfl,rfl,rfl⟩,fun _ => rfl,nofun,nofun⟩
  statusHand := rfl
  forwardThread := rfl
  updated := rfl
  accepted := rfl

/-! ## What the threads hold -/

section Coherent
variable [BufferType β] {moduleLibrary_ : ModuleLibrary β}

/-- Outside of the forwarding thread no event is taken away. -/
theorem threadStep_events {a : ThreadAction β} (hforwards : a ≠ .forwards)
    (ht : s.threadStep (moduleLibrary_,a) = some t) : t.forwardThread = s.forwardThread ∧
      ∃ events, t.handler.commandForwardingQueue_ = s.handler.commandForwardingQueue_ ++ events := by
  have hsame : t.forwardThread = s.forwardThread →
      t.handler.commandForwardingQueue_ = s.handler.commandForwardingQueue_ → t.forwardThread = s.forwardThread ∧
        ∃ events, t.handler.commandForwardingQueue_ = s.handler.commandForwardingQueue_ ++ events :=
    fun hthread hqueue => ⟨hthread,[],hqueue.trans (List.append_nil _).symm⟩
  cases a with
  | forwards => exact absurd rfl hforwards
  | messages =>
    simp only [threadStep, handleMessages] at ht
    split at ht
    · split at ht
      · cases ht
        exact hsame rfl rfl
      · rename_i hnone
        obtain ⟨module_,-,rfl⟩ := Option.map_eq_some_iff.mp ht
        obtain ⟨hand,thread,heq,-⟩ := takeCommand_eq module_ s _ _ hnone
        rw [heq]
        exact ⟨rfl,[],(List.append_nil _).symm⟩
    · rename_i hcommanding
      obtain ⟨handler,hhandler,rfl⟩ := Option.map_eq_some_iff.mp ht
      exact hsame rfl (ModuleHandler.handleMessages_keeps hhandler hcommanding).events
  | command command device =>
    simp only [threadStep, handleCommands] at ht
    split at ht
    · cases ht
      obtain h | ⟨module_,-,-,h,-⟩ := updateCommand_eq moduleLibrary_ s command device <;>
        rw [h] <;> exact ⟨rfl,[],(List.append_nil _).symm⟩
    · cases ht
  | event =>
    obtain ⟨device,-,rfl⟩ := Option.map_eq_some_iff.mp ht
    exact ⟨rfl,_,rfl⟩
  | force device =>
    obtain ⟨module_,-,rfl⟩ := Option.map_eq_some_iff.mp ht
    exact hsame rfl rfl
  | tick number deviceId =>
    obtain ⟨module_,-,rfl⟩ := Option.map_eq_some_iff.mp ht
    exact hsame rfl rfl
  | erase number i =>
    obtain ⟨aggregator,-,rfl⟩ := Option.map_eq_some_iff.mp ht
    exact hsame rfl rfl
  | _ =>
    cases ht
    exact hsame rfl rfl

omit [BufferType β] in
theorem Coherent.init : (init : HandlerThreads β).Coherent :=
  ⟨⟨nofun,nofun,nofun⟩,ModuleHandler.InPlace.init,HandInPlace.init,nofun⟩

theorem Coherent.messages_placed (hs : s.Coherent) (ht : s.handleMessages moduleLibrary_ = some t) :
    t.handler.Placed := by
  unfold handleMessages at ht
  split at ht
  · rename_i status device rc hthread
    split at ht
    · rename_i hand hhand
      cases ht
      obtain ⟨status',rc',hat⟩ := hs.hand hand hhand
      refine hs.placed.goes rfl (fun _ => by rw [hthread]; rfl) ?_ nofun
      rintro _ ⟨⟩
      rw [hat]
      rfl
    · rename_i hnone
      obtain ⟨module_,-,rfl⟩ := Option.map_eq_some_iff.mp ht
      obtain ⟨hand,thread,heq,⟨-,-,rfl,-⟩ | ⟨-,rfl | rfl⟩⟩ := takeCommand_eq module_ s status device hnone <;>
        rw [heq]
      · exact hs.placed.goes rfl (fun h => h) (fun _ h => h) hs.placed.collects
      · exact hs.placed.goes rfl (fun _ => by rw [hthread]; rfl) nofun nofun
      · exact hs.placed.goes rfl nofun nofun nofun
  · obtain ⟨handler,hhandler,rfl⟩ := Option.map_eq_some_iff.mp ht
    exact hs.placed.handleMessages hs.inPlace hhandler

theorem Coherent.forwards_event (ht : s.handleCommandForwards moduleLibrary_ = some t) (hand : Option (Hand β))
    (hhand : t.forwardThread = .acted hand) : ∃ device, t.handler.commandForwardingQueue_.head? = some device ∧
      ∀ taken, hand = some taken → taken.device = device := by
  unfold handleCommandForwards at ht
  split at ht
  · cases ht
    cases hhand
  · split at ht
    · cases ht
    · rename_i deviceId rest hqueue
      have hfront : s.handler.commandForwardingQueue_.head? = some deviceId := by rw [hqueue]; rfl
      obtain ⟨-,rfl⟩ | ⟨module_,hand',-,rfl,htaken⟩ := takeForwarded_eq ht
      · cases hhand
        exact ⟨deviceId,hfront,nofun⟩
      · cases hhand
        exact ⟨deviceId,hfront,fun taken h => (htaken taken h).owner⟩

theorem Coherent.step (hs : s.Coherent) {a : ThreadAction β} (ha : a.ofServer = false)
    (ht : s.threadStep (moduleLibrary_,a) = some t) : t.Coherent where
  placed := by
    by_cases hmessages : a = .messages
    · subst hmessages
      exact hs.messages_placed ht
    · obtain ⟨forwarded,hleaves⟩ := threadStep_leaves hmessages ha ht
      refine hs.placed.goes hleaves.incoming ?_ ?_ ?_ <;> rw [hleaves.thread]
      · exact fun h => h
      · exact fun _ h => h
      · exact hs.placed.collects
  inPlace := (threadStep_change ht).inPlace (fun _ _ _ _ _ => rfl) hs.inPlace
  hand := hs.hand.step ht
  event hand hhand := by
    by_cases hforwards : a = .forwards
    · subst hforwards
      exact Coherent.forwards_event ht hand hhand
    · obtain ⟨hthread,events,hqueue⟩ := threadStep_events hforwards ht
      obtain ⟨device,hfront,htaken⟩ := hs.event hand (hthread ▸ hhand)
      refine ⟨device,?_,htaken⟩
      rw [hqueue, List.head?_append, hfront]
      rfl

omit [BufferType β] in
theorem Coherent.receive (hs : s.Coherent) (messages : List (InternalClientMessage β)) :
    (s.withHandler { s.handler with
      fromInternalQueue_ := s.handler.fromInternalQueue_ ++ messages }).Coherent where
  placed := by
    refine ⟨?_,?_,hs.placed.collects⟩
    · intro hhas
      exact List.append_ne_nil_of_left_ne_nil (hs.placed.message hhas) messages
    · intro device hdevice
      have hhead := hs.placed.device device hdevice
      dsimp only [withHandler]
      rw [List.head?_append]
      cases hqueue : s.handler.fromInternalQueue_.head? with
      | none =>
        rw [hqueue] at hhead
        cases hhead
      | some message =>
        rw [hqueue] at hhead
        exact hhead
  inPlace := hs.inPlace
  hand := hs.hand
  event := hs.event

omit [BufferType β] in
/-- The Module Handler handed its messages over. -/
theorem Coherent.handOver (hs : s.Coherent) :
    (s.withHandler { s.handler with toInternalQueue_ := [] }).Coherent where
  placed := ⟨hs.placed.message,hs.placed.device,hs.placed.collects⟩
  inPlace := hs.inPlace
  hand := hs.hand
  event := hs.event

/-- What the threads hold belongs to what they work on, in every run. -/
theorem exec_coherent {calls : List (ModuleLibrary β × ThreadAction β)}
    (he : exec threadStep .init calls = some s) : s.Coherent := by
  apply exec_invariant Coherent.init ?_ he
  rintro s ⟨library,action⟩ t hs ht
  cases haction : action.ofServer with
  | false => exact hs.step haction ht
  | true =>
    cases action <;> cases haction <;> cases ht
    · exact hs.receive [_]
    · exact ⟨⟨hs.placed.message,hs.placed.device,hs.placed.collects⟩,hs.inPlace,hs.hand,hs.event⟩

end Coherent

/-! ## Steps on both sides, and on one -/

theorem Alone.nextNumber (h : s.Alone k r t) : t.nextNumber k = s.nextNumber k := by
  unfold HandlerThreads.nextNumber taken ModuleHandler.externalCommandQueue
  rw [h.accepted, h.handler.devices.entry]

/-- A change of the handler on both sides that takes no event away. -/
theorem Alone.withHandler (h : s.Alone k r t) {r' : Round} {handler handler' : ModuleHandler β}
    (hhandler : handler.Alone k r' handler')
    (hevents : handler.commandForwardingQueue_ = s.handler.commandForwardingQueue_) :
    (s.withHandler handler).Alone k r' (t.withHandler handler') where
  handler := hhandler
  statusHand := h.statusHand
  forwardThread := by
    unfold eventAtFront HandlerThreads.withHandler
    dsimp only
    rw [hevents]
    exact h.forwardThread
  updated := h.updated
  accepted := h.accepted

/-- A change of the handler that is none without the other devices. -/
theorem Alone.withHandler_left (h : s.Alone k r t) {r' : Round} {handler : ModuleHandler β}
    (hhandler : handler.Alone k r' t.handler)
    (hevents : handler.commandForwardingQueue_ = s.handler.commandForwardingQueue_) :
    (s.withHandler handler).Alone k r' t := h.withHandler hhandler hevents

end HandlerThreads

namespace ModuleHandler
variable {s t s' t' : ModuleHandler β} {k : DeviceKey} {r : Round} {flag : Bool}

/-- The message thread stays where it is. -/
theorem Alone.environment (h : s.Alone k r t) (hdevices : s'.Isolates k flag t') (hthread : s'.thread = s.thread)
    (hthread' : t'.thread = t.thread) (hqueue : s'.fromInternalQueue_ = s.fromInternalQueue_) :
    s'.Alone k { r with flag := flag } t' where
  devices := hdevices
  place hlive := by
    have hflag : ∀ (thread : MessageThread β) mine,
        thread.alone { r with flag := flag } k mine = thread.alone r k mine := by
      intro thread mine
      cases thread <;> rfl
    rw [hthread] at hlive
    rw [hthread', hthread, atFront_congr hqueue, hflag]
    exact h.place hlive
  joins hhas hmine := by
    rw [hthread] at hhas
    rw [atFront_congr hqueue] at hmine
    exact h.joins hhas hmine
  collects := h.collects

/-- A message comes in, for both or for another device. -/
theorem Alone.receive (h : s.Alone k r t) (hplaced : s.Placed) {messages : List (InternalClientMessage β)} :
    ({ s with fromInternalQueue_ := s.fromInternalQueue_ ++ messages } : ModuleHandler β).Alone k r
      { t with
        fromInternalQueue_ := t.fromInternalQueue_ ++ messages.filter fun message => subject message = some k } := by
  have hfront : s.thread.hasMessage = true →
      ({ s with fromInternalQueue_ := s.fromInternalQueue_ ++ messages } : ModuleHandler β).atFront k = s.atFront k := by
    intro hhas
    obtain ⟨message,rest,hqueue⟩ := List.exists_cons_of_ne_nil (hplaced.message hhas)
    unfold atFront
    dsimp only
    rw [hqueue]
    rfl
  refine ⟨⟨h.devices.aggregator,h.devices.others,?_,h.devices.outgoing,h.devices.events⟩,?_,?_,h.collects⟩
  · dsimp only
    rw [List.filter_append, h.devices.incoming]
  · intro hlive
    refine (h.place hlive).trans ?_
    cases hhas : s.thread.hasMessage with
    | true => rw [hfront hhas]
    | false => exact MessageThread.alone_of_not_hasMessage hhas _
  · intro hhas hmine
    rw [hfront hhas] at hmine
    exact h.joins hhas hmine

end ModuleHandler

namespace HandlerThreads
variable {s t : HandlerThreads β} {k : DeviceKey} {r : Round}

/-! ## The message thread -/

section Messages
variable [BufferType β] {moduleLibrary_ : ModuleLibrary β} {s' : HandlerThreads β}

theorem Alone.takeCommand_own (h : s.Alone k r t) {status : β} {device : DeviceIdentification} {rc : ℕ}
    (hthread : s.handler.thread = .commanding status device rc) (hk : device.key = k)
    (hmine : s.handler.atFront k = true) (module_ : ModuleLibraryHandler β) :
    (takeCommand module_ s status device).Alone k r (takeCommand module_ t status device) := by
  have hhandles : s.handler.thread.handles = true := by rw [hthread]; rfl
  have hthread' : t.handler.thread = s.handler.thread := by
    rw [h.handler.place (by rw [hthread]; rintro ⟨⟩), MessageThread.alone_of_handles hhandles, hmine, if_pos rfl]
  have hanswer : ((t.handler.statusAggregators device.module_).get_command module_ status device).map Prod.fst =
      ((s.handler.statusAggregators device.module_).get_command module_ status device).map Prod.fst :=
    StatusAggregator.getCommandUnlocked_congr module_ status (h.handler.devices.lookup hk)
  have hgot := h.handler.devices.operate hk module_
    (rfl : (Operation.get_command status device).device = some device.key)
  have hnumber : t.nextNumber device.key = s.nextNumber device.key := by
    subst hk
    exact h.nextNumber
  have htaken : ∀ a b, (s.handler.setAggregator device.module_ a).Isolates k r.flag
      (t.handler.setAggregator device.module_ b) → ∀ command number,
        ({ s with
          handler := s.handler.setAggregator device.module_ a
          statusHand := some ⟨device,command,number⟩ } : HandlerThreads β).Alone k r
        { t with
          handler := t.handler.setAggregator device.module_ b
          statusHand := some ⟨device,command,number⟩ } := by
    intro a b hab command number
    have hhandler := h.handler.handled_own hhandles hmine hab hthread' (.inl hhandles) rfl
    refine ⟨hhandler,Eq.symm (Option.filter_some_pos ?_),h.forwardThread,h.updated,h.accepted⟩
    exact decide_eq_true hk
  have hleft : ∀ thread : MessageThread β, thread = .popping ∨ thread = .terminated →
      ∀ a b, (s.handler.setAggregator device.module_ a).Isolates k r.flag (t.handler.setAggregator device.module_ b) →
      (s.withHandler ((s.handler.setAggregator device.module_ a).goto thread)).Alone k r
        (t.withHandler ((t.handler.setAggregator device.module_ b).goto thread)) := by
    intro thread hthread a b hab
    refine h.withHandler (h.handler.handled_own hhandles hmine (hab.goto _ _) rfl ?_ rfl) rfl
    obtain rfl | rfl := hthread
    · exact .inl rfl
    · exact .inr rfl
  simp only [StatusAggregator.operate] at hgot
  unfold takeCommand
  generalize (s.handler.statusAggregators device.module_).get_command module_ status device = answer at hanswer hgot ⊢
  generalize (t.handler.statusAggregators device.module_).get_command module_ status device = answer' at hanswer hgot ⊢
  cases answer with
  | none =>
    obtain rfl : answer' = none := by simpa using hanswer
    refine h.withHandler ⟨h.handler.devices.goto _ _,?_,by rintro ⟨⟩,h.handler.collects⟩ rfl
    intro hlive
    exact absurd rfl hlive
  | some answer =>
    obtain ⟨result,a⟩ := answer
    obtain ⟨⟨result',b⟩,rfl,hresult⟩ := Option.map_eq_some_iff.mp hanswer
    obtain rfl : result' = result := hresult
    cases result' with
    | ok command =>
      dsimp only
      rw [hnumber]
      exact htaken a b hgot _ _
    | error code =>
      cases code <;> first
        | exact htaken a b hgot _ _
        | exact hleft .terminated (.inr rfl) a b hgot
        | exact hleft .popping (.inl rfl) a b hgot

theorem Alone.takeCommand_other (h : s.Alone k r t) {status : β} {device : DeviceIdentification} {rc : ℕ}
    (hthread : s.handler.thread = .commanding status device rc) (hk : device.key ≠ k)
    (hmine : s.handler.atFront k = false) (hnone : s.statusHand = none) (module_ : ModuleLibraryHandler β) :
    (takeCommand module_ s status device).Alone k r t := by
  have hhandles : s.handler.thread.handles = true := by rw [hthread]; rfl
  have hwaiting : t.handler.thread = .waiting := by
    rw [h.handler.place (by rw [hthread]; nofun), MessageThread.alone_of_handles hhandles, hmine]
    rfl
  have hgot := h.handler.devices.operate_other device.module_ module_
    (rfl : (Operation.get_command status device).device = some device.key) hk
  have hempty : t.statusHand = none := by
    rw [h.statusHand, hnone]
    rfl
  obtain ⟨hand,thread,heq,⟨taken,rfl,rfl,htaken⟩ | ⟨rfl,hended⟩⟩ := takeCommand_eq module_ s status device hnone
  · rw [heq]
    have hhandler := h.handler.handled_other hhandles hmine (hgot.goto_left s.handler.thread) (.inl hhandles) rfl
    refine ⟨hhandler,?_,h.forwardThread,h.updated,h.accepted⟩
    rw [hempty, Option.filter_some_neg]
    rw [htaken.owner]
    simpa using hk
  · rw [heq]
    have hhandler := h.handler.handled_other hhandles hmine (hgot.goto_left thread)
      (hended.imp (fun hpopping => by rw [hpopping]; rfl) id) rfl
    exact ⟨hhandler,hempty,h.forwardThread,h.updated,h.accepted⟩

theorem handleMessages_eq (moduleLibrary_ : ModuleLibrary β)
    (h : ∀ status device rc, t.handler.thread ≠ .commanding status device rc) :
    t.handleMessages moduleLibrary_ = (t.handler.handleMessages moduleLibrary_).map t.withHandler := by
  unfold handleMessages
  split
  · rename_i hthread
    exact absurd hthread (h _ _ _)
  · rfl

/-- A step that the message thread takes where there is no other device too. -/
theorem Alone.messages_own (h : s.Alone k r t) (hs : s.Coherent) (hacts : r.acts k s.handler = true)
    (ht : s.handleMessages moduleLibrary_ = some s') :
    ∃ t', t.handleMessages moduleLibrary_ = some t' ∧ s'.Alone k (r.next k s.handler) t' := by
  unfold handleMessages at ht
  split at ht
  · rename_i status device rc hthread
    have hhandles : s.handler.thread.handles = true := by rw [hthread]; rfl
    rw [ModuleHandler.acts_of_handles hhandles] at hacts
    have hk : device.key = k := by
      have hfront := ModuleHandler.atFront_of_subject (k := k) (hs.placed.device device (by rw [hthread]; rfl))
      rwa [hacts, eq_comm, decide_eq_true_eq] at hfront
    have hthread' : t.handler.thread = .commanding status device rc := by
      rw [h.handler.place (by rw [hthread]; nofun), MessageThread.alone_of_handles hhandles, hacts, if_pos rfl, hthread]
    rw [ModuleHandler.next_of_handles hhandles]
    unfold handleMessages
    rw [hthread']
    dsimp only
    have hstatusHand := h.statusHand
    split at ht
    · rename_i hand hhand
      cases ht
      obtain ⟨status',rc',hat⟩ := hs.hand hand hhand
      obtain rfl : device = hand.device := by
        rw [hthread] at hat
        cases hat
        rfl
      rw [hhand, Option.filter_some_pos (by simpa using hk)] at hstatusHand
      rw [hstatusHand]
      have hpushed : (s.handler.pushInternal (.message (.deviceCommand ⟨hand.device,hand.command⟩))).Isolates k r.flag
          (t.handler.pushInternal (.message (.deviceCommand ⟨hand.device,hand.command⟩))) :=
        h.handler.devices.pushInternal hk
      refine ⟨_,rfl,?_,rfl,h.forwardThread,h.updated,h.accepted⟩
      exact h.handler.handled_own hhandles hacts (hpushed.goto _ _) rfl (.inl rfl) rfl
    · rename_i hnone
      obtain ⟨module_,hm,rfl⟩ := Option.map_eq_some_iff.mp ht
      rw [hnone] at hstatusHand
      rw [hstatusHand]
      dsimp only [Option.filter]
      rw [hm]
      exact ⟨_,rfl,h.takeCommand_own hthread hk hacts module_⟩
  · rename_i hcommanding
    obtain ⟨handler,hhandler,rfl⟩ := Option.map_eq_some_iff.mp ht
    obtain ⟨handler',ht',halone⟩ := h.handler.handleMessages_own hs.placed hs.inPlace hcommanding hacts hhandler
    refine ⟨t.withHandler handler',?_,h.withHandler halone (ModuleHandler.handleMessages_keeps hhandler hcommanding).events⟩
    have hlive : s.handler.thread ≠ .terminated := by
      intro hended
      unfold ModuleHandler.handleMessages at hhandler
      rw [hended] at hhandler
      cases hhandler
    rw [handleMessages_eq moduleLibrary_, ht']
    · rfl
    · intro status device rc hat
      rw [h.handler.place hlive] at hat
      exact hcommanding status device rc (MessageThread.eq_commanding_of_alone hat)

/-- A step of the message thread that is nothing where there is no other device. -/
theorem Alone.messages_other (h : s.Alone k r t) (hs : s.Coherent) (hg : r.leaves k s.handler = true)
    (hacts : r.acts k s.handler = false) (ht : s.handleMessages moduleLibrary_ = some s') :
    s'.Alone k (r.next k s.handler) t := by
  unfold handleMessages at ht
  split at ht
  · rename_i status device rc hthread
    have hhandles : s.handler.thread.handles = true := by rw [hthread]; rfl
    rw [ModuleHandler.acts_of_handles hhandles] at hacts
    have hk : device.key ≠ k := by
      have hfront := ModuleHandler.atFront_of_subject (k := k) (hs.placed.device device (by rw [hthread]; rfl))
      rwa [hacts, eq_comm, decide_eq_false_iff_not] at hfront
    rw [ModuleHandler.next_of_handles hhandles]
    split at ht
    · rename_i hand hhand
      cases ht
      obtain ⟨status',rc',hat⟩ := hs.hand hand hhand
      obtain rfl : device = hand.device := by
        rw [hthread] at hat
        cases hat
        rfl
      have hstatusHand := h.statusHand
      rw [hhand, Option.filter_some_neg (by simpa using hk)] at hstatusHand
      have hpushed : (s.handler.pushInternal (.message (.deviceCommand ⟨hand.device,hand.command⟩))).Isolates k r.flag
          t.handler := h.handler.devices.pushInternal_other hk
      refine ⟨?_,hstatusHand,h.forwardThread,h.updated,h.accepted⟩
      exact h.handler.handled_other hhandles hacts (hpushed.goto_left _) (.inl rfl) rfl
    · rename_i hnone
      obtain ⟨module_,-,rfl⟩ := Option.map_eq_some_iff.mp ht
      exact h.takeCommand_other hthread hk hacts hnone module_
  · rename_i hcommanding
    obtain ⟨handler,hhandler,rfl⟩ := Option.map_eq_some_iff.mp ht
    have halone := h.handler.handleMessages_other hs.placed hcommanding hg hacts hhandler
    exact h.withHandler_left halone (ModuleHandler.handleMessages_keeps hhandler hcommanding).events

end Messages

/-! ## The forwarding thread -/

section Forwards
variable {moduleLibrary_ : ModuleLibrary β} {s' : HandlerThreads β} {device : DeviceIdentification}
  {rest : List DeviceIdentification}

theorem eventAtFront_cons (h : s.handler.commandForwardingQueue_ = device :: rest) :
    s.eventAtFront k = decide (device.key = k) := by
  unfold eventAtFront
  rw [h]
  rfl

theorem eventAtFront_congr (h : s'.handler.commandForwardingQueue_ = s.handler.commandForwardingQueue_) :
    s'.eventAtFront k = s.eventAtFront k := by
  unfold eventAtFront
  rw [h]

/-- The forwarding thread goes on with the event at the front. -/
theorem Alone.acted_own (h : s.Alone k r t) {handler handler' : ModuleHandler β}
    (hdevices : handler.Isolates k r.flag handler') (hthread : handler.thread = s.handler.thread)
    (hthread' : handler'.thread = t.handler.thread)
    (hqueue : handler.fromInternalQueue_ = s.handler.fromInternalQueue_)
    (hevents : handler.commandForwardingQueue_ = s.handler.commandForwardingQueue_) (hmine : s.eventAtFront k = true)
    (forwardThread : ForwardThread β) :
    ({ s with handler := handler, forwardThread := forwardThread } : HandlerThreads β).Alone k r
      { t with handler := handler', forwardThread := forwardThread } := by
  refine ⟨h.handler.environment hdevices hthread hthread' hqueue,h.statusHand,?_,h.updated,h.accepted⟩
  have hmine' : ({ s with handler := handler, forwardThread := forwardThread } : HandlerThreads β).eventAtFront k =
      true := (eventAtFront_congr hevents).trans hmine
  rw [hmine']
  rfl

/-- The forwarding thread goes on with an event of another device. -/
theorem Alone.acted_other (h : s.Alone k r t) {handler : ModuleHandler β}
    (hdevices : handler.Isolates k r.flag t.handler) (hthread : handler.thread = s.handler.thread)
    (hqueue : handler.fromInternalQueue_ = s.handler.fromInternalQueue_)
    (hevents : handler.commandForwardingQueue_ = s.handler.commandForwardingQueue_) (hmine : s.eventAtFront k = false)
    (forwardThread : ForwardThread β) :
    ({ s with handler := handler, forwardThread := forwardThread } : HandlerThreads β).Alone k r t := by
  refine ⟨h.handler.environment hdevices hthread rfl hqueue,h.statusHand,?_,h.updated,h.accepted⟩
  have hmine' : ({ s with handler := handler, forwardThread := forwardThread } : HandlerThreads β).eventAtFront k =
      false := (eventAtFront_congr hevents).trans hmine
  have hforward := h.forwardThread
  rw [hmine] at hforward
  rw [hmine']
  exact hforward

theorem Alone.takeForwarded_own [BufferType β] (h : s.Alone k r t) (hk : device.key = k)
    (hmine : s.eventAtFront k = true) (hs : s.takeForwarded moduleLibrary_ device = some s') :
    ∃ t', t.takeForwarded moduleLibrary_ device = some t' ∧ s'.Alone k r t' := by
  unfold takeForwarded at hs ⊢
  cases hm : moduleLibrary_.lookup device.module_ with
  | none =>
    rw [hm] at hs
    cases hs
    exact ⟨_,rfl,h.acted_own h.handler.devices rfl rfl rfl rfl hmine _⟩
  | some module_ =>
    rw [hm] at hs
    dsimp only at hs ⊢
    have hanswer := StatusAggregator.get_command_for_forwarding_congr module_ (h.handler.devices.lookup hk)
    have hgot := h.handler.devices.operate hk module_
      (rfl : (Operation.get_command_for_forwarding device : Operation β).device = some device.key)
    have hnumber : t.nextNumber device.key = s.nextNumber device.key := by
      subst hk
      exact h.nextNumber
    simp only [StatusAggregator.operate] at hgot
    generalize (s.handler.statusAggregators device.module_).get_command_for_forwarding module_ device = answer
      at hs hanswer hgot
    generalize (t.handler.statusAggregators device.module_).get_command_for_forwarding module_ device = answer'
      at hanswer hgot ⊢
    cases answer with
    | none => cases hs
    | some answer =>
      obtain ⟨result,a⟩ := answer
      obtain ⟨⟨result',b⟩,rfl,hresult⟩ := Option.map_eq_some_iff.mp hanswer
      obtain rfl : result' = result := hresult
      cases result' with
      | ok command =>
        cases hs
        dsimp only
        rw [hnumber]
        exact ⟨_,rfl,h.acted_own hgot rfl rfl rfl rfl hmine _⟩
      | error code =>
        cases code <;> first | cases hs; exact ⟨_,rfl,h.acted_own hgot rfl rfl rfl rfl hmine _⟩ | cases hs

theorem Alone.takeForwarded_other [BufferType β] (h : s.Alone k r t) (hk : device.key ≠ k)
    (hmine : s.eventAtFront k = false) (hs : s.takeForwarded moduleLibrary_ device = some s') : s'.Alone k r t := by
  obtain ⟨-,rfl⟩ | ⟨module_,hand,-,rfl,-⟩ := takeForwarded_eq hs
  · exact h.acted_other h.handler.devices rfl rfl rfl hmine _
  · have hgot := h.handler.devices.operate_other device.module_ module_
      (rfl : (Operation.get_command_for_forwarding device : Operation β).device = some device.key) hk
    exact h.acted_other hgot rfl rfl rfl hmine _

/-- The event at the front is taken out of the queue. -/
theorem Alone.popped_own (h : s.Alone k r t) {handler handler' : ModuleHandler β}
    (hdevices : handler.Isolates k r.flag handler') (hthread : handler.thread = s.handler.thread)
    (hthread' : handler'.thread = t.handler.thread)
    (hqueue : handler.fromInternalQueue_ = s.handler.fromInternalQueue_)
    (hevents : handler.commandForwardingQueue_ = device :: rest) (hk : device.key = k)
    (pushed pushed' : List (DeviceKey × ℕ)) :
    ({ s with
      handler := { handler with commandForwardingQueue_ := handler.commandForwardingQueue_.tail }
      pushed := pushed
      forwardThread := .waiting } : HandlerThreads β).Alone k r
    { t with
      handler := { handler' with commandForwardingQueue_ := handler'.commandForwardingQueue_.tail }
      pushed := pushed'
      forwardThread := .waiting } := by
  refine ⟨h.handler.environment ?_ hthread hthread' hqueue,h.statusHand,(ite_self _).symm,h.updated,h.accepted⟩
  refine ⟨hdevices.aggregator,hdevices.others,hdevices.incoming,hdevices.outgoing,?_⟩
  dsimp only
  rw [hdevices.events, hevents, List.filter_cons_of_pos (by simpa using hk)]
  rfl

theorem Alone.popped_other (h : s.Alone k r t) {handler : ModuleHandler β}
    (hdevices : handler.Isolates k r.flag t.handler) (hthread : handler.thread = s.handler.thread)
    (hqueue : handler.fromInternalQueue_ = s.handler.fromInternalQueue_)
    (hevents : handler.commandForwardingQueue_ = device :: rest) (hk : device.key ≠ k)
    (hwaiting : t.forwardThread = .waiting) (pushed : List (DeviceKey × ℕ)) :
    ({ s with
      handler := { handler with commandForwardingQueue_ := handler.commandForwardingQueue_.tail }
      pushed := pushed
      forwardThread := .waiting } : HandlerThreads β).Alone k r t := by
  refine ⟨h.handler.environment ?_ hthread rfl hqueue,h.statusHand,hwaiting.trans (ite_self _).symm,h.updated,h.accepted⟩
  refine ⟨hdevices.aggregator,hdevices.others,hdevices.incoming,hdevices.outgoing,?_⟩
  rw [hdevices.events, hevents, List.filter_cons_of_neg (by simpa using hk)]
  rfl

theorem Coherent.front (hs : s.Coherent) {hand : Option (Hand β)} (hacted : s.forwardThread = .acted hand) :
    ∃ device rest, s.handler.commandForwardingQueue_ = device :: rest ∧
      ∀ taken, hand = some taken → taken.device = device := by
  obtain ⟨device,hfront,htaken⟩ := hs.event hand hacted
  cases hqueue : s.handler.commandForwardingQueue_ with
  | nil =>
    rw [hqueue] at hfront
    cases hfront
  | cons device' rest =>
    rw [hqueue] at hfront
    obtain rfl : device' = device := Option.some.inj hfront
    exact ⟨device',rest,rfl,htaken⟩

/-- The event at the front is one of the device. -/
theorem Alone.forwards_own [BufferType β] (h : s.Alone k r t) (hs : s.Coherent) (hmine : s.eventAtFront k = true)
    (ht : s.handleCommandForwards moduleLibrary_ = some s') :
    ∃ t', t.handleCommandForwards moduleLibrary_ = some t' ∧ s'.Alone k r t' := by
  have hforward : t.forwardThread = s.forwardThread := h.forwardThread.trans (if_pos hmine)
  unfold handleCommandForwards at ht ⊢
  rw [hforward]
  split at ht
  · rename_i hand hacted
    cases ht
    obtain ⟨device,rest,hqueue,htaken⟩ := hs.front hacted
    have hk : device.key = k := by
      rwa [eventAtFront_cons hqueue, decide_eq_true_eq] at hmine
    refine ⟨_,rfl,?_⟩
    cases hand with
    | none => exact h.popped_own h.handler.devices rfl rfl rfl hqueue hk s.pushed t.pushed
    | some hand =>
      have hpushed : (s.handler.pushInternal (.message (.deviceCommand ⟨hand.device,hand.command⟩))).Isolates k r.flag
          (t.handler.pushInternal (.message (.deviceCommand ⟨hand.device,hand.command⟩))) := by
        refine h.handler.devices.pushInternal ?_
        rw [← hk, ← htaken hand rfl]
        rfl
      exact h.popped_own hpushed rfl rfl rfl hqueue hk _ _
  · split at ht
    · cases ht
    · rename_i device rest hqueue
      have hk : device.key = k := by
        rwa [eventAtFront_cons hqueue, decide_eq_true_eq] at hmine
      have hqueue' : t.handler.commandForwardingQueue_ = device :: rest.filter fun device => device.key = k := by
        rw [h.handler.devices.events, hqueue]
        exact List.filter_cons_of_pos (decide_eq_true hk)
      rw [hqueue']
      exact h.takeForwarded_own hk hmine ht

/-- The event at the front is one of another device. -/
theorem Alone.forwards_other [BufferType β] (h : s.Alone k r t) (hs : s.Coherent) (hmine : s.eventAtFront k = false)
    (ht : s.handleCommandForwards moduleLibrary_ = some s') : s'.Alone k r t := by
  have hforward : t.forwardThread = .waiting := by
    rw [h.forwardThread, hmine]
    rfl
  unfold handleCommandForwards at ht
  split at ht
  · rename_i hand hacted
    cases ht
    obtain ⟨device,rest,hqueue,htaken⟩ := hs.front hacted
    have hk : device.key ≠ k := by
      rwa [eventAtFront_cons hqueue, decide_eq_false_iff_not] at hmine
    cases hand with
    | none => exact h.popped_other h.handler.devices rfl rfl hqueue hk hforward s.pushed
    | some hand =>
      have hpushed : (s.handler.pushInternal (.message (.deviceCommand ⟨hand.device,hand.command⟩))).Isolates k r.flag
          t.handler := by
        refine h.handler.devices.pushInternal_other ?_
        rw [← htaken hand rfl] at hk
        exact hk
      exact h.popped_other hpushed rfl rfl hqueue hk hforward _
  · split at ht
    · cases ht
    · rename_i device rest hqueue
      have hk : device.key ≠ k := by
        rwa [eventAtFront_cons hqueue, decide_eq_false_iff_not] at hmine
      exact h.takeForwarded_other hk hmine ht

end Forwards

/-! ## Commands, timers and erasures -/

section Environment
variable {moduleLibrary_ : ModuleLibrary β} {device : DeviceIdentification}

/-- Another thread or the environment changes the aggregators on both sides. -/
theorem Alone.aggregators_own (h : s.Alone k r t) {number number' : ℤ} {a b : StatusAggregator β} {flag : Bool}
    (hab : (s.handler.setAggregator number a).Isolates k flag (t.handler.setAggregator number' b)) :
    (s.withHandler (s.handler.setAggregator number a)).Alone k { r with flag := flag }
      (t.withHandler (t.handler.setAggregator number' b)) := h.withHandler (h.handler.environment hab rfl rfl rfl) rfl

theorem Alone.aggregators_other (h : s.Alone k r t) {number : ℤ} {a : StatusAggregator β}
    (ha : (s.handler.setAggregator number a).Isolates k r.flag t.handler) :
    (s.withHandler (s.handler.setAggregator number a)).Alone k r t :=
  h.withHandler_left (h.handler.environment ha rfl rfl rfl) rfl

theorem Alone.updateCommand_own [BufferType β] (h : s.Alone k r t) (hk : device.key = k) (command : β) :
    (s.updateCommand moduleLibrary_ command device).Alone k r
      (t.updateCommand moduleLibrary_ command device) := by
  unfold updateCommand
  cases moduleLibrary_.lookup device.module_ with
  | none => exact h
  | some module_ =>
    dsimp only
    split
    · have hanswer := StatusAggregator.update_command_congr module_ command (h.handler.devices.lookup hk)
      have hgot := h.handler.devices.operate hk module_
        (rfl : (Operation.update_command command device).device = some device.key)
      simp only [StatusAggregator.operate] at hgot
      generalize (s.handler.statusAggregators device.module_).update_command module_ command device = answer
        at hanswer hgot ⊢
      generalize (t.handler.statusAggregators device.module_).update_command module_ command device = answer'
        at hanswer hgot ⊢
      obtain ⟨code,a⟩ := answer
      obtain ⟨code',b⟩ := answer'
      obtain rfl : code' = code := hanswer
      have hchanged := h.aggregators_own hgot
      cases code' with
      | OK =>
        refine ⟨hchanged.handler,hchanged.statusHand,hchanged.forwardThread,Eq.symm (Option.filter_some_pos ?_),?_⟩
        · exact decide_eq_true hk
        · subst hk
          dsimp only
          rw [Function.update_self, Function.update_self, h.accepted]
      | _ => exact hchanged
    · exact h

theorem Alone.updateCommand_other [BufferType β] (h : s.Alone k r t) (hk : device.key ≠ k) (hidle : s.updated = none)
    (command : β) : (s.updateCommand moduleLibrary_ command device).Alone k r t := by
  obtain heq | ⟨module_,-,-,heq,-⟩ := updateCommand_eq moduleLibrary_ s command device
  · rw [heq]
    exact h
  · have hgot := h.handler.devices.operate_other device.module_ module_
      (rfl : (Operation.update_command command device).device = some device.key) hk
    have hchanged := h.aggregators_other hgot
    rw [heq]
    refine ⟨hchanged.handler,hchanged.statusHand,hchanged.forwardThread,?_,?_⟩
    · rw [h.updated, hidle]
      exact (Option.filter_some_neg (by simpa using hk)).symm
    · dsimp only
      rw [Function.update_of_ne hk.symm, h.accepted]

/-- Forward events come in; those of the device come in without the others too. -/
theorem Alone.appendEvents (h : s.Alone k r t) (hs : s.Coherent) {events events' : List DeviceIdentification}
    (hevents : events' = events.filter fun device => device.key = k) (updated : Option DeviceIdentification) :
    ({ s with
      updated := updated
      handler := { s.handler with
        commandForwardingQueue_ := s.handler.commandForwardingQueue_ ++ events } } : HandlerThreads β).Alone k r
    { t with
      updated := updated.filter fun device => device.key = k
      handler := { t.handler with commandForwardingQueue_ := t.handler.commandForwardingQueue_ ++ events' } } := by
  have hdevices : ({ s.handler with commandForwardingQueue_ := s.handler.commandForwardingQueue_ ++ events } :
      ModuleHandler β).Isolates k r.flag
        { t.handler with commandForwardingQueue_ := t.handler.commandForwardingQueue_ ++ events' } := by
    have hdevices := h.handler.devices
    refine ⟨hdevices.aggregator,hdevices.others,hdevices.incoming,hdevices.outgoing,?_⟩
    dsimp only
    rw [List.filter_append, hevents, hdevices.events]
  refine ⟨h.handler.environment hdevices rfl rfl rfl,h.statusHand,?_,rfl,h.accepted⟩
  refine h.forwardThread.trans ?_
  cases hforward : s.forwardThread with
  | waiting => rw [ite_self, ite_self]
  | acted hand =>
    obtain ⟨device,rest,hqueue,-⟩ := hs.front hforward
    unfold eventAtFront
    dsimp only
    rw [hqueue]
    rfl

theorem Alone.pushEvent_own (h : s.Alone k r t) (hs : s.Coherent) (hk : device.key = k) :
    (s.pushEvent moduleLibrary_ device).Alone k r (t.pushEvent moduleLibrary_ device) := by
  unfold pushEvent
  refine h.appendEvents hs ?_ none
  split
  · refine Eq.symm (List.filter_cons_of_pos ?_)
    exact decide_eq_true hk
  · rfl

theorem Alone.pushEvent_other (h : s.Alone k r t) (hs : s.Coherent) (hk : device.key ≠ k)
    (hupdated : s.updated = some device) : (s.pushEvent moduleLibrary_ device).Alone k r t := by
  have hnone : t.updated = none := by
    rw [h.updated, hupdated]
    exact Option.filter_some_neg (by simpa using hk)
  have hsame : t = { t with
      updated := none
      handler := { t.handler with commandForwardingQueue_ := t.handler.commandForwardingQueue_ ++ [] } } := by
    rw [List.append_nil, ← hnone]
  rw [hsame]
  unfold pushEvent
  refine h.appendEvents hs ?_ none
  split
  · refine Eq.symm (List.filter_cons_of_neg ?_)
    simpa using hk
  · rfl

end Environment

/-! ## A step of a thread -/

/-- The round of the device after an action. -/
def see (k : DeviceKey) (s : HandlerThreads β) (a : ThreadAction β) (r : Round) : Round :=
  match a with
  | .messages => r.next k s.handler
  | .tick number deviceId => if number = k.module_ ∧ deviceId = k then { r with flag := true } else r
  | _ => r

/-- What is left of an action where there is no other device. -/
def share (k : DeviceKey) (s : HandlerThreads β) (r : Round) : ThreadAction β → Option (ThreadAction β)
  | .messages => if r.acts k s.handler then some .messages else none
  | .forwards => if s.eventAtFront k then some .forwards else none
  | .command command device => if device.key = k then some (.command command device) else none
  | .event => if s.updated.any fun device => device.key = k then some .event else none
  | .force device => if device.key = k then some (.force device) else none
  | .tick number deviceId =>
    if number = k.module_ ∧ deviceId = k then some (.tick number deviceId) else none
  | .erase number i =>
    if number = k.module_ ∧ (s.handler.statusAggregators number).posted[i]? = some k then some (.erase number 0)
    else none
  | .receive _ | .sent | .listened => none

/-- A round of the other devices leaves the device alone. -/
def leaves (k : DeviceKey) (s : HandlerThreads β) (r : Round) : ThreadAction β → Bool
  | .messages => r.leaves k s.handler
  | _ => true

section Step
variable [BufferType β] {moduleLibrary_ : ModuleLibrary β} {s' : HandlerThreads β} {a b : ThreadAction β}

/-- What is done for the device is done without the others too. -/
theorem Alone.step_own (h : s.Alone k r t) (hs : s.Coherent) (hb : share k s r a = some b)
    (ht : s.threadStep (moduleLibrary_,a) = some s') :
    ∃ t', t.threadStep (moduleLibrary_,b) = some t' ∧ s'.Alone k (see k s a r) t' := by
  cases a with
  | messages =>
    obtain ⟨hacts,hb⟩ := Option.ite_none_right_eq_some.mp hb
    cases hb
    exact h.messages_own hs hacts ht
  | forwards =>
    obtain ⟨hmine,hb⟩ := Option.ite_none_right_eq_some.mp hb
    cases hb
    exact h.forwards_own hs hmine ht
  | command command device =>
    obtain ⟨hk,hb⟩ := Option.ite_none_right_eq_some.mp hb
    cases hb
    simp only [threadStep, handleCommands] at ht
    split at ht
    · rename_i hidle
      cases ht
      have hidle' : t.updated = none := by
        rw [h.updated, hidle]
        rfl
      refine ⟨_,?_,h.updateCommand_own hk command⟩
      simp only [threadStep, handleCommands, hidle']
    · cases ht
  | event =>
    obtain ⟨hany,hb⟩ := Option.ite_none_right_eq_some.mp hb
    cases hb
    obtain ⟨device,hupdated,rfl⟩ := Option.map_eq_some_iff.mp ht
    have hk : device.key = k := by simpa [hupdated] using hany
    have hupdated' : t.updated = some device := by
      rw [h.updated, hupdated]
      exact Option.filter_some_pos (by simpa using hk)
    refine ⟨_,?_,h.pushEvent_own hs hk⟩
    simp only [threadStep, hupdated', Option.map_some]
  | force device =>
    obtain ⟨hk,hb⟩ := Option.ite_none_right_eq_some.mp hb
    cases hb
    obtain ⟨module_,hm,rfl⟩ := Option.map_eq_some_iff.mp ht
    have hforced := h.handler.devices.operate hk module_
      (rfl : (Operation.force_aggregation_on_device device : Operation β).device = some device.key)
    refine ⟨_,Option.map_eq_some_iff.mpr ⟨module_,hm,rfl⟩,?_⟩
    exact h.aggregators_own hforced
  | tick number deviceId =>
    obtain ⟨hk,hb⟩ := Option.ite_none_right_eq_some.mp hb
    cases hb
    obtain ⟨module_,hm,rfl⟩ := Option.map_eq_some_iff.mp ht
    obtain ⟨rfl,rfl⟩ := hk
    have hown : ∀ device, (Operation.timeouted_force_aggregation deviceId : Operation β).device = some device →
        device = deviceId := fun device hd => (Option.some.inj hd).symm
    have hticked := h.handler.devices.setAggregator rfl (h.handler.devices.aggregator.operate module_ hown)
    refine ⟨_,Option.map_eq_some_iff.mpr ⟨module_,hm,rfl⟩,?_⟩
    simp only [see, and_self, if_true]
    exact h.aggregators_own hticked
  | erase number i =>
    obtain ⟨hk,hb⟩ := Option.ite_none_right_eq_some.mp hb
    cases hb
    obtain ⟨aggregator,hrun,rfl⟩ := Option.map_eq_some_iff.mp ht
    obtain ⟨rfl,hi⟩ := hk
    obtain ⟨aggregator',hrun',hab⟩ := h.handler.devices.aggregator.runPosted hi hrun
    refine ⟨_,Option.map_eq_some_iff.mpr ⟨aggregator',hrun',rfl⟩,?_⟩
    exact h.aggregators_own (h.handler.devices.setAggregator rfl hab)
  | receive message => cases hb
  | sent => cases hb
  | listened => cases hb

/-- Nothing of what is done for another device is there without it. -/
theorem Alone.step_other (h : s.Alone k r t) (hs : s.Coherent) (ha : a.ofServer = false)
    (hg : leaves k s r a = true) (hb : share k s r a = none) (ht : s.threadStep (moduleLibrary_,a) = some s') :
    s'.Alone k (see k s a r) t := by
  cases a with
  | messages =>
    have hacts : r.acts k s.handler = false := by simpa [share] using hb
    exact h.messages_other hs hg hacts ht
  | forwards =>
    have hmine : s.eventAtFront k = false := by simpa [share] using hb
    exact h.forwards_other hs hmine ht
  | command command device =>
    have hk : device.key ≠ k := by simpa [share] using hb
    simp only [threadStep, handleCommands] at ht
    split at ht
    · rename_i hidle
      cases ht
      exact h.updateCommand_other hk hidle command
    · cases ht
  | event =>
    obtain ⟨device,hupdated,rfl⟩ := Option.map_eq_some_iff.mp ht
    have hk : device.key ≠ k := by simpa [share, hupdated] using hb
    exact h.pushEvent_other hs hk hupdated
  | force device =>
    have hk : device.key ≠ k := by simpa [share] using hb
    obtain ⟨module_,hm,rfl⟩ := Option.map_eq_some_iff.mp ht
    have hforced := h.handler.devices.operate_other device.module_ module_
      (rfl : (Operation.force_aggregation_on_device device : Operation β).device = some device.key) hk
    exact h.aggregators_other hforced
  | tick number deviceId =>
    have hk : ¬(number = k.module_ ∧ deviceId = k) := by simpa only [share, ite_eq_right_iff, reduceCtorEq] using hb
    obtain ⟨module_,hm,rfl⟩ := Option.map_eq_some_iff.mp ht
    have hticked : (s.handler.setAggregator number
        ((s.handler.statusAggregators number).operate module_ (.timeouted_force_aggregation deviceId))).Isolates k r.flag
          t.handler := by
      refine h.handler.devices.setAggregator_other ?_
      rintro rfl
      exact h.handler.devices.aggregator.operate_other module_ rfl fun hd => hk ⟨rfl,hd⟩
    simp only [see, if_neg hk]
    exact h.aggregators_other hticked
  | erase number i =>
    have hk : ¬(number = k.module_ ∧ (s.handler.statusAggregators number).posted[i]? = some k) := by
      simpa only [share, ite_eq_right_iff, reduceCtorEq] using hb
    obtain ⟨aggregator,hrun,rfl⟩ := Option.map_eq_some_iff.mp ht
    have herased : (s.handler.setAggregator number aggregator).Isolates k r.flag t.handler := by
      refine h.handler.devices.setAggregator_other ?_
      rintro rfl
      exact h.handler.devices.aggregator.runPosted_other (fun hi => hk ⟨rfl,hi⟩) hrun
    exact h.aggregators_other herased
  | sent =>
    cases ht
    have hdevices := h.handler.devices
    refine h.withHandler_left (h.handler.environment ?_ rfl rfl rfl) rfl
    exact ⟨hdevices.aggregator,hdevices.others,hdevices.incoming,hdevices.outgoing,hdevices.events⟩
  | receive message => cases ha
  | listened => cases ha

end Step

end HandlerThreads

end ModuleGateway.Modules
