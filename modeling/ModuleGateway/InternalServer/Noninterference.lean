import ModuleGateway.InternalServer.IsolatedServer
import ModuleGateway.Library.Share

/-! # One device and the others

Internal Server and Module Handler with all devices, next to the same with one device only. What is
left of a run without the other devices are the steps of the connections of the device, the rounds
of the threads for it, and what the External Server and the timer of the device do to it.
-/
namespace ModuleGateway.InternalServer
open Structures Execution Modules

variable {β : Type}

namespace Gateway
variable {s t s' : Gateway β} {k : DeviceKey} {r : Round}

/-- The invariants of the two sides and of the queues between them. -/
structure Sound (s : Gateway β) : Prop where
  steady : s.system.Steady
  identified : s.system.Identified
  coherent : s.threads.Coherent
  shared : s.threads.handler.fromInternalQueue_ = s.system.server.fromInternalQueue_
  moved : s.threads.handler.toInternalQueue_ = []

/-- `t` is `s` without the other devices. -/
structure Alone (k : DeviceKey) (r : Round) (s t : Gateway β) : Prop where
  system : s.system.Isolates k t.system
  threads : s.threads.Alone k r t.threads

theorem Sound.init : (init : Gateway β).Sound :=
  ⟨System.Steady.init,System.Identified.init,HandlerThreads.Coherent.init,rfl,rfl⟩

/-! ## A step of the Internal Server -/

theorem gatewayStep_server [BufferType β] {a : SystemAction β} (ht : s.gatewayStep (.server a) = some s') :
    (∀ message, a ≠ .push message) ∧ ∃ system, s.system.systemStep a = some system ∧ s.served system = s' := by
  cases a with
  | push message => cases ht
  | _ => exact ⟨nofun,Option.map_eq_some_iff.mp ht⟩

theorem gatewayStep_server_of [BufferType β] {a : SystemAction β} (hpush : ∀ message, a ≠ .push message)
    {system : System β} (ht : s.system.systemStep a = some system) :
    s.gatewayStep (.server a) = some (s.served system) := by
  cases a with
  | push message => exact absurd rfl (hpush message)
  | _ => exact Option.map_eq_some_iff.mpr ⟨system,ht,rfl⟩

theorem gatewayStep_handler_of [BufferType β] {moduleLibrary_ : ModuleLibrary β} {a : HandlerThreads.ThreadAction β}
    (ha : a.ofServer = false) {threads : HandlerThreads β}
    (ht : s.threads.threadStep (moduleLibrary_,a) = some threads) :
    s.gatewayStep (.handler moduleLibrary_ a) = some (s.handled threads) := by
  simp only [gatewayStep, ha, Bool.false_eq_true, if_false, ht, Option.map_some]

theorem gatewayStep_handler [BufferType β] {moduleLibrary_ : ModuleLibrary β} {a : HandlerThreads.ThreadAction β}
    (ht : s.gatewayStep (.handler moduleLibrary_ a) = some s') : a.ofServer = false ∧
      ∃ threads, s.threads.threadStep (moduleLibrary_,a) = some threads ∧ s.handled threads = s' := by
  simpa only [gatewayStep, Option.ite_none_left_eq_some, Bool.not_eq_true, Option.map_eq_some_iff] using ht

theorem served_self (h : s.threads.handler.fromInternalQueue_ = s.system.server.fromInternalQueue_) :
    s.served s.system = s := by
  unfold served
  rw [← h]
  rfl

theorem Sound.served (hs : s.Sound) {a : SystemAction β} {system : System β}
    (ht : s.system.systemStep a = some system) :
    (s.served system).Sound := by
  obtain ⟨pushed,hpushed⟩ := System.systemStep_fromInternalQueue_ ht
  refine ⟨hs.steady.step ht,hs.identified.step ht,?_,rfl,hs.moved⟩
  unfold Gateway.served
  rw [hpushed, ← hs.shared]
  exact hs.coherent.receive pushed

/-- What was pushed is in both queues, as far as it is about the device. -/
theorem Alone.served (h : Alone k r s t) (hs : s.Sound) {system system' : System β}
    {pushed : List (InternalClientMessage β)}
    (hpushed : system.server.fromInternalQueue_ = s.system.server.fromInternalQueue_ ++ pushed)
    (hsystem : system.Isolates k system') : Alone k r (s.served system) (t.served system') where
  system := hsystem
  threads := by
    have hqueue : system'.server.fromInternalQueue_ = t.threads.handler.fromInternalQueue_ ++
        pushed.filter fun message => subject message = some k := by
      rw [hsystem.server.incoming, hpushed, ← hs.shared, List.filter_append, h.threads.handler.devices.incoming]
    unfold Gateway.served
    rw [hqueue, hpushed, ← hs.shared]
    exact h.threads.withHandler (h.threads.handler.receive hs.coherent.placed) rfl

/-- Both sides share their queue where there is no other device too. -/
theorem Alone.shared (h : Alone k r s t) (hs : s.Sound) :
    t.threads.handler.fromInternalQueue_ = t.system.server.fromInternalQueue_ := by
  rw [h.system.server.incoming, h.threads.handler.devices.incoming, hs.shared]

theorem Alone.moved (h : Alone k r s t) (hs : s.Sound) : t.threads.handler.toInternalQueue_ = [] := by
  rw [h.threads.handler.devices.outgoing, hs.moved]
  rfl

/-! ## A step of the Module Handler -/

theorem handled_self (hshared : s.threads.handler.fromInternalQueue_ = s.system.server.fromInternalQueue_)
    (hmoved : s.threads.handler.toInternalQueue_ = []) : s.handled s.threads = s := by
  unfold handled
  rw [hmoved, hshared, List.append_nil, ← hmoved]
  rfl

theorem Sound.handled [BufferType β] (hs : s.Sound) {moduleLibrary_ : ModuleLibrary β}
    {a : HandlerThreads.ThreadAction β} {threads : HandlerThreads β} (ha : a.ofServer = false)
    (ht : s.threads.threadStep (moduleLibrary_,a) = some threads) : (s.handled threads).Sound where
  steady := ⟨⟨hs.steady.registry.identified,hs.steady.registry.unique⟩,hs.steady.ready⟩
  identified := ⟨hs.identified.ready,hs.identified.waiting⟩
  coherent := (hs.coherent.step ha ht).handOver
  shared := rfl
  moved := rfl

theorem Alone.handled (h : Alone k r s t) {r' : Round} {threads threads' : HandlerThreads β}
    (hthreads : threads.Alone k r' threads') : Alone k r' (s.handled threads) (t.handled threads') where
  system := by
    have hdevices := hthreads.handler.devices
    have hserver := h.system.server
    refine ⟨⟨hserver.named,hserver.mine,hserver.connection,hserver.entries,hdevices.incoming,hserver.responses⟩,
      h.system.known,h.system.phase,?_⟩
    unfold Gateway.handled
    dsimp only
    rw [List.filter_append, h.system.outgoing, hdevices.outgoing]
  threads := by
    have hdevices := hthreads.handler.devices
    refine hthreads.withHandler (hthreads.handler.environment ?_ rfl rfl rfl) rfl
    exact ⟨hdevices.aggregator,hdevices.others,hdevices.incoming,rfl,hdevices.events⟩

/-! ## The share of the device -/

/-- The round of the device after a step. -/
def round (k : DeviceKey) (s : Gateway β) (a : GatewayAction β) (_ : Gateway β) (r : Round) : Round :=
  match a with
  | .server _ => r
  | .handler _ a => HandlerThreads.see k s.threads a r

/-- What is left of a step where there is no other device. -/
def share (k : DeviceKey) (s : Gateway β × Round) : GatewayAction β → Option (GatewayAction β)
  | .server a => if System.concerns k s.1.system a then some (.server a) else none
  | .handler moduleLibrary_ a => (HandlerThreads.share k s.1.threads s.2 a).map (.handler moduleLibrary_)

/-- The step is none through which another device reaches the device. -/
def keepsApart (k : DeviceKey) (s : Gateway β × Round) : GatewayAction β → Bool
  | .server a => System.namesItself k s.1.system a
  | .handler _ a => HandlerThreads.leaves k s.1.threads s.2 a

theorem share_ofServer {threads : HandlerThreads β} {a b : HandlerThreads.ThreadAction β}
    (hb : HandlerThreads.share k threads r a = some b) : b.ofServer = false := by
  cases a with
  | receive message => cases hb
  | sent => cases hb
  | listened => cases hb
  | _ =>
    obtain ⟨-,hb⟩ := Option.ite_none_right_eq_some.mp hb
    cases hb
    rfl

/-- With all devices each step is one that the device takes alone, or nothing that it sees. -/
theorem separates [BufferType β] (k : DeviceKey) :
    Separates (watched gatewayStep (round k)) (gatewayStep (β := β)) (share k) (fun s a => keepsApart k s a = true)
      fun s t => s.1.Sound ∧ Alone k s.2 s.1 t where
  own := by
    rintro ⟨s,r⟩ t a b ⟨s',r'⟩ ⟨hs,h⟩ hg ht hb
    obtain ⟨ht,hround⟩ := watched_eq_some.mp ht
    obtain rfl : r' = round k s a s' r := hround
    cases a with
    | server a =>
      obtain ⟨hconcerns,hb⟩ := Option.ite_none_right_eq_some.mp hb
      cases hb
      obtain ⟨hpush,system,hstep,rfl⟩ := gatewayStep_server ht
      obtain ⟨system',hstep',hsystem⟩ := h.system.step_own hs.identified hs.steady hconcerns hg hpush hstep
      obtain ⟨pushed,hpushed⟩ := System.systemStep_fromInternalQueue_ hstep
      exact ⟨_,gatewayStep_server_of hpush hstep',hs.served hstep,h.served hs hpushed hsystem⟩
    | handler moduleLibrary_ a =>
      obtain ⟨b,hshare,rfl⟩ := Option.map_eq_some_iff.mp hb
      obtain ⟨ha,threads,hstep,rfl⟩ := gatewayStep_handler ht
      obtain ⟨threads',hstep',hthreads⟩ := h.threads.step_own hs.coherent hshare hstep
      exact ⟨_,gatewayStep_handler_of (share_ofServer hshare) hstep',hs.handled ha hstep,h.handled hthreads⟩
  others := by
    rintro ⟨s,r⟩ t a ⟨s',r'⟩ ⟨hs,h⟩ hg ht hb
    obtain ⟨ht,hround⟩ := watched_eq_some.mp ht
    obtain rfl : r' = round k s a s' r := hround
    cases a with
    | server a =>
      have hconcerns : System.concerns k s.system a = false := by simpa [share] using hb
      obtain ⟨hpush,system,hstep,rfl⟩ := gatewayStep_server ht
      have hsystem := h.system.step_other hs.identified hs.steady hconcerns hg hpush hstep
      obtain ⟨pushed,hpushed⟩ := System.systemStep_fromInternalQueue_ hstep
      have hserved := h.served hs hpushed hsystem
      rw [served_self (h.shared hs)] at hserved
      exact ⟨hs.served hstep,hserved⟩
    | handler moduleLibrary_ a =>
      have hshare : HandlerThreads.share k s.threads r a = none := Option.map_eq_none_iff.mp hb
      obtain ⟨ha,threads,hstep,rfl⟩ := gatewayStep_handler ht
      have hhandled := h.handled (h.threads.step_other hs.coherent ha hg hshare hstep)
      rw [handled_self (h.shared hs) (h.moved hs)] at hhandled
      exact ⟨hs.handled ha hstep,hhandled⟩

/-! ## Runs -/

deriving instance DecidableEq for StatusAggregatorDeviceState

section Runs
variable [BufferType β] {as : List (GatewayAction β)}

/-- What is left of a run where there is no other device. -/
def own (k : DeviceKey) (as : List (GatewayAction β)) : List (GatewayAction β) :=
  alone (watched gatewayStep (round k)) (share k) (init,.init) as

/-- What the aggregator of its module has of the device. -/
def entry (k : DeviceKey) (s : Gateway β) : Option (StatusAggregatorDeviceState β) := s.threads.handler.entry k

/-- The states of the device in its aggregator, one after the other. -/
def entries [DecidableEq β] (k : DeviceKey) (as : List (GatewayAction β)) :
    List (Option (StatusAggregatorDeviceState β)) := changes gatewayStep (entry k) init as

/-- No step of the run is one through which another device reaches the device. -/
def KeptApart (k : DeviceKey) (as : List (GatewayAction β)) : Prop :=
  Guarded (watched gatewayStep (round k)) (fun s a => keepsApart k s a = true) (init,.init) as

instance decidableKeptApart (k : DeviceKey) (as : List (GatewayAction β)) : Decidable (KeptApart k as) :=
  decidableGuarded _ _ _ _

omit [BufferType β] in
theorem Alone.init : Alone k .init (init : Gateway β) init where
  system := System.Isolates.init
  threads := HandlerThreads.Alone.init

/-- The connections that the statuses were sent over have the identity. -/
def SentBy (k : DeviceKey) (s : Gateway β × Round) (bs : List (GatewayAction β)) : Prop :=
  s.1.system.Steady ∧ ∀ c status, .server (.status c status) ∈ bs → s.1.system.server.keyOf c = some k

theorem SentBy.step {s t : Gateway β × Round} {a : GatewayAction β} {bs : List (GatewayAction β)} (hs : SentBy k s bs)
    (ht : watched gatewayStep (round k) s a = some t) : SentBy k t (bs ++ (share k s a).toList) := by
  obtain ⟨ht,-⟩ := watched_eq_some.mp ht
  obtain ⟨s,r⟩ := s
  obtain ⟨t,r'⟩ := t
  cases a with
  | server a =>
    obtain ⟨-,system,hstep,rfl⟩ := gatewayStep_server ht
    refine ⟨hs.1.step hstep,fun c status hmem => System.keyOf_kept hs.1 hstep ?_⟩
    obtain hmem | hmem := List.mem_append.mp hmem
    · exact hs.2 c status hmem
    · obtain ⟨hconcerns,ha⟩ := Option.ite_none_right_eq_some.mp (Option.mem_toList.mp hmem)
      cases ha
      simpa [System.concerns] using hconcerns
  | handler moduleLibrary_ a =>
    obtain ⟨-,threads,-,rfl⟩ := gatewayStep_handler ht
    refine ⟨⟨⟨hs.1.registry.identified,hs.1.registry.unique⟩,hs.1.ready⟩,fun c status hmem => ?_⟩
    obtain hmem | hmem := List.mem_append.mp hmem
    · exact hs.2 c status hmem
    · obtain ⟨b,-,hb⟩ := Option.map_eq_some_iff.mp (Option.mem_toList.mp hmem)
      cases hb

/-- The statuses that are left were sent over connections of the device. -/
theorem sentBy_own (he : exec gatewayStep init as = some s) {c : ConnId} {status : DeviceStatus β}
    (hmem : .server (.status c status) ∈ own k as) : s.system.server.keyOf c = some k := by
  have h0 : SentBy k (init,.init) ([] : List (GatewayAction β)) := ⟨System.Steady.init,by simp⟩
  have hsent : SentBy k (s,observe gatewayStep (round k) init .init as) (own k as) := by
    refine exec_observe_invariant h0 ?_ (guarded_true _ as) (exec_watched he)
    intro s bs a t hs _ ht
    exact hs.step ht
  exact hsent.2 c status hmem

/-- What is left is a run, and it looks the same to the device. -/
theorem exec_own [DecidableEq β] (hg : KeptApart k as) (he : exec gatewayStep init as = some s) :
    ∃ t r, exec gatewayStep init (own k as) = some t ∧ Alone k r s t ∧ entries k (own k as) = entries k as := by
  have h0 : (init : Gateway β).Sound ∧ Alone k .init (init : Gateway β) init := ⟨Sound.init,Alone.init⟩
  obtain ⟨t,ht,-,halone⟩ := (separates k).exec_alone h0 hg (exec_watched he)
  have hview : ∀ (s : Gateway β × Round) (t : Gateway β), s.1.Sound ∧ Alone k s.2 s.1 t → entry k t = entry k s.1 :=
    fun s t h => h.2.threads.handler.devices.entry
  have hentries := (separates k).changes_alone hview h0 hg (exec_watched he)
  have hwatched : changes (watched gatewayStep (round k)) (fun s => entry k s.1) (init,.init) as = entries k as :=
    changes_watched he
  exact ⟨t,_,ht,halone,hentries.trans hwatched⟩

/-- A run in which nothing reaches the device through another one: what is left without the others
is a run that has no status of theirs, with the same messages to its connections and the same states
in its aggregator. So any two such runs with the same rest are the same to the device. -/
theorem exec_noninterference [DecidableEq β] (hg : KeptApart k as) (he : exec gatewayStep init as = some s) :
    (∃ t, exec gatewayStep init (own k as) = some t ∧
      (∀ c status, .server (.status c status) ∈ own k as → s.system.server.keyOf c = some k) ∧
      (∀ c, s.system.server.keyOf c = some k → t.system.server.keyOf c = some k ∧
        t.system.server.responsesTo c = s.system.server.responsesTo c) ∧
      entries k (own k as) = entries k as) ∧
    ∀ bs u, KeptApart k bs → exec gatewayStep init bs = some u → own k bs = own k as →
      (∀ c, s.system.server.keyOf c = some k → u.system.server.keyOf c = some k ∧
        u.system.server.responsesTo c = s.system.server.responsesTo c) ∧
      entries k bs = entries k as := by
  obtain ⟨t,r,ht,halone,hentries⟩ := exec_own hg he
  have hseen : ∀ c, s.system.server.keyOf c = some k → t.system.server.keyOf c = some k ∧
      t.system.server.responsesTo c = s.system.server.responsesTo c := by
    intro c hc
    exact ⟨(halone.system.server.keyOf (.inl hc)).trans hc,halone.system.server.responses c (.inl hc)⟩
  refine ⟨⟨t,ht,fun c status => sentBy_own he,hseen,hentries⟩,?_⟩
  intro bs u hgb heb hsame
  obtain ⟨t',r',ht',halone',hentries'⟩ := exec_own hgb heb
  rw [hsame, ht] at ht'
  obtain rfl := Option.some.inj ht'
  rw [hsame] at hentries'
  refine ⟨fun c hc => ?_,hentries'.symm.trans hentries⟩
  obtain ⟨hkey,hresponses⟩ := hseen c hc
  have hkey' := halone'.system.known c hkey
  exact ⟨hkey',(halone'.system.server.responses c (.inl hkey')).symm.trans hresponses⟩

/-- The run without the statuses of one connection. -/
def withoutStatuses (c : ConnId) (as : List (GatewayAction β)) : List (GatewayAction β) :=
  as.filter fun a => match a with
    | .server (.status x _) => x ≠ c
    | _ => true

end Runs

/-! ## A camera and an arm of one module -/

deriving instance DecidableEq for DeviceCommand, Structures.InternalServer

def arm : DeviceIdentification := ⟨1,3,"arm","b",5⟩

/-- Every status is answered with itself. -/
def echoLibrary : ModuleLibrary (List UInt8) :=
  AList.singleton 1 { StatusAggregator.relay with generateCommand := fun status _ _ _ => (.OK,status) }

def rounds (steps : ℕ) : List (GatewayAction (List UInt8)) := List.replicate steps (.handler echoLibrary .messages)

/-- A connection connects and gets its response. -/
def connected (c : ConnId) (device : DeviceIdentification) : List (GatewayAction (List UInt8)) :=
  [.server (.connect c device)] ++ rounds 5 ++ [.server .listen,.server (.responded c)]

/-- The arm sends a status that names the camera, before the camera sends its own. -/
def foreignStatus : List (GatewayAction (List UInt8)) :=
  connected 0 camera ++ connected 1 arm ++
    [.server (.status 1 ⟨camera,[9]⟩),.server (.status 0 ⟨camera,[1]⟩)] ++ rounds 9 ++ [.server .listen]

theorem foreignStatus_interferes :
    ¬∀ (as : List (GatewayAction (List UInt8))) s t a b j k, exec gatewayStep init as = some s →
      exec gatewayStep init (withoutStatuses a as) = some t → s.system.server.keyOf a = some j →
      s.system.server.keyOf b = some k → j ≠ k →
      t.system.server.responsesTo b = s.system.server.responsesTo b ∧
        entries k (withoutStatuses a as) = entries k as := by
  intro hall
  obtain ⟨hresponses,-⟩ := hall foreignStatus _ _ 1 0 arm.key camera.key rfl rfl rfl rfl (by decide)
  exact absurd hresponses (by decide +kernel)

/-- The arm sends its own status before, and its timer makes the message thread collect it. -/
def armStatus : List (GatewayAction (List UInt8)) :=
  connected 0 camera ++ connected 1 arm ++
    [.server (.status 1 ⟨arm,[9]⟩),.server (.status 0 ⟨camera,[1]⟩)] ++ rounds 9 ++
    [.handler echoLibrary (.tick 1 arm.key)] ++ rounds 13 ++
    [.server .listen,.server (.responded 1),.server .listen,.server (.responded 0)]

theorem exec_noninterference_armStatus :
    ∃ s t, exec gatewayStep init armStatus = some s ∧ exec gatewayStep init (own camera.key armStatus) = some t ∧
      s.system.server.keyOf 0 = some camera.key ∧
      t.system.server.responsesTo 0 = s.system.server.responsesTo 0 ∧
      entries camera.key (own camera.key armStatus) = entries camera.key armStatus := by
  have hg : KeptApart camera.key armStatus := by decide +kernel
  obtain ⟨⟨t,ht,-,hresponses,hentries⟩,-⟩ := exec_noninterference hg rfl
  exact ⟨_,t,rfl,ht,rfl,(hresponses 0 rfl).2,hentries⟩

end Gateway

end ModuleGateway.InternalServer
