import ModuleGateway.Main.Integrity

/-! # The gateway and its components

Every run of the gateway is, for the threads of the Module Handler, for the Internal Server with the
Module Handler, for the External Client, and for the Module Handler with the External Client, one
of their runs. What holds in all runs of a component therefore holds in the gateway.
-/
namespace ModuleGateway.Main
open Structures Execution
open InternalServer (Gateway GatewayAction System SystemAction)
open Modules (HandlerThreads ModuleHandler StatusAggregator)
open ExternalClient (Client Pipeline PipelineAction ConnectionModules)

variable {β : Type} [BufferType β]

namespace Process
variable (library : ModuleLibrary β) (connections : List (ConnectionModules β))

/-! ## The steps of the components -/

omit [BufferType β] in
/-- What `getAllConnectedDevices` returns where the client thread calls it. -/
def connectedDevices (s : Process β) : List DeviceIdentification :=
  match s.client.loop with
  | .forcing connection _ =>
    (Pipeline.connectionAt connections connection).getAllConnectedDevices library s.gateway.threads.handler
  | _ => []

/-- The step of the External Client, with the devices that are connected. -/
def clientAction (s : Process β) : Client.ClientAction β → Client.ClientAction β
  | .client _ sent => .client (s.connectedDevices library connections) sent
  | a => a

/-- The devices that a step of the External Client forces to aggregate. -/
def forcedDevices (s : Process β) : Client.ClientAction β → List DeviceIdentification
  | .client _ _ =>
    match s.client.loop with
    | .forcing connection _ =>
      (s.client.externalConnectionsList_ connection).forceAggregationOnAllDevices
        (s.connectedDevices library connections)
    | _ => []
  | _ => []

omit [BufferType β] in
/-- What the Module Handler pushed to the External Client. -/
def statuses (s t : Process β) : List (InternalClientMessage β) :=
  appended s.client.toExternalQueue_ t.client.toExternalQueue_

/-- The step of the command thread. -/
def commandAction (s : Process β) : List (HandlerThreads.ThreadAction β) :=
  match s.gateway.threads.updated,s.fromExternalQueue_ with
  | some _,_ => [.event]
  | none,message :: _ => [.command message.commanddata message.device]
  | none,[] => []

/-- The threads of the Module Handler, with what others do at their queues and aggregators. -/
def threadShare (s : Process β) (a : ProcessAction β) (t : Process β) : List (HandlerThreads.ThreadAction β) :=
  match a with
  | .server _ =>
    (appended s.gateway.system.server.fromInternalQueue_ t.gateway.system.server.fromInternalQueue_).map .receive
  | .handler a =>
    a :: (List.replicate (s.statuses t).length .sent ++
      List.replicate (t.gateway.system.toInternalQueue_.length - s.gateway.system.toInternalQueue_.length) .listened)
  | .client a => (s.forcedDevices library connections a).map .force
  | .handleCommands => s.commandAction

/-- The Internal Server with the Module Handler. -/
def gatewayShare (s : Process β) (a : ProcessAction β) (t : Process β) : List (GatewayAction β) :=
  match a with
  | .server a => [.server a]
  | .handler a =>
    .handler library.statusAggregators a ::
      List.replicate (s.statuses t).length (.handler library.statusAggregators .sent)
  | .client a =>
    (s.forcedDevices library connections a).map fun device => .handler library.statusAggregators (.force device)
  | .handleCommands => s.commandAction.map (.handler library.statusAggregators)

/-- The External Client. -/
def clientShare (s : Process β) (a : ProcessAction β) (t : Process β) : List (Client.ClientAction β) :=
  match a with
  | .handler _ => (s.statuses t).map .push
  | .client a => [s.clientAction library connections a]
  | _ => []

/-- The Module Handler with the External Client. -/
def pipelineShare (s : Process β) (a : ProcessAction β) (t : Process β) : List (PipelineAction β) :=
  match a with
  | .client a => [.client a]
  | a => (s.threadShare library connections a t).map .handler ++ (s.clientShare library connections a t).map .client

/-! ## Shared queues -/

/-- The queues between the components are the same on both sides. -/
structure Shared (s : Process β) : Prop where
  incoming : s.gateway.threads.handler.fromInternalQueue_ = s.gateway.system.server.fromInternalQueue_
  replies : s.gateway.threads.handler.toInternalQueue_ = []
  outgoing : s.gateway.threads.handler.toExternalQueue_ = []

omit [BufferType β] in
theorem Shared.init : (init : Process β).Shared := ⟨rfl,rfl,rfl⟩

omit [BufferType β] in
/-- The Gateway passes nothing on where the queues of the handler are those that are shared. -/
theorem handled_eq {g : Gateway β} {threads : HandlerThreads β}
    (hincoming : threads.handler.fromInternalQueue_ = g.system.server.fromInternalQueue_)
    (hreplies : threads.handler.toInternalQueue_ = []) : g.handled threads = { g with threads := threads } := by
  have hsame : { threads.handler with toInternalQueue_ := [] } = threads.handler := by rw [← hreplies]
  rw [Gateway.handled, hsame, hincoming, hreplies, List.append_nil]
  rfl

/-! ## The threads of the Module Handler -/

section Threads
variable {library : ModuleLibrary β} {threads : HandlerThreads β}

/-- A step of the threads, with the loaded modules. -/
def threadStep (moduleLibrary_ : Structures.ModuleLibrary β) (threads : HandlerThreads β)
    (a : HandlerThreads.ThreadAction β) : Option (HandlerThreads β) :=
  threads.threadStep (moduleLibrary_.statusAggregators,a)

theorem exec_receive (messages : List (InternalClientMessage β)) :
    exec (threadStep library) threads (messages.map .receive) = some (threads.withHandler { threads.handler with
      fromInternalQueue_ := threads.handler.fromInternalQueue_ ++ messages }) := by
  induction messages generalizing threads with
  | nil =>
    rw [List.append_nil]
    rfl
  | cons message messages ih =>
    refine exec_cons_eq_some.mpr ⟨_,rfl,?_⟩
    rw [ih, HandlerThreads.withHandler, HandlerThreads.withHandler, List.append_assoc]
    rfl

theorem exec_sent (n : ℕ) : exec (threadStep library) threads (List.replicate n .sent) =
    some (threads.withHandler { threads.handler with
      toExternalQueue_ := threads.handler.toExternalQueue_.drop n }) := by
  induction n generalizing threads with
  | zero => rfl
  | succ n ih =>
    refine exec_cons_eq_some.mpr ⟨_,rfl,?_⟩
    rw [ih, HandlerThreads.withHandler, HandlerThreads.withHandler]
    dsimp only
    rw [List.drop_tail]
    rfl

theorem exec_listened (n : ℕ) : exec (threadStep library) threads (List.replicate n .listened) =
    some (threads.withHandler { threads.handler with
      toInternalQueue_ := threads.handler.toInternalQueue_.drop n }) := by
  induction n generalizing threads with
  | zero => rfl
  | succ n ih =>
    refine exec_cons_eq_some.mpr ⟨_,rfl,?_⟩
    rw [ih, HandlerThreads.withHandler, HandlerThreads.withHandler]
    dsimp only
    rw [List.drop_tail]
    rfl

/-- Each device without a last status is forced to aggregate. -/
theorem exec_force {c : ConnectionModules β} {e : ExternalClient.ExternalConnection β}
    {devices : List DeviceIdentification} {q r : List DeviceIdentification × ModuleHandler β}
    (hq : threads.handler = q.2) (h : devices.foldlM (c.forceAggregation library e) q = some r) :
    exec (threadStep library) threads ((devices.filter fun device => !e.isRegistered device).map .force) =
      some (threads.withHandler r.2) ∧ r.2.fromInternalQueue_ = q.2.fromInternalQueue_ ∧
        r.2.toInternalQueue_ = q.2.toInternalQueue_ ∧ r.2.toExternalQueue_ = q.2.toExternalQueue_ := by
  induction devices generalizing threads q with
  | nil =>
    obtain rfl := Option.some.inj h
    refine ⟨?_,rfl,rfl,rfl⟩
    rw [← hq]
    rfl
  | cons device devices ih =>
    rw [List.foldlM_cons] at h
    obtain ⟨q',hforce,hrest⟩ := Option.bind_eq_some_iff.mp h
    unfold ConnectionModules.forceAggregation at hforce
    split at hforce
    · cases hforce
    · split at hforce
      · rename_i hregistered
        obtain rfl := Option.some.inj hforce
        rw [List.filter_cons_of_neg (by rw [hregistered]; decide)]
        exact ih hq hrest
      · rename_i hregistered
        obtain ⟨module_,hm,rfl⟩ := Option.map_eq_some_iff.mp hforce
        rw [List.filter_cons_of_pos (by simp [hregistered]), List.map_cons]
        obtain ⟨hexec,hqueues⟩ := @ih (threads.withHandler (q.2.setAggregator device.module_
          ((q.2.statusAggregators device.module_).force_aggregation_on_device module_ device).2)) _ rfl hrest
        refine ⟨exec_cons_eq_some.mpr ⟨_,?_,hexec⟩,hqueues⟩
        simp only [threadStep, HandlerThreads.threadStep, hm, Option.map_some, hq]

/-- What others do with the aggregators and the queue to the External Client. -/
def ofOthers : HandlerThreads.ThreadAction β → Bool
  | .command _ _ | .event | .force _ | .sent => true
  | _ => false

theorem threadStep_ofOthers {a : HandlerThreads.ThreadAction β} (ha : ofOthers a = true) {t : HandlerThreads β}
    (ht : threadStep library threads a = some t) :
    t.handler.fromInternalQueue_ = threads.handler.fromInternalQueue_ ∧
      t.handler.toInternalQueue_ = threads.handler.toInternalQueue_ := by
  cases a with
  | command command device =>
    simp only [threadStep, HandlerThreads.threadStep, HandlerThreads.handleCommands] at ht
    split at ht
    · cases ht
      obtain h | ⟨module_,-,-,h,-⟩ := HandlerThreads.updateCommand_eq library.statusAggregators threads command
        device <;> rw [h] <;> exact ⟨rfl,rfl⟩
    · cases ht
  | event =>
    obtain ⟨device,-,rfl⟩ := Option.map_eq_some_iff.mp ht
    exact ⟨rfl,rfl⟩
  | force device =>
    obtain ⟨module_,-,rfl⟩ := Option.map_eq_some_iff.mp ht
    exact ⟨rfl,rfl⟩
  | sent =>
    cases ht
    exact ⟨rfl,rfl⟩
  | _ => cases ha

/-- Such a run is one of the Internal Server with the Module Handler. -/
theorem exec_gateway {g : Gateway β}
    (hincoming : g.threads.handler.fromInternalQueue_ = g.system.server.fromInternalQueue_)
    (hreplies : g.threads.handler.toInternalQueue_ = []) {as : List (HandlerThreads.ThreadAction β)}
    (has : ∀ a ∈ as, ofOthers a = true) (he : exec (threadStep library) g.threads as = some threads) :
    exec Gateway.gatewayStep g (as.map (.handler library.statusAggregators)) = some { g with threads := threads } := by
  induction as generalizing g with
  | nil =>
    obtain rfl := Option.some.inj he
    rfl
  | cons a as ih =>
    obtain ⟨t,ht,hrest⟩ := exec_cons_eq_some.mp he
    have ha := has a List.mem_cons_self
    obtain ⟨hsame,hsame'⟩ := threadStep_ofOthers ha ht
    have hstep : g.gatewayStep (.handler library.statusAggregators a) = some { g with threads := t } := by
      have hserver : ¬a.ofServer = true := by cases a <;> first | exact Bool.false_ne_true | cases ha
      rw [Gateway.gatewayStep, if_neg hserver]
      refine Option.map_eq_some_iff.mpr ⟨t,ht,?_⟩
      exact handled_eq (hsame.trans hincoming) (hsame'.trans hreplies)
    exact exec_cons_eq_some.mpr ⟨_,hstep,ih (g := { g with threads := t }) (hsame.trans hincoming)
      (hsame'.trans hreplies) (fun b hb => has b (List.mem_cons_of_mem a hb)) hrest⟩

end Threads

/-- The External Client takes what is pushed. -/
theorem exec_push (settings : ExternalClient.ConnectionSettings β) (client : Client β)
    (messages : List (InternalClientMessage β)) : exec (Client.clientStep settings) client (messages.map .push) =
      some { client with toExternalQueue_ := client.toExternalQueue_ ++ messages } := by
  induction messages generalizing client with
  | nil =>
    rw [List.append_nil]
    rfl
  | cons message messages ih =>
    refine exec_cons_eq_some.mpr ⟨_,rfl,?_⟩
    rw [ih, List.append_assoc]
    rfl

section Pipelines
variable {library : ModuleLibrary β} {connections : List (ConnectionModules β)} {p : Pipeline β}

theorem exec_handler {as : List (HandlerThreads.ThreadAction β)} {threads : HandlerThreads β}
    (he : exec (threadStep library) p.threads as = some threads) :
    exec (Pipeline.pipelineStep library connections) p (as.map .handler) = some ⟨threads,p.client⟩ := by
  induction as generalizing p with
  | nil =>
    obtain rfl := Option.some.inj he
    rfl
  | cons a as ih =>
    obtain ⟨t,ht,hrest⟩ := exec_cons_eq_some.mp he
    exact exec_cons_eq_some.mpr ⟨⟨t,p.client⟩,Option.map_eq_some_iff.mpr ⟨t,ht,rfl⟩,ih (p := ⟨t,p.client⟩) hrest⟩

theorem exec_client {as : List (Client.ClientAction β)} (has : ∀ a ∈ as, ∃ message, a = .push message)
    {client : Client β} (he : exec (Client.clientStep (Pipeline.settings connections)) p.client as = some client) :
    exec (Pipeline.pipelineStep library connections) p (as.map .client) = some ⟨p.threads,client⟩ := by
  induction as generalizing p with
  | nil =>
    obtain rfl := Option.some.inj he
    rfl
  | cons a as ih =>
    obtain ⟨t,ht,hrest⟩ := exec_cons_eq_some.mp he
    obtain ⟨message,rfl⟩ := has a List.mem_cons_self
    exact exec_cons_eq_some.mpr ⟨⟨p.threads,t⟩,Option.map_eq_some_iff.mpr ⟨t,ht,rfl⟩,
      ih (p := ⟨p.threads,t⟩) (fun b hb => has b (List.mem_cons_of_mem _ hb)) hrest⟩

end Pipelines

/-! ## One step -/

section Steps
variable {library : ModuleLibrary β} {connections : List (ConnectionModules β)} {s t : Process β}

/-- The command thread takes one step of the Module Handler, which leaves the queues alone. -/
theorem handleCommands_step (ht : s.handleCommands library = some t) : ∃ a threads,
    s.commandAction = [a] ∧ a.ofServer = false ∧ threadStep library s.gateway.threads a = some threads ∧
      threads.handler.fromInternalQueue_ = s.gateway.threads.handler.fromInternalQueue_ ∧
      threads.handler.toInternalQueue_ = s.gateway.threads.handler.toInternalQueue_ ∧
      threads.handler.toExternalQueue_ = s.gateway.threads.handler.toExternalQueue_ ∧
      t.gateway = s.gateway.handled threads ∧ t.client = s.client := by
  unfold Process.handleCommands at ht
  split at ht
  · rename_i device hupdated
    obtain ⟨gateway,hgateway,rfl⟩ := Option.map_eq_some_iff.mp ht
    obtain ⟨threads,hthreads,rfl⟩ := Option.map_eq_some_iff.mp hgateway
    refine ⟨.event,threads,by simp only [commandAction, hupdated],rfl,hthreads,?_⟩
    obtain ⟨_,-,rfl⟩ := Option.map_eq_some_iff.mp hthreads
    exact ⟨rfl,rfl,rfl,rfl,rfl⟩
  · rename_i hupdated
    split at ht
    · cases ht
    · rename_i message rest hqueue
      obtain ⟨gateway,hgateway,rfl⟩ := Option.map_eq_some_iff.mp ht
      obtain ⟨threads,hthreads,rfl⟩ := Option.map_eq_some_iff.mp hgateway
      refine ⟨.command message.commanddata message.device,threads,by simp only [commandAction, hupdated, hqueue],rfl,
        hthreads,?_⟩
      simp only [HandlerThreads.threadStep, HandlerThreads.handleCommands, hupdated, Option.some.injEq] at hthreads
      subst hthreads
      obtain h | ⟨module_,-,-,h,-⟩ := HandlerThreads.updateCommand_eq library.statusAggregators s.gateway.threads
        message.commanddata message.device <;> rw [h] <;> exact ⟨rfl,rfl,rfl,rfl,rfl⟩

/-- A step of the External Client forces devices with a run of their aggregators. -/
theorem clientStep_step {a : Client.ClientAction β} (ht : s.clientStep library connections a = some t) :
    t.gateway.system = s.gateway.system ∧
      s.client.clientStep (Pipeline.settings connections) (s.clientAction library connections a) = some t.client ∧
      exec (threadStep library) s.gateway.threads ((s.forcedDevices library connections a).map .force) =
        some t.gateway.threads ∧
      t.gateway.threads.handler.fromInternalQueue_ = s.gateway.threads.handler.fromInternalQueue_ ∧
      t.gateway.threads.handler.toInternalQueue_ = s.gateway.threads.handler.toInternalQueue_ ∧
      t.gateway.threads.handler.toExternalQueue_ = s.gateway.threads.handler.toExternalQueue_ := by
  obtain ⟨p,hp,rfl⟩ := Option.map_eq_some_iff.mp ht
  refine ⟨rfl,?_⟩
  unfold Pipeline.clientStep at hp
  split at hp
  · rename_i connectedDevices sent
    split at hp
    · rename_i connection fromQueue hloop
      obtain ⟨r,hforce,hp⟩ := Option.bind_eq_some_iff.mp hp
      obtain ⟨client,hclient,rfl⟩ := Option.map_eq_some_iff.mp hp
      obtain ⟨hexec,hqueues⟩ := exec_force (q := ([],s.gateway.threads.handler)) rfl hforce
      have hloop : s.client.loop = .forcing connection fromQueue := hloop
      refine ⟨?_,?_,hqueues⟩
      · simp only [clientAction, Process.connectedDevices, hloop]
        exact hclient
      · simp only [forcedDevices, Process.connectedDevices, hloop]
        exact hexec
    · rename_i hloop
      obtain ⟨client,hclient,rfl⟩ := Option.map_eq_some_iff.mp hp
      have hloop : ∀ connection fromQueue, s.client.loop ≠ .forcing connection fromQueue := hloop
      have hdevices : s.connectedDevices library connections = [] := by
        unfold Process.connectedDevices
        split
        · exact absurd ‹_› (hloop _ _)
        · rfl
      have hforced : s.forcedDevices library connections (.client connectedDevices sent) = [] := by
        simp only [forcedDevices]
      rw [hforced, clientAction, hdevices]
      exact ⟨hclient,rfl,rfl,rfl,rfl⟩
  · rename_i hother
    obtain ⟨client,hclient,rfl⟩ := Option.map_eq_some_iff.mp hp
    have hforced : s.forcedDevices library connections a = [] := by
      unfold forcedDevices
      split
      · exact absurd rfl (hother _ _)
      · rfl
    have haction : s.clientAction library connections a = a := by
      unfold clientAction
      split
      · exact absurd rfl (hother _ _)
      · rfl
    rw [hforced, haction]
    exact ⟨hclient,rfl,rfl,rfl,rfl⟩

/-- The threads of the Module Handler. -/
theorem processStep_threads (hs : s.Shared) {a : ProcessAction β} (ht : s.processStep library connections a = some t) :
    exec (threadStep library) s.gateway.threads (s.threadShare library connections a t) = some t.gateway.threads ∧
      t.Shared := by
  cases a with
  | server a =>
    obtain ⟨gateway,hgateway,rfl⟩ := Option.map_eq_some_iff.mp ht
    have hsystem : ∃ system, s.gateway.system.systemStep a = some system ∧ s.gateway.served system = gateway := by
      cases a <;> first | cases hgateway | exact Option.map_eq_some_iff.mp hgateway
    obtain ⟨system,hsystem,rfl⟩ := hsystem
    obtain ⟨pushed,hpushed⟩ := System.systemStep_fromInternalQueue_ hsystem
    refine ⟨?_,rfl,hs.replies,hs.outgoing⟩
    simp only [threadShare, Gateway.served, hpushed, appended_append, exec_receive, hs.incoming]
  | handler a =>
    simp only [Process.processStep] at ht
    split at ht
    · obtain ⟨gateway,hgateway,rfl⟩ := Option.map_eq_some_iff.mp ht
      simp only [Gateway.gatewayStep] at hgateway
      split at hgateway
      · cases hgateway
      · obtain ⟨threads,hthreads,rfl⟩ := Option.map_eq_some_iff.mp hgateway
        refine ⟨?_,rfl,rfl,rfl⟩
        refine exec_cons_eq_some.mpr ⟨threads,hthreads,exec_append_eq_some.mpr ⟨_,exec_sent _,?_⟩⟩
        rw [exec_listened]
        simp only [statuses, Process.handled, Gateway.handled, appended_append, HandlerThreads.withHandler,
          List.drop_length, List.length_append, Nat.add_sub_cancel_left]
    · cases ht
  | client a =>
    have hstep : s.clientStep library connections a = some t := by
      cases a <;> first | exact ht | cases ht
    obtain ⟨hsystem,-,hthreads,hincoming,hreplies,houtgoing⟩ := clientStep_step hstep
    exact ⟨hthreads,by rw [hincoming, hsystem, hs.incoming],hreplies.trans hs.replies,houtgoing.trans hs.outgoing⟩
  | handleCommands =>
    obtain ⟨a,threads,haction,-,hthreads,hincoming,hreplies,houtgoing,hgateway,-⟩ := handleCommands_step ht
    rw [handled_eq (hincoming.trans hs.incoming) (hreplies.trans hs.replies)] at hgateway
    rw [threadShare, haction, hgateway]
    refine ⟨exec_cons_eq_some.mpr ⟨threads,hthreads,rfl⟩,?_,?_,?_⟩ <;> rw [hgateway]
    · exact hincoming.trans hs.incoming
    · exact hreplies.trans hs.replies
    · exact houtgoing.trans hs.outgoing

/-- The Internal Server with the Module Handler. -/
theorem processStep_gateway (hs : s.Shared) {a : ProcessAction β}
    (ht : s.processStep library connections a = some t) :
    exec Gateway.gatewayStep s.gateway (s.gatewayShare library connections a t) = some t.gateway := by
  cases a with
  | server a =>
    obtain ⟨gateway,hgateway,rfl⟩ := Option.map_eq_some_iff.mp ht
    exact exec_cons_eq_some.mpr ⟨gateway,hgateway,rfl⟩
  | handler a =>
    simp only [Process.processStep] at ht
    split at ht
    · obtain ⟨gateway,hgateway,rfl⟩ := Option.map_eq_some_iff.mp ht
      refine exec_cons_eq_some.mpr ⟨gateway,hgateway,?_⟩
      simp only [Gateway.gatewayStep] at hgateway
      split at hgateway
      · cases hgateway
      · obtain ⟨threads,-,rfl⟩ := Option.map_eq_some_iff.mp hgateway
        rw [← List.map_replicate]
        refine (exec_gateway (by rfl) (by rfl) ?_ (exec_sent _)).trans ?_
        · intro a ha
          rw [List.eq_of_mem_replicate ha]
          rfl
        · simp only [statuses, Process.handled, Gateway.handled, appended_append, HandlerThreads.withHandler,
            List.drop_length]
    · cases ht
  | client a =>
    have hstep : s.clientStep library connections a = some t := by
      cases a <;> first | exact ht | cases ht
    obtain ⟨hsystem,-,hthreads,-⟩ := clientStep_step hstep
    have hgateway := exec_gateway hs.incoming hs.replies (by
      intro a ha
      obtain ⟨device,-,rfl⟩ := List.mem_map.mp ha
      rfl) hthreads
    rw [List.map_map] at hgateway
    refine hgateway.trans ?_
    rw [← hsystem]
  | handleCommands =>
    obtain ⟨a,threads,haction,hserver,hthreads,-,-,-,hgateway,-⟩ := handleCommands_step ht
    rw [gatewayShare, haction, hgateway]
    refine exec_cons_eq_some.mpr ⟨_,?_,rfl⟩
    rw [Gateway.gatewayStep, if_neg (by rw [hserver]; exact Bool.false_ne_true)]
    exact Option.map_eq_some_iff.mpr ⟨threads,hthreads,rfl⟩

/-- The External Client. -/
theorem processStep_client {a : ProcessAction β} (ht : s.processStep library connections a = some t) :
    exec (Client.clientStep (Pipeline.settings connections)) s.client (s.clientShare library connections a t) =
      some t.client := by
  cases a with
  | server a =>
    obtain ⟨gateway,-,rfl⟩ := Option.map_eq_some_iff.mp ht
    rfl
  | handler a =>
    simp only [Process.processStep] at ht
    split at ht
    · obtain ⟨gateway,-,rfl⟩ := Option.map_eq_some_iff.mp ht
      simp only [clientShare, statuses, Process.handled, appended_append, exec_push]
    · cases ht
  | client a =>
    have hstep : s.clientStep library connections a = some t := by
      cases a <;> first | exact ht | cases ht
    obtain ⟨-,hclient,-⟩ := clientStep_step hstep
    exact exec_cons_eq_some.mpr ⟨_,hclient,rfl⟩
  | handleCommands =>
    obtain ⟨-,-,-,-,-,-,-,-,-,hclient⟩ := handleCommands_step ht
    rw [hclient]
    rfl

/-- The Module Handler with the External Client. -/
theorem processStep_pipeline (hs : s.Shared) {a : ProcessAction β}
    (ht : s.processStep library connections a = some t) :
    exec (Pipeline.pipelineStep library connections) ⟨s.gateway.threads,s.client⟩
      (s.pipelineShare library connections a t) = some ⟨t.gateway.threads,t.client⟩ := by
  have hthreads := (processStep_threads hs ht).1
  have hclient := processStep_client ht
  -- one after the other, as the two have no step in common
  have happart : (∀ b ∈ s.clientShare library connections a t, ∃ message, b = .push message) →
      exec (Pipeline.pipelineStep library connections) ⟨s.gateway.threads,s.client⟩
        ((s.threadShare library connections a t).map .handler ++ (s.clientShare library connections a t).map .client) =
        some ⟨t.gateway.threads,t.client⟩ := by
    intro hpush
    refine exec_append_eq_some.mpr ⟨⟨t.gateway.threads,s.client⟩,?_,?_⟩
    · exact exec_handler hthreads
    · exact exec_client hpush hclient
  cases a with
  | server a => exact happart (by rintro _ ⟨⟩)
  | handler a =>
    refine happart ?_
    intro b hb
    obtain ⟨message,-,rfl⟩ := List.mem_map.mp hb
    exact ⟨message,rfl⟩
  | client a =>
    have hstep : s.clientStep library connections a = some t := by
      cases a <;> first | exact ht | cases ht
    obtain ⟨p,hp,rfl⟩ := Option.map_eq_some_iff.mp hstep
    exact exec_cons_eq_some.mpr ⟨p,hp,rfl⟩
  | handleCommands => exact happart (by rintro _ ⟨⟩)

end Steps

/-! ## Runs -/

section Runs
variable {library : ModuleLibrary β} {connections : List (ConnectionModules β)} {as : List (ProcessAction β)}
  {s : Process β}

/-- Every run of the gateway is a run of each of its components, and all of them end in its state. -/
theorem exec_components (he : exec (processStep library connections) init as = some s) :
    let run := fun {γ : Type} (share : Process β → ProcessAction β → Process β → List γ) =>
      projected (processStep library connections) share init as
    exec (threadStep library) HandlerThreads.init (run (threadShare library connections)) = some s.gateway.threads ∧
      exec Gateway.gatewayStep Gateway.init (run (gatewayShare library connections)) = some s.gateway ∧
      exec (Client.clientStep (Pipeline.settings connections)) Client.init (run (clientShare library connections)) =
        some s.client ∧
      exec (Pipeline.pipelineStep library connections) Pipeline.init (run (pipelineShare library connections)) =
        some ⟨s.gateway.threads,s.client⟩ := by
  have hshared : ∀ s a t, Shared s → processStep library connections s a = some t → Shared t :=
    fun s a t hs ht => (processStep_threads hs ht).2
  refine ⟨?_,?_,?_,?_⟩
  · exact exec_projected (f := fun s : Process β => s.gateway.threads) Shared.init hshared
      (fun s a t hs ht => (processStep_threads hs ht).1) he
  · exact exec_projected (f := fun s : Process β => s.gateway) Shared.init hshared
      (fun s a t hs ht => processStep_gateway hs ht) he
  · exact exec_projected (f := fun s : Process β => s.client) Shared.init hshared
      (fun s a t _ ht => processStep_client ht) he
  · exact exec_projected (f := fun s : Process β => (⟨s.gateway.threads,s.client⟩ : Pipeline β)) Shared.init hshared
      (fun s a t hs ht => processStep_pipeline hs ht) he

/-- The session of the camera, for each component. -/
theorem exec_components_camera :
    ∃ gs cs, exec Gateway.gatewayStep Gateway.init gs = some cameraServed.gateway ∧
      exec (Client.clientStep (Pipeline.settings [Pipeline.cameraConnection])) Client.init cs =
        some cameraServed.client := by
  obtain ⟨-,hgateway,hclient,-⟩ := exec_components exec_cameraServed
  exact ⟨_,_,hgateway,hclient⟩

end Runs

end Process

/-! ## The modules of an endpoint -/

namespace Process
open ExternalClient (initConnections)
variable {library : ModuleLibrary β} {connections : List (ConnectionModules β)}

omit [BufferType β] in
theorem mem_of_mem_foldl_initErrorAggregator {numbers : List ℤ}
    {r : ModuleLibrary β × AList fun _ : ℤ => Option (Structures.ModuleLibraryHandler β)} {number : ℤ}
    (h : number ∈ (numbers.foldl ConnectionModules.initErrorAggregator r).2) : number ∈ numbers ∨ number ∈ r.2 := by
  induction numbers generalizing r with
  | nil => exact .inr h
  | cons moduleNum numbers ih =>
    rcases ih h with hmem | hmem
    · exact .inl (List.mem_cons_of_mem moduleNum hmem)
    · unfold ConnectionModules.initErrorAggregator at hmem
      have hinsert : ∀ libraryHandler, number ∈ r.2.insert moduleNum libraryHandler →
          number ∈ moduleNum :: numbers ∨ number ∈ r.2 := by
        intro libraryHandler hmem
        rcases AList.mem_insert _ |>.mp hmem with rfl | hmem
        · exact .inl List.mem_cons_self
        · exact .inr hmem
      split at hmem <;> exact hinsert _ hmem

omit [BufferType β] in
/-- The connections are those of the endpoints, in their order, each with modules of its endpoint only. -/
theorem initConnections_settings {settings : Settings} {library started : ModuleLibrary β}
    (h : initConnections settings library = some (started,connections)) :
    connections.map ConnectionModules.settings_ = settings.externalConnectionSettingsList ∧
      ∀ c ∈ connections, ∀ number ∈ c.errorAggregators_, number ∈ c.settings_.modules := by
  have hloop : ∀ (endpoints : List ExternalConnectionSettings) (library : ModuleLibrary β)
      (before : List (ConnectionModules β)),
      (∀ c ∈ before, ∀ number ∈ c.errorAggregators_, number ∈ c.settings_.modules) →
      endpoints.foldlM (fun s connectionSettings =>
        if connectionSettings.protocolType = .INVALID then none
        else
          let r := ConnectionModules.init s.1 connectionSettings
          some (r.1,s.2 ++ [r.2])) (library,before) = some (started,connections) →
      connections.map ConnectionModules.settings_ = before.map ConnectionModules.settings_ ++ endpoints ∧
        ∀ c ∈ connections, ∀ number ∈ c.errorAggregators_, number ∈ c.settings_.modules := by
    intro endpoints
    induction endpoints with
    | nil =>
      rintro library before hbefore ⟨⟩
      exact ⟨(List.append_nil _).symm,hbefore⟩
    | cons connectionSettings endpoints ih =>
      intro library before hbefore hrun
      rw [List.foldlM_cons] at hrun
      obtain ⟨next,hnext,hrest⟩ := Option.bind_eq_some_iff.mp hrun
      split at hnext
      · cases hnext
      · obtain rfl := Option.some.inj hnext
        obtain ⟨hsettings,hmodules⟩ := ih _ _ (by
          intro c hc number hnumber
          rcases List.mem_append.mp hc with hc | hc
          · exact hbefore c hc number hnumber
          · obtain rfl := List.mem_singleton.mp hc
            exact (mem_of_mem_foldl_initErrorAggregator hnumber).resolve_right (AList.notMem_empty number)) hrest
        refine ⟨?_,hmodules⟩
        rw [hsettings, List.map_append, List.append_assoc]
        rfl
  exact hloop _ _ [] (by rintro _ ⟨⟩) h

omit [BufferType β] in
theorem mem_of_isSome {c : ConnectionModules β} {number : ℤ} (h : (c.modules number).isSome) :
    number ∈ c.errorAggregators_ := by
  obtain ⟨module_,hmodule⟩ := Option.isSome_iff_exists.mp h
  exact AList.lookup_isSome.mp (Option.isSome_of_eq_some (Option.join_eq_some_iff.mp hmodule))

omit [BufferType β] in
theorem isSome_of_mem {c : ConnectionModules β} (hc : c.Ready library) {number : ℤ} (h : number ∈ c.errorAggregators_) :
    (c.modules number).isSome := by
  obtain ⟨libraryHandler,hlookup⟩ := Option.isSome_iff_exists.mp (AList.lookup_isSome.mpr h)
  obtain ⟨module_,rfl,-⟩ := hc.handlers number libraryHandler hlookup
  exact Option.isSome_of_eq_some (Option.join_eq_some_iff.mpr hlookup)

/-- The devices that a message is about. -/
def devicesOf : ExternalClient.ClientMessage β → List DeviceIdentification
  | .connect _ devices => devices
  | .status status => [status.deviceStatus.device]
  | .commandResponse _ _ _ => []

/-- In a gateway that was started from correct settings no look-up fails in any run, the client thread
gets past `forceAggregationOnAllDevices`, and an endpoint is only told about devices of its modules. -/
theorem exec_confined {exists_ : String → Bool} {settings : Settings} {loader : Structures.LibraryLoader β}
    {loaded started : ModuleLibrary β} (hcorrect : areSettingsCorrect exists_ settings = true)
    (hloaded : ModuleLibrary.init.loadLibraries loader settings.modulePaths settings.moduleBinaryPath = some loaded)
    (hlibrary : loaded.initStatusAggregators settings = some library)
    (hconnections : initConnections settings library = some (started,connections)) {as : List (ProcessAction β)}
    {s : Process β} (he : exec (processStep started connections) init as = some s) :
    (⟨s.gateway.threads,s.client⟩ : Pipeline β).LookUpsSucceed started connections ∧
      (∀ connection fromQueue sent, s.client.loop = .forcing connection fromQueue →
        ∃ t, s.processStep started connections (.client (.client [] sent)) = some t ∧
          t.client.loop = .awaiting connection (s.connectedDevices started connections)
            (s.forcedDevices started connections (.client [] sent)) fromQueue) ∧
      ∀ connection, ∀ message ∈ (s.client.externalConnectionsList_ connection).connection.sent,
        ∀ device ∈ devicesOf message, ∃ endpoint,
          settings.externalConnectionSettingsList[connection]? = some endpoint ∧ device.module_ ∈ endpoint.modules := by
  obtain ⟨-,hlookUps⟩ := ExternalClient.Pipeline.exec_lookUpsSucceed hcorrect hloaded hlibrary
  obtain ⟨rfl,hready⟩ := ExternalClient.initConnections_ready
    (ModuleLibrary.complete_of_areSettingsCorrect hcorrect hloaded hlibrary) hconnections
  obtain ⟨-,-,-,hpipeline⟩ := exec_components he
  have hsucceed := hlookUps started connections hconnections _ _ hpipeline
  refine ⟨hsucceed,?_,?_⟩
  · intro connection fromQueue sent hloop
    obtain ⟨hdevices,handler,hforce⟩ := hsucceed.forceAggregationOnAllDevices connection
    have hconnected : s.connectedDevices started connections = (Pipeline.connectionAt connections connection
        ).getAllConnectedDevices started s.gateway.threads.handler := by
      simp only [Process.connectedDevices, hloop]
    have hall : ((s.connectedDevices started connections).all fun device =>
        ExternalClient.Endpoint.isModuleSupported ((Pipeline.settings connections).modules connection)
          device.module_) = true := by
      rw [List.all_eq_true, hconnected]
      intro device hdevice
      rw [Pipeline.settings_modules]
      exact isSome_of_mem (Pipeline.connectionAt_ready hready connection) (hdevices device hdevice)
    obtain ⟨client,hclient,hawaiting⟩ : ∃ client, s.client.handleAggregatedMessages (Pipeline.settings connections)
        (s.connectedDevices started connections) sent = some client ∧
          client.loop = .awaiting connection (s.connectedDevices started connections)
            (s.forcedDevices started connections (.client [] sent)) fromQueue := by
      simp only [Client.handleAggregatedMessages, hloop, hall, if_true, forcedDevices]
      exact ⟨_,rfl,rfl⟩
    rw [hconnected] at hclient
    have hpipe : Pipeline.clientStep started connections ⟨s.gateway.threads,s.client⟩ (.client [] sent) =
        some ⟨s.gateway.threads.withHandler handler,client⟩ := by
      simp only [Pipeline.clientStep, hloop, hforce, Option.bind_some, hclient, Option.map_some]
    exact ⟨_,Option.map_eq_some_iff.mpr ⟨_,hpipe,rfl⟩,hawaiting⟩
  · intro connection message hmessage device hdevice
    have hmodules := ((exec_from he).client.endpoints connection).sent message hmessage
    have hsome : ((Pipeline.settings connections).modules connection device.module_).isSome := by
      cases message with
      | connect sessionId devices => exact hmodules device hdevice
      | status status =>
        obtain rfl := List.mem_singleton.mp hdevice
        exact hmodules.1
      | commandResponse sessionId type messageCounter => cases hdevice
    obtain ⟨hsettings,hlisted⟩ := initConnections_settings hconnections
    rw [Pipeline.settings_modules] at hsome
    unfold Pipeline.connectionAt at hsome
    rw [List.getD_eq_getElem?_getD] at hsome
    cases hc : connections[connection]? with
    | none =>
      rw [hc] at hsome
      cases hsome
    | some c =>
      rw [hc] at hsome
      refine ⟨c.settings_,?_,hlisted c (List.mem_of_getElem? hc) _ (mem_of_isSome hsome)⟩
      rw [← hsettings, List.getElem?_map, hc]
      rfl

theorem exec_confined_camera :
    ((cameraServed.client.externalConnectionsList_ 0).connection.sent.flatMap devicesOf).length = 2 ∧
      ∀ message ∈ (cameraServed.client.externalConnectionsList_ 0).connection.sent, ∀ device ∈ devicesOf message,
        ∃ endpoint, Pipeline.cameraSettings.externalConnectionSettingsList[0]? = some endpoint ∧
          device.module_ ∈ endpoint.modules := by
  have hcorrect : areSettingsCorrect (fun _ => true) Pipeline.cameraSettings = true := by decide
  have hloaded : ModuleLibrary.init.loadLibraries Pipeline.cameraLoader Pipeline.cameraSettings.modulePaths
      Pipeline.cameraSettings.moduleBinaryPath = some ⟨AList.singleton 1 (some Pipeline.cameraHandler),∅⟩ := rfl
  obtain ⟨-,-,hmodules⟩ := exec_confined hcorrect hloaded (rfl : _ = some Pipeline.cameraLibrary)
    (rfl : _ = some (Pipeline.cameraLibrary,[Pipeline.cameraConnection])) exec_cameraServed
  exact ⟨by decide +kernel,hmodules 0⟩

end Process

end ModuleGateway.Main
