import ModuleGateway.Main.Process

/-! # Devices are kept apart

What the gateway tells the external servers about a device, and what it tells a device, was made of
what came in for this device: no status, error message or command of one identity ever gets
out under another one, whatever the modules do and however the threads are interleaved.
-/
namespace ModuleGateway.Main
open Structures Execution
open InternalServer (Gateway GatewayAction SystemAction ConnId)
open Modules (HandlerThreads ModuleHandler StatusAggregator Origins StatusOf CommandOf originsOf_closed)
open ExternalClient (Client Pipeline ConnectionModules Contents ErrorOf ConnectionSettings errorOf_closed)

variable {β : Type} [BufferType β]

namespace Process
variable {library : ModuleLibrary β} {connections : List (ConnectionModules β)} {o : Origins β}
  {error : ℕ → DeviceKey → β → Prop} {announced : ConnId → DeviceIdentification → Prop} {s t : Process β}

/-- Each component keeps to the devices, and so do the queues between them. -/
structure From (connections : List (ConnectionModules β)) (o : Origins β) (error : ℕ → DeviceKey → β → Prop)
    (announced : ConnId → DeviceIdentification → Prop) (s : Process β) : Prop where
  gateway : s.gateway.From o announced
  client : s.client.Carries (Pipeline.settings connections) (fun status => o.status status.device.key status.statusdata)
    fun connection _ e =>
      e.connection.From ⟨o.status,error connection⟩ ((Pipeline.settings connections).modules connection)
  commands : ∀ command ∈ s.fromExternalQueue_, o.command command.device.key command.commanddata

theorem From.init : (init : Process β).From connections o error announced :=
  ⟨.init,.init fun _ => .init,by rintro _ ⟨⟩⟩

/-- What comes in with a step. -/
def ActionFrom (o : Origins β) (announced : ConnId → DeviceIdentification → Prop) (s t : Process β) :
    ProcessAction β → Prop
  | .server a => s.gateway.system.ActionFrom o announced a
  | .client a => ∀ command ∈ pushedCommands s.client t.client a, o.command command.device.key command.commanddata
  | _ => True

theorem From.handled (hs : s.From connections o error announced) {gateway : Gateway β}
    (h : gateway.From o announced) : (s.handled gateway).From connections o error announced := by
  have hhandler := h.threads.handler
  refine ⟨⟨h.system,h.threads.withHandler ?_⟩,⟨?_,hs.client.awaiting,hs.client.endpoints⟩,hs.commands⟩
  · exact ⟨hhandler.aggregators,hhandler.incoming,by rintro _ ⟨⟩,hhandler.replies,hhandler.thread⟩
  · intro message hmem
    rcases List.mem_append.mp hmem with hmem | hmem
    · exact hs.client.queue message hmem
    · exact hhandler.outgoing message hmem

/-- Forcing devices to aggregate changes their entries only. -/
theorem forceAggregationOnAllDevices_from (hclosed : o.Closed library.statusAggregators)
    {c : ConnectionModules β} {e : ExternalClient.ExternalConnection β} {handler : ModuleHandler β}
    (hhandler : handler.From o) {devices : List DeviceIdentification}
    {r : List DeviceIdentification × ModuleHandler β}
    (h : c.forceAggregationOnAllDevices library e handler devices = some r) : r.2.From o := by
  have hfold : ∀ (devices : List DeviceIdentification) (q r : List DeviceIdentification × ModuleHandler β),
      q.2.From o → devices.foldlM (ConnectionModules.forceAggregation library c e) q = some r → r.2.From o := by
    intro devices
    induction devices with
    | nil =>
      rintro q r hq hr
      obtain rfl := Option.some.inj hr
      exact hq
    | cons device devices ih =>
      intro q r hq hr
      rw [List.foldlM_cons] at hr
      obtain ⟨q',hforce,hrest⟩ := Option.bind_eq_some_iff.mp hr
      refine ih q' r ?_ hrest
      unfold ConnectionModules.forceAggregation at hforce
      split at hforce
      · cases hforce
      · split at hforce
        · obtain rfl := Option.some.inj hforce
          exact hq
        · obtain ⟨module_,hm,rfl⟩ := Option.map_eq_some_iff.mp hforce
          exact hq.operate hclosed hm (a := .force_aggregation_on_device device) trivial
  exact hfold devices _ r hhandler h

/-- A step of the External Client, whatever it forces. -/
theorem pipelineStep_from (hclosed : o.Closed library.statusAggregators) {threads : HandlerThreads β}
    (hthreads : threads.From o) {client : Client β} {a : Client.ClientAction β} {t : Pipeline β}
    (ht : Pipeline.clientStep library connections ⟨threads,client⟩ a = some t) :
    t.threads.From o ∧ ∃ a', client.clientStep (Pipeline.settings connections) a' = some t.client ∧
      ∀ internalMessage, a' = .push internalMessage → a = .push internalMessage := by
  unfold Pipeline.clientStep at ht
  split at ht
  · rename_i connectedDevices sent
    split at ht
    · obtain ⟨r,hforce,ht⟩ := Option.bind_eq_some_iff.mp ht
      obtain ⟨client',hclient,rfl⟩ := Option.map_eq_some_iff.mp ht
      refine ⟨hthreads.withHandler (forceAggregationOnAllDevices_from hclosed hthreads.handler hforce),
        .client _ sent,hclient,?_⟩
      rintro _ ⟨⟩
    · obtain ⟨client',hclient,rfl⟩ := Option.map_eq_some_iff.mp ht
      refine ⟨hthreads,.client [] sent,hclient,?_⟩
      rintro _ ⟨⟩
  · obtain ⟨client',hclient,rfl⟩ := Option.map_eq_some_iff.mp ht
    exact ⟨hthreads,a,hclient,fun _ h => h⟩

theorem From.handleCommands (hs : s.From connections o error announced)
    (hclosed : o.Closed library.statusAggregators) (ht : s.handleCommands library = some t) :
    t.From connections o error announced := by
  unfold Process.handleCommands at ht
  split at ht
  · obtain ⟨gateway,hgateway,rfl⟩ := Option.map_eq_some_iff.mp ht
    refine ⟨hs.gateway.gatewayStep (by exact ⟨hclosed,trivial⟩) hgateway,hs.client,?_⟩
    exact fun command hmem => hs.commands command (List.mem_of_mem_tail hmem)
  · split at ht
    · cases ht
    · rename_i message rest hqueue
      obtain ⟨gateway,hgateway,rfl⟩ := Option.map_eq_some_iff.mp ht
      have hmessage := hs.commands message (by rw [hqueue]; exact List.mem_cons_self)
      refine ⟨hs.gateway.gatewayStep (by exact ⟨hclosed,hmessage⟩) hgateway,hs.client,?_⟩
      intro command hmem
      dsimp only at hmem
      split at hmem
      · exact hs.commands command hmem
      · exact hs.commands command (by rw [hqueue]; exact List.mem_cons_of_mem message hmem)

/-- Every step of the gateway keeps the devices apart. -/
theorem From.processStep (hs : s.From connections o error announced) (hclosed : o.Closed library.statusAggregators)
    (herrors : ∀ connection, (Contents.mk o.status (error connection)).Closed
      ((Pipeline.settings connections).modules connection))
    {a : ProcessAction β} (ha : ActionFrom o announced s t a)
    (ht : s.processStep library connections a = some t) : t.From connections o error announced := by
  cases a with
  | server a =>
    obtain ⟨gateway,hgateway,rfl⟩ := Option.map_eq_some_iff.mp ht
    exact ⟨hs.gateway.gatewayStep (by exact ha) hgateway,hs.client,hs.commands⟩
  | handler a =>
    simp only [Process.processStep] at ht
    split at ht
    · rename_i hown
      obtain ⟨gateway,hgateway,rfl⟩ := Option.map_eq_some_iff.mp ht
      have ha : a.From o := by cases a <;> trivial
      exact hs.handled (hs.gateway.gatewayStep (by exact ⟨hclosed,ha⟩) hgateway)
    · cases ht
  | client a =>
    have hpush : ∀ internalMessage, a ≠ .push internalMessage := by
      rintro _ rfl
      cases ht
    have hstep : s.clientStep library connections a = some t := by
      cases a <;> first | exact ht | exact absurd rfl (hpush _)
    obtain ⟨p,hp,rfl⟩ := Option.map_eq_some_iff.mp hstep
    obtain ⟨hthreads,a',hclient,hsame⟩ := pipelineStep_from hclosed hs.gateway.threads hp
    refine ⟨⟨hs.gateway.system,hthreads⟩,?_,?_⟩
    · refine hs.client.clientStep (Client.endpointKeeps_from herrors) ?_ hclient
      exact fun internalMessage h => absurd (hsame internalMessage h) (hpush internalMessage)
    · intro command hmem
      rcases List.mem_append.mp hmem with hmem | hmem
      · exact hs.commands command hmem
      · exact ha command hmem
  | handleCommands => exact hs.handleCommands hclosed ht

/-! ## Runs -/

section Runs
variable {as : List (ProcessAction β)} {s : Process β}

/-- What came in for the devices during a run is where everything that is stored comes from. -/
theorem exec_from (he : exec (processStep library connections) init as = some s) :
    s.From connections
      ⟨StatusOf library.statusAggregators (Received library connections as),
        CommandOf library.statusAggregators (Received library connections as) (Accepted library connections as)⟩
      (fun connection => ErrorOf ((Pipeline.settings connections).modules connection)
        (StatusOf library.statusAggregators (Received library connections as)))
      (Announced library connections as) := by
  refine exec_occurs_invariant .init ?_ he
  intro s a t hoccurs hs
  refine hs.processStep (originsOf_closed ..) (fun _ => errorOf_closed _ fun _ => .unallocated) ?_ hoccurs.step_eq
  cases a with
  | server a =>
    cases a with
    | connect c deviceId => exact ⟨s,t,hoccurs⟩
    | status c status => exact fun haccepted => .received status ⟨c,s,t,hoccurs,haccepted⟩ rfl
    | push message => cases hoccurs.step_eq
    | _ => trivial
  | client a => exact fun command hmem => .accepted command ⟨a,s,t,hoccurs,hmem⟩ rfl
  | _ => trivial

/-- A status that a connection sends was received for its device, or aggregated from such statuses, and
its error message was made of such statuses. -/
theorem exec_sent_status (he : exec (processStep library connections) init as = some s) (connection : ℕ)
    (status : ExternalClient.Status β)
    (hsent : .status status ∈ (s.client.externalConnectionsList_ connection).connection.sent) :
    let statusOf := StatusOf library.statusAggregators (Received library connections as)
    statusOf status.deviceStatus.device.key status.deviceStatus.statusdata ∧
      ErrorOf ((Pipeline.settings connections).modules connection) statusOf status.deviceStatus.device.key
        status.errorMessage :=
  (((exec_from he).client.endpoints connection).sent _ hsent).2

/-- What is written on a socket is addressed to a device that was announced there, with the priority it
was announced with, and a command on it was made for that device. -/
theorem exec_responses (he : exec (processStep library connections) init as = some s) (c : ConnId)
    (message : Structures.InternalServer β) (hmem : (c,message) ∈ s.gateway.system.server.responses) :
    InternalServer.Server.Addressed (Announced library connections as) c message ∧
      ∀ command, message = .deviceCommand command → command.commanddata = BufferType.unallocated ∨
        CommandOf library.statusAggregators (Received library connections as)
          (Accepted library connections as) command.device.key command.commanddata :=
  (exec_from he).gateway.system.server.responses c message hmem

end Runs

/-! ## A camera and its server -/

def cameraSteps (steps : ℕ) (a : ProcessAction (List UInt8)) : List (ProcessAction (List UInt8)) :=
  List.replicate steps a

/-- The connect thread gets this message from the server. -/
def answered (received : Option (ExternalClient.ServerMessage (List UInt8))) : ProcessAction (List UInt8) :=
  .client (.thread 0 ⟨true,"session",true,received⟩)

/-- The camera connects and sends a status, which starts a connect sequence. -/
def cameraAppears : List (ProcessAction (List UInt8)) :=
  [.server (.connect 0 StatusAggregator.camera)] ++ cameraSteps 5 (.handler .messages) ++
    [.server .listen,.server (.responded 0),.server (.status 0 ⟨StatusAggregator.camera,[1]⟩)] ++
    cameraSteps 9 (.handler .messages) ++ cameraSteps 5 (.client (.client [] true))

/-- The server accepts the connection and the status of the camera, and sends a command for it. -/
def serverAnswers : List (ProcessAction (List UInt8)) :=
  [answered none,answered (some (.connectResponse "session" false))] ++ cameraSteps 3 (answered none) ++
    [answered (some (.statusResponse "session" true 1)),answered none,
      answered (some (.command "session" 9 ⟨StatusAggregator.camera,[20]⟩))] ++ cameraSteps 3 (answered none) ++
    cameraSteps 2 (.client (.client [] true))

/-- The command reaches the camera in the reply to its second status. -/
def commandDelivered : List (ProcessAction (List UInt8)) :=
  cameraSteps 2 .handleCommands ++
    [.server .listen,.server (.responded 0),.server (.status 0 ⟨StatusAggregator.camera,[2]⟩)] ++
    cameraSteps 9 (.handler .messages) ++ [.server .listen]

def cameraSession : List (ProcessAction (List UInt8)) := cameraAppears ++ serverAnswers ++ commandDelivered

def cameraStep : Process (List UInt8) → ProcessAction (List UInt8) → Option (Process (List UInt8)) :=
  processStep Pipeline.cameraLibrary [Pipeline.cameraConnection]

theorem exec_cameraSession : (exec cameraStep init cameraSession).isSome = true := by decide +kernel

/-- The state at the end of the session. -/
def cameraServed : Process (List UInt8) := (exec cameraStep init cameraSession).get exec_cameraSession

theorem exec_cameraServed : exec cameraStep init cameraSession = some cameraServed := (Option.some_get _).symm

def sentContents : ExternalClient.ClientMessage (List UInt8) → Option (DeviceIdentification × List UInt8 × List UInt8)
  | .status status => some (status.deviceStatus.device,status.deviceStatus.statusdata,status.errorMessage)
  | _ => none

theorem exec_sent_status_camera :
    ∃ status, .status status ∈ (cameraServed.client.externalConnectionsList_ 0).connection.sent ∧
      sentContents (.status status) = some (StatusAggregator.camera,[1],[1]) ∧
      StatusOf Pipeline.cameraLibrary.statusAggregators
        (Received Pipeline.cameraLibrary [Pipeline.cameraConnection] cameraSession)
        status.deviceStatus.device.key status.deviceStatus.statusdata := by
  have hsent : (cameraServed.client.externalConnectionsList_ 0).connection.sent.filterMap sentContents =
      [(StatusAggregator.camera,[1],[1])] := by decide +kernel
  obtain ⟨message,hmem,hsome⟩ := List.mem_filterMap.mp (hsent ▸ List.mem_singleton_self _)
  cases message with
  | status status => exact ⟨status,hmem,hsome,(exec_sent_status exec_cameraServed 0 status hmem).1⟩
  | connect sessionId devices => cases hsome
  | commandResponse sessionId type messageCounter => cases hsome

def commandContents : ConnId × Structures.InternalServer (List UInt8) → Option (ConnId × DeviceCommand (List UInt8))
  | (c,.deviceCommand command) => some (c,command)
  | _ => none

theorem exec_responses_camera :
    ∃ command : DeviceCommand (List UInt8), command.commanddata = [20] ∧
      (0,.deviceCommand command) ∈ cameraServed.gateway.system.server.responses ∧
      CommandOf Pipeline.cameraLibrary.statusAggregators
        (Received Pipeline.cameraLibrary [Pipeline.cameraConnection] cameraSession)
        (Accepted Pipeline.cameraLibrary [Pipeline.cameraConnection] cameraSession)
        command.device.key command.commanddata := by
  have hcommands : (cameraServed.gateway.system.server.responses.filterMap commandContents).map
      (fun r => (r.1,r.2.commanddata)) = [(0,[0]),(0,[20])] := by decide +kernel
  obtain ⟨⟨c,command⟩,hfound,hdata⟩ := List.mem_map.mp (hcommands ▸ List.mem_cons_of_mem _ (List.mem_singleton_self _))
  obtain ⟨rfl,hcommand⟩ := Prod.mk.inj hdata
  obtain ⟨⟨c',message⟩,hmem,hsome⟩ := List.mem_filterMap.mp hfound
  cases message with
  | deviceCommand command' =>
    obtain ⟨rfl,rfl⟩ := Prod.mk.inj (Option.some.inj hsome)
    obtain ⟨-,hof⟩ := exec_responses exec_cameraServed _ _ hmem
    refine ⟨command',hcommand,hmem,(hof _ rfl).resolve_left ?_⟩
    rw [hcommand]
    decide
  | deviceConnectResponse responseType device => cases hsome

end Process

end ModuleGateway.Main
