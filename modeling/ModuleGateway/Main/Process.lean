import ModuleGateway.Library.Occurrences
import ModuleGateway.InternalServer.Addressed
import ModuleGateway.ExternalClient.Contents
import ModuleGateway.ExternalClient.LookUps

/-! # The gateway as `main` wires it up

Internal Server, Module Handler and External Client over the queues that `main` creates. What
one of them pushes is in the queue of the other at once; `toExternalQueue_` of the Module Handler
is therefore empty between steps. The connections share `fromExternalQueue_`, which a thread of
the External Client empties into the status aggregators.
-/
namespace ModuleGateway.Main
open Structures Execution
open InternalServer (Gateway GatewayAction SystemAction ConnId)
open Modules (HandlerThreads ModuleHandler StatusAggregator)
open ExternalClient (Client Pipeline ConnectionModules)

variable {β : Type}

structure Process (β : Type) where
  gateway : Gateway β
  client : Client β
  fromExternalQueue_ : List (DeviceCommand β)

/-- A section of a thread of the Internal Server, of the Module Handler with its timers and posted
erasures, of the External Client with its connections, or of its command thread. -/
inductive ProcessAction (β : Type) where
  | server (a : SystemAction β)
  | handler (a : HandlerThreads.ThreadAction β)
  | client (a : Client.ClientAction β)
  | handleCommands

/-- The steps that the other components do not take for the Module Handler. -/
def ofHandler : HandlerThreads.ThreadAction β → Bool
  | .messages | .forwards | .tick _ _ | .erase _ _ => true
  | _ => false

namespace Process
variable [BufferType β] (library : ModuleLibrary β) (connections : List (ConnectionModules β))

omit [BufferType β] in
def init : Process β := ⟨.init,.init,[]⟩

omit [BufferType β] in
/-- After a step of the Module Handler. -/
def handled (s : Process β) (gateway : Gateway β) : Process β where
  gateway := { gateway with
    threads := gateway.threads.withHandler { gateway.threads.handler with toExternalQueue_ := [] } }
  client := { s.client with
    toExternalQueue_ := s.client.toExternalQueue_ ++ gateway.threads.handler.toExternalQueue_ }
  fromExternalQueue_ := s.fromExternalQueue_

omit [BufferType β] in
/-- What a connection pushes to `fromExternalQueue_` in a step of its connect thread or receive loop. -/
def pushedCommands (s t : Client β) : Client.ClientAction β → List (DeviceCommand β)
  | .thread connection _ | .receive connection _ _ =>
    appended (s.externalConnectionsList_ connection).connection.commandQueue_
      (t.externalConnectionsList_ connection).connection.commandQueue_
  | _ => []

/-- The External Client may force the devices of a connection to aggregate. -/
def clientStep (s : Process β) (a : Client.ClientAction β) : Option (Process β) :=
  (Pipeline.clientStep library connections ⟨s.gateway.threads,s.client⟩ a).map fun t =>
    { gateway := { s.gateway with threads := t.threads }
      client := t.client
      fromExternalQueue_ := s.fromExternalQueue_ ++ pushedCommands s.client t.client a }

/-- `handleCommands` of the External Client pops a command once `handleCommand` is done with it. -/
def handleCommands (s : Process β) : Option (Process β) :=
  match s.gateway.threads.updated with
  | some _ =>
    (s.gateway.gatewayStep (.handler library.statusAggregators .event)).map fun gateway =>
      { s with gateway := gateway, fromExternalQueue_ := s.fromExternalQueue_.tail }
  | none =>
    match s.fromExternalQueue_ with
    | [] => none
    | message :: rest =>
      (s.gateway.gatewayStep (.handler library.statusAggregators
          (.command message.commanddata message.device))).map fun gateway =>
        { s with
          gateway := gateway
          fromExternalQueue_ := if gateway.threads.updated.isSome then s.fromExternalQueue_ else rest }

def processStep (s : Process β) : ProcessAction β → Option (Process β)
  | .server a => (s.gateway.gatewayStep (.server a)).map fun gateway => { s with gateway := gateway }
  | .handler a =>
    if ofHandler a then
      (s.gateway.gatewayStep (.handler library.statusAggregators a)).map s.handled
    else none
  | .client (.push _) => none
  | .client a => s.clientStep library connections a
  | .handleCommands => s.handleCommands library

/-! ## What happened in a run -/

section Events
variable (as : List (ProcessAction β))

/-- A connect message of the device came in on the connection. -/
def Announced (c : ConnId) (deviceId : DeviceIdentification) : Prop := ∃ s t,
  Occurs (processStep library connections) init as s (.server (.connect c deviceId)) t

/-- The Internal Server passed the status on to the Module Handler. -/
def Received (status : DeviceStatus β) : Prop := ∃ c s t,
  Occurs (processStep library connections) init as s (.server (.status c status)) t ∧
    (s.gateway.system.server.handleStatus c status).1 = true

/-- A connection accepted the command and pushed it to `fromExternalQueue_`. -/
def Accepted (command : DeviceCommand β) : Prop := ∃ a s t,
  Occurs (processStep library connections) init as s (.client a) t ∧ command ∈ pushedCommands s.client t.client a

end Events

end Process

end ModuleGateway.Main
