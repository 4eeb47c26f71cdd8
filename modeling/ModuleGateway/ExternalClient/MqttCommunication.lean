import ModuleGateway.ExternalClient.ChannelCalls

/-! # The MQTT channel

`MqttCommunication` over a client of the Paho library, of which only the documented behaviour is used: its consumer
queue hands out what arrived in its order and each message once, and an empty message for a connection that was
lost. The client reconnects on its own.
-/
namespace ModuleGateway.ExternalClient
open Structures ExternalConnection Execution

variable {β : Type}

instance [DecidableEq β] : DecidableEq (ServerMessage β)
  | .connectResponse session logged,.connectResponse session' logged' =>
    decidable_of_iff (session = session' ∧ logged = logged') (by simp)
  | .statusResponse session ok counter,.statusResponse session' ok' counter' =>
    decidable_of_iff (session = session' ∧ ok = ok' ∧ counter = counter') (by simp)
  | .command session counter ⟨device,data⟩,.command session' counter' ⟨device',data'⟩ =>
    decidable_of_iff (session = session' ∧ counter = counter' ∧ device = device' ∧ data = data') (by simp)
  | .connectResponse _ _,.statusResponse _ _ _ | .connectResponse _ _,.command _ _ _
  | .statusResponse _ _ _,.connectResponse _ _ | .statusResponse _ _ _,.command _ _ _
  | .command _ _ _,.connectResponse _ _ | .command _ _ _,.statusResponse _ _ _ => .isFalse (by simp)

structure MqttMessage where
  topic : String
  payload : List UInt8
deriving DecidableEq

/-- What the broker and the network do to the client. -/
inductive MqttEvent where
  | arrives (msg : MqttMessage)
  | lost
  | reconnected

/-- What comes to the consumer queue. -/
def MqttEvent.arrival : MqttEvent → List (Option MqttMessage)
  | .arrives msg => [some msg]
  | .lost => [none]
  | .reconnected => []

/-- The clients `mqtt::async_client` with the functions that the channel calls: one that is made is connected and
subscribed, unless an operation threw, and a wait for a message may end without one. `arrived` is what came to the
consumer queue, `consumed` how much of it was taken, and `published` what was published. -/
class AsyncClient (β : outParam Type) (κ : Type) where
  create : Bool → κ
  is_connected : κ → Bool
  try_consume_message_for : κ → Option (Option MqttMessage × κ)
  publish : κ → ClientMessage β → κ
  network : κ → MqttEvent → Option κ
  arrived : κ → List (Option MqttMessage)
  consumed : κ → ℕ
  published : κ → List (ClientMessage β)
  create_spec (ok : Bool) : arrived (create ok) = [] ∧ consumed (create ok) = 0 ∧ published (create ok) = []
  try_consume_eq_some {client client' : κ} {msg : Option MqttMessage}
    (h : try_consume_message_for client = some (msg,client')) : (arrived client)[consumed client]? = some msg ∧
      arrived client' = arrived client ∧ consumed client' = consumed client + 1 ∧ published client' = published client
  try_consume_eq_none {client : κ} (h : try_consume_message_for client = none) :
    (arrived client)[consumed client]? = none
  publish_spec (client : κ) (m : ClientMessage β) : arrived (publish client m) = arrived client ∧
    consumed (publish client m) = consumed client ∧ published (publish client m) = published client ++ [m]
  network_spec {client client' : κ} {event : MqttEvent} (h : network client event = some client') :
    arrived client' = arrived client ++ event.arrival ∧ consumed client' = consumed client ∧
      published client' = published client

/-- A client that is nothing but its consumer queue. -/
structure ConsumerQueue (β : Type) where
  connected : Bool
  arrived : List (Option MqttMessage)
  consumed : ℕ
  published : List (ClientMessage β)

/-- What happens to the queue when the client has a connection, or has lost it. -/
def ConsumerQueue.network (client : ConsumerQueue β) : MqttEvent → Option (ConsumerQueue β)
  | .arrives msg => if client.connected then some { client with arrived := client.arrived ++ [some msg] } else none
  | .lost =>
    if client.connected then some { client with connected := false, arrived := client.arrived ++ [none] } else none
  | .reconnected => some { client with connected := true }

instance : AsyncClient β (ConsumerQueue β) where
  create ok := ⟨ok,[],0,[]⟩
  is_connected client := client.connected
  try_consume_message_for client :=
    client.arrived[client.consumed]?.map fun msg => (msg,{ client with consumed := client.consumed + 1 })
  publish client m := { client with published := client.published ++ [m] }
  network := ConsumerQueue.network
  arrived := ConsumerQueue.arrived
  consumed := ConsumerQueue.consumed
  published := ConsumerQueue.published
  create_spec ok := ⟨rfl,rfl,rfl⟩
  try_consume_eq_some h := by
    obtain ⟨msg,hmsg,hr⟩ := Option.map_eq_some_iff.mp h
    obtain ⟨rfl,rfl⟩ := Prod.mk.inj hr
    exact ⟨hmsg,rfl,rfl,rfl⟩
  try_consume_eq_none h := Option.map_eq_none_iff.mp h
  publish_spec client m := ⟨rfl,rfl,rfl⟩
  network_spec {client client' event} h := by
    cases event with
    | arrives msg =>
      obtain ⟨-,rfl⟩ := Option.ite_some_none_eq_some.mp h
      exact ⟨rfl,rfl,rfl⟩
    | lost =>
      obtain ⟨-,rfl⟩ := Option.ite_some_none_eq_some.mp h
      exact ⟨rfl,rfl,rfl⟩
    | reconnected =>
      obtain rfl := Option.some.inj h
      exact ⟨(List.append_nil _).symm,rfl,rfl⟩

structure MqttCommunication (κ : Type) where
  client_ : Option κ
  serverDisconnectPending_ : Bool

namespace MqttCommunication
variable {κ : Type}

def init : MqttCommunication κ := ⟨none,false⟩

/-! ## The functions of the channel -/

def closeConnection (s : MqttCommunication κ) : MqttCommunication κ :=
  { s with serverDisconnectPending_ := false, client_ := none }

variable [AsyncClient β κ]
open AsyncClient (create is_connected try_consume_message_for publish network arrived consumed published)

/-- A new client, which stays when an operation with the broker throws. -/
def connect (s : MqttCommunication κ) (ok : Bool) : MqttCommunication κ := { s with client_ := some (create ok) }

def initializeConnection (s : MqttCommunication κ) (ok : Bool) : Option (MqttCommunication κ) :=
  match s.client_ with
  | some client =>
    if is_connected client then if ok then some s else none
    else some (s.closeConnection.connect ok)
  | none => some (s.connect ok)

def sendMessage (s : MqttCommunication κ) (m : ClientMessage β) : Bool × MqttCommunication κ :=
  match s.client_ with
  | none => (false,s)
  | some client =>
    if is_connected client then (true,{ s with client_ := some (publish client m) })
    else (false,s)

section Receive
variable (parse : List UInt8 → Option (ServerMessage β)) (serverDisconnectTopic_ : String)

def receiveMessage (s : MqttCommunication κ) : Option (ServerMessage β) × MqttCommunication κ :=
  match s.client_ with
  | none => (none,s)
  | some client =>
    if is_connected client then
      match try_consume_message_for client with
      | none => (none,s)
      | some (none,client) => (none,{ s with client_ := some client })
      | some (some msg,client) =>
        if msg.topic = serverDisconnectTopic_ then (none,⟨some client,true⟩)
        else (parse msg.payload,{ s with client_ := some client })
    else (none,s)

def consumeServerDisconnectNotification (s : MqttCommunication κ) : Bool × MqttCommunication κ :=
  (s.serverDisconnectPending_,{ s with serverDisconnectPending_ := false })

/-- A call with the result it gives. -/
def call [DecidableEq β] (s : MqttCommunication κ) : ChannelCall β → Option (MqttCommunication κ)
  | .initializeConnection ok => s.initializeConnection ok
  | .sendMessage m sent =>
    let r := s.sendMessage m
    if sent = none ∨ sent = some r.1 then some r.2 else none
  | .receiveMessage m =>
    let r := s.receiveMessage parse serverDisconnectTopic_
    if m = r.1 then some r.2 else none
  | .consumeServerDisconnectNotification pending =>
    let r := s.consumeServerDisconnectNotification
    if pending = r.1 then some r.2 else none
  | .closeConnection => some s.closeConnection

def event (s : MqttCommunication κ) (e : MqttEvent) : Option (MqttCommunication κ) :=
  s.client_.bind fun client => (network client e).map fun client => { s with client_ := some client }

/-- The channel with the topic its server disconnects on. -/
def channel [DecidableEq β] : ICommunicationChannel β (MqttCommunication κ) MqttEvent :=
  ⟨init,call parse serverDisconnectTopic_,event⟩

end Receive

/-- What `receiveMessage` gives for a message. -/
def read (parse : List UInt8 → Option (ServerMessage β)) (serverDisconnectTopic_ : String) (msg : Option MqttMessage) :
    Option (ServerMessage β) :=
  msg.bind fun msg => if msg.topic = serverDisconnectTopic_ then none else parse msg.payload

/-- The next message of a client that is connected is a notification that its server disconnects. -/
def Notified (serverDisconnectTopic_ : String) (s : MqttCommunication κ) : Prop :=
  ∃ client msg, s.client_ = some client ∧ is_connected client = true ∧
    (arrived client)[consumed client]? = some (some msg) ∧ msg.topic = serverDisconnectTopic_

/-! ## One call -/

variable {parse : List UInt8 → Option (ServerMessage β)} {serverDisconnectTopic_ : String} {s t u : MqttCommunication κ}

/-- No client is made or reset, and it publishes nothing. -/
structure Keeps (s t : MqttCommunication κ) : Prop where
  closed : t.client_ = none ↔ s.client_ = none
  published : ∀ client, t.client_ = some client → ∃ before, s.client_ = some before ∧
    published client = published before

theorem Keeps.refl (s : MqttCommunication κ) : s.Keeps s := ⟨.rfl,fun client h => ⟨client,h,rfl⟩⟩

/-- One message is taken from the queue, or none. -/
theorem receiveMessage_cases (parse : List UInt8 → Option (ServerMessage β)) (serverDisconnectTopic_ : String)
    (s : MqttCommunication κ) :
    let r := s.receiveMessage parse serverDisconnectTopic_
    r = (none,s) ∧ ¬s.Notified serverDisconnectTopic_ ∨ ∃ client client' msg, s.client_ = some client ∧
      try_consume_message_for client = some (msg,client') ∧ r.1 = read parse serverDisconnectTopic_ msg ∧
      r.2.client_ = some client' ∧
      (r.2.serverDisconnectPending_ = true ↔
        s.serverDisconnectPending_ = true ∨ s.Notified serverDisconnectTopic_) := by
  cases hclient : s.client_ with
  | none => exact .inl ⟨by simp [receiveMessage, hclient],by simp [Notified, hclient]⟩
  | some client =>
    by_cases hconnected : is_connected client = true
    · cases hmsg : try_consume_message_for client with
      | none =>
        have hnothing := AsyncClient.try_consume_eq_none hmsg
        exact .inl ⟨by simp [receiveMessage, hclient, hconnected, hmsg],by simp [Notified, hclient, hnothing]⟩
      | some r =>
        obtain ⟨msg,client'⟩ := r
        obtain ⟨hnext,-⟩ := AsyncClient.try_consume_eq_some hmsg
        refine .inr ⟨client,client',msg,rfl,hmsg,?_⟩
        cases msg with
        | none => simp [receiveMessage, hclient, hconnected, hmsg, hnext, read, Notified]
        | some msg =>
          by_cases htopic : msg.topic = serverDisconnectTopic_ <;>
            simp [receiveMessage, hclient, hconnected, hmsg, hnext, read, Notified, htopic]
    · exact .inl ⟨by simp [receiveMessage, hclient, hconnected],by simp [Notified, hclient, hconnected]⟩

/-- Only a call that gives nothing finds a notification. -/
theorem receiveMessage_spec (parse : List UInt8 → Option (ServerMessage β)) (serverDisconnectTopic_ : String)
    (s : MqttCommunication κ) :
    let r := s.receiveMessage parse serverDisconnectTopic_
    s.Keeps r.2 ∧ (r.2.serverDisconnectPending_ = s.serverDisconnectPending_ ∨
      r.1 = none ∧ r.2.client_ ≠ none) := by
  -- the client after a message was taken
  have htaken {client client' : κ} {msg : Option MqttMessage} (hclient : s.client_ = some client)
      (hmsg : try_consume_message_for client = some (msg,client')) (pending : Bool) :
      s.Keeps ⟨some client',pending⟩ := by
    refine ⟨by simp [hclient],?_⟩
    rintro _ ⟨⟩
    exact ⟨client,hclient,(AsyncClient.try_consume_eq_some hmsg).2.2.2⟩
  unfold receiveMessage
  split
  · exact ⟨.refl s,.inl rfl⟩
  · rename_i client hclient
    split
    · split
      · exact ⟨.refl s,.inl rfl⟩
      · rename_i client' hmsg
        exact ⟨htaken hclient hmsg _,.inl rfl⟩
      · rename_i msg client' hmsg
        split
        · exact ⟨htaken hclient hmsg _,.inr ⟨rfl,Option.some_ne_none _⟩⟩
        · exact ⟨htaken hclient hmsg _,.inl rfl⟩
    · exact ⟨.refl s,.inl rfl⟩

/-- A message is published, or the channel is not connected. -/
theorem sendMessage_spec (s : MqttCommunication κ) (m : ClientMessage β) :
    let r := s.sendMessage m
    r.2.serverDisconnectPending_ = s.serverDisconnectPending_ ∧ (r.2.client_ = none ↔ s.client_ = none) ∧
      (r.1 = false → r.2 = s) ∧ (r.1 = true → ∃ client, s.client_ = some client ∧
        r.2.client_ = some (publish client m)) := by
  unfold sendMessage
  split
  · rename_i h
    simp [h]
  · rename_i client h
    split <;> simp_all

variable [DecidableEq β]

theorem call_sendMessage {m : ClientMessage β} {sent : Option Bool}
    (h : s.call parse serverDisconnectTopic_ (.sendMessage m sent) = some t) :
    t = (s.sendMessage m).2 ∧ (sent = none ∨ sent = some (s.sendMessage m).1) := by
  simp only [call] at h
  split at h
  · rename_i hsent
    exact ⟨(Option.some.inj h).symm,hsent⟩
  · cases h

theorem call_receiveMessage {m : Option (ServerMessage β)}
    (h : s.call parse serverDisconnectTopic_ (.receiveMessage m) = some t) :
    t = (s.receiveMessage parse serverDisconnectTopic_).2 ∧ m = (s.receiveMessage parse serverDisconnectTopic_).1 := by
  simp only [call] at h
  split at h
  · rename_i hm
    exact ⟨(Option.some.inj h).symm,hm⟩
  · cases h

theorem call_consume {pending : Bool}
    (h : s.call parse serverDisconnectTopic_ (.consumeServerDisconnectNotification pending) = some t) :
    t = { s with serverDisconnectPending_ := false } ∧ pending = s.serverDisconnectPending_ := by
  simp only [call] at h
  split at h
  · rename_i hpending
    exact ⟨(Option.some.inj h).symm,hpending⟩
  · cases h

/-- A receive as a caller sees it. -/
theorem call_receiveMessage_keeps {m : Option (ServerMessage β)}
    (h : s.call parse serverDisconnectTopic_ (.receiveMessage m) = some t) :
    s.Keeps t ∧ (t.serverDisconnectPending_ = s.serverDisconnectPending_ ∨ m = none ∧ t.client_ ≠ none) := by
  obtain ⟨rfl,rfl⟩ := call_receiveMessage h
  exact s.receiveMessage_spec parse serverDisconnectTopic_

/-- Some of the responses are published, those for which the client is connected. -/
theorem exec_responses_published {responses : List (ClientMessage β)}
    (h : exec (call parse serverDisconnectTopic_) s (responses.map fun m => .sendMessage m none) = some t) :
    t.serverDisconnectPending_ = s.serverDisconnectPending_ ∧ (t.client_ = none ↔ s.client_ = none) ∧
      ∀ client, t.client_ = some client → ∃ before published, s.client_ = some before ∧
        AsyncClient.published client = AsyncClient.published before ++ published ∧ published.Sublist responses := by
  induction responses generalizing s with
  | nil =>
    obtain rfl : s = t := Option.some.inj h
    exact ⟨rfl,.rfl,fun client hclient => ⟨client,[],hclient,by simp⟩⟩
  | cons m responses ih =>
    obtain ⟨u,hu,hrest⟩ := exec_cons_eq_some.mp h
    obtain ⟨rfl,-⟩ := call_sendMessage hu
    obtain ⟨hpending,hclosed,hfails,hpublishes⟩ := s.sendMessage_spec m
    obtain ⟨hpending',hclosed',hclients⟩ := ih hrest
    refine ⟨hpending'.trans hpending,hclosed'.trans hclosed,?_⟩
    intro client hclient
    obtain ⟨before,published,hbefore,happended,hsublist⟩ := hclients client hclient
    cases hsent : (s.sendMessage m).1 with
    | false =>
      rw [hfails hsent] at hbefore
      exact ⟨before,published,hbefore,happended,hsublist.cons m⟩
    | true =>
      obtain ⟨first,hfirst,hafter⟩ := hpublishes hsent
      obtain rfl := Option.some.inj (hafter.symm.trans hbefore)
      exact ⟨first,m :: published,hfirst,by simp [happended, (AsyncClient.publish_spec first m).2.2],
        hsublist.cons_cons m⟩

end MqttCommunication

end ModuleGateway.ExternalClient
