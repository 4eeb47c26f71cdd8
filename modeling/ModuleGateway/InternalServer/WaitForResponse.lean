import ModuleGateway.InternalServer.Replies

/-! # The wait for a response

The Internal Server cut at its two locks. `validateResponse` finds the connection and writes to it
under `serverMutex_`, sets `ready` in a section of `connectionMutex` inside of that one, and
notifies. `handleStatus` looks at `ready` without a lock, and pushes and resets it under
`connectionMutex`, which the wait gives up only while it sleeps.
-/
namespace ModuleGateway.InternalServer
open Structures Execution

variable {β : Type}

/-- Where the handler of a connection is. At `resetting` the status is pushed and the handler still
holds `connectionMutex`; `entering` is before the lock of the wait, `sleeping` in it, with a
notification that has come or not, and `ended` past it with `ready` as it was found. -/
inductive HandlerPhase (β : Type) where
  | reading
  | checked (status : DeviceStatus β)
  | resetting
  | entering
  | sleeping (notified : Bool)
  | ended (ready : Bool)
  | closing
  | closed

/-- Where the listener is; in the last two it holds `serverMutex_`. -/
inductive Listener where
  | idle
  | setting (c : ConnId)
  | notifying (c : ConnId)

/-- `stopped` is `context_->ioContext.stopped()`. -/
structure ServerThreads (β : Type) where
  server : Server β
  phase : ConnId → HandlerPhase β
  listener : Listener
  toInternalQueue_ : List (ModuleHandlerMessage β)
  stopped : Bool

/-- `wake` is the notification, `spurious` a wake-up without one. -/
inductive ServerThreadAction (β : Type) where
  | connect (c : ConnId) (deviceId : DeviceIdentification)
  | status (c : ConnId) (status : DeviceStatus β)
  | push (c : ConnId)
  | reset (c : ConnId)
  | enter (c : ConnId)
  | wake (c : ConnId)
  | spurious (c : ConnId)
  | timeout (c : ConnId)
  | finish (c : ConnId)
  | fail (c : ConnId)
  | cleanup (c : ConnId)
  | deliver (message : ModuleHandlerMessage β)
  | listen
  | set
  | notify
  | stop

namespace Server

def setReady (s : Server β) (c : ConnId) (ready : Bool) : Server β :=
  s.setConnection c fun conn => { conn with ready := ready }

def pushStatus (s : Server β) (status : DeviceStatus β) : Server β :=
  { s with fromInternalQueue_ := s.fromInternalQueue_ ++ [.message false (.deviceStatus status)] }

/-- The connection that `validateResponse` finds and whose priority is that of the message. -/
def recipient (s : Server β) (message : Structures.InternalServer β) : Option ConnId :=
  (s.findConnection (addressee message)).filter fun c => s.getPriority c = (addressee message).priority

/-- `c` is registered with the identity that the message is for, and with its priority. -/
def isFor (s : Server β) (message : Structures.InternalServer β) (c : ConnId) : Bool :=
  c ∈ s.connectedDevices_ && (s.connection c).deviceId.any fun deviceId =>
    (addressee message).isSame deviceId && deviceId.priority == (addressee message).priority

/-- The look-up and the comparison of the priorities find the connection that the message is for. -/
theorem Registry.recipient_eq_some_iff {s : Server β} (hs : s.Registry) {message : Structures.InternalServer β}
    {c : ConnId} : s.recipient message = some c ↔ s.isFor message c = true := by
  rw [recipient, findConnection_eq_holder, Option.filter_eq_some_iff, hs.holder_eq_some_iff, isFor, keyOf,
    getPriority]
  cases (s.connection c).deviceId with
  | none => simp
  | some deviceId =>
    simp only [Option.map_some, Option.some.injEq, Option.getD_some, decide_eq_true_eq, Option.any_some,
      Bool.and_eq_true, DeviceIdentification.isSame_iff, beq_iff_eq, and_assoc]
    exact and_congr_right fun _ => and_congr_left fun _ => eq_comm

theorem recipient_congr {s t : Server β} (hdevices : t.connectedDevices_ = s.connectedDevices_)
    (hdeviceId : ∀ x, (t.connection x).deviceId = (s.connection x).deviceId) (message : Structures.InternalServer β) :
    t.recipient message = s.recipient message := by
  have hpriority : t.getPriority = s.getPriority := funext fun x => by rw [getPriority, getPriority, hdeviceId]
  have hsame : t.isSame = s.isSame := funext fun deviceId => funext fun x => by rw [isSame, isSame, hdeviceId]
  rw [recipient, recipient, findConnection, findConnection, hdevices, hsame, hpriority]

theorem mem_of_removeConnFromMap {s : Server β} {x : ConnId} (c : ConnId)
    (hx : x ∈ (s.removeConnFromMap c).connectedDevices_) : x ∈ s.connectedDevices_ := by
  by_contra hno
  exact Registry.not_mem_removeConnFromMap hno c hx

theorem mem_of_handleDisconnect {s : Server β} {x : ConnId} (deviceId : DeviceIdentification)
    (hx : x ∈ (s.handleDisconnect deviceId).connectedDevices_) : x ∈ s.connectedDevices_ := by
  unfold handleDisconnect at hx
  split at hx
  · exact mem_of_removeConnFromMap _ hx
  · exact hx

/-- Only the newcomer can be new. -/
theorem mem_of_handleConnection {s : Server β} {c x : ConnId} {deviceId : DeviceIdentification}
    (hx : x ∈ (s.handleConnection c deviceId).2.connectedDevices_) (hxc : x ≠ c) : x ∈ s.connectedDevices_ := by
  have hnew : ∀ u : Server β, x ∈ (u.connectNewDevice c deviceId).connectedDevices_ → x ∈ u.connectedDevices_ := by
    intro u h
    rcases List.mem_append.mp h with h | h
    · exact h
    · exact absurd (List.mem_singleton.mp h) hxc
  unfold handleConnection at hx
  split at hx
  · exact hx
  · split at hx
    · exact hnew s hx
    · split at hx
      · exact (s.sendResponse_registry c _).2.1 ▸ hx
      · split at hx
        · exact (s.sendResponse_registry c _).2.1 ▸ hx
        · unfold changeConnection at hx
          have hold := hnew _ hx
          split at hold
          · exact mem_of_removeConnFromMap _ hold
          · exact hold

theorem setReady_deviceId (s : Server β) (c x : ConnId) (ready : Bool) :
    ((s.setReady c ready).connection x).deviceId = (s.connection x).deviceId :=
  s.setConnection_deviceId c x fun _ => rfl

/-- `handleStatus` is its check and its two sections. -/
theorem handleStatus_sections (s : Server β) (c : ConnId) (status : DeviceStatus β) :
    s.handleStatus c status =
      if (s.connection c).ready then (true,(s.pushStatus status).setReady c false) else (false,s) := rfl

/-- `validateResponse` writes, and then sets the flag. -/
theorem validateResponse_sections (s : Server β) (message : Structures.InternalServer β) :
    s.validateResponse message =
      (s.recipient message).elim s fun c => (s.sendResponse c message).setReady c true := by
  rw [validateResponse, recipient]
  cases s.findConnection (addressee message) with
  | none => rfl
  | some c =>
    dsimp only
    split
    · rename_i hpriority
      rw [Option.filter_some_pos (by simpa using hpriority)]
      rfl
    · rename_i hpriority
      rw [Option.filter_some_neg (by simpa using hpriority)]
      rfl

end Server

namespace ServerThreads

def init : ServerThreads β := ⟨.init,fun _ => .reading,.idle,[],false⟩

def setPhase (s : ServerThreads β) (c : ConnId) (phase : HandlerPhase β) : ServerThreads β :=
  { s with phase := Function.update s.phase c phase }

def ready (s : ServerThreads β) (c : ConnId) : Bool := (s.server.connection c).ready

/-- The predicate of the wait: its end, or sleep. -/
def check (s : ServerThreads β) (c : ConnId) : ServerThreads β :=
  s.setPhase c (if s.ready c || s.stopped then .ended (s.ready c) else .sleeping false)

def listen (s : ServerThreads β) : Option (ServerThreads β) :=
  match s.toInternalQueue_ with
  | [] => none
  | .disconnect deviceId :: rest =>
    some { s with server := s.server.handleDisconnect deviceId, toInternalQueue_ := rest }
  | .message message :: rest =>
    match s.server.recipient message with
    | none => some { s with toInternalQueue_ := rest }
    | some c => some { s with server := s.server.sendResponse c message, listener := .setting c }

def serverStep (s : ServerThreads β) : ServerThreadAction β → Option (ServerThreads β)
  | .connect c deviceId =>
    match s.phase c, s.listener with
    | .reading, .idle =>
      let r := s.server.handleConnection c deviceId
      some ({ s with server := r.2 }.setPhase c (if r.1 then .entering else .closing))
    | _, _ => none
  | .status c status =>
    match s.phase c with
    | .reading => some (s.setPhase c (if s.ready c then .checked status else .closing))
    | _ => none
  | .push c =>
    match s.phase c with
    | .checked status => some ({ s with server := s.server.pushStatus status }.setPhase c .resetting)
    | _ => none
  | .reset c =>
    match s.phase c with
    | .resetting => some ({ s with server := s.server.setReady c false }.setPhase c .entering)
    | _ => none
  | .enter c =>
    match s.phase c with
    | .entering => some (s.check c)
    | _ => none
  | .wake c =>
    match s.phase c with
    | .sleeping true => some (s.check c)
    | _ => none
  | .spurious c =>
    match s.phase c with
    | .sleeping _ => some (s.check c)
    | _ => none
  | .timeout c =>
    match s.phase c with
    | .sleeping _ => some (s.setPhase c (.ended (s.ready c)))
    | _ => none
  | .finish c =>
    match s.phase c with
    | .ended ready => some (s.setPhase c (if ready && !s.stopped then .reading else .closing))
    | _ => none
  | .fail c =>
    match s.phase c with
    | .reading => some (s.setPhase c .closing)
    | _ => none
  | .cleanup c =>
    match s.phase c, s.listener with
    | .closing, .idle => some ({ s with server := s.server.removeConnFromMap c }.setPhase c .closed)
    | _, _ => none
  | .deliver message => some { s with toInternalQueue_ := s.toInternalQueue_ ++ [message] }
  | .listen =>
    match s.listener with
    | .idle => s.listen
    | _ => none
  | .set =>
    match s.listener with
    | .setting c =>
      match s.phase c with
      | .resetting => none
      | _ => some { s with server := s.server.setReady c true, listener := .notifying c }
    | _ => none
  | .notify =>
    match s.listener with
    | .notifying c =>
      let s := { s with listener := .idle, toInternalQueue_ := s.toInternalQueue_.tail }
      match s.phase c with
      | .sleeping _ => some (s.setPhase c (.sleeping true))
      | _ => some s
    | _ => none
  | .stop => some { s with stopped := true }

/-- The handler has pushed a message and its wait has not ended. -/
def Waits (s : ServerThreads β) (c : ConnId) : Prop :=
  s.phase c = .entering ∨ ∃ notified, s.phase c = .sleeping notified

/-- An observer notes for which connections a message of their identity and priority was processed since
their last push, when the listener is past the section in which it sets a flag. -/
def see (s : ServerThreads β) (a : ServerThreadAction β) (t : ServerThreads β) (validated : ConnId → Bool) :
    ConnId → Bool :=
  match a with
  | .connect c deviceId =>
    if (s.server.handleConnection c deviceId).1 then Function.update validated c false else validated
  | .push c => Function.update validated c false
  | .listen | .set =>
    match s.toInternalQueue_, t.listener with
    | .message _ :: _, .setting _ => validated
    | .message message :: _, _ => fun x => validated x || s.server.isFor message x
    | _, _ => validated
  | _ => validated

/-! ## What the listener has found -/

theorem setPhase_self (s : ServerThreads β) (c : ConnId) (phase : HandlerPhase β) :
    (s.setPhase c phase).phase c = phase := Function.update_self ..

theorem setPhase_of_ne (s : ServerThreads β) {c x : ConnId} (h : x ≠ c) (phase : HandlerPhase β) :
    (s.setPhase c phase).phase x = s.phase x := Function.update_of_ne h ..

/-- Who reads on has registered with its flag set or not at all, and the listener sets the flag of the
connection that the message at the front is for. -/
structure Consistent (s : ServerThreads β) : Prop where
  registry : s.server.Registry
  reading : ∀ c ∈ s.server.connectedDevices_, s.phase c = .reading → s.ready c = true
  ended : ∀ c, s.phase c = .ended true → s.ready c = true
  setting : ∀ c, s.listener = .setting c →
    ∃ message rest, s.toInternalQueue_ = .message message :: rest ∧ s.server.recipient message = some c

namespace Consistent
variable {s t : ServerThreads β} {c : ConnId}

theorem init : (init : ServerThreads β).Consistent where
  registry := .init
  reading _ h := absurd h List.not_mem_nil
  ended _ h := nomatch h
  setting _ h := nomatch h

/-- Flags are only set, and who reads on stays where it was. -/
theorem congr (hs : s.Consistent) (hregistry : t.server.Registry)
    (hphase : ∀ x, t.phase x = .reading ∨ t.phase x = .ended true →
      t.phase x = s.phase x ∧ (s.ready x = true → t.ready x = true))
    (hmem : ∀ x ∈ t.server.connectedDevices_, t.phase x = .reading → x ∈ s.server.connectedDevices_)
    (hsetting : ∀ x, t.listener = .setting x →
      ∃ message rest, t.toInternalQueue_ = .message message :: rest ∧ t.server.recipient message = some x) :
    t.Consistent where
  registry := hregistry
  reading x hx h := by
    obtain ⟨hsame,hready⟩ := hphase x (.inl h)
    exact hready (hs.reading x (hmem x hx h) (hsame ▸ h))
  ended x h := by
    obtain ⟨hsame,hready⟩ := hphase x (.inr h)
    exact hready (hs.ended x (hsame ▸ h))
  setting := hsetting

/-- A handler that only moves, and reads on with its flag set. -/
theorem setPhase (hs : s.Consistent) (c : ConnId) {phase : HandlerPhase β}
    (hready : phase = .reading ∨ phase = .ended true → s.ready c = true) : (s.setPhase c phase).Consistent where
  registry := hs.registry
  reading x hx h := by
    by_cases hxc : x = c
    · subst hxc
      exact hready (.inl ((s.setPhase_self x phase).symm.trans h))
    · exact hs.reading x hx ((s.setPhase_of_ne hxc phase).symm.trans h)
  ended x h := by
    by_cases hxc : x = c
    · subst hxc
      exact hready (.inr ((s.setPhase_self x phase).symm.trans h))
    · exact hs.ended x ((s.setPhase_of_ne hxc phase).symm.trans h)
  setting := hs.setting

theorem check (hs : s.Consistent) (c : ConnId) : (s.check c).Consistent := by
  apply hs.setPhase
  rintro (h | h) <;> split at h
  · cases h
  · cases h
  · exact HandlerPhase.ended.inj h
  · cases h

theorem setReady (hs : s.server.Registry) (c : ConnId) (ready : Bool) : (s.server.setReady c ready).Registry :=
  hs.sublist (List.Sublist.refl _) fun x _ => s.server.setReady_deviceId c x ready

theorem listen (hs : s.Consistent) (hidle : s.listener = .idle) (ht : s.listen = some t) : t.Consistent := by
  have hno : ∀ x, s.listener ≠ .setting x := by
    intro x h
    cases hidle.symm.trans h
  unfold ServerThreads.listen at ht
  split at ht
  · cases ht
  · rename_i deviceId rest _
    obtain rfl := Option.some.inj ht
    refine hs.congr (hs.registry.handleDisconnect deviceId).1 ?_ ?_ fun x h => absurd h (hno x)
    · intro x _
      exact ⟨rfl,fun h => ((s.server.handleDisconnect_removes deviceId).ready x).trans h⟩
    · intro x hx _
      exact Server.mem_of_handleDisconnect deviceId hx
  · rename_i message rest hfront
    split at ht
    · obtain rfl := Option.some.inj ht
      exact hs.congr hs.registry (fun _ _ => ⟨rfl,id⟩) (fun _ hx _ => hx) fun x h => absurd h (hno x)
    · rename_i c hfound
      obtain rfl := Option.some.inj ht
      obtain ⟨hconnection,hdevices,-⟩ := s.server.sendResponse_registry c message
      have hdeviceId : ∀ x, ((s.server.sendResponse c message).connection x).deviceId =
          (s.server.connection x).deviceId := fun x => by rw [hconnection]
      refine hs.congr (hs.registry.sublist ?_ fun x _ => hdeviceId x) ?_ ?_ ?_
      · rw [hdevices]
      · intro x _
        refine ⟨rfl,fun h => ?_⟩
        simp only [ready, hconnection]
        exact h
      · intro x hx _
        exact hdevices ▸ hx
      · intro x h
        obtain rfl := Listener.setting.inj h
        exact ⟨message,rest,hfront,(Server.recipient_congr hdevices hdeviceId message).trans hfound⟩

/-- A section that ends in a phase past the reading. -/
theorem leaves (hs : s.Consistent) (c : ConnId) {server : Server β} (hregistry : server.Registry)
    (hmem : ∀ x ∈ server.connectedDevices_, x ≠ c → x ∈ s.server.connectedDevices_)
    (hready : ∀ x, x ≠ c → (server.connection x).ready = s.ready x)
    (hsetting : s.listener = .idle ∨ ∀ message, server.recipient message = s.server.recipient message)
    {phase : HandlerPhase β} (hphase : phase ≠ .reading ∧ phase ≠ .ended true) :
    ({ s with server := server }.setPhase c phase).Consistent := by
  have hother : ∀ x, ({ s with server := server }.setPhase c phase).phase x = .reading ∨
      ({ s with server := server }.setPhase c phase).phase x = .ended true → x ≠ c := by
    rintro x h rfl
    rw [setPhase_self] at h
    exact h.elim hphase.1 hphase.2
  refine hs.congr hregistry ?_ ?_ ?_
  · intro x h
    have hxc := hother x h
    exact ⟨setPhase_of_ne _ hxc phase,fun hx => (hready x hxc).trans hx⟩
  · intro x hx h
    exact hmem x hx (hother x (.inl h))
  · intro x h
    obtain hidle | hsame := hsetting
    · cases hidle.symm.trans h
    · obtain ⟨message,rest,hfront,hfound⟩ := hs.setting x h
      exact ⟨message,rest,hfront,(hsame message).trans hfound⟩

/-- The first message that a connection sends registers it, a later one finds its flag set. -/
theorem connect (hs : s.Consistent) (hidle : s.listener = .idle) {c : ConnId} (hphase : s.phase c = .reading)
    (deviceId : DeviceIdentification) :
    ({ s with server := (s.server.handleConnection c deviceId).2 }.setPhase c
      (if (s.server.handleConnection c deviceId).1 then .entering else .closing)).Consistent := by
  refine hs.leaves c ?_ (fun x hx hxc => Server.mem_of_handleConnection hx hxc)
    (s.server.handleConnection_accepts c deviceId).ready (.inl hidle) ?_
  · by_cases hready : s.ready c = true
    · have hrefused : s.server.handleConnection c deviceId = (false,s.server) := if_pos hready
      rw [hrefused]
      exact hs.registry
    · have hmem : c ∉ s.server.connectedDevices_ := fun h => hready (hs.reading c h hphase)
      exact (hs.registry.handleConnection (Bool.not_eq_true _ ▸ hready) hmem deviceId).1
  · split <;> exact ⟨nofun,nofun⟩

end Consistent

theorem Consistent.step {s t : ServerThreads β} {a : ServerThreadAction β} (hs : s.Consistent)
    (ht : s.serverStep a = some t) : t.Consistent := by
  cases a with
  | connect c deviceId =>
    simp only [serverStep] at ht
    split at ht
    · rename_i hphase hidle
      obtain rfl := Option.some.inj ht
      exact hs.connect hidle hphase deviceId
    · cases ht
  | status c status =>
    simp only [serverStep] at ht
    split at ht
    · obtain rfl := Option.some.inj ht
      apply hs.setPhase
      rintro (h | h) <;> split at h <;> cases h
    · cases ht
  | push c =>
    simp only [serverStep] at ht
    split at ht
    · rename_i status _
      obtain rfl := Option.some.inj ht
      have hregistry : (s.server.pushStatus status).Registry := ⟨hs.registry.identified,hs.registry.unique⟩
      exact hs.leaves c hregistry (fun _ hx _ => hx) (fun _ _ => rfl) (.inr fun _ => rfl) ⟨nofun,nofun⟩
    · cases ht
  | reset c =>
    simp only [serverStep] at ht
    split at ht
    · obtain rfl := Option.some.inj ht
      refine hs.leaves c (setReady hs.registry c false) (fun _ hx _ => hx) ?_ (.inr ?_) ⟨nofun,nofun⟩
      · exact fun x hxc => congrArg Connection.ready (Function.update_of_ne hxc ..)
      · exact Server.recipient_congr rfl fun x => s.server.setReady_deviceId c x false
    · cases ht
  | enter c | wake c | spurious c =>
    simp only [serverStep] at ht
    split at ht
    · obtain rfl := Option.some.inj ht
      exact hs.check c
    · cases ht
  | timeout c =>
    simp only [serverStep] at ht
    split at ht
    · obtain rfl := Option.some.inj ht
      apply hs.setPhase
      rintro (h | h)
      · cases h
      · exact HandlerPhase.ended.inj h
    · cases ht
  | finish c =>
    simp only [serverStep] at ht
    split at ht
    · rename_i ready hphase
      obtain rfl := Option.some.inj ht
      apply hs.setPhase
      rintro (h | h) <;> split at h
      · rename_i hgoes
        rw [Bool.and_eq_true] at hgoes
        exact hs.ended c (hgoes.1 ▸ hphase)
      all_goals cases h
    · cases ht
  | fail c =>
    simp only [serverStep] at ht
    split at ht
    · obtain rfl := Option.some.inj ht
      exact hs.setPhase c (by rintro (h | h) <;> cases h)
    · cases ht
  | cleanup c =>
    simp only [serverStep] at ht
    split at ht
    · rename_i hidle
      obtain rfl := Option.some.inj ht
      exact hs.leaves c (hs.registry.removeConnFromMap c) (fun _ hx _ => Server.mem_of_removeConnFromMap c hx)
        (fun x _ => s.server.removeConnFromMap_ready c x) (.inl hidle) ⟨nofun,nofun⟩
    · cases ht
  | deliver message =>
    obtain rfl := Option.some.inj ht
    refine hs.congr hs.registry (fun _ _ => ⟨rfl,id⟩) (fun _ hx _ => hx) ?_
    intro x h
    obtain ⟨found,rest,hfront,hfound⟩ := hs.setting x h
    exact ⟨found,rest ++ [message],by rw [hfront, List.cons_append],hfound⟩
  | listen =>
    simp only [serverStep] at ht
    split at ht
    · rename_i hidle
      exact hs.listen hidle ht
    · cases ht
  | set =>
    simp only [serverStep] at ht
    split at ht
    · rename_i c _
      split at ht
      · cases ht
      · obtain rfl := Option.some.inj ht
        refine hs.congr (setReady hs.registry c true) ?_ (fun _ hx _ => hx) nofun
        intro x _
        refine ⟨rfl,?_⟩
        intro hx
        by_cases hxc : x = c
        · subst hxc
          simp [ready, Server.setReady, Server.setConnection]
        · exact (congrArg Connection.ready (Function.update_of_ne hxc ..)).trans hx
    · cases ht
  | notify =>
    simp only [serverStep] at ht
    split at ht
    · rename_i c _
      have hidle : ({ s with listener := .idle, toInternalQueue_ := s.toInternalQueue_.tail } :
          ServerThreads β).Consistent := by
        refine hs.congr hs.registry (fun _ _ => ⟨rfl,id⟩) (fun _ hx _ => hx) ?_
        rintro x ⟨⟩
      split at ht <;> obtain rfl := Option.some.inj ht
      · exact hidle.setPhase c (by rintro (h | h) <;> cases h)
      · exact hidle
    · cases ht
  | stop =>
    obtain rfl := Option.some.inj ht
    exact hs.congr hs.registry (fun _ _ => ⟨rfl,id⟩) (fun _ hx _ => hx) hs.setting

/-! ## The invariant, one connection at a time -/

/-- What was validated since the push is not lost: the flag is set, and a handler that sleeps beside
it is notified, or is going to be. -/
structure Attended (s : ServerThreads β) (c : ConnId) (validated : Bool) : Prop where
  ready : s.Waits c → validated = true → s.ready c = true
  resetting : s.phase c = .resetting → validated = false
  notified : s.phase c = .sleeping false → s.ready c = true → s.listener = .notifying c

variable {s t : ServerThreads β} {c : ConnId} {validated : Bool}

/-- Nothing about the connection changes. -/
theorem Attended.congr (hs : s.Attended c validated) (hphase : t.phase c = s.phase c) (hready : t.ready c = s.ready c)
    (hlistener : s.listener = .notifying c → t.listener = .notifying c) : t.Attended c validated where
  ready hwaits hvalidated := by
    rw [hready]
    exact hs.ready (by rwa [Waits, hphase] at hwaits) hvalidated
  resetting h := hs.resetting (hphase ▸ h)
  notified h hr := hlistener (hs.notified (hphase ▸ h) (hready ▸ hr))

/-- A phase in which nothing is awaited. -/
theorem Attended.of_phase (hwaits : ¬t.Waits c) (hresetting : t.phase c ≠ .resetting) : t.Attended c validated where
  ready h := absurd h hwaits
  resetting h := absurd h hresetting
  notified h := absurd (.inr ⟨false,h⟩) hwaits

/-- The handler of another connection moves. -/
theorem Attended.setPhase_of_ne {x : ConnId} (hs : s.Attended x validated) (hne : x ≠ c) (phase : HandlerPhase β) :
    (s.setPhase c phase).Attended x validated :=
  hs.congr (ServerThreads.setPhase_of_ne s hne phase) rfl id

/-- The handler sleeps only where it finds the flag unset. -/
theorem Attended.check (hs : s.Attended c validated) (hwaits : s.Waits c) : (s.check c).Attended c validated := by
  unfold ServerThreads.check
  split
  · refine Attended.of_phase ?_ ?_
    · rintro (h | ⟨notified,h⟩) <;> cases (s.setPhase_self c _).symm.trans h
    · intro h
      cases (s.setPhase_self c _).symm.trans h
  · rename_i hsleeps
    have hready : s.ready c = false := by
      rw [Bool.not_eq_true, Bool.or_eq_false_iff] at hsleeps
      exact hsleeps.1
    refine ⟨fun _ hvalidated => hs.ready hwaits hvalidated,fun h => ?_,fun _ hr => ?_⟩
    · cases (s.setPhase_self c _).symm.trans h
    · exact absurd (hready.symm.trans hr) Bool.false_ne_true

theorem ready_setReady_of_ne {x : ConnId} (hne : x ≠ c) (server : Server β) (ready : Bool) :
    ((server.setReady c ready).connection x).ready = (server.connection x).ready :=
  congrArg Connection.ready (Function.update_of_ne hne ..)

theorem ready_setReady_self (server : Server β) (ready : Bool) :
    ((server.setReady c ready).connection c).ready = ready := by
  simp only [Server.setReady, Server.setConnection, Function.update_self]

/-! ## One step -/

/-- The push of a connect message comes with the registration, so nothing was validated since. -/
theorem Attended.connect {x : ConnId} (hs : s.Attended x validated) (c : ConnId) (deviceId : DeviceIdentification) :
    let r := s.server.handleConnection c deviceId
    ({ s with server := r.2 }.setPhase c (if r.1 then .entering else .closing)).Attended x
      (if r.1 then if x = c then false else validated else validated) := by
  have haccepts := s.server.handleConnection_accepts c deviceId
  generalize s.server.handleConnection c deviceId = r at haccepts
  obtain ⟨accepted,server⟩ := r
  dsimp only at haccepts ⊢
  have hother : x ≠ c → ({ s with server := server } : ServerThreads β).Attended x validated := by
    intro hxc
    have hready : ({ s with server := server } : ServerThreads β).ready x = s.ready x := haccepts.ready x hxc
    exact hs.congr rfl hready id
  by_cases hxc : x = c
  · subst hxc
    cases accepted with
    | true =>
      simp only [if_true]
      refine ⟨fun _ h => absurd h Bool.false_ne_true,fun _ => rfl,fun h => ?_⟩
      cases (setPhase_self _ x _).symm.trans h
    | false =>
      simp only [Bool.false_eq_true, if_false]
      refine Attended.of_phase ?_ ?_
      · rintro (h | ⟨notified,h⟩) <;> cases (setPhase_self _ x _).symm.trans h
      · intro h
        cases (setPhase_self _ x _).symm.trans h
  · rw [if_neg hxc, ite_self]
    exact (hother hxc).setPhase_of_ne hxc _

/-- The section of `handleStatus`: the push, then the reset, and no message is validated between. -/
theorem Attended.push {x : ConnId} (hs : s.Attended x validated) (c : ConnId) (status : DeviceStatus β) :
    ({ s with server := s.server.pushStatus status }.setPhase c .resetting).Attended x
      (if x = c then false else validated) := by
  by_cases hxc : x = c
  · subst hxc
    rw [if_pos rfl]
    refine ⟨fun _ h => absurd h Bool.false_ne_true,fun _ => rfl,fun h => ?_⟩
    cases (setPhase_self _ x _).symm.trans h
  · rw [if_neg hxc]
    exact hs.congr (ServerThreads.setPhase_of_ne _ hxc _) rfl id

theorem Attended.reset {x : ConnId} (hs : s.Attended x validated) (hphase : s.phase c = .resetting) :
    ({ s with server := s.server.setReady c false }.setPhase c .entering).Attended x validated := by
  by_cases hxc : x = c
  · subst hxc
    have hvalidated := hs.resetting hphase
    refine ⟨fun _ h => absurd (hvalidated.symm.trans h) Bool.false_ne_true,fun _ => hvalidated,fun h => ?_⟩
    cases (setPhase_self _ x _).symm.trans h
  · exact hs.congr (ServerThreads.setPhase_of_ne _ hxc _) (ready_setReady_of_ne hxc s.server false) id

/-- The flag is set, and the notification is what the listener does next. -/
theorem Attended.set {x : ConnId} (hs : s.Attended x validated) (hlistener : s.listener = .setting c)
    (hphase : s.phase c ≠ .resetting) :
    ({ s with server := s.server.setReady c true, listener := .notifying c } : ServerThreads β).Attended x
      (if x = c then true else validated) := by
  by_cases hxc : x = c
  · subst hxc
    rw [if_pos rfl]
    exact ⟨fun _ _ => ready_setReady_self s.server true,fun h => absurd h hphase,fun _ _ => rfl⟩
  · rw [if_neg hxc]
    refine hs.congr rfl (ready_setReady_of_ne hxc s.server true) fun h => ?_
    cases hlistener.symm.trans h

theorem Attended.notify {x : ConnId} (hs : s.Attended x validated) (hlistener : s.listener = .notifying c) :
    let u : ServerThreads β := { s with listener := .idle, toInternalQueue_ := s.toInternalQueue_.tail }
    ((∃ notified, s.phase c = .sleeping notified) → (u.setPhase c (.sleeping true)).Attended x validated) ∧
      ((∀ notified, s.phase c ≠ .sleeping notified) → u.Attended x validated) := by
  intro u
  have hother : x ≠ c → u.Attended x validated := by
    intro hxc
    refine hs.congr rfl rfl fun h => ?_
    rw [hlistener] at h
    exact absurd (Listener.notifying.inj h).symm hxc
  by_cases hxc : x = c
  · subst hxc
    constructor
    · rintro ⟨notified,hsleeps⟩
      refine ⟨fun _ hvalidated => hs.ready (.inr ⟨notified,hsleeps⟩) hvalidated,fun h => ?_,fun h => ?_⟩
      · cases (setPhase_self u x _).symm.trans h
      · cases (setPhase_self u x _).symm.trans h
    · intro hawake
      exact ⟨hs.ready,hs.resetting,fun h => absurd h (hawake false)⟩
  · exact ⟨fun _ => (hother hxc).setPhase_of_ne hxc _,fun _ => hother hxc⟩

/-- A message that is dropped is for no connection. -/
theorem Attended.listen {x : ConnId} {o : ConnId → Bool} (hregistry : s.server.Registry) (hs : s.Attended x (o x))
    (hidle : s.listener = .idle) (ht : s.listen = some t) : t.Attended x (s.see .listen t o x) := by
  have hlistener : ∀ u : ServerThreads β, s.listener = .notifying x → u.listener = .notifying x := by
    intro u h
    cases hidle.symm.trans h
  unfold ServerThreads.listen at ht
  split at ht
  · cases ht
  · rename_i deviceId rest hfront
    obtain rfl := Option.some.inj ht
    simp only [see, hfront]
    exact hs.congr rfl ((s.server.handleDisconnect_removes deviceId).ready x) (hlistener _)
  · rename_i message rest hfront
    split at ht
    · rename_i hnone
      obtain rfl := Option.some.inj ht
      have hno : s.server.isFor message x = false := by
        by_contra hfor
        rw [Bool.not_eq_false, ← hregistry.recipient_eq_some_iff, hnone] at hfor
        cases hfor
      simp only [see, hfront, hidle, hno, Bool.or_false]
      exact hs.congr rfl rfl (hlistener _)
    · rename_i c _
      obtain rfl := Option.some.inj ht
      simp only [see, hfront]
      refine hs.congr rfl ?_ (hlistener _)
      exact congrArg (fun connection => (connection x : Connection).ready) (s.server.sendResponse_registry c message).1

/-- A handler that goes on to where nothing is awaited. -/
theorem Attended.goes {x : ConnId} (hs : s.Attended x validated) (c : ConnId) {phase : HandlerPhase β}
    (hphase : phase ≠ .entering ∧ phase ≠ .resetting ∧ ∀ notified, phase ≠ .sleeping notified) :
    (s.setPhase c phase).Attended x validated := by
  by_cases hxc : x = c
  · subst hxc
    refine Attended.of_phase ?_ fun h => hphase.2.1 ((s.setPhase_self x phase).symm.trans h)
    rintro (h | ⟨notified,h⟩)
    · exact hphase.1 ((s.setPhase_self x phase).symm.trans h)
    · exact hphase.2.2 notified ((s.setPhase_self x phase).symm.trans h)
  · exact hs.setPhase_of_ne hxc phase

theorem Attended.checks {x : ConnId} (hs : s.Attended x validated) (hwaits : s.Waits c) :
    (s.check c).Attended x validated := by
  by_cases hxc : x = c
  · subst hxc
    exact hs.check hwaits
  · exact hs.setPhase_of_ne hxc _

theorem Attended.step {a : ServerThreadAction β} {o : ConnId → Bool} (hc : s.Consistent)
    (hs : ∀ x, s.Attended x (o x)) (ht : s.serverStep a = some t) (x : ConnId) : t.Attended x (s.see a t o x) := by
  have hupdate : ∀ c v, Function.update o c v x = if x = c then v else o x := fun c v => Function.update_apply o c v x
  cases a with
  | connect c deviceId =>
    simp only [serverStep] at ht
    split at ht
    · obtain rfl := Option.some.inj ht
      have hnext := (hs x).connect c deviceId
      rw [see, ite_apply, hupdate]
      exact hnext
    · cases ht
  | status c status =>
    simp only [serverStep] at ht
    split at ht
    · obtain rfl := Option.some.inj ht
      refine (hs x).goes c ?_
      split <;> exact ⟨nofun,nofun,nofun⟩
    · cases ht
  | push c =>
    simp only [serverStep] at ht
    split at ht
    · obtain rfl := Option.some.inj ht
      rw [see, hupdate]
      exact (hs x).push c _
    · cases ht
  | reset c =>
    simp only [serverStep] at ht
    split at ht
    · rename_i hphase
      obtain rfl := Option.some.inj ht
      exact (hs x).reset hphase
    · cases ht
  | enter c =>
    simp only [serverStep] at ht
    split at ht
    · rename_i hphase
      obtain rfl := Option.some.inj ht
      exact (hs x).checks (.inl hphase)
    · cases ht
  | wake c =>
    simp only [serverStep] at ht
    split at ht
    · rename_i hphase
      obtain rfl := Option.some.inj ht
      exact (hs x).checks (.inr ⟨true,hphase⟩)
    · cases ht
  | spurious c =>
    simp only [serverStep] at ht
    split at ht
    · rename_i notified hphase
      obtain rfl := Option.some.inj ht
      exact (hs x).checks (.inr ⟨notified,hphase⟩)
    · cases ht
  | timeout c =>
    simp only [serverStep] at ht
    split at ht
    · obtain rfl := Option.some.inj ht
      exact (hs x).goes c ⟨nofun,nofun,nofun⟩
    · cases ht
  | finish c =>
    simp only [serverStep] at ht
    split at ht
    · obtain rfl := Option.some.inj ht
      refine (hs x).goes c ?_
      split <;> exact ⟨nofun,nofun,nofun⟩
    · cases ht
  | fail c =>
    simp only [serverStep] at ht
    split at ht
    · obtain rfl := Option.some.inj ht
      exact (hs x).goes c ⟨nofun,nofun,nofun⟩
    · cases ht
  | cleanup c =>
    simp only [serverStep] at ht
    split at ht
    · obtain rfl := Option.some.inj ht
      have hremoved : ({ s with server := s.server.removeConnFromMap c } : ServerThreads β).Attended x (o x) :=
        (hs x).congr rfl (s.server.removeConnFromMap_ready c x) id
      exact hremoved.goes c ⟨nofun,nofun,nofun⟩
    · cases ht
  | deliver message =>
    obtain rfl := Option.some.inj ht
    exact (hs x).congr rfl rfl id
  | listen =>
    simp only [serverStep] at ht
    split at ht
    · rename_i hidle
      exact (hs x).listen hc.registry hidle ht
    · cases ht
  | set =>
    simp only [serverStep] at ht
    split at ht
    · rename_i c hlistener
      split at ht
      · cases ht
      · rename_i hphase
        obtain rfl := Option.some.inj ht
        obtain ⟨message,rest,hfront,hfound⟩ := hc.setting c hlistener
        have hnext := (hs x).set hlistener hphase
        have hmark : (o x || s.server.isFor message x) = if x = c then true else o x := by
          rw [Bool.eq_iff_iff, Bool.or_eq_true, ← hc.registry.recipient_eq_some_iff, hfound]
          split
          · rename_i hxc
            simp [hxc]
          · rename_i hxc
            simp [Ne.symm hxc]
        have hsee : s.see .set { s with server := s.server.setReady c true, listener := .notifying c } o x =
            if x = c then true else o x := by
          simp only [see, hfront]
          exact hmark
        rw [hsee]
        exact hnext
    · cases ht
  | notify =>
    simp only [serverStep] at ht
    split at ht
    · rename_i c hlistener
      obtain ⟨hsleeps,hawake⟩ := (hs x).notify hlistener
      split at ht
      · rename_i notified hphase
        obtain rfl := Option.some.inj ht
        exact hsleeps ⟨notified,hphase⟩
      · rename_i hphase
        obtain rfl := Option.some.inj ht
        exact hawake hphase
    · cases ht
  | stop =>
    obtain rfl := Option.some.inj ht
    exact (hs x).congr rfl rfl id

/-! ## Runs -/

theorem setPhase_ended {phase : HandlerPhase β} {x : ConnId} {result : Bool}
    (h : (s.setPhase c phase).phase x = .ended result) : x = c ∧ phase = .ended result ∨ s.phase x = .ended result := by
  by_cases hxc : x = c
  · subst hxc
    exact .inl ⟨rfl,(s.setPhase_self x phase).symm.trans h⟩
  · exact .inr ((s.setPhase_of_ne hxc phase).symm.trans h)

/-- What ends a wait finds the flag as it is. -/
theorem ended_eq_ready {a : ServerThreadAction β} {result : Bool} (hwaits : s.Waits c)
    (ht : s.serverStep a = some t) (hended : t.phase c = .ended result) : result = s.ready c := by
  have hbefore : s.phase c ≠ .ended result := by
    obtain h | ⟨notified,h⟩ := hwaits <;> rw [h] <;> exact nofun
  have hcheck : ∀ x, t = s.check x → result = s.ready c := by
    rintro x rfl
    obtain ⟨rfl,hphase⟩ | h := setPhase_ended hended
    · split at hphase
      · exact (HandlerPhase.ended.inj hphase).symm
      · cases hphase
    · exact absurd h hbefore
  have hgoes : ∀ (u : ServerThreads β) x phase, u.phase = s.phase → t = u.setPhase x phase →
      phase = .ended result ∧ x = c := by
    rintro u x phase hu rfl
    obtain ⟨rfl,hphase⟩ | h := setPhase_ended hended
    · exact ⟨hphase,rfl⟩
    · exact absurd (congrFun hu c ▸ h) hbefore
  have hstays : t.phase = s.phase → result = s.ready c := fun h => absurd (congrFun h c ▸ hended) hbefore
  cases a with
  | connect x deviceId =>
    simp only [serverStep] at ht
    split at ht
    · obtain rfl := Option.some.inj ht
      obtain ⟨h,-⟩ := hgoes { s with server := (s.server.handleConnection x deviceId).2 } x _ rfl rfl
      split at h <;> cases h
    · cases ht
  | status x status =>
    simp only [serverStep] at ht
    split at ht
    · obtain rfl := Option.some.inj ht
      obtain ⟨h,-⟩ := hgoes _ x _ rfl rfl
      split at h <;> cases h
    · cases ht
  | push x =>
    simp only [serverStep] at ht
    split at ht
    · rename_i status _
      obtain rfl := Option.some.inj ht
      obtain ⟨h,-⟩ := hgoes { s with server := s.server.pushStatus status } x _ rfl rfl
      cases h
    · cases ht
  | reset x =>
    simp only [serverStep] at ht
    split at ht
    · obtain rfl := Option.some.inj ht
      obtain ⟨h,-⟩ := hgoes { s with server := s.server.setReady x false } x _ rfl rfl
      cases h
    · cases ht
  | enter x =>
    simp only [serverStep] at ht
    split at ht
    · exact hcheck x (Option.some.inj ht).symm
    · cases ht
  | wake x =>
    simp only [serverStep] at ht
    split at ht
    · exact hcheck x (Option.some.inj ht).symm
    · cases ht
  | spurious x =>
    simp only [serverStep] at ht
    split at ht
    · exact hcheck x (Option.some.inj ht).symm
    · cases ht
  | timeout x =>
    simp only [serverStep] at ht
    split at ht
    · obtain rfl := Option.some.inj ht
      obtain ⟨h,rfl⟩ := hgoes _ x _ rfl rfl
      exact (HandlerPhase.ended.inj h).symm
    · cases ht
  | finish x =>
    simp only [serverStep] at ht
    split at ht
    · obtain rfl := Option.some.inj ht
      obtain ⟨h,-⟩ := hgoes _ x _ rfl rfl
      split at h <;> cases h
    · cases ht
  | fail x =>
    simp only [serverStep] at ht
    split at ht
    · obtain rfl := Option.some.inj ht
      obtain ⟨h,-⟩ := hgoes _ x _ rfl rfl
      cases h
    · cases ht
  | cleanup x =>
    simp only [serverStep] at ht
    split at ht
    · obtain rfl := Option.some.inj ht
      obtain ⟨h,-⟩ := hgoes { s with server := s.server.removeConnFromMap x } x _ rfl rfl
      cases h
    · cases ht
  | deliver message =>
    obtain rfl := Option.some.inj ht
    exact hstays rfl
  | listen =>
    simp only [serverStep] at ht
    split at ht
    · refine hstays ?_
      unfold ServerThreads.listen at ht
      split at ht
      · cases ht
      · obtain rfl := Option.some.inj ht
        rfl
      · split at ht <;> obtain rfl := Option.some.inj ht <;> rfl
    · cases ht
  | set =>
    simp only [serverStep] at ht
    split at ht
    · split at ht
      · cases ht
      · obtain rfl := Option.some.inj ht
        exact hstays rfl
    · cases ht
  | notify =>
    simp only [serverStep] at ht
    split at ht
    · split at ht
      · obtain rfl := Option.some.inj ht
        obtain ⟨h,-⟩ := hgoes { s with listener := .idle, toInternalQueue_ := s.toInternalQueue_.tail } _ _ rfl rfl
        cases h
      · obtain rfl := Option.some.inj ht
        exact hstays rfl
    · cases ht
  | stop =>
    obtain rfl := Option.some.inj ht
    exact hstays rfl

theorem check_of_ready (hready : s.ready c = true) : (s.check c).phase c = .ended true := by
  rw [check, hready]
  exact setPhase_self s c _

/-- Without a time-out: what the handler and the listener do next ends the wait. -/
theorem Attended.ends (hs : s.Attended c validated) (hwaits : s.Waits c) (hready : s.ready c = true) :
    ∃ as t, (∀ a ∈ as, a = .enter c ∨ a = .notify ∨ a = .wake c) ∧ exec serverStep s as = some t ∧
      t.phase c = .ended true := by
  obtain hphase | ⟨notified,hphase⟩ := hwaits
  · have henter : s.serverStep (.enter c) = some (s.check c) := by
      simp only [serverStep, hphase]
    exact ⟨[.enter c],_,by simp,exec_cons_eq_some.mpr ⟨_,henter,rfl⟩,check_of_ready hready⟩
  · cases notified with
    | true =>
      have hwake : s.serverStep (.wake c) = some (s.check c) := by
        simp only [serverStep, hphase]
      exact ⟨[.wake c],_,by simp,exec_cons_eq_some.mpr ⟨_,hwake,rfl⟩,check_of_ready hready⟩
    | false =>
      have hlistener := hs.notified hphase hready
      let u := ({ s with listener := .idle, toInternalQueue_ := s.toInternalQueue_.tail } : ServerThreads β).setPhase c
        (.sleeping true)
      have hnotify : s.serverStep .notify = some u := by
        simp only [serverStep, hlistener, hphase]
        rfl
      have hwake : u.serverStep (.wake c) = some (u.check c) := by
        simp only [serverStep, u, setPhase_self]
      refine ⟨[.notify,.wake c],_,by simp,?_,check_of_ready (s := u) hready⟩
      exact exec_cons_eq_some.mpr ⟨u,hnotify,exec_cons_eq_some.mpr ⟨_,hwake,rfl⟩⟩

/-- The message that a registered connection awaits is found to be for it, and its flag is set once the
handler is not between its push and the reset. -/
theorem Consistent.processes (hs : s.Consistent) {message : Structures.InternalServer β}
    {rest : List (ModuleHandlerMessage β)} (hfront : s.toInternalQueue_ = .message message :: rest)
    (hfor : s.server.isFor message c = true) (hidle : s.listener = .idle) :
    ∃ as t, (∀ a ∈ as, a = .listen ∨ a = .reset c ∨ a = .set) ∧ exec serverStep s as = some t ∧
      t.listener = .notifying c ∧ t.ready c = true := by
  have hfound := hs.registry.recipient_eq_some_iff.mpr hfor
  let u : ServerThreads β := { s with server := s.server.sendResponse c message, listener := .setting c }
  have hlisten : s.serverStep .listen = some u := by
    simp only [serverStep, hidle, ServerThreads.listen, hfront, hfound, u]
  by_cases hresetting : u.phase c = .resetting
  · let v := { u with server := u.server.setReady c false }.setPhase c .entering
    have hreset : u.serverStep (.reset c) = some v := by
      simp only [serverStep, hresetting]
      rfl
    have hset : v.serverStep .set = some { v with server := v.server.setReady c true, listener := .notifying c } := by
      have hphase : v.phase c = .entering := setPhase_self _ c _
      have hlistener : v.listener = .setting c := rfl
      simp only [serverStep, hlistener, hphase]
    have hexec := exec_cons_eq_some.mpr ⟨u,hlisten,exec_cons_eq_some.mpr ⟨v,hreset,
      exec_cons_eq_some.mpr ⟨_,hset,exec_nil _⟩⟩⟩
    exact ⟨[.listen,.reset c,.set],_,by simp,hexec,rfl,ready_setReady_self v.server true⟩
  · have hset : u.serverStep .set = some { u with server := u.server.setReady c true, listener := .notifying c } := by
      have hlistener : u.listener = .setting c := rfl
      simp only [serverStep, hlistener]
    have hexec := exec_cons_eq_some.mpr ⟨u,hlisten,exec_cons_eq_some.mpr ⟨_,hset,exec_nil _⟩⟩
    exact ⟨[.listen,.set],_,by simp,hexec,rfl,ready_setReady_self u.server true⟩

/-- In every interleaving: a message for a registered connection sets the flag of that one. Once a message
for its identity and priority was processed after the push of its handler, the flag stays set while the
handler waits, the reset of the flag does not come after it, whatever ends the wait finds the flag set, and
the notification for it is not lost. -/
theorem exec_validated {as : List (ServerThreadAction β)} {o : ConnId → Bool}
    (he : exec (watched serverStep see) (init,fun _ => false) as = some (s,o)) (c : ConnId) :
    (∀ message rest, s.toInternalQueue_ = .message message :: rest → s.server.isFor message c = true →
        s.listener = .idle →
        ∃ as t, (∀ a ∈ as, a = .listen ∨ a = .reset c ∨ a = .set) ∧ exec serverStep s as = some t ∧
          t.listener = .notifying c ∧ t.ready c = true) ∧
      (o c = true → s.serverStep (.reset c) = none ∧
        (s.Waits c → s.ready c = true ∧
          (∀ a t result, s.serverStep a = some t → t.phase c = .ended result → result = true) ∧
          ∃ as t, (∀ a ∈ as, a = .enter c ∨ a = .notify ∨ a = .wake c) ∧ exec serverStep s as = some t ∧
            t.phase c = .ended true)) := by
  obtain ⟨hconsistent,hs⟩ : s.Consistent ∧ ∀ x, s.Attended x (o x) := by
    refine exec_invariant (I := fun s : ServerThreads β × (ConnId → Bool) =>
      s.1.Consistent ∧ ∀ x, s.1.Attended x (s.2 x)) ?_ ?_ he
    · refine ⟨.init,?_⟩
      intro x
      refine Attended.of_phase ?_ nofun
      rintro (h | ⟨notified,h⟩) <;> cases h
    · rintro s a t ⟨hconsistent,hs⟩ ht
      obtain ⟨hstep,hsee⟩ := watched_eq_some.mp ht
      rw [hsee]
      exact ⟨hconsistent.step hstep,Attended.step hconsistent hs hstep⟩
  refine ⟨?_,?_⟩
  · intro message rest hfront hfor hidle
    exact hconsistent.processes hfront hfor hidle
  · intro hvalidated
    refine ⟨?_,fun hwaits => ?_⟩
    · simp only [serverStep]
      split
      · rename_i hphase
        exact absurd ((hs c).resetting hphase ▸ hvalidated) Bool.false_ne_true
      · rfl
    · have hready := (hs c).ready hwaits hvalidated
      exact ⟨hready,fun a t result ht hended => (ended_eq_ready hwaits ht hended).trans hready,
        (hs c).ends hwaits hready⟩

/-- A device connects, sleeps until its response comes, and sends a status; the reply to it is found
between the push and the reset, and sets the flag before the handler waits. -/
def repliedEarly : List (ServerThreadAction (List UInt8)) :=
  let device := ⟨1,2,"cam","a",5⟩
  [.connect 0 device,.enter 0,.deliver (.message (.deviceConnectResponse .OK device)),.listen,.set,.notify,.wake 0,
    .finish 0,.status 0 ⟨device,[7]⟩,.push 0,.deliver (.message (.deviceCommand ⟨device,[0]⟩)),.listen,.reset 0,.set]

theorem exec_validated_repliedEarly :
    ∃ s : ServerThreads (List UInt8), exec serverStep init repliedEarly = some s ∧ s.Waits 0 ∧
      ∃ as t, (∀ a ∈ as, a = .enter 0 ∨ a = .notify ∨ a = .wake 0) ∧ exec serverStep s as = some t ∧
        t.phase 0 = .ended true := by
  obtain ⟨s,o,he,hvalidated,hs,hwaits⟩ : ∃ (s : ServerThreads (List UInt8)) (o : ConnId → Bool),
      exec (watched serverStep see) (init,fun _ => false) repliedEarly = some (s,o) ∧ o 0 = true ∧
      exec serverStep init repliedEarly = some s ∧ s.Waits 0 := ⟨_,_,rfl,rfl,rfl,.inl rfl⟩
  exact ⟨s,hs,hwaits,(((exec_validated he 0).2 hvalidated).2 hwaits).2.2⟩

end ServerThreads

end ModuleGateway.InternalServer
