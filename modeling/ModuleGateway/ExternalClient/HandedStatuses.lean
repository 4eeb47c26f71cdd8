import ModuleGateway.Library.KeyOrder
import ModuleGateway.ExternalClient.DisconnectMessages

/-! # The order in which statuses are handed over

Every loop of the client takes the status at the front of `toExternalQueue_` and hands it to a
connection. The wait for the forced devices is the exception: it puts the statuses of other devices
of the connection back, behind everything that has been pushed by then.
-/
namespace ModuleGateway.ExternalClient
open Structures Execution ExternalConnection KeyOrder

variable {β : Type}

/-- The client with the message that the wait has popped and not pushed back yet. -/
structure ClientThread (β : Type) where
  client : Client β
  popped : Option (InternalClientMessage β)

/-- What the next section of the client thread does with the message at the front, or with the one that it
took before: nothing, the module has no connection, it is handed over, it is taken out, it is
pushed back, or it is handed over after it was taken out. -/
inductive Handling where
  | keeps
  | drops
  | hands
  | takes
  | returns
  | delivers
deriving DecidableEq

def ClientLoop.fills : ClientLoop → Bool
  | .filling _ _ => true
  | _ => false

/-- The round of the wait for the forced devices is over. -/
def ClientLoop.nextRound : ClientLoop → ClientLoop
  | .receiving connection connectedDevices forcedDevices fromQueue =>
    .awaiting connection connectedDevices forcedDevices fromQueue
  | loop => loop

theorem ClientLoop.nextRound_fills (loop : ClientLoop) : loop.nextRound.fills = loop.fills := by
  cases loop <;> rfl

section Key
variable [BufferType β]

/-- The device that a message is about. -/
def key (internalMessage : InternalClientMessage β) : DeviceKey := internalMessage.devicestatus.device.key

end Key

namespace Client
variable [BufferType β] (settings : ConnectionSettings β)

/-- The message that the wait is about to pop and to push back. -/
def putBack (s : Client β) : Option (InternalClientMessage β) :=
  match s.loop, s.toExternalQueue_ with
  | .receiving connection _ forcedDevices _, internalMessage :: _ =>
    let device := internalMessage.devicestatus.device
    if Endpoint.isModuleSupported (settings.modules connection) device.module_ &&
        !forcedDevices.any device.isSame then some internalMessage
    else none
  | _, _ => none

end Client

namespace ClientThread
open Client (ClientAction clientStep)
variable [BufferType β] (settings : ConnectionSettings β)

omit [BufferType β] in
def init : ClientThread β := ⟨.init,none⟩

/-- The Module Handler can push between the two halves of the wait. -/
def clientThreadStep (s : ClientThread β) : ClientAction β → Option (ClientThread β)
  | .client connectedDevices sent =>
    match s.popped with
    | some internalMessage =>
      some ⟨{ s.client with
        toExternalQueue_ := s.client.toExternalQueue_ ++ [internalMessage]
        loop := s.client.loop.nextRound },none⟩
    | none =>
      match s.client.putBack settings with
      | some internalMessage =>
        some ⟨{ s.client with toExternalQueue_ := s.client.toExternalQueue_.tail },some internalMessage⟩
      | none => (s.client.handleAggregatedMessages settings connectedDevices sent).map fun client => ⟨client,none⟩
  | a => (clientStep settings s.client a).map fun client => ⟨client,s.popped⟩

/-! ## The books of an observer -/

/-- A status for `sendStatus` of the client. -/
def routed (internalMessage : InternalClientMessage β) : Handling :=
  if (settings.externalConnectionMap_ internalMessage.devicestatus.device.module_).isSome then .hands else .drops

/-- A status that a connect sequence passes on. -/
def passed (connection : ℕ) (internalMessage : InternalClientMessage β) : Handling :=
  if Endpoint.isModuleSupported (settings.modules connection) internalMessage.devicestatus.device.module_ then .hands
  else routed settings internalMessage

def handling (s : ClientThread β) : Handling :=
  match s.popped, s.client.putBack settings with
  | some _, _ => .returns
  | none, some _ => .takes
  | none, none =>
    match s.client.loop, s.client.toExternalQueue_ with
    | .waiting, internalMessage :: _ => routed settings internalMessage
    | .draining connection _, internalMessage :: _ =>
      if internalMessage.disconnected then .keeps else passed settings connection internalMessage
    | .receiving connection _ _ _, internalMessage :: _ => passed settings connection internalMessage
    | .polling connection _, internalMessage :: _ =>
      let e := s.client.externalConnectionsList_ connection
      if e.connectResult.isSome || e.connection.state_ = .CONNECTED || internalMessage.disconnected then .keeps
      else if Endpoint.isModuleSupported (settings.modules connection) internalMessage.devicestatus.device.module_ then
        .takes
      else routed settings internalMessage
    | .filling _ _, _ => .delivers
    | _, _ => .keeps

/-- The messages are numbered as the Module Handler pushes them. Those in the queue, the one that was
taken out, and those that were handed to a connection, each with the device it is about. -/
structure Handovers where
  pushed : ℕ
  queue : List (DeviceKey × ℕ)
  held : Option (DeviceKey × ℕ)
  handed : List (DeviceKey × ℕ)

omit [BufferType β] in
def Handovers.init : Handovers := ⟨0,[],none,[]⟩

def see (s : ClientThread β) (a : ClientAction β) (_ : ClientThread β) (l : Handovers) : Handovers :=
  match a with
  | .push internalMessage =>
    { l with pushed := l.pushed + 1, queue := l.queue ++ [(key internalMessage,l.pushed)] }
  | .client _ _ =>
    match s.handling settings with
    | .keeps => l
    | .drops => { l with queue := l.queue.tail }
    | .hands => { l with queue := l.queue.tail, handed := l.handed ++ l.queue.head?.toList }
    | .takes => { l with queue := l.queue.tail, held := l.queue.head? }
    | .returns => { l with queue := l.queue ++ l.held.toList, held := none }
    | .delivers => { l with held := none, handed := l.handed ++ l.held.toList }
  | _ => l

/-- The statuses of a device were handed over in the order in which they were pushed. -/
def Handovers.InOrder (l : Handovers) : Prop :=
  ∀ k, ((l.handed.filter fun ticket => ticket.1 = k).map Prod.snd).Pairwise (· < ·)

/-- The wait puts a status back behind statuses of other devices only. -/
def behindOthers (s : ClientThread β) : ClientAction β → Bool
  | .client _ _ => s.popped.all fun internalMessage =>
    s.client.toExternalQueue_.all fun other => key other ≠ key internalMessage
  | _ => true

variable {settings} {s t : ClientThread β}

/-! ## A section of the client thread -/

/-- The status is handed to a connection. -/
def HandsOver (settings : ConnectionSettings β) (s t : Client β) (status : DeviceStatus β) : Prop :=
  ∃ connection, t.externalConnectionsList_ connection =
      (s.externalConnectionsList_ connection).fillErrorAggregator (settings.modules connection) status ∨
    ∃ deviceState sent, t.externalConnectionsList_ connection =
      (s.externalConnectionsList_ connection).sendStatus (settings.modules connection) status deviceState sent

omit [BufferType β] in
/-- A message was taken out and is neither handed over nor back in the queue. -/
def holds (s : ClientThread β) : Bool := s.popped.isSome || s.client.loop.fills

/-- What a section does, with the queue before and after it. -/
inductive Moves (settings : ConnectionSettings β) (s t : ClientThread β) : Handling → Prop
  | keeps (queue : t.client.toExternalQueue_ = s.client.toExternalQueue_) (popped : t.popped = none)
      (before : s.holds = false) (after : t.holds = false) : Moves settings s t .keeps
  | drops (internalMessage : InternalClientMessage β)
      (queue : s.client.toExternalQueue_ = internalMessage :: t.client.toExternalQueue_) (popped : t.popped = none)
      (before : s.holds = false) (after : t.holds = false) : Moves settings s t .drops
  | hands (internalMessage : InternalClientMessage β)
      (queue : s.client.toExternalQueue_ = internalMessage :: t.client.toExternalQueue_) (popped : t.popped = none)
      (handed : HandsOver settings s.client t.client internalMessage.devicestatus)
      (before : s.holds = false) (after : t.holds = false) : Moves settings s t .hands
  | takes (internalMessage : InternalClientMessage β)
      (queue : s.client.toExternalQueue_ = internalMessage :: t.client.toExternalQueue_)
      (popped : ∀ other, t.popped = some other → other = internalMessage ∧ t.client.loop.fills = false)
      (before : s.holds = false) (after : t.holds = true) : Moves settings s t .takes
  | returns (internalMessage : InternalClientMessage β) (taken : s.popped = some internalMessage)
      (queue : t.client.toExternalQueue_ = s.client.toExternalQueue_ ++ [internalMessage]) (popped : t.popped = none)
      (after : t.holds = false) : Moves settings s t .returns
  | delivers (status : DeviceStatus β) (queue : t.client.toExternalQueue_ = s.client.toExternalQueue_)
      (popped : t.popped = none) (handed : HandsOver settings s.client t.client status)
      (before : s.holds = true) (after : t.holds = false) : Moves settings s t .delivers

theorem handsOver_sendStatus {internalMessage : InternalClientMessage β}
    (h : (settings.externalConnectionMap_ internalMessage.devicestatus.device.module_).isSome) (client : Client β)
    (sent : Bool) :
    HandsOver settings client (client.sendStatus settings internalMessage sent).2 internalMessage.devicestatus := by
  obtain ⟨connection,hconnection⟩ := Option.isSome_iff_exists.mp h
  refine ⟨connection,?_⟩
  simp only [Client.sendStatus, hconnection]
  split
  · left
    simp only [Client.setEndpoint, Function.update_self]
  · right
    refine ⟨if internalMessage.disconnected then .DISCONNECT else .RUNNING,sent,?_⟩
    simp only [Client.setEndpoint, Function.update_self]

theorem handsOver_passOn {connection : ℕ} {internalMessage : InternalClientMessage β}
    (h : passed settings connection internalMessage = .hands) (client : Client β) (sent : Bool) :
    HandsOver settings client (client.passOn settings connection internalMessage sent)
      internalMessage.devicestatus := by
  unfold passed at h
  simp only [Client.passOn]
  split at h
  · rename_i hown
    rw [if_pos hown]
    refine ⟨connection,.inl ?_⟩
    simp only [Client.setEndpoint, Function.update_self]
  · rename_i hother
    rw [if_neg hother]
    unfold routed at h
    split at h
    · rename_i hmap
      exact handsOver_sendStatus hmap client sent
    · cases h

section Moves
variable {internalMessage : InternalClientMessage β} {queue : List (InternalClientMessage β)} {client : Client β}

theorem moves_routed {sent : Bool} (hs : s.holds = false)
    (hqueue : s.client.toExternalQueue_ = internalMessage :: queue)
    (hclient : client.toExternalQueue_ = queue) (hfills : client.loop.fills = false)
    (hconnections : client.externalConnectionsList_ =
      ({ s.client with toExternalQueue_ := queue }.sendStatus settings internalMessage sent).2.externalConnectionsList_) :
    Moves settings s ⟨client,none⟩ (routed settings internalMessage) := by
  have hfront : s.client.toExternalQueue_ = internalMessage :: client.toExternalQueue_ := by rw [hqueue, hclient]
  unfold routed
  split
  · rename_i hmap
    have hhanded := handsOver_sendStatus hmap { s.client with toExternalQueue_ := queue } sent
    refine .hands internalMessage hfront rfl ?_ hs hfills
    unfold HandsOver at hhanded ⊢
    rwa [hconnections]
  · exact .drops internalMessage hfront rfl hs hfills

theorem moves_passed {connection : ℕ} {sent : Bool} (hs : s.holds = false)
    (hqueue : s.client.toExternalQueue_ = internalMessage :: queue)
    (hclient : client.toExternalQueue_ = queue) (hfills : client.loop.fills = false)
    (hconnections : client.externalConnectionsList_ =
      ({ s.client with toExternalQueue_ := queue }.passOn settings connection internalMessage
        sent).externalConnectionsList_) :
    Moves settings s ⟨client,none⟩ (passed settings connection internalMessage) := by
  have hfront : s.client.toExternalQueue_ = internalMessage :: client.toExternalQueue_ := by rw [hqueue, hclient]
  have hcases : passed settings connection internalMessage = .hands ∨
      passed settings connection internalMessage = .drops := by
    unfold passed routed
    split
    · exact .inl rfl
    · split
      · exact .inl rfl
      · exact .inr rfl
  obtain hhands | hdrops := hcases
  · have hhanded := handsOver_passOn hhands { s.client with toExternalQueue_ := queue } sent
    rw [hhands]
    refine .hands internalMessage hfront rfl ?_ hs hfills
    unfold HandsOver at hhanded ⊢
    rwa [hconnections]
  · rw [hdrops]
    exact .drops internalMessage hfront rfl hs hfills

end Moves

/-- A section that does not start or end the second half of the wait. -/
theorem handleAggregatedMessages_moves (hpopped : s.popped = none) (hput : s.client.putBack settings = none)
    {devices : List DeviceIdentification} {sent : Bool} {client : Client β}
    (ht : s.client.handleAggregatedMessages settings devices sent = some client) :
    Moves settings s ⟨client,none⟩ (s.handling settings) := by
  have hholds : s.holds = s.client.loop.fills := by rw [holds, hpopped]; rfl
  simp only [handling, hpopped, hput]
  unfold Client.handleAggregatedMessages at ht
  split at ht <;> rename_i hloop <;> rw [hloop] at hholds ⊢
  · split at ht
    · cases ht
    · split at ht
      · cases ht
        exact .keeps rfl rfl hholds rfl
      · dsimp only at ht
        split at ht <;> cases ht <;> exact .keeps rfl rfl hholds rfl
  · cases ht
    exact .keeps rfl rfl hholds rfl
  · split at ht <;> rename_i hqueue
    · cases ht
      rw [hqueue]
      exact .keeps rfl rfl hholds rfl
    · rename_i message queue
      have hsame := Client.sendStatus_sameQueues settings { s.client with toExternalQueue_ := queue } message sent
      rw [hqueue]
      dsimp only at ht ⊢
      split at ht <;> cases ht <;> exact moves_routed hholds hqueue hsame.toExternalQueue_ rfl rfl
  · rename_i connection fromQueue
    split at ht <;> rename_i hqueue
    · cases ht
      rw [hqueue]
      exact .keeps rfl rfl hholds rfl
    · rename_i message queue
      have hsame := Client.passOn_sameQueues settings { s.client with toExternalQueue_ := queue } connection message sent
      rw [hqueue]
      dsimp only
      split at ht
      · rename_i hdisconnected
        cases ht
        rw [if_pos hdisconnected]
        exact .keeps rfl rfl hholds rfl
      · rename_i hdisconnected
        cases ht
        rw [if_neg hdisconnected]
        refine moves_passed hholds hqueue hsame.toExternalQueue_ ?_ rfl
        rw [hsame.loop, hloop]
        rfl
  · split at ht
    · cases ht
      exact .keeps rfl rfl hholds rfl
    · cases ht
  · split at ht <;> cases ht <;> exact .keeps rfl rfl hholds rfl
  · rename_i connection connectedDevices forcedDevices fromQueue
    cases ht
    cases hqueue : s.client.toExternalQueue_ with
    | nil =>
      simp only [Client.awaitForced, hqueue]
      exact .keeps rfl rfl hholds rfl
    | cons message queue =>
      have hsame := Client.passOn_sameQueues settings { s.client with toExternalQueue_ := queue } connection message
        sent
      simp only [Client.putBack, hloop, hqueue] at hput
      simp only [Client.awaitForced, hqueue]
      split
      · rename_i hown
        split
        · exact moves_passed hholds hqueue hsame.toExternalQueue_ rfl rfl
        · rename_i hforced
          simp [hown, hforced] at hput
      · exact moves_passed hholds hqueue hsame.toExternalQueue_ rfl rfl
  · dsimp only at ht
    split at ht <;> cases ht <;> exact .keeps rfl rfl hholds rfl
  · rename_i connection fromQueue
    cases ht
    cases hqueue : s.client.toExternalQueue_ with
    | nil =>
      simp only [Client.drainQueueDuringConnect, hqueue]
      exact .keeps rfl rfl hholds rfl
    | cons message queue =>
      have hsame := Client.passOn_sameQueues settings { s.client with toExternalQueue_ := queue } connection message sent
      simp only [Client.drainQueueDuringConnect, hqueue]
      split
      · exact .keeps rfl rfl hholds rfl
      · split
        · exact .takes message hqueue (by rintro _ ⟨⟩) hholds rfl
        · rename_i hother
          have hpassed : passed settings connection message = routed settings message := by
            rw [passed, if_neg hother]
          rw [← hpassed]
          exact moves_passed hholds hqueue hsame.toExternalQueue_ rfl rfl
  · rename_i connection fromQueue
    dsimp only at ht
    split at ht
    · cases ht
    · rename_i deviceStatus _
      cases ht
      refine .delivers deviceStatus rfl rfl ⟨connection,.inl ?_⟩ hholds rfl
      simp only [Client.goto, Client.setEndpoint, Function.update_self]
  · split at ht
    · cases ht
    · dsimp only at ht
      cases ht
      refine .keeps ?_ rfl hholds ?_
      · split <;> rfl
      · rw [holds]
        dsimp only [Client.goto]
        split <;> rfl

theorem putBack_eq_some {client : Client β} {internalMessage : InternalClientMessage β}
    (h : client.putBack settings = some internalMessage) :
    client.toExternalQueue_ = internalMessage :: client.toExternalQueue_.tail ∧ client.loop.fills = false ∧
      ∀ devices sent, client.handleAggregatedMessages settings devices sent =
        some { client with
          toExternalQueue_ := client.toExternalQueue_.tail ++ [internalMessage]
          loop := client.loop.nextRound } := by
  unfold Client.putBack at h
  split at h
  · rename_i hloop hqueue
    dsimp only at h
    split at h
    · rename_i hcond
      cases h
      obtain ⟨hown,hforced⟩ := Bool.and_eq_true_iff.mp hcond
      rw [Bool.not_eq_true'] at hforced
      refine ⟨by rw [hqueue]; rfl,by rw [hloop]; rfl,?_⟩
      intro devices sent
      simp only [Client.handleAggregatedMessages, hloop, Client.awaitForced, hqueue, hown, hforced,
        Bool.false_eq_true, if_false, if_true, List.tail_cons, Client.goto, ClientLoop.nextRound]
    · cases h
  · cases h

/-! ## The two halves as one round -/

omit [BufferType β] in
/-- The client in which the message that the wait has popped is still at the front. -/
def folded (s : ClientThread β) : Client β :=
  { s.client with toExternalQueue_ := s.popped.toList ++ s.client.toExternalQueue_ }

/-- The wait is to put back what it has popped. -/
def Pending (settings : ConnectionSettings β) (s : ClientThread β) : Prop :=
  ∀ internalMessage, s.popped = some internalMessage → s.folded.putBack settings = some internalMessage

theorem putBack_congr {client client' : Client β} (hloop : client'.loop = client.loop)
    (hhead : client'.toExternalQueue_.head? = client.toExternalQueue_.head?) :
    client'.putBack settings = client.putBack settings := by
  unfold Client.putBack
  rw [hloop]
  cases hqueue : client.toExternalQueue_ <;> cases hqueue' : client'.toExternalQueue_ <;>
    rw [hqueue, hqueue'] at hhead <;> cases hhead
  cases client.loop <;> rfl

/-- No other thread looks into the queue. -/
theorem clientStep_prepend (messages : List (InternalClientMessage β)) {client client' : Client β}
    {a : ClientAction β} (ha : ∀ devices sent, a ≠ .client devices sent)
    (ht : clientStep settings client a = some client') :
    clientStep settings { client with toExternalQueue_ := messages ++ client.toExternalQueue_ } a =
      some { client' with toExternalQueue_ := messages ++ client'.toExternalQueue_ } := by
  cases a with
  | push internalMessage =>
    cases ht
    simp only [clientStep, List.append_assoc]
  | client devices sent => exact absurd rfl (ha devices sent)
  | thread connection answer =>
    obtain ⟨e,he,rfl⟩ := Option.map_eq_some_iff.mp ht
    simp only [clientStep, he, Option.map_some]
    rfl
  | receive connection serverDisconnect message =>
    obtain ⟨hlistening,rfl⟩ := Option.ite_some_none_eq_some.mp ht
    simp only [clientStep, if_pos hlistening]
    unfold Client.report
    split <;> rfl
  | expire connection =>
    obtain ⟨hunacked,h⟩ := Option.ite_none_left_eq_some.mp ht
    cases h
    simp only [clientStep, if_neg hunacked]
    rfl
  | timeout connection =>
    obtain ⟨hexpired,rfl⟩ := Option.ite_some_none_eq_some.mp ht
    simp only [clientStep, if_pos hexpired]
    unfold Client.report
    split <;> rfl
  | reconnectTimer connection =>
    obtain ⟨htimer,rfl⟩ := Option.ite_some_none_eq_some.mp ht
    simp only [clientStep, if_pos htimer]
    rfl
  | stop =>
    cases ht
    rfl

/-- The first half changes nothing but what is at the front, and with the second half the round is done. -/
theorem clientThreadStep_folded {a : ClientAction β} (hs : s.Pending settings)
    (ht : clientThreadStep settings s a = some t) : t.Pending settings ∧
      ((∃ devices sent, a = .client devices sent) ∧ t.folded = s.folded ∨
        clientStep settings s.folded a = some t.folded) := by
  by_cases ha : ∃ devices sent, a = .client devices sent
  · obtain ⟨devices,sent,rfl⟩ := ha
    simp only [clientThreadStep] at ht
    split at ht
    · rename_i internalMessage hpopped
      cases ht
      refine ⟨nofun,.inr ?_⟩
      refine ((putBack_eq_some (hs internalMessage hpopped)).2.2 devices sent).trans ?_
      simp only [folded, hpopped, Option.toList_some, Option.toList_none, List.singleton_append, List.tail_cons,
        List.nil_append]
    · rename_i hpopped
      have hclient : s.folded = s.client := by rw [folded, hpopped]; rfl
      split at ht
      · rename_i internalMessage hput
        cases ht
        have hfolded : ClientThread.folded ⟨{ s.client with toExternalQueue_ := s.client.toExternalQueue_.tail },
            some internalMessage⟩ = s.client := by
          simp only [folded, Option.toList_some, List.singleton_append, ← (putBack_eq_some hput).1]
        refine ⟨?_,.inl ⟨⟨devices,sent,rfl⟩,hfolded.trans hclient.symm⟩⟩
        rintro _ ⟨⟩
        rw [hfolded, hput]
      · obtain ⟨client,hclient',rfl⟩ := Option.map_eq_some_iff.mp ht
        exact ⟨nofun,.inr (by rw [hclient]; exact hclient')⟩
  · have hother : ∀ devices sent, a ≠ .client devices sent := fun devices sent h => ha ⟨devices,sent,h⟩
    have hstep : ∃ client, clientStep settings s.client a = some client ∧ t = ⟨client,s.popped⟩ := by
      cases a with
      | client devices sent => exact absurd rfl (hother devices sent)
      | _ =>
        simp only [clientThreadStep] at ht
        obtain ⟨client,hclient,rfl⟩ := Option.map_eq_some_iff.mp ht
        exact ⟨client,hclient,rfl⟩
    obtain ⟨client,hclient,rfl⟩ := hstep
    refine ⟨?_,.inr (clientStep_prepend s.popped.toList hother hclient)⟩
    intro internalMessage hpopped
    have hpopped : s.popped = some internalMessage := hpopped
    rw [← hs internalMessage hpopped]
    refine putBack_congr (Client.clientStep_other hother hclient).1 ?_
    simp only [folded, hpopped, Option.toList_some, List.singleton_append, List.head?_cons]

/-- Whatever is pushed between the two halves of the wait, a run comes to a state that a run with whole rounds and
the same pushes comes to as well. -/
theorem exec_folded {as : List (ClientAction β)} (hs : s.Pending settings)
    (he : exec (clientThreadStep settings) s as = some t) :
    ∃ bs, bs.Sublist as ∧ Client.pushed bs = Client.pushed as ∧
      exec (clientStep settings) s.folded bs = some t.folded := by
  induction as generalizing s with
  | nil =>
    cases he
    exact ⟨[],.refl _,rfl,rfl⟩
  | cons a as ih =>
    obtain ⟨u,hu,hr⟩ := exec_cons_eq_some.mp he
    obtain ⟨hpending,hstep⟩ := clientThreadStep_folded hs hu
    obtain ⟨bs,hsub,hpushed,hrun⟩ := ih hpending hr
    rcases hstep with ⟨⟨devices,sent,rfl⟩,hfolded⟩ | hstep
    · exact ⟨bs,hsub.cons _,hpushed,hfolded ▸ hrun⟩
    · refine ⟨a :: bs,hsub.cons_cons a,?_,exec_cons_eq_some.mpr ⟨u.folded,hstep,hrun⟩⟩
      rw [Client.pushed_cons, hpushed, ← Client.pushed_cons]

/-- Every section of the client thread. -/
theorem clientThreadStep_moves (hs : s.popped.isSome = true → s.client.loop.fills = false)
    {devices : List DeviceIdentification} {sent : Bool}
    (ht : clientThreadStep settings s (.client devices sent) = some t) : Moves settings s t (s.handling settings) := by
  simp only [clientThreadStep] at ht
  split at ht
  · rename_i internalMessage hpopped
    cases ht
    simp only [handling, hpopped]
    refine .returns internalMessage hpopped rfl rfl ?_
    exact (ClientLoop.nextRound_fills _).trans (hs (Option.isSome_of_eq_some hpopped))
  · rename_i hpopped
    split at ht
    · rename_i internalMessage hput
      cases ht
      obtain ⟨hqueue,hfills,-⟩ := putBack_eq_some hput
      simp only [handling, hpopped, hput]
      refine .takes internalMessage hqueue (fun other hother => ⟨(Option.some.inj hother).symm,hfills⟩) ?_ rfl
      rw [holds, hpopped, hfills]
      rfl
    · rename_i hput
      obtain ⟨client,hclient,rfl⟩ := Option.map_eq_some_iff.mp ht
      exact handleAggregatedMessages_moves hpopped hput hclient

/-- The other threads leave the queue to the client thread and the Module Handler. -/
theorem clientStep_other {client client' : Client β} {a : ClientAction β}
    (ht : clientStep settings client a = some client')
    (hclient : ∀ devices sent, a ≠ .client devices sent) (hpush : ∀ internalMessage, a ≠ .push internalMessage) :
    client'.toExternalQueue_ = client.toExternalQueue_ ∧ client'.loop = client.loop := by
  cases a with
  | push internalMessage => exact absurd rfl (hpush internalMessage)
  | client devices sent => exact absurd rfl (hclient devices sent)
  | thread connection answer =>
    obtain ⟨e,-,rfl⟩ := Option.map_eq_some_iff.mp ht
    exact ⟨rfl,rfl⟩
  | receive connection serverDisconnect message =>
    obtain ⟨-,rfl⟩ := Option.ite_some_none_eq_some.mp ht
    have h := Client.report_queues client connection (Client.receivingHandlerLoop_session (settings.modules connection)
      (client.externalConnectionsList_ connection) serverDisconnect message)
    exact ⟨h.1,h.2.1⟩
  | expire connection =>
    obtain ⟨-,h⟩ := Option.ite_none_left_eq_some.mp ht
    cases h
    exact ⟨rfl,rfl⟩
  | timeout connection =>
    obtain ⟨-,rfl⟩ := Option.ite_some_none_eq_some.mp ht
    have h := Client.report_queues client connection
      (Client.timeoutHandler_session (client.externalConnectionsList_ connection))
    exact ⟨h.1,h.2.1⟩
  | reconnectTimer connection =>
    obtain ⟨-,rfl⟩ := Option.ite_some_none_eq_some.mp ht
    exact ⟨rfl,rfl⟩
  | stop =>
    cases ht
    exact ⟨rfl,rfl⟩

/-! ## The invariant -/

/-- What was handed over, what was taken out, and what is in the queue, in this order. -/
def Handovers.tickets (l : Handovers) : List (DeviceKey × ℕ) := l.handed ++ (l.held.toList ++ l.queue)

/-- The books agree with the queue, and the messages of a device have not been mixed up yet. -/
structure Entered (s : ClientThread β) (l : Handovers) : Prop where
  queue : l.queue.map Prod.fst = s.client.toExternalQueue_.map key
  held : l.held.isSome = s.holds
  popped : ∀ internalMessage, s.popped = some internalMessage →
    l.held.map Prod.fst = some (key internalMessage) ∧ s.client.loop.fills = false
  numbered : ∀ ticket ∈ l.tickets, ticket.2 < l.pushed
  ordered : Ordered l.tickets

theorem Entered.init : (init : ClientThread β).Entered .init where
  queue := rfl
  held := rfl
  popped _ h := nomatch h
  numbered _ h := nomatch h
  ordered := .nil

variable {l l' : Handovers}

theorem Entered.push (hs : Entered s l) {internalMessage : InternalClientMessage β}
    (ht : clientThreadStep settings s (.push internalMessage) = some t) :
    Entered t (see settings s (.push internalMessage) t l) := by
  have htickets : (see settings s (.push internalMessage) t l).tickets =
      l.tickets ++ [(key internalMessage,l.pushed)] := by
    simp only [see, Handovers.tickets, List.append_assoc]
  cases ht
  refine ⟨?_,hs.held,hs.popped,?_,?_⟩
  · simp only [see, List.map_append, hs.queue]
    rfl
  · intro ticket hticket
    obtain hticket | hticket := List.mem_append.mp (htickets ▸ hticket)
    · exact Nat.lt_succ_of_lt (hs.numbered ticket hticket)
    · rw [List.mem_singleton.mp hticket]
      exact Nat.lt_succ_self _
  · rw [htickets]
    exact hs.ordered.concat fun ticket hticket _ => hs.numbered ticket hticket

/-- The message at the front has a ticket. -/
theorem Entered.front (hs : Entered s l) {internalMessage : InternalClientMessage β}
    {queue : List (InternalClientMessage β)} (hqueue : s.client.toExternalQueue_ = internalMessage :: queue) :
    ∃ number tickets, l.queue = (key internalMessage,number) :: tickets ∧ tickets.map Prod.fst = queue.map key := by
  have hmap := hs.queue
  rw [hqueue, List.map_cons] at hmap
  obtain ⟨ticket,tickets,hl,hkey,hrest⟩ := List.map_eq_cons_iff.mp hmap
  refine ⟨ticket.2,tickets,?_,hrest⟩
  rw [hl, ← hkey]

theorem Entered.held_none (hs : Entered s l) (h : s.holds = false) : l.held = none := by
  rw [← Option.not_isSome_iff_eq_none, hs.held, h]
  exact Bool.false_ne_true

/-- The client thread, when what it does to the tickets keeps them in order. -/
theorem Entered.next (hs : Entered s l) (hpushed : l'.pushed = l.pushed)
    (hqueue : l'.queue.map Prod.fst = t.client.toExternalQueue_.map key) (hheld : l'.held.isSome = t.holds)
    (hpopped : ∀ internalMessage, t.popped = some internalMessage →
      l'.held.map Prod.fst = some (key internalMessage) ∧ t.client.loop.fills = false)
    (htickets : l'.tickets ⊆ l.tickets) (hordered : Ordered l'.tickets) : Entered t l' := by
  refine ⟨hqueue,hheld,hpopped,?_,hordered⟩
  intro ticket hticket
  rw [hpushed]
  exact hs.numbered ticket (htickets hticket)

theorem Entered.client (hs : Entered s l) {devices : List DeviceIdentification} {sent : Bool}
    (hg : s.behindOthers (.client devices sent) = true)
    (ht : clientThreadStep settings s (.client devices sent) = some t) :
    Entered t (see settings s (.client devices sent) t l) := by
  have hmoves := clientThreadStep_moves (fun h => by
    obtain ⟨internalMessage,hpopped⟩ := Option.isSome_iff_exists.mp h
    exact (hs.popped internalMessage hpopped).2) ht
  have hnone : ∀ {l' : Handovers}, t.popped = none → ∀ internalMessage, t.popped = some internalMessage →
      l'.held.map Prod.fst = some (key internalMessage) ∧ t.client.loop.fills = false := by
    intro l' hpopped internalMessage hsome
    rw [hpopped] at hsome
    cases hsome
  simp only [see]
  generalize s.handling settings = handling at hmoves
  cases hmoves with
  | keeps queue popped before after =>
    refine hs.next rfl ?_ ?_ (hnone popped) (List.Subset.refl _) hs.ordered
    · rw [queue]
      exact hs.queue
    · rw [hs.held, before, after]
  | drops internalMessage queue popped before after =>
    obtain ⟨number,tickets,hl,hkeys⟩ := hs.front queue
    have hsub : (l.handed ++ (l.held.toList ++ tickets)).Sublist l.tickets := by
      rw [Handovers.tickets, hl]
      exact ((List.sublist_cons_self _ _).append_left _).append_left _
    rw [hl]
    refine hs.next rfl hkeys ?_ (hnone popped) hsub.subset (hs.ordered.sublist hsub)
    rw [hs.held, before, after]
  | hands internalMessage queue popped handed before after =>
    obtain ⟨number,tickets,hl,hkeys⟩ := hs.front queue
    have hheld := hs.held_none before
    have htickets : l.tickets = l.handed ++ [(key internalMessage,number)] ++ (l.held.toList ++ tickets) := by
      rw [Handovers.tickets, hl, hheld, List.append_assoc]
      rfl
    rw [hl]
    refine hs.next rfl hkeys ?_ (hnone popped) ?_ ?_
    · rw [hs.held, before, after]
    · rw [htickets]
      exact List.Subset.refl _
    · have hordered := hs.ordered
      rwa [htickets] at hordered
  | takes internalMessage queue popped before after =>
    obtain ⟨number,tickets,hl,hkeys⟩ := hs.front queue
    have hheld := hs.held_none before
    have htickets : l.tickets = l.handed ++ ([(key internalMessage,number)] ++ tickets) := by
      rw [Handovers.tickets, hl, hheld]
      rfl
    rw [hl]
    refine hs.next rfl hkeys after.symm ?_ ?_ ?_
    · intro other hother
      obtain ⟨rfl,hfills⟩ := popped other hother
      exact ⟨rfl,hfills⟩
    · rw [htickets]
      exact List.Subset.refl _
    · have hordered := hs.ordered
      rwa [htickets] at hordered
  | returns internalMessage taken queue popped after =>
    obtain ⟨hkey,-⟩ := hs.popped internalMessage taken
    obtain ⟨ticket,hheld,hticket⟩ := Option.map_eq_some_iff.mp hkey
    have htickets : l.tickets = l.handed ++ ticket :: l.queue := by
      rw [Handovers.tickets, hheld]
      rfl
    have hothers : ∀ other ∈ l.queue, other.1 ≠ ticket.1 := by
      intro other hother
      simp only [behindOthers, taken, Option.all_some, List.all_eq_true, decide_eq_true_eq] at hg
      have hmem : other.1 ∈ s.client.toExternalQueue_.map key := hs.queue ▸ List.mem_map_of_mem hother
      obtain ⟨message,hmessage,heq⟩ := List.mem_map.mp hmem
      rw [← heq, hticket]
      exact hg message hmessage
    rw [hheld]
    refine hs.next rfl ?_ after.symm (hnone popped) ?_ ?_
    · rw [queue, List.map_append, List.map_append, hs.queue, Option.toList_some, List.map_singleton, hticket]
      rfl
    · rw [htickets]
      exact ((List.perm_append_singleton _ _).append_left _).subset
    · have hordered := hs.ordered
      rw [htickets] at hordered
      exact hordered.rotate hothers
  | delivers status queue popped handed before after =>
    have htickets : l.tickets = l.handed ++ l.held.toList ++ l.queue := by
      rw [Handovers.tickets, List.append_assoc]
    refine hs.next rfl ?_ after.symm (hnone popped) ?_ ?_
    · rw [queue]
      exact hs.queue
    · rw [htickets]
      exact List.Subset.refl _
    · have hordered := hs.ordered
      rwa [htickets] at hordered

theorem Entered.step (hs : Entered s l) {a : ClientAction β} (hg : s.behindOthers a = true)
    (ht : clientThreadStep settings s a = some t) : Entered t (see settings s a t l) := by
  cases a with
  | push internalMessage => exact hs.push ht
  | client devices sent => exact hs.client hg ht
  | _ =>
    simp only [clientThreadStep] at ht
    obtain ⟨client,hclient,rfl⟩ := Option.map_eq_some_iff.mp ht
    obtain ⟨hqueue,hloop⟩ := clientStep_other hclient nofun nofun
    refine ⟨?_,?_,?_,hs.numbered,hs.ordered⟩
    · rw [hqueue]
      exact hs.queue
    · rw [holds, hloop]
      exact hs.held
    · rw [hloop]
      exact hs.popped

/-- In a run in which the wait for the forced devices puts no status back behind another status of
the same device, the statuses of every device are handed over in the order of their pushes. -/
theorem exec_handedInOrder {as : List (ClientAction β)}
    (hg : Guarded (clientThreadStep settings) (fun s a => s.behindOthers a = true) init as)
    (he : exec (clientThreadStep settings) init as = some s) :
    (observe (clientThreadStep settings) (see settings) init .init as).InOrder := by
  have hs : Entered s (observe (clientThreadStep settings) (see settings) init .init as) := by
    refine exec_observe_invariant Entered.init ?_ hg he
    intro s l a t hs ha ht
    exact hs.step ha ht
  refine ordered_iff.mp (hs.ordered.sublist ?_)
  exact List.sublist_append_left _ _

/-! ## The wait for the camera -/

open Client (oneConnection statusMessage waitForCamera sequenceForCamera)

/-- The client thread does its next sections. -/
def sections (n : ℕ) : List (ClientAction (List UInt8)) := List.replicate n (.client [] true)

/-- A status of the lidar is put back once and taken while the connection is opened. -/
def putBackAlone : List (ClientAction (List UInt8)) :=
  waitForCamera ++ sequenceForCamera ++ [.push (statusMessage false lidar),.push (statusMessage false camera)] ++
    sections 8

theorem exec_handedInOrder_alone :
    (observe (clientThreadStep oneConnection) (see oneConnection) init .init putBackAlone).handed =
        [(lidar.key,0),(camera.key,2),(lidar.key,1)] ∧
      (observe (clientThreadStep oneConnection) (see oneConnection) init .init putBackAlone).InOrder := by
  have hrun : (exec (clientThreadStep oneConnection) init putBackAlone).isSome = true := by decide +kernel
  obtain ⟨s,hs⟩ := Option.isSome_iff_exists.mp hrun
  exact ⟨by decide +kernel,exec_handedInOrder (by decide +kernel) hs⟩

/-- Another status of the lidar is pushed before the first one is put back. -/
def putBackBehind : List (ClientAction (List UInt8)) :=
  waitForCamera ++ sequenceForCamera ++
    [.push (statusMessage false lidar),.push (statusMessage false camera),.push (statusMessage false lidar)] ++
    sections 11

/-- The later one is handed over first. -/
theorem putBackBehind_handed :
    (∃ s, exec (clientThreadStep oneConnection) init putBackBehind = some s) ∧
      (observe (clientThreadStep oneConnection) (see oneConnection) init .init putBackBehind).handed =
        [(lidar.key,0),(camera.key,2),(lidar.key,3),(lidar.key,1)] ∧
      ¬(observe (clientThreadStep oneConnection) (see oneConnection) init .init putBackBehind).InOrder := by
  have hrun : (exec (clientThreadStep oneConnection) init putBackBehind).isSome = true := by decide +kernel
  refine ⟨Option.isSome_iff_exists.mp hrun,by decide +kernel,?_⟩
  intro h
  exact absurd (h lidar.key) (by decide +kernel)

end ClientThread

end ModuleGateway.ExternalClient
