import ModuleGateway.InternalServer.Removal
import ModuleGateway.Modules.Answers
import Mathlib.Data.List.ReduceOption
import Mathlib.Data.List.Perm.Subperm

/-! # Replies and the messages they answer

Internal Server and Module Handler together, over the two queues between them. A message of the
Module Handler finds its connection by identity and priority only, so a forwarded command, or the
reply to another connection of the device, wakes up a handler like the reply that it waits for.
Where no such message reaches a handler that waits, the only thing that wakes it up is its reply.
-/
namespace ModuleGateway.InternalServer
open Structures Execution Modules

variable {β : Type}

/-- The queues are the same on both sides. -/
structure Gateway (β : Type) where
  system : System β
  threads : HandlerThreads β

inductive GatewayAction (β : Type) where
  | server (a : SystemAction β)
  | handler (moduleLibrary_ : ModuleLibrary β) (a : HandlerThreads.ThreadAction β)

/-- The connection that `validateResponse` finds for the message at the front. -/
def System.reached (s : System β) : Option ConnId :=
  match s.toInternalQueue_ with
  | .message message :: _ =>
    (s.server.findConnection (Server.addressee message)).filter fun c =>
      s.server.getPriority c = (Server.addressee message).priority
  | _ => none

namespace Gateway

def init : Gateway β := ⟨.init,.init⟩

/-- After a step of the Internal Server. -/
def served (s : Gateway β) (system : System β) : Gateway β where
  system := system
  threads := s.threads.withHandler
    { s.threads.handler with fromInternalQueue_ := system.server.fromInternalQueue_ }

/-- After a step of the Module Handler. -/
def handled (s : Gateway β) (threads : HandlerThreads β) : Gateway β where
  system := { s.system with
    server := { s.system.server with fromInternalQueue_ := threads.handler.fromInternalQueue_ }
    toInternalQueue_ := s.system.toInternalQueue_ ++ threads.handler.toInternalQueue_ }
  threads := threads.withHandler { threads.handler with toInternalQueue_ := [] }

def gatewayStep [BufferType β] (s : Gateway β) : GatewayAction β → Option (Gateway β)
  | .server (.push _) => none
  | .server a => (s.system.systemStep a).map s.served
  | .handler moduleLibrary_ a =>
    if a.ofServer then none else (s.threads.threadStep (moduleLibrary_,a)).map s.handled

end Gateway

/-! ## The books of an observer -/

/-- The `number`-th message that a connection pushed to the Module Handler. -/
structure Ticket where
  connection : ConnId
  number : ℕ
deriving DecidableEq

/-- How many messages each connection pushed, the messages that wait in `fromInternalQueue_`, the
messages that those in `toInternalQueue_` reply to, and the replies that `sendResponse` was called
with. Disconnects and forwarded commands have no ticket. -/
structure Ledger where
  sent : ConnId → ℕ
  origins : List (Option Ticket)
  replies : List (Option Ticket)
  passed : List (ConnId × Ticket)

namespace Ledger

def init : Ledger := ⟨fun _ => 0,[],[],[]⟩

/-- The ticket of a message that the handler of a connection pushes. -/
def stamp (l : Ledger) (c : ConnId) : InternalClientMessage β → Option Ticket
  | .message _ _ => some ⟨c,l.sent c⟩
  | _ => none

/-- What a message of the Module Handler replies to: the message at the front, if it is one of the
message thread. -/
def answer (l : Ledger) : HandlerThreads.ThreadAction β → ModuleHandlerMessage β → Option Ticket
  | .messages, .message _ => l.origins.head?.join
  | _, _ => none

end Ledger

namespace Gateway

def fromInternalQueue_ (s : Gateway β) : List (InternalClientMessage β) := s.system.server.fromInternalQueue_

/-- The message thread is about to take the front of `fromInternalQueue_` away. -/
def pops (s : Gateway β) : HandlerThreads.ThreadAction β → Bool
  | .messages => match s.threads.handler.thread with
    | .popping => true
    | _ => false
  | _ => false

def see (s : Gateway β) (a : GatewayAction β) (t : Gateway β) (l : Ledger) : Ledger :=
  match a with
  | .server (.connect c _) | .server (.status c _) =>
    let stamps := (appended s.fromInternalQueue_ t.fromInternalQueue_).map (l.stamp c)
    { l with
      sent := Function.update l.sent c (l.sent c + stamps.reduceOption.length)
      origins := l.origins ++ stamps }
  | .server .listen =>
    { l with
      origins := l.origins ++ (appended s.fromInternalQueue_ t.fromInternalQueue_).map fun _ => none
      replies := l.replies.tail
      passed := l.passed ++ (s.system.reached.bind fun c => l.replies.head?.join.map (Prod.mk c)).toList }
  | .server _ =>
    { l with origins := l.origins ++ (appended s.fromInternalQueue_ t.fromInternalQueue_).map fun _ => none }
  | .handler _ a =>
    { l with
      origins := if s.pops a then l.origins.tail else l.origins
      replies := l.replies ++
        (appended s.system.toInternalQueue_ t.system.toInternalQueue_).map (l.answer a) }

/-- The handler of a connection is in the wait of `handleMessage`, and nobody set `ready`. -/
def Waits (s : Gateway β) (c : ConnId) : Prop :=
  s.system.phase c = .waiting ∧ (s.system.server.connection c).ready = false

instance (s : Gateway β) (c : ConnId) : Decidable (s.Waits c) := inferInstanceAs (Decidable (_ ∧ _))

/-- What reaches a connection that waits is a reply to a message of that connection. -/
def reachesOwner (s : Gateway β × Ledger) : GatewayAction β → Bool
  | .server .listen => s.1.system.reached.all fun c =>
    !decide (s.1.Waits c) || s.2.replies.head?.join.any fun ticket => ticket.connection = c
  | _ => true

end Gateway

/-- A message of a connection without its reply. -/
def Ledger.Outstanding (l : Ledger) (c : ConnId) (n : ℕ) : Prop := n < l.sent c ∧ (c,⟨c,n⟩) ∉ l.passed

/-! ## What the Internal Server pushes -/

namespace Server

/-- Removals push disconnects and leave `ready` alone. -/
structure Removes (s t : Server β) : Prop where
  pushed : ∃ devices : List DeviceIdentification,
    t.fromInternalQueue_ = s.fromInternalQueue_ ++ devices.map .disconnect
  ready : ∀ x, (t.connection x).ready = (s.connection x).ready

theorem Removes.refl (s : Server β) : s.Removes s := ⟨⟨[],(List.append_nil _).symm⟩,fun _ => rfl⟩

theorem removeConnFromMap_removes (s : Server β) (c : ConnId) : s.Removes (s.removeConnFromMap c) := by
  refine ⟨?_,s.removeConnFromMap_ready c⟩
  rw [(s.removeConnFromMap_registry c).2.1]
  cases s.removedBy c with
  | none => exact ⟨[],rfl⟩
  | some e =>
    cases (s.connection c).deviceId with
    | none => exact ⟨[],rfl⟩
    | some deviceId => exact ⟨[deviceId],rfl⟩

theorem handleDisconnect_removes (s : Server β) (deviceId : DeviceIdentification) :
    s.Removes (s.handleDisconnect deviceId) := by
  unfold handleDisconnect
  split
  · exact s.removeConnFromMap_removes _
  · exact .refl s

/-- A message that is accepted is pushed, behind the disconnect of a connection that it replaces,
and its connection is not ready; a message that is refused is not pushed. -/
structure Accepts (s : Server β) (c : ConnId) (r : Bool × Server β) : Prop where
  pushed : r.1 = true → ∃ (devices : List DeviceIdentification) (message : InternalClient β),
    r.2.fromInternalQueue_ = s.fromInternalQueue_ ++ devices.map .disconnect ++ [.message false message]
  refused : r.1 = false → r.2.fromInternalQueue_ = s.fromInternalQueue_
  own : r.1 = true → (r.2.connection c).ready = false
  ready : ∀ x, x ≠ c → (r.2.connection x).ready = (s.connection x).ready

theorem connectNewDevice_accepts {s t : Server β} {c : ConnId} (hremoves : s.Removes t)
    (hready : (s.connection c).ready = false) (deviceId : DeviceIdentification) :
    s.Accepts c (true,t.connectNewDevice c deviceId) where
  pushed _ := by
    obtain ⟨devices,hpushed⟩ := hremoves.pushed
    refine ⟨devices,.deviceConnect deviceId,?_⟩
    rw [← hpushed]
    rfl
  refused := nofun
  own _ := by
    rw [connectNewDevice_connection, if_pos rfl]
    exact (hremoves.ready c).trans hready
  ready x hx := by
    rw [connectNewDevice_connection, if_neg hx]
    exact hremoves.ready x

theorem sendResponse_accepts (s : Server β) (c : ConnId) (message : Structures.InternalServer β) :
    s.Accepts c (false,s.sendResponse c message) := by
  obtain ⟨hconnection,-,hqueue⟩ := s.sendResponse_registry c message
  refine ⟨nofun,fun _ => hqueue,nofun,?_⟩
  intro x _
  rw [hconnection]

theorem handleConnection_accepts (s : Server β) (c : ConnId) (deviceId : DeviceIdentification) :
    s.Accepts c (s.handleConnection c deviceId) := by
  unfold handleConnection
  split
  · exact ⟨nofun,fun _ => rfl,nofun,fun _ _ => rfl⟩
  · rename_i hready
    rw [Bool.not_eq_true] at hready
    split
    · exact connectNewDevice_accepts (.refl s) hready deviceId
    · split
      · exact s.sendResponse_accepts c _
      · split
        · exact s.sendResponse_accepts c _
        · unfold changeConnection
          apply connectNewDevice_accepts ?_ hready
          split
          · exact s.removeConnFromMap_removes _
          · exact .refl s

theorem handleStatus_accepts (s : Server β) (c : ConnId) (status : DeviceStatus β) :
    s.Accepts c (s.handleStatus c status) := by
  unfold handleStatus
  split
  · refine ⟨fun _ => ⟨[],.deviceStatus status,?_⟩,by rintro ⟨⟩,?_,?_⟩
    · exact (congrArg (· ++ _) (List.append_nil _)).symm
    · intro _
      simp only [setConnection, Function.update_self]
    · intro x hx
      simp only [setConnection, Function.update_of_ne hx]
  · exact ⟨by rintro ⟨⟩,fun _ => rfl,by rintro ⟨⟩,fun _ _ => rfl⟩

end Server

namespace System
variable {s t : System β}

/-- The listener calls `sendResponse` for a message on the connection that it reaches and sets its
`ready`; a message that reaches nobody changes nothing. -/
theorem validateResponse_reached {message : Structures.InternalServer β} {rest : List (ModuleHandlerMessage β)}
    (hfront : s.toInternalQueue_ = .message message :: rest) :
    s.server.validateResponse message = s.reached.elim s.server fun c =>
      (s.server.sendResponse c message).setConnection c fun conn => { conn with ready := true } := by
  unfold Server.validateResponse reached
  rw [hfront]
  dsimp only
  cases s.server.findConnection (Server.addressee message) with
  | none => rfl
  | some c =>
    dsimp only
    by_cases hp : s.server.getPriority c = (Server.addressee message).priority
    · rw [if_pos hp, Option.filter_some_pos (by simpa using hp)]
      rfl
    · rw [if_neg hp, Option.filter_some_neg (by simpa using hp)]
      rfl

end System

/-! ## The books are in line with the queues -/

theorem System.systemStep_fromInternalQueue_ {s t : System β} {a : SystemAction β} (ht : s.systemStep a = some t) :
    ∃ pushed, t.server.fromInternalQueue_ = s.server.fromInternalQueue_ ++ pushed := by
  have hsame : t.server.fromInternalQueue_ = s.server.fromInternalQueue_ →
      ∃ pushed, t.server.fromInternalQueue_ = s.server.fromInternalQueue_ ++ pushed :=
    fun h => ⟨[],h.trans (List.append_nil _).symm⟩
  have haccepts : ∀ {c r}, s.server.Accepts c r → ∃ pushed, r.2.fromInternalQueue_ =
      s.server.fromInternalQueue_ ++ pushed := by
    intro c r h
    cases hr : r.1 with
    | false => exact ⟨[],(h.refused hr).trans (List.append_nil _).symm⟩
    | true =>
      obtain ⟨devices,message,hpushed⟩ := h.pushed hr
      exact ⟨_,hpushed.trans (List.append_assoc _ _ _)⟩
  cases a with
  | connect c deviceId =>
    obtain ⟨-,rfl⟩ := Option.ite_some_none_eq_some.mp ht
    exact haccepts (s.server.handleConnection_accepts c deviceId)
  | status c status =>
    obtain ⟨-,rfl⟩ := Option.ite_some_none_eq_some.mp ht
    exact haccepts (s.server.handleStatus_accepts c status)
  | fail c =>
    obtain ⟨-,rfl⟩ := Option.ite_some_none_eq_some.mp ht
    exact hsame rfl
  | responded c =>
    obtain ⟨-,rfl⟩ := Option.ite_some_none_eq_some.mp ht
    exact hsame rfl
  | timeout c =>
    obtain ⟨-,rfl⟩ := Option.ite_some_none_eq_some.mp ht
    exact hsame rfl
  | cleanup c =>
    obtain ⟨-,rfl⟩ := Option.ite_some_none_eq_some.mp ht
    obtain ⟨devices,hpushed⟩ := (s.server.removeConnFromMap_removes c).pushed
    exact ⟨_,hpushed⟩
  | push message =>
    cases ht
    exact hsame rfl
  | listen =>
    rw [systemStep] at ht
    split at ht
    · cases ht
    · rename_i deviceId _ _
      cases ht
      obtain ⟨devices,hpushed⟩ := (s.server.handleDisconnect_removes deviceId).pushed
      exact ⟨_,hpushed⟩
    · rename_i message _ hfront
      cases ht
      apply hsame
      dsimp only
      rw [validateResponse_reached hfront]
      cases s.reached with
      | none => rfl
      | some c => exact (s.server.sendResponse_registry c message).2.2

theorem System.systemStep_toInternalQueue_ {s t : System β} {a : SystemAction β} (ht : s.systemStep a = some t)
    (hpush : ∀ message, a ≠ .push message) :
    t.toInternalQueue_ = match a with
      | .listen => s.toInternalQueue_.tail
      | _ => s.toInternalQueue_ := by
  cases a with
  | push message => exact absurd rfl (hpush message)
  | listen =>
    rw [systemStep] at ht
    split at ht
    · cases ht
    · rename_i hfront
      cases ht
      rw [hfront]
      rfl
    · rename_i hfront
      cases ht
      rw [hfront]
      rfl
  | _ =>
    simp only [systemStep, Option.ite_none_right_eq_some, Option.some.injEq] at ht
    obtain ⟨-,rfl⟩ := ht
    rfl

namespace Gateway
variable {s t : Gateway β} {l : Ledger}

theorem pops_eq_true_iff {a : HandlerThreads.ThreadAction β} :
    s.pops a = true ↔ a = .messages ∧ s.threads.handler.thread = .popping := by
  unfold pops
  split
  · split <;> simp_all
  · simp_all

/-- The message thread takes the message away that is at the front, and nobody else takes any. -/
theorem threadStep_incoming [BufferType β] {moduleLibrary_ : ModuleLibrary β} {a : HandlerThreads.ThreadAction β}
    (ha : a.ofServer = false) {threads : HandlerThreads β}
    (ht : s.threads.threadStep (moduleLibrary_,a) = some threads) : threads.handler.fromInternalQueue_ =
      if s.pops a then s.threads.handler.fromInternalQueue_.tail else s.threads.handler.fromInternalQueue_ := by
  by_cases hmessages : a = .messages
  · subst hmessages
    cases HandlerThreads.handleMessages_answers ht with
    | quiet devices incoming _ before _ =>
      rw [if_neg fun h => before (pops_eq_true_iff.mp h).2]
      exact incoming
    | answers message incoming _ before _ =>
      rw [if_neg, incoming]
      intro h
      rw [(pops_eq_true_iff.mp h).2] at before
      cases before
    | pops incoming _ before _ =>
      rw [if_pos (pops_eq_true_iff.mpr ⟨rfl,before⟩)]
      exact incoming
  · obtain ⟨forwarded,hleaves⟩ := HandlerThreads.threadStep_leaves hmessages ha ht
    rw [if_neg fun h => hmessages (pops_eq_true_iff.mp h).1]
    exact hleaves.incoming

/-- What the Module Handler pushed in a step, as the observer enters it. -/
theorem see_handled (s : Gateway β) (l : Ledger) (moduleLibrary_ : ModuleLibrary β)
    (a : HandlerThreads.ThreadAction β) (threads : HandlerThreads β) :
    s.see (.handler moduleLibrary_ a) (s.handled threads) l =
      { l with
        origins := if s.pops a then l.origins.tail else l.origins
        replies := l.replies ++ threads.handler.toInternalQueue_.map (l.answer a) } := by
  have hpushed : appended s.system.toInternalQueue_ (s.handled threads).system.toInternalQueue_ =
      threads.handler.toInternalQueue_ := appended_append _ _
  simp only [see, hpushed]

/-- Both sides have the same queues, and the books have an entry for every message in them. -/
structure Aligned (s : Gateway β) (l : Ledger) : Prop where
  shared : s.threads.handler.fromInternalQueue_ = s.fromInternalQueue_
  moved : s.threads.handler.toInternalQueue_ = []
  origins : l.origins.length = s.fromInternalQueue_.length
  replies : l.replies.length = s.system.toInternalQueue_.length

theorem Aligned.init : (init : Gateway β).Aligned .init := ⟨rfl,rfl,rfl,rfl⟩

/-- Every message that was pushed is entered. -/
theorem Aligned.entered (hs : s.Aligned l) {system : System β} {a : SystemAction β}
    (ht : s.system.systemStep a = some system) (stamp : InternalClientMessage β → Option Ticket) :
    (l.origins ++ (appended s.fromInternalQueue_ (s.served system).fromInternalQueue_).map stamp).length =
      (s.served system).fromInternalQueue_.length := by
  obtain ⟨pushed,hpushed⟩ := System.systemStep_fromInternalQueue_ ht
  have hqueue : (s.served system).fromInternalQueue_ = s.fromInternalQueue_ ++ pushed := hpushed
  rw [hqueue, appended_append, List.length_append, List.length_append, List.length_map, hs.origins]

theorem Aligned.server (hs : s.Aligned l) {a : SystemAction β} {system : System β}
    (ht : s.system.systemStep a = some system) (hpush : ∀ message, a ≠ .push message) :
    (s.served system).Aligned (s.see (.server a) (s.served system) l) := by
  have hqueue := System.systemStep_toInternalQueue_ ht hpush
  refine ⟨rfl,hs.moved,?_,?_⟩
  · cases a <;> exact hs.entered ht _
  · change _ = system.toInternalQueue_.length
    rw [hqueue]
    cases a with
    | listen =>
      dsimp only [see]
      rw [List.length_tail, List.length_tail, hs.replies]
    | _ => exact hs.replies

theorem Aligned.handled [BufferType β] (hs : s.Aligned l) {moduleLibrary_ : ModuleLibrary β}
    {a : HandlerThreads.ThreadAction β} (ha : a.ofServer = false) {threads : HandlerThreads β}
    (ht : s.threads.threadStep (moduleLibrary_,a) = some threads) :
    (s.handled threads).Aligned (s.see (.handler moduleLibrary_ a) (s.handled threads) l) := by
  have hincoming := threadStep_incoming ha ht
  rw [see_handled]
  refine ⟨rfl,rfl,?_,?_⟩
  · change _ = threads.handler.fromInternalQueue_.length
    rw [hincoming, hs.shared]
    dsimp only
    split
    · rw [List.length_tail, List.length_tail, hs.origins]
    · exact hs.origins
  · simp only [Gateway.handled, List.length_append, List.length_map, hs.replies]

/-- In every run. -/
theorem exec_aligned [BufferType β] {as : List (GatewayAction β)}
    (he : exec (watched gatewayStep see) (Gateway.init,.init) as = some (s,l)) : s.Aligned l := by
  refine exec_invariant (I := fun s => s.1.Aligned s.2) Aligned.init ?_ he
  intro s a t hs ht
  obtain ⟨hstep,hsee⟩ := watched_eq_some.mp ht
  rw [hsee]
  cases a with
  | handler moduleLibrary_ a =>
    rw [gatewayStep] at hstep
    split at hstep
    · cases hstep
    · rename_i ha
      obtain ⟨threads,hthreads,heq⟩ := Option.map_eq_some_iff.mp hstep
      rw [← heq]
      exact hs.handled (by simpa using ha) hthreads
  | server a =>
    have hserver : (∀ message, a ≠ .push message) ∧ (s.1.system.systemStep a).map s.1.served = some t.1 := by
      cases a with
      | push message => cases hstep
      | _ => exact ⟨nofun,hstep⟩
    obtain ⟨system,hsystem,heq⟩ := Option.map_eq_some_iff.mp hserver.2
    rw [← heq]
    exact hs.server hsystem hserver.1

end Gateway

/-! ## Messages that a reply may still reach -/

namespace Ledger
variable (l : Ledger)

/-- The messages without an answer and the answers under way; the message at the front of
`fromInternalQueue_` is out of it once it was answered. -/
def pipeline (answered : Bool) : List Ticket :=
  ((if answered then l.origins.tail else l.origins) ++ l.replies).reduceOption

def pending (answered : Bool) (c : ConnId) : List Ticket :=
  (l.pipeline answered).filter fun ticket => ticket.connection = c

theorem pending_subperm {l l' : Ledger} {answered answered' : Bool}
    (h : (l'.pipeline answered').Subperm (l.pipeline answered)) (c : ConnId) :
    (l'.pending answered' c).Subperm (l.pending answered c) := h.filter _

/-- Messages that come in at the end. -/
theorem pipeline_push (answered : Bool) (stamps : List (Option Ticket)) :
    ((if answered then (l.origins ++ stamps).tail else l.origins ++ stamps) ++ l.replies).reduceOption.Subperm
      (stamps.reduceOption ++ l.pipeline answered) := by
  have hmove : ∀ origins : List (Option Ticket), (origins ++ stamps ++ l.replies).reduceOption.Subperm
      (stamps.reduceOption ++ (origins ++ l.replies).reduceOption) := by
    intro origins
    simp only [List.reduceOption_append]
    rw [← List.append_assoc]
    exact (List.perm_append_comm.append_right _).subperm
  unfold pipeline
  cases answered with
  | false => exact hmove l.origins
  | true =>
    cases horigins : l.origins with
    | nil =>
      have htail : stamps.tail.reduceOption.Sublist stamps.reduceOption := (List.tail_sublist stamps).filterMap id
      simp only [if_true, List.nil_append, List.tail_nil, List.reduceOption_append]
      exact (htail.append_right _).subperm
    | cons origin origins => exact hmove origins

/-- The message at the front is answered. -/
theorem pipeline_answer :
    ({ l with replies := l.replies ++ [l.origins.head?.join] }.pipeline true).Subperm (l.pipeline false) := by
  unfold pipeline
  cases horigins : l.origins with
  | nil =>
    simp only [if_true, List.tail_nil, List.head?_nil, Option.join_none, List.reduceOption_append,
      List.reduceOption_cons_of_none, List.reduceOption_nil, List.append_nil]
    exact List.Subperm.refl _
  | cons origin origins =>
    have hmove : (origins ++ (l.replies ++ [origin])).Perm (origin :: origins ++ l.replies) := by
      rw [← List.append_assoc]
      exact List.perm_append_singleton _ _
    exact (hmove.filterMap id).subperm

/-- Taking back or forgetting a message leaves no more of them. -/
theorem pipeline_of_sublist {l l' : Ledger} {answered answered' : Bool}
    (horigins : (if answered' then l'.origins.tail else l'.origins).Sublist
      (if answered then l.origins.tail else l.origins)) (hreplies : l'.replies.Sublist l.replies) :
    (l'.pipeline answered').Subperm (l.pipeline answered) :=
  ((horigins.append hreplies).filterMap id).subperm

theorem reduceOption_map_none {γ : Type*} (messages : List γ) :
    (messages.map fun _ => (none : Option Ticket)).reduceOption = [] := by
  rw [List.map_const', List.reduceOption_replicate_none]

end Ledger

/-! ## The invariant -/

namespace Gateway
variable {s t : Gateway β} {l l' : Ledger}

def answered (s : Gateway β) : Bool := s.threads.handler.thread.answered

/-- The handler reads, or is about to. -/
def Settled (s : Gateway β) (c : ConnId) : Prop :=
  s.system.phase c = .reading ∨ s.system.phase c = .waiting ∧ (s.system.server.connection c).ready = true

/-- A connection that is settled has a reply for every message, and no other one can come; one that
waits has at most its last message under way. -/
structure Orderly (s : Gateway β) (l : Ledger) : Prop where
  moved : s.threads.handler.toInternalQueue_ = []
  earlier : ∀ c n, n + 1 < l.sent c → (c,⟨c,n⟩) ∈ l.passed
  settled : ∀ c, s.Settled c → l.pending s.answered c = [] ∧ ∀ n, n < l.sent c → (c,⟨c,n⟩) ∈ l.passed
  waiting : ∀ c, s.system.phase c = .waiting → 0 < l.sent c ∧ (l.pending s.answered c).length ≤ 1 ∧
    ∀ ticket ∈ l.pending s.answered c, ticket.number + 1 = l.sent c

theorem Orderly.init : (init : Gateway β).Orderly .init where
  moved := rfl
  earlier _ _ h := absurd h (Nat.not_lt_zero _)
  settled _ _ := ⟨rfl,fun _ h => absurd h (Nat.not_lt_zero _)⟩
  waiting _ h := nomatch h

/-- A step by which no connection sends. -/
theorem Orderly.keeps (hs : s.Orderly l) (hmoved : t.threads.handler.toInternalQueue_ = [])
    (hsent : l'.sent = l.sent) (hpassed : l.passed ⊆ l'.passed)
    (hpipeline : (l'.pipeline t.answered).Subperm (l.pipeline s.answered))
    (hsettled : ∀ c, t.Settled c → s.Settled c ∨
      l'.pending t.answered c = [] ∧ ∀ n, n < l.sent c → (c,⟨c,n⟩) ∈ l'.passed)
    (hwaiting : ∀ c, t.system.phase c = .waiting → s.system.phase c = .waiting) : t.Orderly l' := by
  have hpending := Ledger.pending_subperm hpipeline
  refine ⟨hmoved,?_,?_,?_⟩
  · intro c n hn
    rw [hsent] at hn
    exact hpassed (hs.earlier c n hn)
  · intro c hc
    rw [hsent]
    obtain h | h := hsettled c hc
    · obtain ⟨hnil,hall⟩ := hs.settled c h
      have hsub := hpending c
      rw [hnil, List.subperm_nil] at hsub
      exact ⟨hsub,fun n hn => hpassed (hall n hn)⟩
    · exact h
  · intro c hc
    rw [hsent]
    obtain ⟨hpos,hlength,hlast⟩ := hs.waiting c (hwaiting c hc)
    exact ⟨hpos,(hpending c).length_le.trans hlength,fun ticket h => hlast ticket ((hpending c).subset h)⟩

/-- What may become of a handler by a step that is not the arrival of a message. -/
inductive Proceeds (s t : System β) (x : ConnId) : Prop
  | stays (phase : t.phase x = s.phase x)
      (ready : s.phase x = .waiting → (t.server.connection x).ready = (s.server.connection x).ready)
  | ends (phase : t.phase x = .closing ∨ t.phase x = .closed)
  | returns (before : s.phase x = .waiting ∧ (s.server.connection x).ready = true) (after : t.phase x = .reading)

theorem Proceeds.settled {x : ConnId} (h : Proceeds s.system t.system x) (ht : t.Settled x) : s.Settled x := by
  cases h with
  | stays phase ready =>
    obtain hreading | ⟨hwaiting,hready⟩ := ht
    · exact .inl (phase ▸ hreading)
    · rw [phase] at hwaiting
      exact .inr ⟨hwaiting,ready hwaiting ▸ hready⟩
  | ends phase =>
    obtain hreading | ⟨hwaiting,-⟩ := ht
    · rw [hreading] at phase
      obtain h | h := phase <;> cases h
    · rw [hwaiting] at phase
      obtain h | h := phase <;> cases h
  | returns before _ => exact .inr before

theorem Proceeds.waiting {s t : System β} {x : ConnId} (h : Proceeds s t x) (ht : t.phase x = .waiting) :
    s.phase x = .waiting := by
  cases h with
  | stays phase _ => exact phase ▸ ht
  | ends phase =>
    rw [ht] at phase
    obtain h | h := phase <;> cases h
  | returns before _ => exact before.1

/-- A handler that moves on; the other ones stay. -/
theorem proceeds_setPhase {s u : System β} {c : ConnId} {p : Phase}
    (hphase : u.phase = s.phase) (hready : ∀ x, (u.server.connection x).ready = (s.server.connection x).ready)
    (hown : p = .closing ∨ p = .closed ∨
      p = .reading ∧ s.phase c = .waiting ∧ (s.server.connection c).ready = true) (x : ConnId) :
    Proceeds s (u.setPhase c p) x := by
  by_cases hx : x = c
  · subst hx
    have hself : (u.setPhase x p).phase x = p := Function.update_self _ _ _
    obtain h | h | ⟨h,hbefore⟩ := hown
    · exact .ends (.inl (hself.trans h))
    · exact .ends (.inr (hself.trans h))
    · exact .returns hbefore (hself.trans h)
  · refine .stays ?_ fun _ => hready x
    exact (Function.update_of_ne hx _ _).trans (congrFun hphase x)

/-- A step of the server by which no message is sent or arrives. -/
theorem Orderly.proceeds (hs : s.Orderly l) {system : System β} (hproceeds : ∀ x, Proceeds s.system system x)
    (hsent : l'.sent = l.sent) {γ : Type} (pushed : List γ)
    (horigins : l'.origins = l.origins ++ pushed.map fun _ => none) (hreplies : l'.replies = l.replies)
    (hpassed : l'.passed = l.passed) : (s.served system).Orderly l' := by
  refine hs.keeps hs.moved hsent ?_ ?_ ?_ ?_
  · rw [hpassed]
    exact List.Subset.refl _
  · have hpush := l.pipeline_push s.answered (pushed.map fun _ => none)
    rw [Ledger.reduceOption_map_none] at hpush
    unfold Ledger.pipeline
    rw [horigins, hreplies]
    exact hpush
  · intro x hx
    exact .inl ((hproceeds x).settled (t := s.served system) hx)
  · intro x hx
    exact (hproceeds x).waiting hx

/-! ## A message of a connection -/

/-- A connection that had a reply for every message sends another one. -/
theorem Orderly.pushes (hs : s.Orderly l) {c : ConnId} (hc : s.system.phase c = .reading)
    (hmoved : t.threads.handler.toInternalQueue_ = [])
    (hsent : l'.sent = Function.update l.sent c (l.sent c + 1)) (hpassed : l'.passed = l.passed)
    (hpipeline : (l'.pipeline t.answered).Subperm (⟨c,l.sent c⟩ :: l.pipeline s.answered)) (hwaits : t.Waits c)
    (hothers : ∀ x, x ≠ c → t.system.phase x = s.system.phase x ∧
      (t.system.server.connection x).ready = (s.system.server.connection x).ready) : t.Orderly l' := by
  obtain ⟨hnil,hall⟩ := hs.settled c (.inl hc)
  have hself : l'.sent c = l.sent c + 1 := by rw [hsent, Function.update_self]
  have hsame : ∀ x, x ≠ c → l'.sent x = l.sent x := by
    intro x hx
    rw [hsent, Function.update_of_ne hx]
  have hown : (l'.pending t.answered c).Subperm [⟨c,l.sent c⟩] := by
    have hfilter := hpipeline.filter fun ticket => ticket.connection = c
    rw [List.filter_cons_of_pos (by simp)] at hfilter
    exact hfilter.trans (congrArg (List.cons _) hnil ▸ List.Subperm.refl _)
  have hother : ∀ x, x ≠ c → (l'.pending t.answered x).Subperm (l.pending s.answered x) := by
    intro x hx
    have hfilter := hpipeline.filter fun ticket => ticket.connection = x
    rw [List.filter_cons_of_neg (by simpa using Ne.symm hx)] at hfilter
    exact hfilter
  refine ⟨hmoved,?_,?_,?_⟩
  · intro x n hn
    rw [hpassed]
    by_cases hx : x = c
    · subst hx
      rw [hself] at hn
      exact hall n (Nat.lt_of_succ_lt_succ hn)
    · rw [hsame x hx] at hn
      exact hs.earlier x n hn
  · intro x hsettled
    have hx : x ≠ c := by
      rintro rfl
      obtain h | ⟨-,h⟩ := hsettled
      · rw [hwaits.1] at h
        cases h
      · rw [hwaits.2] at h
        cases h
    obtain ⟨hphase,hready⟩ := hothers x hx
    unfold Settled at hsettled
    rw [hphase, hready] at hsettled
    obtain ⟨hnone,hreplied⟩ := hs.settled x hsettled
    have hsub := hother x hx
    rw [hnone, List.subperm_nil] at hsub
    rw [hpassed, hsame x hx]
    exact ⟨hsub,hreplied⟩
  · intro x hwaiting
    by_cases hx : x = c
    · subst hx
      rw [hself]
      refine ⟨Nat.succ_pos _,hown.length_le,?_⟩
      intro ticket hticket
      rw [List.mem_singleton.mp (hown.subset hticket)]
    · rw [hsame x hx]
      rw [(hothers x hx).1] at hwaiting
      obtain ⟨hpos,hlength,hlast⟩ := hs.waiting x hwaiting
      exact ⟨hpos,(hother x hx).length_le.trans hlength,fun ticket h => hlast ticket ((hother x hx).subset h)⟩

/-- The handler of a connection pushes its message, or refuses it. -/
theorem Orderly.sends (hs : s.Orderly l) {c : ConnId} (hc : s.system.phase c = .reading) {r : Bool × Server β}
    (haccepts : s.system.server.Accepts c r) {stamps : List (Option Ticket)}
    (hstamps : stamps = (appended s.fromInternalQueue_ r.2.fromInternalQueue_).map (l.stamp c)) :
    (s.served (s.system.handled c r)).Orderly { l with
      sent := Function.update l.sent c (l.sent c + stamps.reduceOption.length)
      origins := l.origins ++ stamps } := by
  have hothers : ∀ x, x ≠ c → (s.system.handled c r).phase x = s.system.phase x ∧
      ((s.system.handled c r).server.connection x).ready = (s.system.server.connection x).ready := by
    intro x hx
    refine ⟨?_,haccepts.ready x hx⟩
    simp only [System.handled, System.setPhase, Function.update_of_ne hx]
  cases haccepted : r.1 with
  | false =>
    have hnone : stamps = [] := by
      rw [hstamps, haccepts.refused haccepted]
      exact congrArg (List.map _) (appended_of_length_le (le_refl _))
    subst hnone
    refine hs.proceeds (γ := Unit) ?_ ?_ [] rfl rfl rfl
    · intro x
      by_cases hx : x = c
      · subst hx
        refine .ends (.inl ?_)
        simp only [System.handled, haccepted, System.setPhase, Function.update_self, Bool.false_eq_true, if_false]
      · exact .stays (hothers x hx).1 fun _ => (hothers x hx).2
    · exact Function.update_eq_self _ _
  | true =>
    obtain ⟨devices,message,hpushed⟩ := haccepts.pushed haccepted
    have hnew : stamps.reduceOption = [⟨c,l.sent c⟩] := by
      have hqueue : s.system.server.fromInternalQueue_ = s.fromInternalQueue_ := rfl
      have hnone : l.stamp c ∘ InternalClientMessage.disconnect (β := β) = fun _ => none := rfl
      rw [hstamps, hpushed, List.append_assoc, hqueue, appended_append, List.map_append, List.reduceOption_append,
        List.map_map, hnone, Ledger.reduceOption_map_none]
      rfl
    have hpush := l.pipeline_push s.answered stamps
    rw [hnew] at hpush ⊢
    refine hs.pushes hc hs.moved rfl rfl hpush ⟨?_,haccepts.own haccepted⟩ hothers
    simp only [served, System.handled, haccepted, System.setPhase, Function.update_self, if_true]

/-! ## A message of the Module Handler arrives -/

/-- The books when the listener takes a message. -/
theorem listen_pipeline (l : Ledger) (answered : Bool) {γ : Type} (pushed : List γ) (passed : List (ConnId × Ticket)) :
    (Ledger.pipeline { l with
      origins := l.origins ++ pushed.map fun _ => none
      replies := l.replies.tail
      passed := passed } answered).Subperm (Ledger.pipeline { l with replies := l.replies.tail } answered) := by
  have hpush := Ledger.pipeline_push { l with replies := l.replies.tail } answered (pushed.map fun _ => none)
  rw [Ledger.reduceOption_map_none] at hpush
  exact hpush

theorem Orderly.listen_quiet (hs : s.Orderly l) {system : System β} (hproceeds : ∀ x, Proceeds s.system system x)
    {γ : Type} (pushed : List γ) {passed : List (ConnId × Ticket)} (hpassed : l.passed ⊆ passed) :
    (s.served system).Orderly { l with
      origins := l.origins ++ pushed.map fun _ => none
      replies := l.replies.tail
      passed := passed } := by
  refine hs.keeps hs.moved rfl hpassed ?_ ?_ ?_
  · refine (listen_pipeline l s.answered pushed passed).trans ?_
    exact Ledger.pipeline_of_sublist (List.Sublist.refl _) (List.tail_sublist _)
  · intro x hx
    exact .inl ((hproceeds x).settled (t := s.served system) hx)
  · intro x hx
    exact (hproceeds x).waiting hx

/-- A reply to a message of the connection itself reaches it while it waits: it is the reply to its
last message, and no other one is under way. -/
theorem Orderly.listen_reply (hs : s.Orderly l) {c : ConnId} {ticket : Ticket} (hwaits : s.Waits c)
    (hreply : l.replies.head?.join = some ticket) (hown : ticket.connection = c) {system : System β}
    (hphase : system.phase = s.system.phase)
    (hready : ∀ x, x ≠ c → (system.server.connection x).ready = (s.system.server.connection x).ready)
    {γ : Type} (pushed : List γ) : (s.served system).Orderly { l with
      origins := l.origins ++ pushed.map fun _ => none
      replies := l.replies.tail
      passed := l.passed ++ [(c,ticket)] } := by
  obtain ⟨replies,hreplies⟩ : ∃ replies, l.replies = some ticket :: replies := by
    cases h : l.replies with
    | nil =>
      rw [h] at hreply
      cases hreply
    | cons reply replies =>
      rw [h] at hreply
      obtain rfl : reply = some ticket := hreply
      exact ⟨replies,rfl⟩
  obtain ⟨-,hlength,hlast⟩ := hs.waiting c hwaits.1
  have htaken : (ticket :: Ledger.pipeline { l with replies := l.replies.tail } s.answered).Perm
      (l.pipeline s.answered) := by
    unfold Ledger.pipeline
    rw [hreplies, List.tail_cons, List.reduceOption_append, List.reduceOption_append, List.reduceOption_cons_of_some]
    exact List.perm_middle.symm
  have hfilter := htaken.filter fun ticket => ticket.connection = c
  rw [List.filter_cons_of_pos (by simpa using hown)] at hfilter
  have hnumber : ticket.number + 1 = l.sent c := hlast ticket (hfilter.subset List.mem_cons_self)
  have hnil : Ledger.pending { l with replies := l.replies.tail } s.answered c = [] := by
    have hle := hfilter.length_eq.trans_le hlength
    rw [List.length_cons] at hle
    exact List.length_eq_zero_iff.mp (Nat.le_zero.mp (Nat.le_of_succ_le_succ hle))
  have hpipeline := listen_pipeline l s.answered pushed (l.passed ++ [(c,ticket)])
  refine hs.keeps hs.moved rfl (List.subset_append_left _ _) ?_ ?_ ?_
  · exact hpipeline.trans ((List.sublist_cons_self _ _).subperm.trans htaken.subperm)
  · intro x hx
    by_cases hxc : x = c
    · subst hxc
      right
      have hsub := Ledger.pending_subperm hpipeline x
      rw [hnil, List.subperm_nil] at hsub
      refine ⟨hsub,?_⟩
      intro n hn
      rw [List.mem_append]
      by_cases hlater : n + 1 < l.sent x
      · exact .inl (hs.earlier x n hlater)
      · have hn' : n = ticket.number := by omega
        subst hn'
        subst hown
        exact .inr List.mem_cons_self
    · left
      unfold Settled at hx ⊢
      rw [← hphase, ← hready x hxc]
      exact hx
  · intro x hx
    exact (congrFun hphase x).symm.trans hx

theorem Orderly.listens (hs : s.Orderly l) (hg : reachesOwner (s,l) (.server .listen) = true) {system : System β}
    (ht : s.system.systemStep .listen = some system) :
    (s.served system).Orderly (s.see (.server .listen) (s.served system) l) := by
  rw [System.systemStep] at ht
  split at ht
  · cases ht
  · rename_i deviceId rest hfront
    cases ht
    have hreached : s.system.reached = none := by
      unfold System.reached
      rw [hfront]
    have hready := (s.system.server.handleDisconnect_removes deviceId).ready
    simp only [see, hreached, Option.bind_none, Option.toList_none, List.append_nil]
    refine hs.listen_quiet ?_ _ (List.Subset.refl _)
    intro x
    exact .stays rfl fun _ => hready x
  · rename_i message rest hfront
    cases ht
    have hserver := System.validateResponse_reached hfront
    rw [hserver]
    cases hreached : s.system.reached with
    | none =>
      simp only [see, hreached, Option.bind_none, Option.toList_none, List.append_nil, Option.elim_none]
      refine hs.listen_quiet ?_ _ (List.Subset.refl _)
      intro x
      exact .stays rfl fun _ => rfl
    | some c =>
      simp only [see, hreached, Option.bind_some, Option.elim_some]
      have hconnection : ∀ x, (((s.system.server.sendResponse c message).setConnection c fun conn =>
          { conn with ready := true }).connection x).ready =
            if x = c then true else (s.system.server.connection x).ready := by
        intro x
        have hsend := (s.system.server.sendResponse_registry c message).1
        by_cases hx : x = c
        · subst hx
          simp only [Server.setConnection, Function.update_self, if_true]
        · simp only [Server.setConnection, Function.update_of_ne hx, if_neg hx, hsend]
      have hother : ∀ x, x ≠ c → (((s.system.server.sendResponse c message).setConnection c fun conn =>
          { conn with ready := true }).connection x).ready = (s.system.server.connection x).ready := by
        intro x hx
        rw [hconnection, if_neg hx]
      by_cases hwaits : s.Waits c
      · obtain ⟨ticket,hreply,hown⟩ : ∃ ticket, l.replies.head?.join = some ticket ∧ ticket.connection = c := by
          simpa [reachesOwner, hreached, hwaits, Option.any_eq_true] using hg
        rw [hreply]
        refine hs.listen_reply hwaits hreply hown ?_ hother _
        rfl
      · refine hs.listen_quiet ?_ _ (List.subset_append_left _ _)
        intro x
        refine .stays rfl ?_
        intro hwaiting
        by_cases hx : x = c
        · subst hx
          have hready : (s.system.server.connection x).ready = true := by
            rw [← Bool.not_eq_false]
            exact fun h => hwaits ⟨hwaiting,h⟩
          exact (hconnection x).trans ((if_pos rfl).trans hready.symm)
        · exact hother x hx

/-! ## A step of the Module Handler -/

theorem Orderly.handled (hs : s.Orderly l) {threads : HandlerThreads β} {moduleLibrary_ : ModuleLibrary β}
    {a : HandlerThreads.ThreadAction β}
    (hpipeline : ((s.see (.handler moduleLibrary_ a) (s.handled threads) l).pipeline
      threads.handler.thread.answered).Subperm (l.pipeline s.answered)) :
    (s.handled threads).Orderly (s.see (.handler moduleLibrary_ a) (s.handled threads) l) :=
  hs.keeps rfl rfl (List.Subset.refl _) hpipeline (fun _ h => .inl h) fun _ h => h

/-- What is pushed has no ticket, and no message is taken away. -/
theorem pipeline_unanswered {threads : HandlerThreads β} {moduleLibrary_ : ModuleLibrary β}
    {a : HandlerThreads.ThreadAction β} (hpops : s.pops a = false)
    (hanswer : threads.handler.toInternalQueue_.map (l.answer a) =
      threads.handler.toInternalQueue_.map fun _ => none)
    (hanswered : s.answered = true → threads.handler.thread.answered = true) :
    ((s.see (.handler moduleLibrary_ a) (s.handled threads) l).pipeline
      threads.handler.thread.answered).Subperm (l.pipeline s.answered) := by
  rw [see_handled, hpops, hanswer]
  unfold Ledger.pipeline
  simp only [Bool.false_eq_true, if_false, ← List.append_assoc]
  rw [List.reduceOption_append, Ledger.reduceOption_map_none, List.append_nil]
  refine (List.Sublist.filterMap id (List.Sublist.append_right ?_ _)).subperm
  cases hs : s.answered with
  | true => rw [hanswered hs]
  | false =>
    split
    · exact List.tail_sublist _
    · exact List.Sublist.refl _

theorem Orderly.threadStep [BufferType β] (hs : s.Orderly l) {moduleLibrary_ : ModuleLibrary β}
    {a : HandlerThreads.ThreadAction β} (ha : a.ofServer = false) {threads : HandlerThreads β}
    (ht : s.threads.threadStep (moduleLibrary_,a) = some threads) :
    (s.handled threads).Orderly (s.see (.handler moduleLibrary_ a) (s.handled threads) l) := by
  apply hs.handled
  by_cases hmessages : a = .messages
  · subst hmessages
    have hpops : s.threads.handler.thread ≠ .popping → s.pops HandlerThreads.ThreadAction.messages = false := by
      intro hne
      rw [← Bool.not_eq_true, pops_eq_true_iff]
      exact fun h => hne h.2
    cases HandlerThreads.handleMessages_answers ht with
    | quiet devices _ outgoing before after =>
      apply pipeline_unanswered (hpops before) ?_ after
      rw [outgoing, hs.moved, List.nil_append, List.map_map, List.map_map]
      rfl
    | answers message _ outgoing before after =>
      have hnot : s.threads.handler.thread ≠ .popping := by
        intro h
        rw [h] at before
        cases before
      have hbefore : s.answered = false := before
      rw [see_handled, hpops hnot, outgoing, hs.moved, after, hbefore]
      exact l.pipeline_answer
    | pops _ outgoing before after =>
      have hpopping : s.pops HandlerThreads.ThreadAction.messages = true := pops_eq_true_iff.mpr ⟨rfl,before⟩
      have hbefore : s.answered = true := by
        unfold answered
        rw [before]
        rfl
      rw [see_handled, hpopping, outgoing, hs.moved, after, hbefore, List.map_nil, List.append_nil]
      exact List.Subperm.refl _
  · obtain ⟨forwarded,hleaves⟩ := HandlerThreads.threadStep_leaves hmessages ha ht
    apply pipeline_unanswered
    · rw [← Bool.not_eq_true, pops_eq_true_iff]
      exact fun h => hmessages h.1
    · have hnone : l.answer a = fun _ => none := by
        funext message
        unfold Ledger.answer
        split
        · exact absurd rfl hmessages
        · rfl
      rw [hnone]
    · intro h
      rw [hleaves.thread]
      exact h

/-! ## The run -/

theorem Orderly.step [BufferType β] (hs : s.Orderly l) {a : GatewayAction β} (hg : reachesOwner (s,l) a = true)
    (ht : s.gatewayStep a = some t) : t.Orderly (s.see a t l) := by
  cases a with
  | handler moduleLibrary_ a =>
    rw [gatewayStep] at ht
    split at ht
    · cases ht
    · rename_i ha
      obtain ⟨threads,hthreads,rfl⟩ := Option.map_eq_some_iff.mp ht
      exact hs.threadStep (by simpa using ha) hthreads
  | server a =>
    cases a with
    | push message => cases ht
    | connect c deviceId =>
      obtain ⟨system,hsystem,rfl⟩ := Option.map_eq_some_iff.mp ht
      obtain ⟨hc,rfl⟩ : s.system.phase c = .reading ∧ s.system.handled c _ = system := by
        simpa [System.systemStep] using hsystem
      exact hs.sends hc (s.system.server.handleConnection_accepts c deviceId) rfl
    | status c status =>
      obtain ⟨system,hsystem,rfl⟩ := Option.map_eq_some_iff.mp ht
      obtain ⟨hc,rfl⟩ : s.system.phase c = .reading ∧ s.system.handled c _ = system := by
        simpa [System.systemStep] using hsystem
      exact hs.sends hc (s.system.server.handleStatus_accepts c status) rfl
    | fail c =>
      obtain ⟨system,hsystem,rfl⟩ := Option.map_eq_some_iff.mp ht
      obtain ⟨-,rfl⟩ : s.system.phase c = .reading ∧ s.system.setPhase c _ = system := by
        simpa [System.systemStep] using hsystem
      refine hs.proceeds ?_ rfl _ rfl rfl rfl
      exact proceeds_setPhase rfl (fun _ => rfl) (.inl rfl)
    | responded c =>
      obtain ⟨system,hsystem,rfl⟩ := Option.map_eq_some_iff.mp ht
      obtain ⟨hbefore,rfl⟩ : (s.system.phase c = .waiting ∧ _) ∧ s.system.setPhase c _ = system := by
        simpa [System.systemStep] using hsystem
      refine hs.proceeds ?_ rfl _ rfl rfl rfl
      exact proceeds_setPhase rfl (fun _ => rfl) (.inr (.inr ⟨rfl,hbefore⟩))
    | timeout c =>
      obtain ⟨system,hsystem,rfl⟩ := Option.map_eq_some_iff.mp ht
      obtain ⟨-,rfl⟩ : (s.system.phase c = .waiting ∧ _) ∧ s.system.setPhase c _ = system := by
        simpa [System.systemStep] using hsystem
      refine hs.proceeds ?_ rfl _ rfl rfl rfl
      exact proceeds_setPhase rfl (fun _ => rfl) (.inl rfl)
    | cleanup c =>
      obtain ⟨system,hsystem,rfl⟩ := Option.map_eq_some_iff.mp ht
      obtain ⟨-,rfl⟩ : s.system.phase c = .closing ∧ System.setPhase
          { s.system with server := s.system.server.removeConnFromMap c } c _ = system := by
        simpa [System.systemStep] using hsystem
      refine hs.proceeds ?_ rfl _ rfl rfl rfl
      exact proceeds_setPhase rfl (s.system.server.removeConnFromMap_ready c) (.inr (.inl rfl))
    | listen =>
      obtain ⟨system,hsystem,rfl⟩ := Option.map_eq_some_iff.mp ht
      exact hs.listens hg hsystem

/-- In a run in which a connection that waits is reached by no forwarded command and by no reply to
a message of another connection, `handleMessage` returns true only after the reply to its message
was passed to `sendResponse` on that connection, and no connection has two messages outstanding. -/
theorem exec_answered [BufferType β] {as : List (GatewayAction β)}
    (hg : Guarded (watched gatewayStep see) (fun s a => reachesOwner s a = true) (init,.init) as)
    (he : exec (watched gatewayStep see) (init,.init) as = some (s,l)) :
    (∀ c t, s.gatewayStep (.server (.responded c)) = some t →
        ∃ n, l.sent c = n + 1 ∧ (c,⟨c,n⟩) ∈ l.passed) ∧
      ∀ c m n, l.Outstanding c m → l.Outstanding c n → m = n := by
  have hs : s.Orderly l := by
    refine exec_guarded_invariant (I := fun s => s.1.Orderly s.2) Orderly.init ?_ hg he
    intro s a t hs ha ht
    obtain ⟨hstep,hsee⟩ := watched_eq_some.mp ht
    rw [hsee]
    exact hs.step ha hstep
  refine ⟨?_,?_⟩
  · intro c t ht
    obtain ⟨system,hsystem,-⟩ := Option.map_eq_some_iff.mp ht
    obtain ⟨hbefore,-⟩ : (s.system.phase c = .waiting ∧ (s.system.server.connection c).ready = true) ∧
        s.system.setPhase c _ = system := by simpa [System.systemStep] using hsystem
    obtain ⟨n,hn⟩ := Nat.exists_eq_succ_of_ne_zero (hs.waiting c hbefore.1).1.ne'
    exact ⟨n,hn,(hs.settled c (.inr hbefore)).2 n (by omega)⟩
  · intro c m n hm hn
    have hlast : ∀ k, l.Outstanding c k → k + 1 = l.sent c := by
      intro k hk
      have hle : ¬k + 1 < l.sent c := fun h => hk.2 (hs.earlier c k h)
      have hlt := hk.1
      omega
    have hm' := hlast m hm
    have hn' := hlast n hn
    omega

/-! ## A camera with forwarded commands -/

def camera : DeviceIdentification := StatusAggregator.camera

def messages (steps : ℕ) : List (GatewayAction (List UInt8)) :=
  List.replicate steps (.handler HandlerThreads.pushLibrary .messages)

/-- A connection connects as the camera and sends its first status, which is handled. -/
def firstStatus : List (GatewayAction (List UInt8)) :=
  [.server (.connect 0 camera)] ++ messages 5 ++ [.server .listen,.server (.responded 0)] ++
    [.server (.status 0 ⟨camera,[1]⟩)] ++ messages 9

/-- A command for the camera comes in and is forwarded. -/
def forwarded : List (GatewayAction (List UInt8)) :=
  [.handler HandlerThreads.pushLibrary (.command [10] camera),.handler HandlerThreads.pushLibrary .event,
    .handler HandlerThreads.pushLibrary .forwards,.handler HandlerThreads.pushLibrary .forwards]

/-- The forwarded command reaches the connection when its second status was sent. -/
def forwardedWhileWaiting : List (GatewayAction (List UInt8)) :=
  firstStatus ++ [.server .listen,.server (.responded 0)] ++ forwarded ++
    [.server (.status 0 ⟨camera,[2]⟩),.server .listen]

/-- The connection ends before the reply to its status is delivered, another one connects as the
camera, and sends a status when that reply has reached it. -/
def repliedTooLate : List (GatewayAction (List UInt8)) :=
  firstStatus ++ [.server (.timeout 0),.server (.cleanup 0),.server (.connect 1 camera)] ++
    [.server .listen,.server (.responded 1),.server (.status 1 ⟨camera,[2]⟩)]

theorem wakes_up_unanswered :
    (∃ s t l, exec (watched gatewayStep see) (init,.init) forwardedWhileWaiting = some (s,l) ∧
      s.gatewayStep (.server (.responded 0)) = some t ∧ l.sent 0 = 3 ∧ l.Outstanding 0 2) ∧
    ∃ s l, exec (watched gatewayStep see) (init,.init) repliedTooLate = some (s,l) ∧
      l.Outstanding 1 0 ∧ l.Outstanding 1 1 := by
  refine ⟨⟨_,_,_,rfl,rfl,rfl,?_⟩,⟨_,_,rfl,?_,?_⟩⟩ <;> exact ⟨by decide,by decide⟩

/-- The forwarded command reaches the connection between its two statuses. -/
def forwardedBetween : List (GatewayAction (List UInt8)) :=
  firstStatus ++ [.server .listen,.server (.responded 0)] ++ forwarded ++
    [.server .listen,.server (.status 0 ⟨camera,[2]⟩)] ++ messages 6 ++ [.server .listen]

theorem exec_answered_forwardedBetween :
    ∃ s t l, exec (watched gatewayStep see) (init,.init) forwardedBetween = some (s,l) ∧
      s.gatewayStep (.server (.responded 0)) = some t ∧ (∃ n, l.sent 0 = n + 1 ∧ (0,⟨0,n⟩) ∈ l.passed) ∧
      ∀ m n, l.Outstanding 0 m → l.Outstanding 0 n → m = n := by
  have hg : Guarded (watched gatewayStep see) (fun s a => reachesOwner s a = true) (init,.init) forwardedBetween := by
    decide +kernel
  obtain ⟨hanswered,houtstanding⟩ := exec_answered hg rfl
  exact ⟨_,_,_,rfl,rfl,hanswered 0 _ rfl,houtstanding 0⟩

end Gateway

end ModuleGateway.InternalServer
