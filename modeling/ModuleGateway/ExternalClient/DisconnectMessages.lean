import ModuleGateway.ExternalClient.ExternalClient

/-! # Disconnect messages during a connect sequence

A disconnect message of a device of the connection has to reach the loop of the client,
which sends it with its flag. Two of the three loops of a connect sequence stop in front
of one; the wait for the devices that were forced to aggregate takes the next message of a
device that it waits for as the status of that device, whatever its flag.
-/
namespace ModuleGateway.ExternalClient
open Structures Execution ExternalConnection

variable {β : Type}

/-- The connection whose connect sequence is running. -/
def ClientLoop.sequence : ClientLoop → Option ℕ
  | .draining connection _ => some connection
  | .forcing connection _ => some connection
  | .awaiting connection _ _ _ => some connection
  | .receiving connection _ _ _ => some connection
  | .connecting connection _ => some connection
  | .polling connection _ => some connection
  | .filling connection _ => some connection
  | .joining connection _ => some connection
  | _ => none

/-- The devices that the wait still waits for. -/
def ClientLoop.forced : ClientLoop → Option (List DeviceIdentification)
  | .awaiting _ _ forcedDevices _ | .receiving _ _ forcedDevices _ => some forcedDevices
  | _ => none

/-- The wait is still to come. -/
def ClientLoop.beforeWait : ClientLoop → Bool
  | .draining _ _ | .forcing _ _ => true
  | _ => false

namespace Client
variable [BufferType β]

/-- A disconnect message of a device of the connection. -/
def ownDisconnect (modules : Modules β) (internalMessage : InternalClientMessage β) : Bool :=
  internalMessage.disconnected &&
    Endpoint.isModuleSupported modules internalMessage.devicestatus.device.module_

def ownDisconnects (modules : Modules β) (queue : List (InternalClientMessage β)) :
    List (InternalClientMessage β) := queue.filter (ownDisconnect modules)

omit [BufferType β] in
/-- What the Module Handler pushes. -/
def pushed (as : List (ClientAction β)) : List (InternalClientMessage β) :=
  as.filterMap fun
    | .push internalMessage => some internalMessage
    | _ => none

/-- The message is about the device. -/
def isOf (device : DeviceIdentification) (internalMessage : InternalClientMessage β) : Bool :=
  device.isSame internalMessage.devicestatus.device

/-- For each device, its first messages are none of its disconnection, as many as it is listed. -/
def StatusesFirst (devices : List DeviceIdentification) (messages : List (InternalClientMessage β)) : Prop :=
  ∀ device : DeviceIdentification, ∀ internalMessage ∈
    (messages.filter (isOf device)).take (devices.countP device.isSame), internalMessage.disconnected = false

variable (settings : ConnectionSettings β) (connection : ℕ)

omit [BufferType β] in
/-- The client thread is in the connect sequence. -/
def inSequence (s : Client β) : ClientAction β → Bool
  | .client _ _ => s.loop.sequence = some connection
  | _ => true

/-- When the sequence asks for the connected devices, those without a last status have a status in front of
their disconnect message, among what is queued then and what is pushed later. -/
def StatusesComeFirst (s : Client β) (as : List (ClientAction β)) : Prop :=
  ∀ bs connectedDevices sent cs u fromQueue, as = bs ++ .client connectedDevices sent :: cs →
    exec (clientStep settings) s bs = some u → u.loop = .forcing connection fromQueue →
    StatusesFirst (connectedDevices.filter fun device =>
      !(u.externalConnectionsList_ connection).connection.isRegistered device) (u.toExternalQueue_ ++ pushed cs)

variable {settings connection}

@[simp] theorem ownDisconnects_append (modules : Modules β) (queue rest : List (InternalClientMessage β)) :
    ownDisconnects modules (queue ++ rest) = ownDisconnects modules queue ++ ownDisconnects modules rest :=
  List.filter_append ..

theorem ownDisconnects_cons_of_not {modules : Modules β} {internalMessage : InternalClientMessage β}
    (h : ¬ownDisconnect modules internalMessage = true) (queue : List (InternalClientMessage β)) :
    ownDisconnects modules (internalMessage :: queue) = ownDisconnects modules queue :=
  List.filter_cons_of_neg h

theorem not_ownDisconnect_of_disconnected {modules : Modules β} {internalMessage : InternalClientMessage β}
    (h : ¬internalMessage.disconnected = true) : ¬ownDisconnect modules internalMessage = true := by
  simp [ownDisconnect, h]

theorem not_ownDisconnect_of_unsupported {modules : Modules β} {internalMessage : InternalClientMessage β}
    (h : ¬Endpoint.isModuleSupported modules internalMessage.devicestatus.device.module_ = true) :
    ¬ownDisconnect modules internalMessage = true := by
  simp [ownDisconnect, h]

/-! ## The statuses that are waited for -/

section StatusesFirst
variable {devices : List DeviceIdentification} {internalMessage : InternalClientMessage β}
  {messages messages' : List (InternalClientMessage β)}

theorem statusesFirst_nil (messages : List (InternalClientMessage β)) : StatusesFirst [] messages :=
  fun _ _ h => nomatch h

theorem countP_eq_zero_of_not_any (hno : ¬devices.any internalMessage.devicestatus.device.isSame = true)
    {device : DeviceIdentification} (h : isOf device internalMessage = true) :
    devices.countP device.isSame = 0 := by
  rw [List.countP_eq_zero]
  intro other hother hsame
  apply hno
  rw [List.any_eq_true]
  refine ⟨other,hother,?_⟩
  rw [isOf, DeviceIdentification.isSame_iff] at h
  rw [DeviceIdentification.isSame_iff] at hsame ⊢
  exact h.symm.trans hsame

/-- A message of no device that is waited for may be anywhere. -/
theorem statusesFirst_congr_of_not (messages : List (InternalClientMessage β))
    (hno : ¬devices.any internalMessage.devicestatus.device.isSame = true) :
    StatusesFirst devices (messages ++ internalMessage :: messages') ↔
      StatusesFirst devices (messages ++ messages') := by
  refine forall_congr' fun device => ?_
  by_cases h : isOf device internalMessage = true
  · rw [countP_eq_zero_of_not_any hno h, List.take_zero, List.take_zero]
  · rw [List.filter_append, List.filter_cons_of_neg h, ← List.filter_append]

/-- The next message of a device that is waited for. -/
theorem statusesFirst_cons (hforced : devices.any internalMessage.devicestatus.device.isSame = true) :
    StatusesFirst devices (internalMessage :: messages) ↔
      internalMessage.disconnected = false ∧
        StatusesFirst (devices.eraseP internalMessage.devicestatus.device.isSame) messages := by
  obtain ⟨device,hdevice,hsame⟩ := List.any_eq_true.mp hforced
  obtain ⟨erased,front,back,-,herased,hdevices,heraseP⟩ := List.exists_of_eraseP hdevice hsame
  rw [DeviceIdentification.isSame_iff] at herased
  have hcount : ∀ other : DeviceIdentification, devices.countP other.isSame =
      (devices.eraseP internalMessage.devicestatus.device.isSame).countP other.isSame +
        if isOf other internalMessage then 1 else 0 := by
    intro other
    have hother : other.isSame erased = isOf other internalMessage := by
      rw [isOf, Bool.eq_iff_iff, DeviceIdentification.isSame_iff, DeviceIdentification.isSame_iff, herased]
    rw [heraseP, hdevices, List.countP_append, List.countP_append, List.countP_cons, hother, Nat.add_assoc]
  constructor
  · intro h
    constructor
    · apply h internalMessage.devicestatus.device
      have hown : isOf internalMessage.devicestatus.device internalMessage = true :=
        DeviceIdentification.isSame_iff.mpr rfl
      rw [List.filter_cons_of_pos hown, hcount, if_pos hown, List.take_succ_cons]
      exact List.mem_cons_self
    · intro other message hmessage
      apply h other message
      rw [hcount]
      by_cases hother : isOf other internalMessage = true
      · rw [List.filter_cons_of_pos hother, if_pos hother, List.take_succ_cons]
        exact List.mem_cons_of_mem _ hmessage
      · rw [List.filter_cons_of_neg hother, if_neg hother]
        exact hmessage
  · rintro ⟨hstatus,h⟩ other message hmessage
    rw [hcount] at hmessage
    by_cases hother : isOf other internalMessage = true
    · rw [List.filter_cons_of_pos hother, if_pos hother, List.take_succ_cons] at hmessage
      rcases List.mem_cons.mp hmessage with rfl | hmessage
      · exact hstatus
      · exact h other message hmessage
    · rw [List.filter_cons_of_neg hother, if_neg hother] at hmessage
      exact h other message hmessage

end StatusesFirst

/-! ## One section of the sequence -/

omit [BufferType β] in
theorem pushed_cons (a : ClientAction β) (as : List (ClientAction β)) :
    pushed (a :: as) = pushed [a] ++ pushed as := by
  rw [← List.singleton_append, pushed, List.filterMap_append]
  rfl

theorem sendStatus_stopped (s : Client β) (internalMessage : InternalClientMessage β) (sent : Bool) :
    (s.sendStatus settings internalMessage sent).2.stopped = s.stopped := by
  simp only [sendStatus]
  split
  · rfl
  · split <;> rfl

theorem passOn_stopped (s : Client β) (connection : ℕ) (internalMessage : InternalClientMessage β) (sent : Bool) :
    (s.passOn settings connection internalMessage sent).stopped = s.stopped := by
  unfold passOn
  dsimp only
  split
  · rfl
  · exact sendStatus_stopped _ _ _

/-- The other threads leave the client thread where it is, and only push messages. -/
theorem clientStep_other {s t : Client β} {a : ClientAction β} (ha : ∀ devices sent, a ≠ .client devices sent)
    (ht : clientStep settings s a = some t) : t.loop = s.loop ∧
      t.toExternalQueue_ = s.toExternalQueue_ ++ pushed [a] ∧ (s.stopped = true → t.stopped = true) := by
  cases a with
  | push internalMessage =>
    obtain rfl := Option.some.inj ht
    exact ⟨rfl,rfl,id⟩
  | client devices sent => exact absurd rfl (ha devices sent)
  | thread connection' answer =>
    obtain ⟨e,-,rfl⟩ := Option.map_eq_some_iff.mp ht
    exact ⟨rfl,(List.append_nil _).symm,id⟩
  | receive connection' serverDisconnect message =>
    obtain ⟨-,rfl⟩ := Option.ite_some_none_eq_some.mp ht
    obtain ⟨hqueue,hloop,-⟩ := report_queues s connection' (receivingHandlerLoop_session (settings.modules connection')
      (s.externalConnectionsList_ connection') serverDisconnect message)
    refine ⟨hloop,hqueue.trans (List.append_nil _).symm,?_⟩
    unfold report
    split <;> exact id
  | expire connection' =>
    obtain ⟨-,h⟩ := Option.ite_none_left_eq_some.mp ht
    obtain rfl := Option.some.inj h
    exact ⟨rfl,(List.append_nil _).symm,id⟩
  | timeout connection' =>
    obtain ⟨-,rfl⟩ := Option.ite_some_none_eq_some.mp ht
    obtain ⟨hqueue,hloop,-⟩ := report_queues s connection'
      (timeoutHandler_session (s.externalConnectionsList_ connection'))
    refine ⟨hloop,hqueue.trans (List.append_nil _).symm,?_⟩
    unfold report
    split <;> exact id
  | reconnectTimer connection' =>
    obtain ⟨-,rfl⟩ := Option.ite_some_none_eq_some.mp ht
    exact ⟨rfl,(List.append_nil _).symm,id⟩
  | stop =>
    obtain rfl := Option.some.inj ht
    exact ⟨rfl,(List.append_nil _).symm,fun _ => rfl⟩

/-- What a round of the wait does to the queue and to the devices that are waited for. -/
inductive Awaits (modules : Modules β) (s : Client β) (forcedDevices : List DeviceIdentification) (t : Client β) :
    Prop
  | nothing (queue : t.toExternalQueue_ = s.toExternalQueue_) (forced : t.loop.forced = some forcedDevices)
  | takes (internalMessage : InternalClientMessage β)
      (queue : s.toExternalQueue_ = internalMessage :: t.toExternalQueue_)
      (awaited : forcedDevices.any internalMessage.devicestatus.device.isSame = true)
      (own : Endpoint.isModuleSupported modules internalMessage.devicestatus.device.module_ = true)
      (forced : t.loop.forced = some (forcedDevices.eraseP internalMessage.devicestatus.device.isSame))
  | putsBack (internalMessage : InternalClientMessage β) (rest : List (InternalClientMessage β))
      (queue : s.toExternalQueue_ = internalMessage :: rest) (queue' : t.toExternalQueue_ = rest ++ [internalMessage])
      (other : ¬forcedDevices.any internalMessage.devicestatus.device.isSame = true)
      (forced : t.loop.forced = some forcedDevices)
  | passesOn (internalMessage : InternalClientMessage β)
      (queue : s.toExternalQueue_ = internalMessage :: t.toExternalQueue_)
      (foreign : ¬Endpoint.isModuleSupported modules internalMessage.devicestatus.device.module_ = true)
      (forced : t.loop.forced = some forcedDevices)

theorem awaitForced_awaits (s : Client β) (connection : ℕ) (connectedDevices forcedDevices : List DeviceIdentification)
    (fromQueue sent : Bool) : Awaits (settings.modules connection) s forcedDevices
      (s.awaitForced settings connection connectedDevices forcedDevices fromQueue sent) := by
  unfold awaitForced
  split
  · rename_i hqueue
    exact .nothing rfl rfl
  · rename_i internalMessage queue hqueue
    dsimp only
    split
    · rename_i hown
      split
      · rename_i hforced
        refine .takes internalMessage ?_ hforced hown rfl
        rw [hqueue, goto, (passOn_sameQueues _ _ _ _ _).toExternalQueue_]
      · rename_i hforced
        exact .putsBack internalMessage queue hqueue rfl hforced rfl
    · rename_i hother
      refine .passesOn internalMessage ?_ hother rfl
      rw [hqueue, goto, (passOn_sameQueues _ _ _ _ _).toExternalQueue_]

theorem awaitForced_stopped (s : Client β) (connection : ℕ)
    (connectedDevices forcedDevices : List DeviceIdentification) (fromQueue sent : Bool) :
    (s.awaitForced settings connection connectedDevices forcedDevices fromQueue sent).stopped = s.stopped := by
  unfold awaitForced
  split
  · rfl
  · dsimp only
    split
    · split
      · exact passOn_stopped _ _ _ _
      · rfl
    · exact passOn_stopped _ _ _ _

/-- The messages that the other two loops pop are no disconnect messages. -/
theorem ownDisconnects_popped {modules : Modules β} {s t : Client β} {internalMessage : InternalClientMessage β}
    {queue : List (InternalClientMessage β)} (hqueue : s.toExternalQueue_ = internalMessage :: queue)
    (hmessage : ¬internalMessage.disconnected = true) (ht : t.toExternalQueue_ = queue) :
    ownDisconnects modules t.toExternalQueue_ = ownDisconnects modules s.toExternalQueue_ := by
  rw [hqueue, ht, ownDisconnects_cons_of_not (not_ownDisconnect_of_disconnected hmessage)]

theorem draining_section {s t : Client β} {fromQueue : Bool} {devices : List DeviceIdentification} {sent : Bool}
    (hloop : s.loop = .draining connection fromQueue)
    (ht : s.handleAggregatedMessages settings devices sent = some t) : t.loop.beforeWait = true ∧
      ownDisconnects (settings.modules connection) t.toExternalQueue_ =
        ownDisconnects (settings.modules connection) s.toExternalQueue_ := by
  simp only [handleAggregatedMessages, hloop] at ht
  split at ht
  · obtain rfl := Option.some.inj ht
    exact ⟨rfl,rfl⟩
  · rename_i internalMessage queue hqueue
    split at ht
    · obtain rfl := Option.some.inj ht
      exact ⟨rfl,rfl⟩
    · rename_i hmessage
      obtain rfl := Option.some.inj ht
      have hsame := passOn_sameQueues settings
        { s with toExternalQueue_ := queue, loop := .draining connection fromQueue } connection internalMessage sent
      refine ⟨?_,ownDisconnects_popped hqueue hmessage hsame.toExternalQueue_⟩
      rw [hsame.loop]
      rfl

theorem forcing_section {s t : Client β} {fromQueue : Bool} {devices : List DeviceIdentification} {sent : Bool}
    (hloop : s.loop = .forcing connection fromQueue)
    (ht : s.handleAggregatedMessages settings devices sent = some t) :
    (∀ device ∈ devices, Endpoint.isModuleSupported (settings.modules connection) device.module_ = true) ∧
      t.toExternalQueue_ = s.toExternalQueue_ ∧
      t.loop.forced = some (devices.filter fun device =>
        !(s.externalConnectionsList_ connection).connection.isRegistered device) := by
  simp only [handleAggregatedMessages, hloop, Option.ite_none_right_eq_some, Option.some.injEq] at ht
  obtain ⟨hall,rfl⟩ := ht
  exact ⟨List.all_eq_true.mp hall,rfl,rfl⟩

/-- The wait goes on, or it is over because nothing is waited for or the gateway is stopped. -/
theorem wait_section {s t : Client β} {forcedDevices devices : List DeviceIdentification} {sent : Bool}
    (hsequence : s.loop.sequence = some connection) (hforced : s.loop.forced = some forcedDevices)
    (ht : s.handleAggregatedMessages settings devices sent = some t) :
    (t.toExternalQueue_ = s.toExternalQueue_ ∧ (forcedDevices = [] ∨ s.stopped = true) ∧
        t.loop.beforeWait = false ∧ t.loop.forced = none) ∨
      Awaits (settings.modules connection) s forcedDevices t := by
  unfold handleAggregatedMessages at ht
  cases hloop : s.loop with
  | awaiting connection' connectedDevices forcedDevices' fromQueue =>
    rw [hloop] at hforced
    obtain rfl := Option.some.inj hforced
    simp only [hloop] at ht
    split at ht
    · rename_i hover
      obtain rfl := Option.some.inj ht
      refine .inl ⟨rfl,?_,rfl,rfl⟩
      exact (Bool.or_eq_true_iff.mp hover).imp_left List.isEmpty_iff.mp
    · obtain rfl := Option.some.inj ht
      exact .inr (.nothing rfl rfl)
  | receiving connection' connectedDevices forcedDevices' fromQueue =>
    rw [hloop] at hforced hsequence
    obtain rfl := Option.some.inj hforced
    obtain rfl := Option.some.inj hsequence
    simp only [hloop] at ht
    obtain rfl := Option.some.inj ht
    exact .inr (s.awaitForced_awaits connection' connectedDevices forcedDevices' fromQueue sent)
  | _ => rw [hloop] at hforced; cases hforced

/-- A round of the wait keeps the disconnect messages of the connection, and what has to come first; or it takes one
that comes first. -/
theorem Awaits.keeps_or_takes {modules : Modules β} {s t : Client β} {forcedDevices : List DeviceIdentification}
    (hwait : Awaits modules s forcedDevices t) (messages : List (InternalClientMessage β)) :
    ∃ forcedDevices', t.loop.forced = some forcedDevices' ∧ forcedDevices' ⊆ forcedDevices ∧
      (((ownDisconnects modules t.toExternalQueue_).Perm (ownDisconnects modules s.toExternalQueue_) ∧
          ((∀ device ∈ forcedDevices, Endpoint.isModuleSupported modules device.module_ = true) →
            (StatusesFirst forcedDevices (s.toExternalQueue_ ++ messages) ↔
              StatusesFirst forcedDevices' (t.toExternalQueue_ ++ messages)))) ∨
        (∃ internalMessage, ownDisconnects modules s.toExternalQueue_ =
            internalMessage :: ownDisconnects modules t.toExternalQueue_) ∧
          ¬StatusesFirst forcedDevices (s.toExternalQueue_ ++ messages)) := by
  cases hwait with
  | nothing queue forced =>
    refine ⟨_,forced,List.Subset.refl _,.inl ⟨?_,fun _ => ?_⟩⟩ <;> rw [queue]
  | takes internalMessage queue awaited own forced =>
    refine ⟨_,forced,List.eraseP_subset,?_⟩
    rw [queue, List.cons_append, statusesFirst_cons awaited]
    cases hdisconnected : internalMessage.disconnected with
    | false =>
      have hstatus : ¬internalMessage.disconnected = true := by
        rw [hdisconnected]
        exact Bool.false_ne_true
      refine .inl ⟨?_,fun _ => and_iff_right rfl⟩
      rw [ownDisconnects_cons_of_not (not_ownDisconnect_of_disconnected hstatus)]
    | true =>
      refine .inr ⟨⟨internalMessage,?_⟩,fun h => absurd h.1.symm Bool.false_ne_true⟩
      exact List.filter_cons_of_pos (by rw [ownDisconnect, hdisconnected, own, Bool.and_self])
  | putsBack internalMessage rest queue queue' other forced =>
    refine ⟨_,forced,List.Subset.refl _,.inl ⟨?_,fun _ => ?_⟩⟩
    · rw [queue, queue']
      exact (List.perm_append_singleton internalMessage rest).filter _
    · rw [queue, queue', List.append_assoc, List.singleton_append, statusesFirst_congr_of_not _ other]
      exact statusesFirst_congr_of_not [] other
  | passesOn internalMessage queue foreign forced =>
    refine ⟨_,forced,List.Subset.refl _,.inl ⟨?_,?_⟩⟩
    · rw [queue, ownDisconnects_cons_of_not (not_ownDisconnect_of_unsupported foreign)]
    · intro hsupported
      have hother : ¬forcedDevices.any internalMessage.devicestatus.device.isSame = true := by
        intro h
        obtain ⟨device,hdevice,hsame⟩ := List.any_eq_true.mp h
        apply foreign
        have hmodule : internalMessage.devicestatus.device.module_ = device.module_ :=
          congrArg DeviceKey.module_ (DeviceIdentification.isSame_iff.mp hsame)
        rw [hmodule]
        exact hsupported device hdevice
      rw [queue]
      exact statusesFirst_congr_of_not [] hother

/-- Past the wait. -/
theorem late_section {s t : Client β} {devices : List DeviceIdentification} {sent : Bool}
    (hsequence : s.loop.sequence = some connection) (hbefore : s.loop.beforeWait = false)
    (hforced : s.loop.forced = none) (ht : s.handleAggregatedMessages settings devices sent = some t) :
    t.loop.beforeWait = false ∧ t.loop.forced = none ∧
      ownDisconnects (settings.modules connection) t.toExternalQueue_ =
        ownDisconnects (settings.modules connection) s.toExternalQueue_ := by
  unfold handleAggregatedMessages at ht
  cases hloop : s.loop with
  | looping => rw [hloop] at hsequence; cases hsequence
  | waiting => rw [hloop] at hsequence; cases hsequence
  | popping => rw [hloop] at hsequence; cases hsequence
  | draining connection' fromQueue => rw [hloop] at hbefore; cases hbefore
  | forcing connection' fromQueue => rw [hloop] at hbefore; cases hbefore
  | awaiting connection' connectedDevices forcedDevices fromQueue => rw [hloop] at hforced; cases hforced
  | receiving connection' connectedDevices forcedDevices fromQueue => rw [hloop] at hforced; cases hforced
  | connecting connection' fromQueue =>
    simp only [hloop] at ht
    split at ht
    all_goals
      obtain rfl := Option.some.inj ht
      exact ⟨rfl,rfl,rfl⟩
  | polling connection' fromQueue =>
    obtain rfl : connection' = connection := by simpa [hloop, ClientLoop.sequence] using hsequence
    simp only [hloop] at ht
    obtain rfl := Option.some.inj ht
    unfold drainQueueDuringConnect
    split
    · exact ⟨rfl,rfl,rfl⟩
    · rename_i internalMessage queue hqueue
      dsimp only
      split
      · exact ⟨rfl,rfl,rfl⟩
      · rename_i hgoing
        have hmessage : ¬internalMessage.disconnected = true := fun h => hgoing (by simp [h])
        split
        · exact ⟨rfl,rfl,ownDisconnects_popped hqueue hmessage rfl⟩
        · have hsame := passOn_sameQueues settings { s with toExternalQueue_ := queue } connection' internalMessage sent
          exact ⟨rfl,rfl,ownDisconnects_popped hqueue hmessage hsame.toExternalQueue_⟩
  | filling connection' fromQueue =>
    simp only [hloop] at ht
    split at ht
    · cases ht
    · obtain rfl := Option.some.inj ht
      exact ⟨rfl,rfl,rfl⟩
  | joining connection' fromQueue =>
    simp only [hloop] at ht
    split at ht
    · cases ht
    · obtain rfl := Option.some.inj ht
      cases fromQueue <;> refine ⟨rfl,rfl,?_⟩ <;> split <;> rfl

/-! ## Every run of a sequence -/

/-- The disconnect messages of the connection are those of `s` and those that were pushed. -/
def KeepsDisconnects (modules : Modules β) (s : Client β) (as : List (ClientAction β)) (t : Client β) : Prop :=
  (ownDisconnects modules t.toExternalQueue_).Perm (ownDisconnects modules (s.toExternalQueue_ ++ pushed as))

theorem keepsDisconnects_cons {modules : Modules β} {s t u : Client β} {a : ClientAction β}
    (h : (ownDisconnects modules u.toExternalQueue_).Perm (ownDisconnects modules (s.toExternalQueue_ ++ pushed [a])))
    (as : List (ClientAction β)) : KeepsDisconnects modules s (a :: as) t ↔ KeepsDisconnects modules u as t := by
  unfold KeepsDisconnects
  rw [pushed_cons, ← List.append_assoc, ownDisconnects_append]
  have hqueue := h.append_right (ownDisconnects modules (pushed as))
  rw [← ownDisconnects_append] at hqueue
  exact ⟨fun hs => hs.trans hqueue.symm,fun hu => hu.trans hqueue⟩

/-- A step keeps the disconnect messages of the connection and adds those that are pushed; otherwise the wait
takes one. -/
theorem clientStep_ownDisconnects {s t : Client β} {a : ClientAction β}
    (hsequence : s.inSequence connection a = true) (ht : clientStep settings s a = some t) :
    (ownDisconnects (settings.modules connection) t.toExternalQueue_).Perm
        (ownDisconnects (settings.modules connection) (s.toExternalQueue_ ++ pushed [a])) ∨
      ∃ internalMessage, ownDisconnects (settings.modules connection) (s.toExternalQueue_ ++ pushed [a]) =
        internalMessage :: ownDisconnects (settings.modules connection) t.toExternalQueue_ := by
  by_cases ha : ∃ devices sent, a = .client devices sent
  · obtain ⟨devices,sent,rfl⟩ := ha
    have hat : s.loop.sequence = some connection := of_decide_eq_true hsequence
    rw [show pushed [ClientAction.client devices sent] = [] from rfl, List.append_nil]
    cases hforced : s.loop.forced with
    | none =>
      left
      cases hbefore : s.loop.beforeWait with
      | false => rw [(late_section hat hbefore hforced ht).2.2]
      | true =>
        cases hloop : s.loop with
        | draining connection' fromQueue =>
          rw [hloop] at hat
          obtain rfl := Option.some.inj hat
          rw [(draining_section hloop ht).2]
        | forcing connection' fromQueue =>
          rw [(forcing_section hloop ht).2.1]
        | _ => rw [hloop] at hbefore; cases hbefore
    | some forcedDevices =>
      rcases wait_section hat hforced ht with ⟨hqueue,-⟩ | hwait
      · rw [hqueue]
        exact .inl .rfl
      · obtain ⟨-,-,-,⟨hkept,-⟩ | ⟨htaken,-⟩⟩ := hwait.keeps_or_takes []
        · exact .inl hkept
        · exact .inr htaken
  · obtain ⟨-,hqueue,-⟩ := clientStep_other (fun devices sent h => ha ⟨devices,sent,h⟩) ht
    rw [hqueue]
    exact .inl .rfl

/-- No disconnect message comes from elsewhere. -/
theorem exec_ownDisconnects_length {s t : Client β} {as : List (ClientAction β)}
    (hsequence : Guarded (clientStep settings) (fun s a => s.inSequence connection a = true) s as)
    (hrun : exec (clientStep settings) s as = some t) :
    (ownDisconnects (settings.modules connection) t.toExternalQueue_).length ≤
      (ownDisconnects (settings.modules connection) (s.toExternalQueue_ ++ pushed as)).length := by
  induction as generalizing s with
  | nil =>
    obtain rfl := Option.some.inj hrun
    simp [pushed]
  | cons a as ih =>
    obtain ⟨u,hu,hr⟩ := exec_cons_eq_some.mp hrun
    have htail := ih (hsequence.2 u hu) hr
    rw [pushed_cons, ← List.append_assoc, ownDisconnects_append, List.length_append]
    rw [ownDisconnects_append, List.length_append] at htail
    rcases clientStep_ownDisconnects hsequence.1 hu with hkept | ⟨internalMessage,htaken⟩
    · have := hkept.length_eq
      omega
    · have := congrArg List.length htaken
      rw [List.length_cons] at this
      omega

/-- What is taken does not come back. -/
theorem not_keepsDisconnects {s t u : Client β} {a : ClientAction β} {as : List (ClientAction β)}
    {internalMessage : InternalClientMessage β}
    (htaken : ownDisconnects (settings.modules connection) (s.toExternalQueue_ ++ pushed [a]) =
      internalMessage :: ownDisconnects (settings.modules connection) u.toExternalQueue_)
    (hsequence : Guarded (clientStep settings) (fun s a => s.inSequence connection a = true) u as)
    (hrun : exec (clientStep settings) u as = some t) :
    ¬KeepsDisconnects (settings.modules connection) s (a :: as) t := by
  intro h
  have hlength := exec_ownDisconnects_length hsequence hrun
  have hkept := h.length_eq
  rw [pushed_cons, ← List.append_assoc, ownDisconnects_append, htaken] at hkept
  rw [ownDisconnects_append] at hlength
  simp only [List.cons_append, List.length_cons] at hkept
  omega

/-- Only `stop` stops the gateway. -/
theorem handleAggregatedMessages_stopped {s t : Client β} {devices : List DeviceIdentification} {sent : Bool}
    (ht : s.handleAggregatedMessages settings devices sent = some t) : t.stopped = s.stopped := by
  unfold handleAggregatedMessages at ht
  split at ht
  · split at ht
    · cases ht
    · split at ht
      · obtain rfl := Option.some.inj ht
        rfl
      · dsimp only at ht
        split at ht <;> (obtain rfl := Option.some.inj ht; rfl)
  · obtain rfl := Option.some.inj ht
    rfl
  · split at ht
    · obtain rfl := Option.some.inj ht
      rfl
    · dsimp only at ht
      split at ht <;> (obtain rfl := Option.some.inj ht; exact sendStatus_stopped _ _ _)
  · split at ht
    · obtain rfl := Option.some.inj ht
      rfl
    · split at ht
      · obtain rfl := Option.some.inj ht
        rfl
      · obtain rfl := Option.some.inj ht
        exact passOn_stopped _ _ _ _
  · split at ht
    · obtain rfl := Option.some.inj ht
      rfl
    · cases ht
  · split at ht <;> (obtain rfl := Option.some.inj ht; rfl)
  · obtain rfl := Option.some.inj ht
    exact awaitForced_stopped _ _ _ _ _ _
  · dsimp only at ht
    split at ht <;> (obtain rfl := Option.some.inj ht; rfl)
  · obtain rfl := Option.some.inj ht
    unfold drainQueueDuringConnect
    split
    · rfl
    · dsimp only
      split
      · rfl
      · split
        · rfl
        · exact passOn_stopped _ _ _ _
  · dsimp only at ht
    split at ht
    · cases ht
    · obtain rfl := Option.some.inj ht
      rfl
  · split at ht
    · cases ht
    · obtain rfl := Option.some.inj ht
      split <;> rfl

/-- Past the wait. -/
theorem exec_late {s t : Client β} {as : List (ClientAction β)}
    (hsequence : Guarded (clientStep settings) (fun s a => s.inSequence connection a = true) s as)
    (hrun : exec (clientStep settings) s as = some t) (hbefore : s.loop.beforeWait = false)
    (hforced : s.loop.forced = none) : KeepsDisconnects (settings.modules connection) s as t := by
  induction as generalizing s with
  | nil =>
    obtain rfl := Option.some.inj hrun
    simp [KeepsDisconnects, pushed]
  | cons a as ih =>
    obtain ⟨u,hu,hr⟩ := exec_cons_eq_some.mp hrun
    have hrest := hsequence.2 u hu
    by_cases ha : ∃ devices sent, a = .client devices sent
    · obtain ⟨devices,sent,rfl⟩ := ha
      obtain ⟨hbefore',hforced',hsame⟩ := late_section (of_decide_eq_true hsequence.1) hbefore hforced hu
      refine (keepsDisconnects_cons ?_ as).mpr (ih hrest hr hbefore' hforced')
      rw [show pushed [ClientAction.client devices sent] = [] from rfl, List.append_nil, hsame]
    · obtain ⟨hloop,hqueue,-⟩ := clientStep_other (fun devices sent h => ha ⟨devices,sent,h⟩) hu
      refine (keepsDisconnects_cons ?_ as).mpr (ih hrest hr (hloop ▸ hbefore) (hloop ▸ hforced))
      rw [hqueue]

/-- The gateway stays stopped. -/
theorem exec_stopped {s t : Client β} {as : List (ClientAction β)} (hrun : exec (clientStep settings) s as = some t)
    (h : s.stopped = true) : t.stopped = true := by
  refine exec_invariant (I := fun s : Client β => s.stopped = true) h ?_ hrun
  intro s a t h ht
  by_cases ha : ∃ devices sent, a = .client devices sent
  · obtain ⟨devices,sent,rfl⟩ := ha
    exact (handleAggregatedMessages_stopped ht).trans h
  · exact (clientStep_other (fun devices sent h => ha ⟨devices,sent,h⟩) ht).2.2 h

/-- In the wait. -/
theorem exec_awaits {s t : Client β} {as : List (ClientAction β)} {forcedDevices : List DeviceIdentification}
    (hsequence : Guarded (clientStep settings) (fun s a => s.inSequence connection a = true) s as)
    (hrun : exec (clientStep settings) s as = some t) (hforced : s.loop.forced = some forcedDevices)
    (hsupported : ∀ device ∈ forcedDevices,
      Endpoint.isModuleSupported (settings.modules connection) device.module_ = true) :
    (StatusesFirst forcedDevices (s.toExternalQueue_ ++ pushed as) →
        KeepsDisconnects (settings.modules connection) s as t) ∧
      (t.loop.forced = none → t.stopped = false → KeepsDisconnects (settings.modules connection) s as t →
        StatusesFirst forcedDevices (s.toExternalQueue_ ++ pushed as)) := by
  induction as generalizing s forcedDevices with
  | nil =>
    obtain rfl := Option.some.inj hrun
    refine ⟨fun _ => by simp [KeepsDisconnects, pushed],?_⟩
    intro hnone
    rw [hforced] at hnone
    cases hnone
  | cons a as ih =>
    obtain ⟨u,hu,hr⟩ := exec_cons_eq_some.mp hrun
    have hrest := hsequence.2 u hu
    -- a step that keeps the messages and what is waited for
    have hgoes {forcedDevices' : List DeviceIdentification} (hforced' : u.loop.forced = some forcedDevices')
        (hsubset : forcedDevices' ⊆ forcedDevices)
        (hkept : (ownDisconnects (settings.modules connection) u.toExternalQueue_).Perm
          (ownDisconnects (settings.modules connection) (s.toExternalQueue_ ++ pushed [a])))
        (hfirst : StatusesFirst forcedDevices (s.toExternalQueue_ ++ pushed (a :: as)) ↔
          StatusesFirst forcedDevices' (u.toExternalQueue_ ++ pushed as)) :
        (StatusesFirst forcedDevices (s.toExternalQueue_ ++ pushed (a :: as)) →
            KeepsDisconnects (settings.modules connection) s (a :: as) t) ∧
          (t.loop.forced = none → t.stopped = false → KeepsDisconnects (settings.modules connection) s (a :: as) t →
            StatusesFirst forcedDevices (s.toExternalQueue_ ++ pushed (a :: as))) := by
      rw [hfirst, keepsDisconnects_cons hkept]
      exact ih hrest hr hforced' fun device hdevice => hsupported device (hsubset hdevice)
    by_cases ha : ∃ devices sent, a = .client devices sent
    · obtain ⟨devices,sent,rfl⟩ := ha
      have hat : s.loop.sequence = some connection := of_decide_eq_true hsequence.1
      have hpushed : pushed (ClientAction.client devices sent :: as) = pushed as := rfl
      have hnone : pushed [ClientAction.client (β := β) devices sent] = [] := rfl
      rw [hpushed] at hgoes ⊢
      rw [hnone, List.append_nil] at hgoes
      rcases wait_section hat hforced hu with ⟨hqueue,hover,hbefore,hforced'⟩ | hwait
      · have hkeeps : KeepsDisconnects (settings.modules connection) s (.client devices sent :: as) t := by
          refine (keepsDisconnects_cons ?_ as).mpr (exec_late hrest hr hbefore hforced')
          rw [hqueue, hnone, List.append_nil]
        refine ⟨fun _ => hkeeps,?_⟩
        intro _ hgoing _
        obtain rfl | hstopped := hover
        · exact statusesFirst_nil _
        · rw [exec_stopped hrun hstopped] at hgoing
          cases hgoing
      · obtain ⟨forcedDevices',hforced',hsubset,⟨hkept,hfirst⟩ | ⟨⟨internalMessage,htaken⟩,hlate⟩⟩ :=
          hwait.keeps_or_takes (pushed as)
        · exact hgoes hforced' hsubset hkept (hfirst hsupported)
        · have htaken : ownDisconnects (settings.modules connection)
              (s.toExternalQueue_ ++ pushed [ClientAction.client devices sent]) =
                internalMessage :: ownDisconnects (settings.modules connection) u.toExternalQueue_ := by
            rw [hnone, List.append_nil, htaken]
          refine ⟨fun h => absurd h hlate,?_⟩
          intro _ _ hkeeps
          exact absurd hkeeps (not_keepsDisconnects htaken hrest hr)
    · obtain ⟨hloop,hqueue,-⟩ := clientStep_other (fun devices sent h => ha ⟨devices,sent,h⟩) hu
      refine hgoes (hloop ▸ hforced) (List.Subset.refl _) (by rw [hqueue]) ?_
      rw [hqueue, pushed_cons, List.append_assoc]

theorem statusesComeFirst_cons {s u : Client β} {a : ClientAction β} {as : List (ClientAction β)}
    (hu : clientStep settings s a = some u) : StatusesComeFirst settings connection s (a :: as) ↔
      (∀ devices sent fromQueue, a = .client devices sent → s.loop = .forcing connection fromQueue →
        StatusesFirst (devices.filter fun device =>
          !(s.externalConnectionsList_ connection).connection.isRegistered device)
            (s.toExternalQueue_ ++ pushed as)) ∧
      StatusesComeFirst settings connection u as := by
  constructor
  · intro h
    constructor
    · rintro devices sent fromQueue rfl hloop
      exact h [] devices sent as s fromQueue rfl rfl hloop
    · intro bs devices sent cs v fromQueue has hv hloop
      refine h (a :: bs) devices sent cs v fromQueue (congrArg (a :: ·) has) ?_ hloop
      exact exec_cons_eq_some.mpr ⟨u,hu,hv⟩
  · rintro ⟨hhead,htail⟩ bs devices sent cs v fromQueue has hv hloop
    cases bs with
    | nil =>
      obtain rfl := Option.some.inj hv
      obtain ⟨rfl,rfl⟩ := List.cons.inj has
      exact hhead devices sent fromQueue rfl hloop
    | cons b bs =>
      obtain ⟨rfl,rfl⟩ := List.cons.inj has
      obtain ⟨u',hu',hv⟩ := exec_cons_eq_some.mp hv
      obtain rfl := Option.some.inj (hu.symm.trans hu')
      exact htail bs devices sent cs v fromQueue rfl hv hloop

/-- A section of the sequence after it has asked. -/
theorem asked_section {s t : Client β} {devices : List DeviceIdentification} {sent : Bool}
    (hsequence : s.loop.sequence = some connection) (hbefore : s.loop.beforeWait = false)
    (ht : s.handleAggregatedMessages settings devices sent = some t) : t.loop.beforeWait = false := by
  cases hforced : s.loop.forced with
  | none => exact (late_section hsequence hbefore hforced ht).1
  | some forcedDevices =>
    have hgoes : ∀ {forcedDevices'}, t.loop.forced = some forcedDevices' → t.loop.beforeWait = false := by
      intro forcedDevices' h
      cases hloop : t.loop <;> first | rfl | (rw [hloop] at h; cases h)
    rcases wait_section hsequence hforced ht with ⟨-,-,hbefore',-⟩ | hwait
    · exact hbefore'
    · cases hwait with
      | nothing queue forced => exact hgoes forced
      | takes internalMessage queue awaited own forced => exact hgoes forced
      | putsBack internalMessage rest queue queue' other forced => exact hgoes forced
      | passesOn internalMessage queue foreign forced => exact hgoes forced

/-- The sequence asks once. -/
theorem statusesComeFirst_of_asked {s t : Client β} {as : List (ClientAction β)}
    (hsequence : Guarded (clientStep settings) (fun s a => s.inSequence connection a = true) s as)
    (hrun : exec (clientStep settings) s as = some t) (hbefore : s.loop.beforeWait = false) :
    StatusesComeFirst settings connection s as := by
  induction as generalizing s with
  | nil =>
    intro bs devices sent cs u fromQueue has
    exact absurd has.symm (by simp)
  | cons a as ih =>
    obtain ⟨u,hu,hr⟩ := exec_cons_eq_some.mp hrun
    refine (statusesComeFirst_cons hu).mpr ⟨?_,ih (hsequence.2 u hu) hr ?_⟩
    · intro devices sent fromQueue _ hloop
      rw [hloop] at hbefore
      cases hbefore
    · by_cases ha : ∃ devices sent, a = .client devices sent
      · obtain ⟨devices,sent,rfl⟩ := ha
        exact asked_section (of_decide_eq_true hsequence.1) hbefore hu
      · rw [(clientStep_other (fun devices sent h => ha ⟨devices,sent,h⟩) hu).1]
        exact hbefore

/-- A connect sequence takes no disconnect message of a device of its connection, if each of the devices it waits
for has a status in front of its disconnect message; and it takes one otherwise, unless the gateway is stopped. -/
theorem exec_keepsDisconnects {s t : Client β} {as : List (ClientAction β)} {fromQueue : Bool}
    (hstart : s.loop = .draining connection fromQueue)
    (hsequence : Guarded (clientStep settings) (fun s a => s.inSequence connection a = true) s as)
    (hrun : exec (clientStep settings) s as = some t) :
    (StatusesComeFirst settings connection s as → KeepsDisconnects (settings.modules connection) s as t) ∧
      (t.loop.beforeWait = false → t.loop.forced = none → t.stopped = false →
        KeepsDisconnects (settings.modules connection) s as t → StatusesComeFirst settings connection s as) := by
  have hbefore : s.loop.beforeWait = true := by
    rw [hstart]
    rfl
  clear hstart
  induction as generalizing s with
  | nil =>
    obtain rfl := Option.some.inj hrun
    refine ⟨fun _ => by simp [KeepsDisconnects, pushed],?_⟩
    intro hasked
    rw [hbefore] at hasked
    cases hasked
  | cons a as ih =>
    obtain ⟨u,hu,hr⟩ := exec_cons_eq_some.mp hrun
    have hrest := hsequence.2 u hu
    rw [statusesComeFirst_cons hu]
    by_cases ha : ∃ devices sent, a = .client devices sent
    · obtain ⟨devices,sent,rfl⟩ := ha
      have hat : s.loop.sequence = some connection := of_decide_eq_true hsequence.1
      have hnone : pushed [ClientAction.client (β := β) devices sent] = [] := rfl
      cases hloop : s.loop with
      | draining connection' fromQueue =>
        rw [hloop] at hat
        obtain rfl := Option.some.inj hat
        obtain ⟨hbefore',hkept⟩ := draining_section hloop hu
        rw [keepsDisconnects_cons (by rw [hnone, List.append_nil, hkept])]
        obtain ⟨hkeeps,hconverse⟩ := ih hrest hr hbefore'
        refine ⟨fun h => hkeeps h.2,fun h1 h2 h3 h4 => ⟨?_,hconverse h1 h2 h3 h4⟩⟩
        rintro _ _ _ _ ⟨⟩
      | forcing connection' fromQueue =>
        rw [hloop] at hat
        obtain rfl := Option.some.inj hat
        obtain ⟨hsupported,hqueue,hforced⟩ := forcing_section hloop hu
        rw [keepsDisconnects_cons (by rw [hnone, List.append_nil, hqueue])]
        have hasked : u.loop.beforeWait = false := by
          cases h : u.loop <;> first | rfl | (rw [h] at hforced; cases hforced)
        obtain ⟨hkeeps,hconverse⟩ := exec_awaits hrest hr hforced fun device hdevice =>
          hsupported device (List.mem_of_mem_filter hdevice)
        rw [hqueue] at hkeeps hconverse
        refine ⟨fun h => hkeeps (h.1 devices sent fromQueue rfl rfl),fun _ h2 h3 h4 => ?_⟩
        refine ⟨?_,statusesComeFirst_of_asked hrest hr hasked⟩
        rintro _ _ _ ⟨⟩ _
        exact hconverse h2 h3 h4
      | _ => rw [hloop] at hbefore; cases hbefore
    · obtain ⟨hloop,hqueue,-⟩ := clientStep_other (fun devices sent h => ha ⟨devices,sent,h⟩) hu
      rw [keepsDisconnects_cons (by rw [hqueue])]
      obtain ⟨hkeeps,hconverse⟩ := ih hrest hr (hloop ▸ hbefore)
      refine ⟨fun h => hkeeps h.2,fun h1 h2 h3 h4 => ⟨?_,hconverse h1 h2 h3 h4⟩⟩
      intro devices sent _ h
      exact absurd ⟨devices,sent,h⟩ ha

/-! ## The wait takes a disconnect message -/

/-- One connection, for module 1. -/
def oneConnection : ConnectionSettings (List UInt8) := [moduleOne]

def statusMessage (disconnect : Bool) (device : DeviceIdentification) : InternalClientMessage (List UInt8) :=
  .message disconnect (.deviceStatus ⟨device,[1]⟩)

/-- The first status of the lidar starts the connect sequence. -/
def waitForCamera : List (ClientAction (List UInt8)) :=
  [.push (statusMessage false lidar),.client [] true,.client [] true]

/-- The camera has no last status, and the wait of the queue begins. -/
def sequenceForCamera : List (ClientAction (List UInt8)) :=
  [.client [] true,.client [camera,lidar] true,.client [] true]

/-- The wait is over, and the channel does not open. -/
def connectFails : List (ClientAction (List UInt8)) :=
  [.client [] true,.thread 0 ⟨false,"session",true,none⟩,.client [] true,.client [] true]

/-- The state in which the connect sequence starts. -/
def sequenceStarted : Client (List UInt8) :=
  (exec (clientStep oneConnection) init waitForCamera).get (by decide +kernel)

theorem exec_waitForCamera : exec (clientStep oneConnection) init waitForCamera = some sequenceStarted :=
  (Option.some_get _).symm

/-- The camera is disconnected before it has sent the status that is waited for. -/
def disconnectAwaited : List (ClientAction (List UInt8)) :=
  sequenceForCamera ++ [.push (statusMessage true camera),.client [] true] ++ connectFails

theorem disconnectAwaited_taken :
    ∃ s t : Client (List UInt8), exec (clientStep oneConnection) init waitForCamera = some s ∧
      Guarded (clientStep oneConnection) (fun s a => s.inSequence 0 a = true) s disconnectAwaited ∧
      exec (clientStep oneConnection) s disconnectAwaited = some t ∧ t.loop.sequence = none ∧
      ¬KeepsDisconnects (oneConnection.modules 0) s disconnectAwaited t := by
  have hrun : ((exec (clientStep oneConnection) sequenceStarted disconnectAwaited).map
      fun t => (t.toExternalQueue_.length,t.loop.sequence)) = some (0,none) := by decide +kernel
  obtain ⟨t,ht,hend⟩ := Option.map_eq_some_iff.mp hrun
  obtain ⟨hlength,hloop⟩ := Prod.mk.inj hend
  refine ⟨sequenceStarted,t,exec_waitForCamera,by decide +kernel,ht,hloop,fun hperm => ?_⟩
  rw [KeepsDisconnects, List.length_eq_zero_iff.mp hlength] at hperm
  have hnone : ownDisconnects (oneConnection.modules 0)
      (sequenceStarted.toExternalQueue_ ++ pushed disconnectAwaited) = [] := hperm.symm.eq_nil
  have hone : (ownDisconnects (oneConnection.modules 0)
      (sequenceStarted.toExternalQueue_ ++ pushed disconnectAwaited)).length = 1 := by decide +kernel
  rw [hnone] at hone
  exact nomatch hone

/-- The camera is disconnected after that status. -/
def disconnectAfterwards : List (ClientAction (List UInt8)) :=
  sequenceForCamera ++ [.push (statusMessage false camera),.push (statusMessage true camera),.client [] true] ++
    connectFails

/-- The sequence is about to ask. -/
def sequenceAsks : Client (List UInt8) :=
  (clientStep oneConnection sequenceStarted (.client [] true)).get (by decide +kernel)

theorem sequenceStarted_draining : sequenceStarted.loop = .draining 0 false := by decide +kernel

/-- The status of the camera is in front of its disconnect message. -/
theorem statusesComeFirst_disconnectAfterwards {t : Client (List UInt8)}
    (hsequence : Guarded (clientStep oneConnection) (fun s a => s.inSequence 0 a = true) sequenceStarted
      disconnectAfterwards)
    (ht : exec (clientStep oneConnection) sequenceStarted disconnectAfterwards = some t) :
    StatusesComeFirst oneConnection 0 sequenceStarted disconnectAfterwards := by
  obtain ⟨u,hu,hr⟩ := exec_cons_eq_some.mp ht
  obtain ⟨v,hv,hrest⟩ := exec_cons_eq_some.mp hr
  obtain rfl : sequenceAsks = u := Option.some.inj ((Option.some_get _).trans hu)
  have hasked : v.loop.beforeWait = false := by
    have hloop : ((clientStep oneConnection sequenceAsks (.client [camera,lidar] true)).map
        fun s => s.loop.beforeWait) = some false := by decide +kernel
    rw [hv] at hloop
    exact Option.some.inj hloop
  refine (statusesComeFirst_cons hu).mpr ⟨?_,(statusesComeFirst_cons hv).mpr ⟨?_,?_⟩⟩
  · rintro _ _ _ _ hloop
    rw [sequenceStarted_draining] at hloop
    cases hloop
  · rintro _ _ _ ⟨⟩ _
    have hforced : ([camera,lidar].filter fun device =>
        !(sequenceAsks.externalConnectionsList_ 0).connection.isRegistered device) = [camera] := by decide +kernel
    rw [hforced]
    exact (statusesFirst_cons (by decide +kernel)).mpr ⟨rfl,statusesFirst_nil _⟩
  · exact statusesComeFirst_of_asked ((hsequence.2 _ hu).2 _ hv) hrest hasked

theorem exec_keepsDisconnects_afterwards :
    ∃ t : Client (List UInt8), exec (clientStep oneConnection) sequenceStarted disconnectAfterwards = some t ∧
      t.loop.sequence = none ∧
      (ownDisconnects (oneConnection.modules 0) t.toExternalQueue_).Perm [statusMessage true camera] := by
  have hrun : ((exec (clientStep oneConnection) sequenceStarted disconnectAfterwards).map
      fun t => t.loop.sequence) = some none := by decide +kernel
  obtain ⟨t,ht,hend⟩ := Option.map_eq_some_iff.mp hrun
  have hsequence : Guarded (clientStep oneConnection) (fun s a => s.inSequence 0 a = true) sequenceStarted
      disconnectAfterwards := by decide +kernel
  refine ⟨t,ht,hend,?_⟩
  exact (exec_keepsDisconnects sequenceStarted_draining hsequence ht).1
    (statusesComeFirst_disconnectAfterwards hsequence ht)

end Client

end ModuleGateway.ExternalClient
