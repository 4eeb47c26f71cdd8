import ModuleGateway.Modules.IsolatedDevice

/-! # The rounds of one device

Before the message thread handles a message it collects the statuses of every module whose flag is
set, whomever the message is about and whichever timer set the flag. Where there is only one device,
the rounds are those for its messages, those without a message, and nothing else; the flag is the
one that its own timer sets.
-/
namespace ModuleGateway.Modules
open Structures Execution

variable {β : Type}

/-- The rounds of the message thread as they are where there is only one device: the flag that its
timer has set, whether the round is one of them, and whether that round collects its statuses. -/
structure Round where
  flag : Bool
  joins : Bool
  collects : Bool

namespace Round

def init : Round := ⟨false,false,false⟩

/-- The statuses of the module are collected where there is no other device too. -/
def takes (r : Round) (k : DeviceKey) (number : ℤ) : Bool := r.collects && number == k.module_

/-- After a step of the message thread. Without the other devices a round begins with the message at
the front, if it is about the device, or without a message, if none in the queue is. -/
def next (k : DeviceKey) (s : ModuleHandler β) (r : Round) : Round :=
  match s.thread with
  | .waiting =>
    { r with
      joins := s.atFront k || s.fromInternalQueue_.all fun message => subject message ≠ some k
      collects := false }
  | .checking (number :: _) _ => if number = k.module_ then { r with collects := r.joins && r.flag } else r
  | .collecting _ _ number [] => if number = k.module_ then { r with flag := false } else r
  | _ => r

/-- The next step of the message thread is one that it takes where there is no other device too. -/
def acts (k : DeviceKey) (s : ModuleHandler β) (r : Round) : Bool :=
  match s.thread with
  | .waiting | .checking _ _ => (r.next k s).joins
  | .collecting _ _ number devices => r.takes k number && devices.head?.all fun device => device.key = k
  | .counting _ _ number device _ => r.takes k number && device.key == k
  | .terminated => false
  | _ => s.atFront k

/-- A round of the other devices leaves the device alone: it does not come upon the flag that the
timer of the device has set, nor does that timer set it before the round takes it back, and it
neither collects a status of the device nor disconnects it. -/
def leaves (k : DeviceKey) (s : ModuleHandler β) (r : Round) : Bool :=
  match s.thread with
  | .checking (number :: _) _ => number != k.module_ || r.joins || !r.flag
  | .collecting _ _ number [] => number != k.module_ || r.collects || !r.flag
  | .collecting _ _ number (device :: _) =>
    number != k.module_ || r.collects || device.key != k || (s.aggregatedMessages k).isEmpty
  | .counting _ _ number device _ =>
    number != k.module_ || r.collects || device.key != k ||
      (s.statusAggregators number).getDeviceTimeoutCount device < status_aggregation_timeout_max_count
  | _ => true

end Round

/-- Where the thread is when there is no other device; `mine` says that the message at the front is
about the device. -/
def MessageThread.alone (r : Round) (k : DeviceKey) (mine : Bool) : MessageThread β → MessageThread β
  | .waiting => .waiting
  | .checking modules message => if r.joins then .checking modules (message && mine) else .waiting
  | .collecting modules message number devices =>
    if r.takes k number then
      .collecting modules (message && mine) number (devices.filter fun device => device.key = k)
    else if r.joins then .checking modules (message && mine) else .waiting
  | .counting modules message number device devices =>
    if r.takes k number then
      if device.key = k then
        .counting modules (message && mine) number device (devices.filter fun device => device.key = k)
      else .collecting modules (message && mine) number (devices.filter fun device => device.key = k)
    else if r.joins then .checking modules (message && mine) else .waiting
  | .terminated => .terminated
  | thread => if mine then thread else .waiting

namespace MessageThread
variable {r : Round} {k : DeviceKey} {mine : Bool}

theorem alone_of_handles {thread : MessageThread β} (h : thread.handles = true) :
    thread.alone r k mine = if mine then thread else .waiting := by
  cases thread <;> first | rfl | cases h

theorem eq_commanding_of_alone {thread : MessageThread β} {status : β} {device : DeviceIdentification} {rc : ℕ}
    (h : thread.alone r k mine = .commanding status device rc) : thread = .commanding status device rc := by
  by_cases hhandles : thread.handles = true
  · rw [alone_of_handles hhandles] at h
    split at h
    · exact h
    · cases h
  · cases thread with
    | waiting => cases h
    | checking modules message =>
      dsimp only [alone] at h
      split at h <;> cases h
    | collecting modules message number devices =>
      dsimp only [alone] at h
      split at h
      · cases h
      · split at h <;> cases h
    | counting modules message number device devices =>
      dsimp only [alone] at h
      split at h
      · split at h <;> cases h
      · split at h <;> cases h
    | terminated => cases h
    | _ => exact absurd rfl hhandles

/-- Without a message it makes no difference whom the one at the front is about. -/
theorem alone_of_not_hasMessage {thread : MessageThread β} (h : thread.hasMessage = false) (mine' : Bool) :
    thread.alone r k mine = thread.alone r k mine' := by
  cases thread <;> simp_all [hasMessage, alone]

section Collection
variable {modules : List ℤ} {message : Bool} {number : ℤ} {device : DeviceIdentification}
  {devices : List DeviceIdentification}

theorem alone_checking (h : r.joins = true) :
    (checking modules message : MessageThread β).alone r k mine = .checking modules (message && mine) := if_pos h

theorem alone_checking_far (h : r.joins = false) :
    (checking modules message : MessageThread β).alone r k mine = .waiting :=
  if_neg (by rw [h]; exact Bool.false_ne_true)

theorem alone_collecting (h : r.takes k number = true) :
    (collecting modules message number devices : MessageThread β).alone r k mine =
      .collecting modules (message && mine) number (devices.filter fun device => device.key = k) := if_pos h

/-- A collection that is none of the device is not there without the others. -/
theorem alone_collecting_far (h : r.takes k number = false) :
    (collecting modules message number devices : MessageThread β).alone r k mine =
      (checking modules message).alone r k mine :=
  if_neg (by rw [h]; exact Bool.false_ne_true)

theorem alone_counting (h : r.takes k number = true) (hk : device.key = k) :
    (counting modules message number device devices : MessageThread β).alone r k mine =
      .counting modules (message && mine) number device (devices.filter fun device => device.key = k) :=
  (if_pos h).trans (if_pos hk)

theorem alone_counting_other (h : r.takes k number = true) (hk : device.key ≠ k) :
    (counting modules message number device devices : MessageThread β).alone r k mine =
      (collecting modules message number devices).alone r k mine :=
  ((if_pos h).trans (if_neg hk)).trans (alone_collecting h).symm

theorem alone_counting_far (h : r.takes k number = false) :
    (counting modules message number device devices : MessageThread β).alone r k mine =
      (checking modules message).alone r k mine :=
  if_neg (by rw [h]; exact Bool.false_ne_true)

end Collection

end MessageThread

namespace ModuleHandler
variable {s t : ModuleHandler β} {k : DeviceKey} {r : Round}

/-- `t` is `s` without the other devices. A thread that has ended takes no step. -/
structure Alone (k : DeviceKey) (r : Round) (s t : ModuleHandler β) : Prop where
  devices : s.Isolates k r.flag t
  place : s.thread ≠ .terminated → t.thread = s.thread.alone r k (s.atFront k)
  joins : s.thread.hasMessage = true → s.atFront k = true → r.joins = true
  collects : r.collects = true → r.joins = true

/-- Both threads go on. -/
theorem Isolates.goto_alone (h : s.Isolates k r.flag t) (hcollects : r.collects = true → r.joins = true)
    {thread thread' : MessageThread β} (hplace : thread' = thread.alone r k (s.atFront k))
    (hjoins : thread.hasMessage = true → s.atFront k = true → r.joins = true) :
    Alone k r (s.goto thread) (t.goto thread') := ⟨h.goto _ _,fun _ => hplace,hjoins,hcollects⟩

/-- The thread goes on, and does not where there is no other device. -/
theorem Isolates.goto_alone_left (h : s.Isolates k r.flag t) (hcollects : r.collects = true → r.joins = true)
    {thread : MessageThread β} (hplace : t.thread = thread.alone r k (s.atFront k))
    (hjoins : thread.hasMessage = true → s.atFront k = true → r.joins = true) :
    Alone k r (s.goto thread) t := ⟨h.goto_left _,fun _ => hplace,hjoins,hcollects⟩

/-! ## A round begins -/

theorem next_waiting (h : s.thread = .waiting) : r.next k s =
    { r with
      joins := s.atFront k || s.fromInternalQueue_.all fun message => subject message ≠ some k
      collects := false } := by
  unfold Round.next
  rw [h]

theorem Alone.waiting_own (h : Alone k r s t) (hthread : s.thread = .waiting) (hacts : (r.next k s).joins = true)
    (modules : List ℤ) :
    Alone k (r.next k s) (s.goto (.checking modules (!s.fromInternalQueue_.isEmpty)))
      (t.goto (.checking modules (!t.fromInternalQueue_.isEmpty))) := by
  have hmessage : (!t.fromInternalQueue_.isEmpty) = (!s.fromInternalQueue_.isEmpty && s.atFront k) := by
    rw [next_waiting hthread] at hacts
    cases hmine : s.atFront k with
    | true =>
      obtain ⟨message,rest,hqueue,hm⟩ := exists_cons_of_atFront hmine
      rw [h.devices.incoming_cons hqueue hm, hqueue]
      rfl
    | false =>
      have hnone : s.fromInternalQueue_.filter (fun message => subject message = some k) = [] := by
        rw [hmine, Bool.false_or, List.all_eq_true] at hacts
        rw [List.filter_eq_nil_iff]
        intro message hm
        simpa using hacts message hm
      rw [h.devices.incoming, hnone, Bool.and_false]
      rfl
  have hdevices : s.Isolates k (r.next k s).flag t := by
    rw [next_waiting hthread]
    exact h.devices
  refine hdevices.goto_alone ?_ ?_ fun _ _ => hacts
  · rw [next_waiting hthread]
    nofun
  · rw [MessageThread.alone_checking hacts, hmessage]

/-- A message of another device is at the front, and one of the device behind it. -/
theorem Alone.waiting_other (h : Alone k r s t) (hthread : s.thread = .waiting) (hacts : (r.next k s).joins = false)
    (modules : List ℤ) : Alone k (r.next k s) (s.goto (.checking modules (!s.fromInternalQueue_.isEmpty))) t := by
  have hplace := h.place (by rw [hthread]; nofun)
  have hdevices : s.Isolates k (r.next k s).flag t := by
    rw [next_waiting hthread]
    exact h.devices
  refine hdevices.goto_alone_left ?_ ?_ ?_
  · rw [next_waiting hthread]
    nofun
  · rw [MessageThread.alone_checking_far hacts, hplace, hthread]
    rfl
  · intro _ hmine
    rw [next_waiting hthread, hmine] at hacts
    cases hacts

/-! ## The flags of the modules -/

section Check
variable {modules : List ℤ} {message : Bool} {number : ℤ}

theorem next_checking_nil (h : s.thread = .checking [] message) : r.next k s = r := by
  unfold Round.next
  rw [h]

theorem next_checking_far (h : s.thread = .checking (number :: modules) message) (hn : number ≠ k.module_) :
    r.next k s = r := by
  unfold Round.next
  rw [h]
  exact if_neg hn

theorem next_checking_module (h : s.thread = .checking (k.module_ :: modules) message) :
    r.next k s = { r with collects := r.joins && r.flag } := by
  unfold Round.next
  rw [h]
  exact if_pos rfl

/-- All flags have been looked at. -/
theorem Alone.checked (h : Alone k r s t) (hthread : s.thread = .checking [] message) :
    (r.joins = true → Alone k r (s.checkModule [] message) (t.checkModule [] (message && s.atFront k))) ∧
      (r.joins = false → Alone k r (s.checkModule [] message) t) := by
  have hjoins : (if message then .handling else .waiting : MessageThread β).hasMessage = true →
      s.atFront k = true → r.joins = true := by
    intro hhas
    refine h.joins ?_
    rw [hthread]
    cases message with
    | true => rfl
    | false => cases hhas
  constructor
  · intro _
    refine h.devices.goto_alone h.collects ?_ hjoins
    cases message <;> cases s.atFront k <;> rfl
  · intro hother
    have hplace := h.place (by rw [hthread]; nofun)
    rw [hthread, MessageThread.alone_checking_far hother] at hplace
    refine h.devices.goto_alone_left h.collects ?_ hjoins
    rw [hplace]
    cases message with
    | false => rfl
    | true =>
      have hmine : s.atFront k = false := by
        rw [← Bool.not_eq_true]
        intro hmine
        rw [h.joins (by rw [hthread]; rfl) hmine] at hother
        cases hother
      rw [hmine]
      rfl

/-- The thread goes on to the next module, or collects the statuses of one that is not the device's. -/
theorem Alone.passes (h : Alone k r s t) (hthread : s.thread = .checking (number :: modules) message)
    {thread : MessageThread β} (hthread' : thread = .checking modules message ∨
      ∃ devices, thread = .collecting modules message number devices ∧ r.takes k number = false) :
    (r.joins = true → Alone k r (s.goto thread) (t.goto (.checking modules (message && s.atFront k)))) ∧
      (r.joins = false → Alone k r (s.goto thread) t) := by
  have halone : thread.alone r k (s.atFront k) = (MessageThread.checking modules message).alone r k (s.atFront k) := by
    obtain rfl | ⟨devices,rfl,htakes⟩ := hthread'
    · rfl
    · exact MessageThread.alone_collecting_far htakes
  have hjoins : thread.hasMessage = true → s.atFront k = true → r.joins = true := by
    intro hhas
    refine h.joins ?_
    rw [hthread]
    obtain rfl | ⟨devices,rfl,-⟩ := hthread' <;> exact hhas
  constructor
  · intro hown
    refine h.devices.goto_alone h.collects ?_ hjoins
    rw [halone, MessageThread.alone_checking hown]
  · intro hother
    have hplace := h.place (by rw [hthread]; nofun)
    rw [hthread, MessageThread.alone_checking_far hother] at hplace
    refine h.devices.goto_alone_left h.collects ?_ hjoins
    rw [halone, MessageThread.alone_checking_far hother, hplace]

/-- The flag of another module. -/
theorem Alone.checkModule_far (h : Alone k r s t) (hthread : s.thread = .checking (number :: modules) message)
    (hn : number ≠ k.module_) :
    (r.joins = true → Alone k r (s.checkModule (number :: modules) message)
        (t.checkModule (number :: modules) (message && s.atFront k))) ∧
      (r.joins = false → Alone k r (s.checkModule (number :: modules) message) t) := by
  have hready : (t.statusAggregators number).getTimeoutedMessageReady = false := by
    rw [h.devices.others number hn]
    rfl
  have htakes : r.takes k number = false := by
    unfold Round.takes
    rw [beq_eq_false_iff_ne.mpr hn, Bool.and_false]
  unfold ModuleHandler.checkModule
  dsimp only
  rw [hready]
  split
  · exact h.passes hthread (.inr ⟨_,rfl,htakes⟩)
  · exact h.passes hthread (.inl rfl)

/-- The flag of the module, in a round that is one of the device too. -/
theorem Alone.checkModule_own (h : Alone k r s t) (hplace : s.InPlace fun _ _ => true)
    (hthread : s.thread = .checking (k.module_ :: modules) message) (hown : r.joins = true) :
    Alone k (r.next k s) (s.checkModule (k.module_ :: modules) message)
      (t.checkModule (k.module_ :: modules) (message && s.atFront k)) := by
  obtain ⟨flag,joins,collects⟩ := r
  obtain rfl : joins = true := hown
  rw [next_checking_module hthread]
  have hready : (t.statusAggregators k.module_).getTimeoutedMessageReady = flag := h.devices.aggregator.ready
  have hset : flag = true → (s.statusAggregators k.module_).getTimeoutedMessageReady = true := h.devices.aggregator.set
  have hchecking : Alone k ⟨flag,true,flag⟩ s t := by
    refine ⟨h.devices,?_,h.joins,fun _ => rfl⟩
    intro hlive
    rw [h.place hlive, hthread]
    rfl
  unfold ModuleHandler.checkModule
  dsimp only
  rw [hready]
  cases flag with
  | false =>
    rw [if_neg Bool.false_ne_true]
    split
    · exact (hchecking.passes hthread (.inr ⟨_,rfl,rfl⟩)).1 rfl
    · exact (hchecking.passes hthread (.inl rfl)).1 rfl
  | true =>
    have htakes : Round.takes ⟨true,true,true⟩ k k.module_ = true := by simp [Round.takes]
    rw [hset rfl, if_pos rfl, if_pos rfl]
    refine hchecking.devices.goto_alone hchecking.collects ?_ fun _ _ => rfl
    rw [MessageThread.alone_collecting htakes,
      h.devices.aggregator.get_unique_devices fun key d hd => (hplace _ key d hd).2.1]

/-- The flag of the module, in a round of the other devices. -/
theorem Alone.checkModule_other (h : Alone k r s t)
    (hthread : s.thread = .checking (k.module_ :: modules) message) (hother : r.joins = false) :
    Alone k (r.next k s) (s.checkModule (k.module_ :: modules) message) t := by
  obtain ⟨flag,joins,collects⟩ := r
  obtain rfl : joins = false := hother
  rw [next_checking_module hthread]
  have hchecking : Alone k ⟨flag,false,false⟩ s t := by
    refine ⟨h.devices,?_,h.joins,nofun⟩
    intro hlive
    rw [h.place hlive, hthread]
    rfl
  unfold ModuleHandler.checkModule
  dsimp only
  split
  · exact (hchecking.passes hthread (.inr ⟨_,rfl,rfl⟩)).2 rfl
  · exact (hchecking.passes hthread (.inl rfl)).2 rfl

end Check

/-! ## A collection -/

/-- Without the other devices the thread stays where it is. -/
theorem Alone.stays (h : Alone k r s t) {s' : ModuleHandler β} (hdevices : s'.Isolates k r.flag t)
    (hlive : s.thread ≠ .terminated) (hqueue : s'.fromInternalQueue_ = s.fromInternalQueue_)
    (hthread : s'.thread.alone r k (s.atFront k) = s.thread.alone r k (s.atFront k))
    (hhas : s'.thread.hasMessage = s.thread.hasMessage) : Alone k r s' t where
  devices := hdevices
  place _ := by rw [h.place hlive, atFront_congr hqueue, hthread]
  joins hmessage hmine := by
    rw [atFront_congr hqueue] at hmine
    exact h.joins (hhas ▸ hmessage) hmine
  collects := h.collects

section Collection
variable {modules : List ℤ} {message : Bool} {number : ℤ} {device : DeviceIdentification}
  {devices : List DeviceIdentification}

theorem takes_eq_true_iff : r.takes k number = true ↔ r.collects = true ∧ number = k.module_ := by
  simp [Round.takes]

theorem next_collecting_cons (h : s.thread = .collecting modules message number (device :: devices)) :
    r.next k s = r := by
  unfold Round.next
  rw [h]

theorem next_collecting_nil (h : s.thread = .collecting modules message number []) :
    r.next k s = if number = k.module_ then { r with flag := false } else r := by
  unfold Round.next
  rw [h]

theorem next_counting (h : s.thread = .counting modules message number device devices) : r.next k s = r := by
  unfold Round.next
  rw [h]

/-- The flag is taken back where the device takes part in the collection. -/
theorem Alone.collectStatus_end_own [BufferType β] (h : Alone k r s t) (module_ : ModuleLibraryHandler β)
    (hthread : s.thread = .collecting modules message number []) (htakes : r.takes k number = true) :
    Alone k (r.next k s) (collectStatus module_ s modules message number [])
      (collectStatus module_ t modules (message && s.atFront k) number []) := by
  obtain ⟨hcollects,rfl⟩ := takes_eq_true_iff.mp htakes
  have hown := h.collects hcollects
  have hnone : ∀ device, (Operation.unsetTimeoutedMessageReady : Operation β).device = some device → device = k := nofun
  have hunset : (s.setAggregator k.module_ (s.statusAggregators k.module_).unsetTimeoutedMessageReady).Isolates k false
      (t.setAggregator k.module_ (t.statusAggregators k.module_).unsetTimeoutedMessageReady) :=
    h.devices.setAggregator rfl (h.devices.aggregator.operate module_ hnone)
  rw [next_collecting_nil hthread, if_pos rfl]
  refine Isolates.goto_alone (r := { r with flag := false }) hunset h.collects ?_ fun _ _ => hown
  exact (MessageThread.alone_checking (r := { r with flag := false }) (k := k) hown).symm

/-- The flag of the other devices is taken back. -/
theorem Alone.collectStatus_end_other (h : Alone k r s t) (module_ : ModuleLibraryHandler β)
    (hthread : s.thread = .collecting modules message number []) (htakes : r.takes k number = false)
    (hg : r.leaves k s = true) :
    Alone k (r.next k s) (collectStatus module_ s modules message number []) t := by
  have hlive : s.thread ≠ .terminated := by rw [hthread]; nofun
  have hunset : number = k.module_ → r.flag = false := by
    rintro rfl
    have hcollects : r.collects = false := by
      rw [← Bool.not_eq_true]
      intro hcollects
      rw [takes_eq_true_iff.mpr ⟨hcollects,rfl⟩] at htakes
      cases htakes
    simpa [Round.leaves, hthread, hcollects] using hg
  have hsame : r.next k s = r := by
    rw [next_collecting_nil hthread]
    split
    · rename_i hn
      rw [← hunset hn]
    · rfl
  rw [hsame]
  refine h.stays (Isolates.goto_left ?_ _) hlive rfl ?_ ?_
  · refine h.devices.setAggregator_other ?_
    intro hn
    rw [hunset hn, hn]
    have hfree := h.devices.aggregator
    rw [hunset hn] at hfree
    exact hfree.unset_other
  · rw [hthread, MessageThread.alone_collecting_far htakes]
    rfl
  · rw [hthread]
    rfl

/-- A status of the device is collected. -/
theorem Alone.collectStatus_own [BufferType β] (h : Alone k r s t) (module_ : ModuleLibraryHandler β)
    (hthread : s.thread = .collecting modules message number (device :: devices)) (htakes : r.takes k number = true)
    (hk : device.key = k) (hmodule : device.module_ = number) :
    Alone k r (collectStatus module_ s modules message number (device :: devices))
      (collectStatus module_ t modules (message && s.atFront k) number
        (device :: devices.filter fun device => device.key = k)) := by
  have hanswer := StatusAggregator.get_aggregated_status_congr module_ (h.devices.lookup hk)
  have hgot := h.devices.operate hk module_
    (rfl : (Operation.get_aggregated_status device : Operation β).device = some device.key)
  simp only [StatusAggregator.operate] at hgot
  rw [hmodule] at hanswer hgot
  have hplace := h.place (by rw [hthread]; rintro ⟨⟩)
  have hown := h.collects (takes_eq_true_iff.mp htakes).1
  unfold ModuleHandler.collectStatus
  dsimp only
  generalize (s.statusAggregators number).get_aggregated_status module_ device = answer at hanswer hgot ⊢
  generalize (t.statusAggregators number).get_aggregated_status module_ device = answer' at hanswer hgot ⊢
  obtain ⟨status,a⟩ := answer
  obtain ⟨status',b⟩ := answer'
  obtain rfl : status' = status := hanswer
  cases status' with
  | ok status => exact ⟨hgot.pushExternal _ _,fun _ => hplace,fun _ _ => hown,h.collects⟩
  | error code =>
    refine Isolates.goto_alone hgot h.collects ?_ fun _ _ => hown
    exact (MessageThread.alone_counting htakes hk).symm

/-- A device without statuses is passed. -/
theorem get_aggregated_status_of_isEmpty (module_ : ModuleLibraryHandler β) (hk : device.key = k)
    (h : (s.aggregatedMessages k).isEmpty = true) : ∃ code, (s.statusAggregators device.module_).get_aggregated_status
      module_ device = (.error code,s.statusAggregators device.module_) := by
  subst hk
  have hnone : ((s.statusAggregators device.module_).devices.lookup device.key).elim []
      StatusAggregatorDeviceState.aggregatedMessages_ = [] := List.isEmpty_iff.mp h
  unfold StatusAggregator.get_aggregated_status
  rw [hnone]
  split <;> exact ⟨_,rfl⟩

/-- The statuses of another device are collected, or those of the device in a collection of the
others, which finds none. -/
theorem Alone.collectStatus_other [BufferType β] (h : Alone k r s t) (module_ : ModuleLibraryHandler β)
    (hthread : s.thread = .collecting modules message number (device :: devices))
    (hother : r.takes k number = true → device.key ≠ k) (hmodule : device.module_ = number)
    (hg : r.leaves k s = true) :
    Alone k r (collectStatus module_ s modules message number (device :: devices)) t := by
  have hlive : s.thread ≠ .terminated := by rw [hthread]; nofun
  have hcounting : ∀ aggregator, (s.setAggregator number aggregator).Isolates k r.flag t →
      Alone k r ((s.setAggregator number aggregator).goto (.counting modules message number device devices)) t := by
    intro aggregator haggregator
    refine h.stays (haggregator.goto_left _) hlive rfl ?_ ?_
    · rw [hthread]
      cases htakes : r.takes k number with
      | true =>
        refine (MessageThread.alone_counting_other htakes (hother htakes)).trans ?_
        rw [MessageThread.alone_collecting htakes, MessageThread.alone_collecting htakes, List.filter_cons_of_neg]
        simpa using hother htakes
      | false =>
        rw [MessageThread.alone_collecting_far htakes]
        exact MessageThread.alone_counting_far htakes
    · rw [hthread]
      rfl
  unfold ModuleHandler.collectStatus
  by_cases hk : device.key = k
  · have hnone : (s.aggregatedMessages k).isEmpty = true := by
      have hn : number = k.module_ := by rw [← hmodule, ← hk]; rfl
      have hcollects : r.collects = false := by
        rw [← Bool.not_eq_true]
        exact fun hcollects => hother (takes_eq_true_iff.mpr ⟨hcollects,hn⟩) hk
      simpa [Round.leaves, hthread, hcollects, hn, hk] using hg
    obtain ⟨code,hget⟩ := get_aggregated_status_of_isEmpty module_ hk hnone
    rw [hmodule] at hget
    dsimp only
    rw [hget]
    refine hcounting _ (h.devices.setAggregator_other ?_)
    rintro rfl
    exact h.devices.aggregator
  · have hgot := h.devices.operate_other number module_
      (rfl : (Operation.get_aggregated_status device : Operation β).device = some device.key) hk
    simp only [StatusAggregator.operate] at hgot
    dsimp only
    split <;> rename_i hget <;> rw [hget] at hgot
    · exact h.stays (hgot.pushExternal_left _) hlive rfl rfl rfl
    · exact hcounting _ hgot

/-- The timeouts of the device are counted. -/
theorem Alone.countTimeouts_own (h : Alone k r s t) (htakes : r.takes k number = true) (hk : device.key = k) :
    Alone k r (s.countTimeouts modules message number device devices)
      (t.countTimeouts modules (message && s.atFront k) number device
        (devices.filter fun device => device.key = k)) := by
  obtain ⟨hcollects,rfl⟩ := takes_eq_true_iff.mp htakes
  have hown := h.collects hcollects
  have hcollecting : Alone k r (s.goto (.collecting modules message k.module_ devices))
      (t.goto (.collecting modules (message && s.atFront k) k.module_
        (devices.filter fun device => device.key = k))) :=
    h.devices.goto_alone h.collects (MessageThread.alone_collecting htakes).symm fun _ _ => hown
  have hcount : (t.statusAggregators k.module_).getDeviceTimeoutCount device =
      (s.statusAggregators k.module_).getDeviceTimeoutCount device := by
    subst hk
    exact h.devices.aggregator.timeouts
  unfold ModuleHandler.countTimeouts
  dsimp only [ModuleHandler.goto] at hcollecting ⊢
  rw [hcount]
  split
  · exact ⟨hcollecting.devices.pushInternal hk,hcollecting.place,hcollecting.joins,hcollecting.collects⟩
  · exact hcollecting

/-- The timeouts of another device are counted, or those of the device in a collection of the
others, which finds too few. -/
theorem Alone.countTimeouts_other (h : Alone k r s t)
    (hthread : s.thread = .counting modules message number device devices)
    (hother : r.takes k number = true → device.key ≠ k) (hmodule : device.module_ = number)
    (hg : r.leaves k s = true) : Alone k r (s.countTimeouts modules message number device devices) t := by
  have hlive : s.thread ≠ .terminated := by rw [hthread]; nofun
  have hcollecting : Alone k r (s.goto (.collecting modules message number devices)) t := by
    refine h.stays (h.devices.goto_left _) hlive rfl ?_ ?_
    · rw [hthread]
      cases htakes : r.takes k number with
      | true => exact (MessageThread.alone_counting_other htakes (hother htakes)).symm
      | false => exact (MessageThread.alone_collecting_far htakes).trans (MessageThread.alone_counting_far htakes).symm
    · rw [hthread]
      rfl
  unfold ModuleHandler.countTimeouts
  dsimp only [ModuleHandler.goto] at hcollecting ⊢
  split
  · rename_i hcount
    have hk : device.key ≠ k := by
      intro hk
      have hn : number = k.module_ := by rw [← hmodule, ← hk]; rfl
      have hcollects : r.collects = false := by
        rw [← Bool.not_eq_true]
        exact fun hcollects => hother (takes_eq_true_iff.mpr ⟨hcollects,hn⟩) hk
      have hfew : (s.statusAggregators number).getDeviceTimeoutCount device < status_aggregation_timeout_max_count := by
        simpa [Round.leaves, hthread, hcollects, hn, hk] using hg
      exact absurd hcount (Nat.not_le.mpr hfew)
    exact ⟨hcollecting.devices.pushInternal_other hk,hcollecting.place,hcollecting.joins,hcollecting.collects⟩
  · exact hcollecting

end Collection

/-! ## A message -/

theorem next_of_handles (h : s.thread.handles = true) : r.next k s = r := by
  unfold Round.next
  cases hthread : s.thread <;> first | rfl | (rw [hthread] at h; cases h)

theorem acts_of_handles (h : s.thread.handles = true) : r.acts k s = s.atFront k := by
  unfold Round.acts
  cases hthread : s.thread <;> first | rfl | (rw [hthread] at h; cases h)

/-- The message of the device is handled where there is no other device too. -/
theorem Alone.handled_own (h : Alone k r s t) (hhandles : s.thread.handles = true) (hmine : s.atFront k = true)
    {s' t' : ModuleHandler β} (hdevices : s'.Isolates k r.flag t') (hthread : t'.thread = s'.thread)
    (hhandles' : s'.thread.handles = true ∨ s'.thread = .terminated)
    (hqueue : s'.fromInternalQueue_ = s.fromInternalQueue_) : Alone k r s' t' where
  devices := hdevices
  place hlive := by
    rw [hthread, MessageThread.alone_of_handles (hhandles'.resolve_right hlive), atFront_congr hqueue, hmine,
      if_pos rfl]
  joins _ _ := h.joins (MessageThread.hasMessage_of_handles hhandles) hmine
  collects := h.collects

/-- A message of another device is handled. -/
theorem Alone.handled_other (h : Alone k r s t) (hhandles : s.thread.handles = true) (hmine : s.atFront k = false)
    {s' : ModuleHandler β} (hdevices : s'.Isolates k r.flag t)
    (hhandles' : s'.thread.handles = true ∨ s'.thread = .terminated)
    (hqueue : s'.fromInternalQueue_ = s.fromInternalQueue_) : Alone k r s' t := by
  obtain hhandles' | hended := hhandles'
  case inr =>
    refine ⟨hdevices,fun hlive => absurd hended hlive,?_,h.collects⟩
    rw [hended]
    nofun
  refine h.stays hdevices ?_ hqueue ?_ ?_
  · intro hended
    rw [hended] at hhandles
    cases hhandles
  · rw [MessageThread.alone_of_handles hhandles', MessageThread.alone_of_handles hhandles, hmine]
    rfl
  · rw [MessageThread.hasMessage_of_handles hhandles', MessageThread.hasMessage_of_handles hhandles]

/-- The message is taken out of the queue. -/
theorem Alone.popping (h : Alone k r s t) (hplaced : s.Placed) (hthread : s.thread = .popping) :
    (s.atFront k = true → Alone k r ({ s with fromInternalQueue_ := s.fromInternalQueue_.tail }.goto .waiting)
        ({ t with fromInternalQueue_ := t.fromInternalQueue_.tail }.goto .waiting)) ∧
      (s.atFront k = false →
        Alone k r ({ s with fromInternalQueue_ := s.fromInternalQueue_.tail }.goto .waiting) t) := by
  have hplace := h.place (by rw [hthread]; nofun)
  rw [hthread] at hplace
  constructor
  · intro hmine
    obtain ⟨message,rest,hqueue,hm⟩ := exists_cons_of_atFront hmine
    have hincoming := h.devices.incoming_cons hqueue hm
    refine ⟨⟨h.devices.aggregator,h.devices.others,?_,h.devices.outgoing,h.devices.events⟩,fun _ => rfl,nofun,h.collects⟩
    dsimp only [ModuleHandler.goto]
    rw [hincoming, hqueue]
    rfl
  · intro hmine
    rw [hmine] at hplace
    obtain ⟨message,rest,hqueue⟩ := List.exists_cons_of_ne_nil (hplaced.message (by rw [hthread]; rfl))
    rw [atFront_cons hqueue] at hmine
    have hincoming := h.devices.incoming
    rw [hqueue, List.filter_cons_of_neg (by simpa using hmine)] at hincoming
    refine ⟨⟨h.devices.aggregator,h.devices.others,?_,h.devices.outgoing,h.devices.events⟩,fun _ => hplace,nofun,h.collects⟩
    dsimp only [ModuleHandler.goto]
    rw [hincoming, hqueue]
    rfl

/-! ## A step of the message thread -/

section Step
variable [BufferType β] {moduleLibrary_ : ModuleLibrary β} {s' : ModuleHandler β}

/-- A step that the thread takes where there is no other device too. -/
theorem Alone.handleMessages_own (h : Alone k r s t) (hplaced : s.Placed) (hplace : s.InPlace fun _ _ => true)
    (hcommanding : ∀ status device rc, s.thread ≠ .commanding status device rc) (hacts : r.acts k s = true)
    (hs : s.handleMessages moduleLibrary_ = some s') :
    ∃ t', t.handleMessages moduleLibrary_ = some t' ∧ Alone k (r.next k s) s' t' := by
  by_cases hhandles : s.thread.handles = true
  · rw [acts_of_handles hhandles] at hacts
    rw [next_of_handles hhandles]
    have hthread : t.thread = s.thread := by
      have hended : s.thread ≠ .terminated := by
        intro hended
        rw [hended] at hhandles
        cases hhandles
      rw [h.place hended, MessageThread.alone_of_handles hhandles, hacts, if_pos rfl]
    by_cases hpopping : s.thread = .popping
    · unfold handleMessages at hs ⊢
      rw [hpopping] at hs
      rw [hthread, hpopping]
      cases hs
      exact ⟨_,rfl,(h.popping hplaced hpopping).1 hacts⟩
    · obtain ⟨t',ht',hdevices,hthread'⟩ :=
        h.devices.handleMessages_own hplaced hacts hthread hhandles hpopping hcommanding hs
      obtain ⟨hhandles',hqueue⟩ := handleMessages_handles hs hhandles hpopping hcommanding
      exact ⟨t',ht',h.handled_own hhandles hacts hdevices hthread' hhandles' hqueue⟩
  · unfold handleMessages at hs ⊢
    cases hthread : s.thread with
    | waiting =>
      have hthread' := h.place (by rw [hthread]; nofun)
      rw [hthread] at hs hthread'
      rw [hthread']
      cases hs
      refine ⟨_,rfl,h.waiting_own hthread ?_ _⟩
      simpa only [Round.acts, hthread] using hacts
    | checking modules message =>
      have hthread' := h.place (by rw [hthread]; nofun)
      have hown : r.joins = true := by
        cases modules with
        | nil => simpa only [Round.acts, hthread, next_checking_nil hthread] using hacts
        | cons number modules =>
          by_cases hn : number = k.module_
          · subst hn
            simpa only [Round.acts, hthread, next_checking_module hthread] using hacts
          · simpa only [Round.acts, hthread, next_checking_far hthread hn] using hacts
      rw [hthread] at hs hthread'
      rw [hthread', MessageThread.alone_checking hown]
      cases hs
      cases modules with
      | nil =>
        rw [next_checking_nil hthread]
        exact ⟨_,rfl,(h.checked hthread).1 hown⟩
      | cons number modules =>
        by_cases hn : number = k.module_
        · subst hn
          exact ⟨_,rfl,h.checkModule_own hplace hthread hown⟩
        · rw [next_checking_far hthread hn]
          exact ⟨_,rfl,(h.checkModule_far hthread hn).1 hown⟩
    | collecting modules message number devices =>
      have hthread' := h.place (by rw [hthread]; nofun)
      obtain ⟨htakes,hhead⟩ : r.takes k number = true ∧ devices.head?.all (fun device => device.key = k) = true := by
        simpa only [Round.acts, hthread, Bool.and_eq_true] using hacts
      rw [hthread] at hs hthread'
      rw [hthread', MessageThread.alone_collecting htakes]
      obtain ⟨module_,hm,rfl⟩ := Option.map_eq_some_iff.mp hs
      dsimp only
      rw [hm]
      cases devices with
      | nil => exact ⟨_,rfl,h.collectStatus_end_own module_ hthread htakes⟩
      | cons device devices =>
        have hk : device.key = k := by simpa using hhead
        have hmodule := hplaced.collects number (device :: devices) (by rw [hthread]; rfl) device List.mem_cons_self
        have hfront : (device :: devices).filter (fun device => device.key = k) =
            device :: devices.filter fun device => device.key = k := List.filter_cons_of_pos (decide_eq_true hk)
        rw [next_collecting_cons hthread, hfront]
        exact ⟨_,rfl,h.collectStatus_own module_ hthread htakes hk hmodule⟩
    | counting modules message number device devices =>
      have hthread' := h.place (by rw [hthread]; nofun)
      obtain ⟨htakes,hk⟩ : r.takes k number = true ∧ device.key = k := by
        simpa only [Round.acts, hthread, Bool.and_eq_true, beq_iff_eq] using hacts
      rw [hthread] at hs hthread'
      rw [hthread', MessageThread.alone_counting htakes hk, next_counting hthread]
      cases hs
      exact ⟨_,rfl,h.countTimeouts_own htakes hk⟩
    | terminated =>
      rw [hthread] at hs
      cases hs
    | _ =>
      rw [hthread] at hhandles
      exact absurd rfl hhandles

/-- A step that is nothing where there is no other device. -/
theorem Alone.handleMessages_other (h : Alone k r s t) (hplaced : s.Placed)
    (hcommanding : ∀ status device rc, s.thread ≠ .commanding status device rc) (hg : r.leaves k s = true)
    (hacts : r.acts k s = false) (hs : s.handleMessages moduleLibrary_ = some s') : Alone k (r.next k s) s' t := by
  by_cases hhandles : s.thread.handles = true
  · rw [acts_of_handles hhandles] at hacts
    rw [next_of_handles hhandles]
    by_cases hpopping : s.thread = .popping
    · unfold handleMessages at hs
      rw [hpopping] at hs
      cases hs
      exact (h.popping hplaced hpopping).2 hacts
    · have hdevices := h.devices.handleMessages_other hplaced hacts hhandles hpopping hcommanding hs
      obtain ⟨hhandles',hqueue⟩ := handleMessages_handles hs hhandles hpopping hcommanding
      exact h.handled_other hhandles hacts hdevices hhandles' hqueue
  · unfold handleMessages at hs
    cases hthread : s.thread with
    | waiting =>
      rw [hthread] at hs
      cases hs
      refine h.waiting_other hthread ?_ _
      simpa only [Round.acts, hthread] using hacts
    | checking modules message =>
      rw [hthread] at hs
      cases hs
      cases modules with
      | nil =>
        have hother : r.joins = false := by
          simpa only [Round.acts, hthread, next_checking_nil hthread] using hacts
        rw [next_checking_nil hthread]
        exact (h.checked hthread).2 hother
      | cons number modules =>
        by_cases hn : number = k.module_
        · subst hn
          have hother : r.joins = false := by
            simpa only [Round.acts, hthread, next_checking_module hthread] using hacts
          exact h.checkModule_other hthread hother
        · have hother : r.joins = false := by
            simpa only [Round.acts, hthread, next_checking_far hthread hn] using hacts
          rw [next_checking_far hthread hn]
          exact (h.checkModule_far hthread hn).2 hother
    | collecting modules message number devices =>
      have hhead : r.takes k number = true → devices.head?.all (fun device => device.key = k) = false := by
        intro htakes
        simpa only [Round.acts, hthread, htakes, Bool.true_and] using hacts
      rw [hthread] at hs
      obtain ⟨module_,hm,rfl⟩ := Option.map_eq_some_iff.mp hs
      cases devices with
      | nil =>
        refine h.collectStatus_end_other module_ hthread ?_ hg
        rw [← Bool.not_eq_true]
        intro htakes
        cases hhead htakes
      | cons device devices =>
        have hmodule := hplaced.collects number (device :: devices) (by rw [hthread]; rfl) device List.mem_cons_self
        rw [next_collecting_cons hthread]
        refine h.collectStatus_other module_ hthread ?_ hmodule hg
        intro htakes
        simpa using hhead htakes
    | counting modules message number device devices =>
      have hother : r.takes k number = true → device.key ≠ k := by
        intro htakes
        simpa only [Round.acts, hthread, htakes, Bool.true_and, beq_eq_false_iff_ne] using hacts
      have hmodule := hplaced.collects number (device :: devices) (by rw [hthread]; rfl) device List.mem_cons_self
      rw [hthread] at hs
      cases hs
      rw [next_counting hthread]
      exact h.countTimeouts_other hthread hother hmodule hg
    | terminated =>
      rw [hthread] at hs
      cases hs
    | _ =>
      rw [hthread] at hhandles
      exact absurd rfl hhandles

end Step

end ModuleHandler

end ModuleGateway.Modules
