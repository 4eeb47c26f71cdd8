import ModuleGateway.Library.Monitor
import Mathlib.Data.Prod.Lex

/-! # Atomic queues

`AtomicQueue` and the loops of the threads that take from one: they wait for a value with a time limit, handle
the value at the front and pop it. Any number of threads push. What the threads pushed is handled once and in
the order in which it came into the queue, no loop looks at the front of an empty queue, and none is left
waiting while there is something to handle.
-/
namespace ModuleGateway.Structures
open Execution Monitor

/-- The methods of `AtomicQueue`. -/
inductive QueueMethod (V : Type*) where
  | pushAndNotify (value : V)
  | waitForValueWithTimeout
  | push (value : V)
  | pop
  | empty
  | front
  | size

inductive QueueResult (V : Type*) where
  | none
  | isEmpty (b : Bool)
  | value (value : V)
  | size (n : ℕ)

variable {V P : Type*}

/-- `queue_` under `mtx_`; `front` and `pop` of an empty queue are undefined. -/
def AtomicQueue : Object (List V) (QueueMethod V) (QueueResult V) where
  needs
    | .waitForValueWithTimeout => some fun queue_ => !queue_.isEmpty
    | _ => none
  body
    | .pushAndNotify value,queue_ => some (.none,queue_ ++ [value])
    | .waitForValueWithTimeout,queue_ => some (.isEmpty queue_.isEmpty,queue_)
    | .push value,queue_ => some (.none,queue_ ++ [value])
    | .pop,[] => none
    | .pop,_ :: queue_ => some (.none,queue_)
    | .empty,queue_ => some (.isEmpty queue_.isEmpty,queue_)
    | .front,[] => none
    | .front,value :: queue_ => some (.value value,value :: queue_)
    | .size,queue_ => some (.size queue_.length,queue_)
  notifies
    | .pushAndNotify _ => true
    | _ => false

/-- Every push notifies, and one thread waits. -/
theorem singleWaiter_of_calls {T C A : Type*} {clients : Clients T C A (QueueMethod V) (QueueResult V)} {waiter : T}
    (hwaits : ∀ c t, clients.call c t = some .waitForValueWithTimeout → t = waiter)
    (hpush : ∀ c t value, clients.call c t ≠ some (.push value)) : SingleWaiter AtomicQueue clients waiter where
  single c t method hcall hneeds := by
    cases method <;> cases hneeds
    exact hwaits c t hcall
  quiet method hneeds := by
    cases method <;> first | rfl | cases hneeds
  signals c t method queue_ r awaited hcall hbody hneeds hbefore hafter := by
    cases awaited <;> cases hneeds
    simp only [Object.ready, AtomicQueue, Option.all_some, Bool.not_eq_true', Bool.not_eq_false',
      List.isEmpty_iff] at hbefore hafter
    subst hbefore
    cases method with
    | pushAndNotify value => rfl
    | push value => exact absurd hcall (hpush c t value)
    | _ => cases hbody <;> cases hafter

/-! ## Loops -/

/-- Where the loop of the consumer is. -/
inductive Consumer (V : Type*) where
  | waiting
  | taking
  | handling (value : V)
  | popping

/-- `pending` is the value that a producer is pushing. No thread looks at `produced`, what each producer came up
with, at `pushed`, what came into the queue, and at `handled`. -/
structure QueueLoop (P V : Type*) where
  consumer : Consumer V
  pending : P → Option V
  produced : P → List V
  pushed : List (P × V)
  handled : List V

/-- A producer comes up with a value, or the consumer handles the one it took. -/
inductive LoopAction (P V : Type*) where
  | produce (producer : P) (value : V)
  | handle

namespace QueueLoop

def init : QueueLoop P V := ⟨.waiting,fun _ => none,fun _ => [],[],[]⟩

/-- The call that a thread is at; `none` is the consumer. -/
def call (s : QueueLoop P V) : Option P → Option (QueueMethod V)
  | none =>
    match s.consumer with
    | .waiting => some .waitForValueWithTimeout
    | .taking => some .front
    | .handling _ => none
    | .popping => some .pop
  | some producer => (s.pending producer).map .pushAndNotify

variable [DecidableEq P]

def resume (s : QueueLoop P V) : Option P → QueueResult V → QueueLoop P V
  | none,.isEmpty b => { s with consumer := if b then .waiting else .taking }
  | none,.value value => { s with consumer := .handling value }
  | none,_ => { s with consumer := .waiting }
  | some producer,_ =>
    { s with
      pending := Function.update s.pending producer none
      pushed := s.pushed ++ (s.pending producer).toList.map (Prod.mk producer) }

def step (s : QueueLoop P V) : LoopAction P V → Option (QueueLoop P V)
  | .produce producer value =>
    some { s with
      pending := Function.update s.pending producer (some value)
      produced := Function.update s.produced producer (s.produced producer ++ [value]) }
  | .handle =>
    match s.consumer with
    | .handling value => some { s with consumer := .popping, handled := s.handled ++ [value] }
    | _ => none

def mover : LoopAction P V → Option (Option P)
  | .produce producer _ => some (some producer)
  | .handle => some none

/-- The consumer and the producers of one queue. -/
def threads : Clients (Option P) (QueueLoop P V) (LoopAction P V) (QueueMethod V) (QueueResult V) where
  call := call
  resume := resume
  mover := mover
  step := step
  call_resume s t r u hu := by
    cases t with
    | none =>
      obtain ⟨producer,rfl⟩ := Option.ne_none_iff_exists'.mp hu
      cases r <;> rfl
    | some producer =>
      cases u with
      | none => rfl
      | some other =>
        have hne : other ≠ producer := by
          rintro rfl
          exact hu rfl
        simp only [call, resume, Function.update_of_ne hne]
  call_step s a s' t hstep hmover := by
    cases a with
    | produce producer value =>
      cases hstep
      cases t with
      | none => rfl
      | some other =>
        have hne : other ≠ producer := by
          rintro rfl
          exact hmover rfl
        simp only [call, Function.update_of_ne hne]
    | handle =>
      have ht : t ≠ none := by
        rintro rfl
        exact hmover rfl
      obtain ⟨other,rfl⟩ := Option.ne_none_iff_exists'.mp ht
      simp only [step] at hstep
      split at hstep <;> cases hstep
      rfl

/-- The values that came into the queue, in this order. -/
def values (s : QueueLoop P V) : List V := s.pushed.map Prod.snd

def pushedBy (s : QueueLoop P V) (producer : P) : List V :=
  (s.pushed.filter fun entry => entry.1 = producer).map Prod.snd

/-- The values in the queue that are not handled yet. -/
def unhandled (queue_ : List V) : Consumer V → List V
  | .popping => queue_.tail
  | _ => queue_

/-- The consumer goes on from `waiting` only if there is a value at the front, and that is the one it handles. -/
def AtFront (queue_ : List V) : Consumer V → Prop
  | .waiting => True
  | .taking | .popping => queue_ ≠ []
  | .handling value => ∃ rest, queue_ = value :: rest

/-- What came into the queue, and what every producer came up with. -/
structure InOrder (s : List V × QueueLoop P V) : Prop where
  atFront : AtFront s.1 s.2.consumer
  values : s.2.values = s.2.handled ++ unhandled s.1 s.2.consumer
  produced : ∀ producer, s.2.produced producer = s.2.pushedBy producer ++ (s.2.pending producer).toList

theorem InOrder.init : InOrder (([] : List V),(init : QueueLoop P V)) where
  atFront := trivial
  values := rfl
  produced _ := rfl

/-- A value comes in at the end. -/
theorem InOrder.push {queue_ : List V} {s : QueueLoop P V} (hs : InOrder (queue_,s)) {producer : P} {value : V}
    (hpending : s.pending producer = some value) (r : QueueResult V) :
    InOrder (queue_ ++ [value],s.resume (some producer) r) := by
  have hfront := hs.atFront
  have hvalues := hs.values
  have hpushed : (s.resume (some producer) r).values = s.values ++ [value] := by
    simp [QueueLoop.values, resume, hpending]
  constructor
  · show AtFront (queue_ ++ [value]) s.consumer
    cases hconsumer : s.consumer with
    | waiting => trivial
    | taking | popping => simp [AtFront]
    | handling front =>
      rw [hconsumer] at hfront
      obtain ⟨rest,rfl : queue_ = front :: rest⟩ := hfront
      exact ⟨rest ++ [value],rfl⟩
  · rw [hpushed, hvalues]
    show _ = s.handled ++ unhandled (queue_ ++ [value]) s.consumer
    cases hconsumer : s.consumer with
    | popping =>
      rw [hconsumer] at hfront
      simp only [unhandled, List.append_assoc, List.tail_append_of_ne_nil hfront]
    | _ => simp only [unhandled, List.append_assoc]
  · intro other
    rw [show (s.resume (some producer) r).produced other = s.produced other from rfl, hs.produced other]
    by_cases hother : other = producer
    · subst hother
      simp [resume, pushedBy, hpending]
    · simp [resume, pushedBy, hpending, hother, Ne.symm hother]

/-- What the consumer gets, and what it leaves. -/
theorem InOrder.take {queue_ rest : List V} {s : QueueLoop P V} (hs : InOrder (queue_,s)) {method : QueueMethod V}
    {r : QueueResult V} (hcall : s.call none = some method) (hbody : AtomicQueue.body method queue_ = some (r,rest)) :
    InOrder (rest,s.resume none r) := by
  obtain ⟨hfront,hvalues,hproduced⟩ := hs
  dsimp only at hfront hvalues hproduced
  cases hconsumer : s.consumer with
  | waiting =>
    simp only [call, hconsumer, Option.some.injEq] at hcall
    subst hcall
    cases hbody
    simp only [hconsumer, unhandled] at hvalues
    refine ⟨?_,?_,hproduced⟩
    · cases queue_ <;> simp [resume, AtFront]
    · cases queue_ <;> exact hvalues
  | taking =>
    simp only [call, hconsumer, Option.some.injEq] at hcall
    subst hcall
    simp only [hconsumer, unhandled] at hvalues
    cases queue_ with
    | nil => cases hbody
    | cons value queue_ =>
      cases hbody
      exact ⟨⟨queue_,rfl⟩,hvalues,hproduced⟩
  | handling value => simp [call, hconsumer] at hcall
  | popping =>
    simp only [call, hconsumer, Option.some.injEq] at hcall
    subst hcall
    simp only [hconsumer, unhandled] at hvalues
    cases queue_ with
    | nil => cases hbody
    | cons value queue_ =>
      cases hbody
      exact ⟨trivial,hvalues,hproduced⟩

theorem InOrder.own {queue_ : List V} {s t : QueueLoop P V} (hs : InOrder (queue_,s)) {a : LoopAction P V}
    (hfree : ∀ u, mover a = some u → s.call u = none) (h : s.step a = some t) : InOrder (queue_,t) := by
  obtain ⟨hfront,hvalues,hproduced⟩ := hs
  dsimp only at hfront hvalues hproduced
  cases a with
  | produce producer value =>
    cases h
    have hpending : s.pending producer = none := by simpa [call] using hfree (some producer) rfl
    refine ⟨hfront,hvalues,?_⟩
    intro other
    show Function.update s.produced _ _ other = s.pushedBy other ++ (Function.update s.pending _ _ other).toList
    by_cases hother : other = producer
    · subst hother
      simp [hproduced, hpending]
    · simp [hproduced, hother]
  | handle =>
    simp only [step] at h
    split at h
    · rename_i value hconsumer
      cases h
      rw [hconsumer] at hfront hvalues
      obtain ⟨rest,rfl : queue_ = value :: rest⟩ := hfront
      refine ⟨List.cons_ne_nil value rest,?_,hproduced⟩
      show s.values = (s.handled ++ [value]) ++ rest
      rw [hvalues, unhandled, List.append_assoc, List.singleton_append]
      rintro ⟨⟩
    · cases h

theorem InOrder.step {s t : List V × QueueLoop P V} (hs : InOrder s) {a : AtomicAction (Option P) (LoopAction P V)}
    (h : atomicStep AtomicQueue threads s a = some t) : InOrder t := by
  obtain ⟨queue_,s⟩ := s
  cases a with
  | own a =>
    obtain ⟨hfree,h⟩ := Option.ite_none_right_eq_some.mp h
    obtain ⟨s',hs',rfl⟩ := Option.map_eq_some_iff.mp h
    refine hs.own ?_ hs'
    intro u (hu : mover a = some u)
    simpa [threads, hu] using hfree
  | perform u =>
    obtain ⟨method,hmethod,h⟩ := Option.bind_eq_some_iff.mp h
    obtain ⟨⟨r,rest⟩,hr,rfl⟩ := Option.map_eq_some_iff.mp h
    cases u with
    | none => exact hs.take hmethod hr
    | some producer =>
      obtain ⟨value,hvalue,rfl⟩ := Option.map_eq_some_iff.mp hmethod
      cases hr
      exact hs.push hvalue .none

/-- No loop takes from an empty queue. -/
theorem InOrder.defined {s : List V × QueueLoop P V} (hs : InOrder s) : Defined AtomicQueue threads s := by
  obtain ⟨queue_,s⟩ := s
  have hfront := hs.atFront
  intro u method hmethod
  cases u with
  | some producer =>
    obtain ⟨value,-,rfl⟩ := Option.map_eq_some_iff.mp hmethod
    rfl
  | none =>
    cases hconsumer : s.consumer with
    | waiting =>
      simp only [threads, call, hconsumer, Option.some.injEq] at hmethod
      subst hmethod
      rfl
    | taking | popping =>
      simp only [threads, call, hconsumer, Option.some.injEq] at hmethod
      subst hmethod
      rw [hconsumer] at hfront
      obtain ⟨value,rest,rfl : queue_ = value :: rest⟩ := List.exists_cons_of_ne_nil hfront
      rfl
    | handling value => simp [threads, call, hconsumer] at hmethod

theorem exec_inOrder {bs : List (AtomicAction (Option P) (LoopAction P V))} {s : List V × QueueLoop P V}
    (he : exec (atomicStep AtomicQueue threads) ([],init) bs = some s) : InOrder s :=
  exec_invariant .init (fun _ _ _ hs ht => hs.step ht) he

/-- The threads over the mutex and the condition variable. -/
abbrev Locked (P V : Type*) := State (Option P) (List V) (QueueMethod V) (QueueLoop P V)

/-- Whatever the threads do, in whatever order their steps come. -/
theorem exec_handled {as : List (Action (Option P) (LoopAction P V))} {s : Locked P V}
    (he : exec (Monitor.step AtomicQueue threads) (State.init [] init) as = some s) :
    s.clients.values = s.clients.handled ++ unhandled s.object s.clients.consumer ∧
      (∀ producer, s.clients.produced producer =
        s.clients.pushedBy producer ++ (s.clients.pending producer).toList) ∧
      ∀ u method seen, s.phase u = .writing method seen → (AtomicQueue.body method seen).isSome = true := by
  obtain ⟨bs,hbs,-⟩ := exec_refines he
  have hs := exec_inOrder hbs
  refine ⟨hs.values,hs.produced,?_⟩
  intro u method seen hu
  exact (exec_sound he).defined hs.defined hu

/-- Two producers push while the consumer waits, which handles the first value. -/
def twoProducers : List (Action (Option Bool) (LoopAction Bool ℕ)) :=
  [.enter none,.run none,.run none,.own (.produce true 1),.enter (some true),.run (some true),
    .own (.produce false 2),.enter (some false),.run (some true),.run (some true),.notify (some true) 0,
    .run (some true),.run (some false),.run (some false),.run (some false),.notify (some false) 0,.run (some false),
    .run none,.run none,.run none,.run none,.run none,
    .enter none,.run none,.run none,.run none,.run none,.own .handle]

theorem exec_handled_twoProducers :
    ∃ s, exec (Monitor.step AtomicQueue threads) (State.init [] init) twoProducers = some s ∧ s.clients.handled = [1] ∧
      s.clients.values = s.clients.handled ++ unhandled s.object s.clients.consumer ∧
      (∀ producer, s.clients.produced producer =
        s.clients.pushedBy producer ++ (s.clients.pending producer).toList) ∧
      ∀ u method seen, s.phase u = .writing method seen → (AtomicQueue.body method seen).isSome = true := by
  refine ⟨_,rfl,rfl,?_⟩
  exact exec_handled (show exec (Monitor.step AtomicQueue threads) (State.init [] init) twoProducers = some _ from rfl)

/-! ## Nothing is left behind -/

theorem threads_singleWaiter : SingleWaiter AtomicQueue (threads : Clients _ (QueueLoop P V) _ _ _) none := by
  apply singleWaiter_of_calls
  · intro s u hcall
    cases u with
    | none => rfl
    | some producer => simp [threads, call] at hcall
  · intro s u value hcall
    cases u with
    | none =>
      simp only [threads, call] at hcall
      split at hcall <;> cases hcall
    | some producer => simp [threads, call] at hcall

/-- Every step but that a producer comes up with a value, and a wake-up without a notification. -/
def drains : Action (Option P) (LoopAction P V) → Prop
  | .own .handle | .enter _ | .run _ | .notify _ _ => True
  | _ => False

/-- What was pushed is handled, and the consumer waits for more. -/
structure Drained (s : Locked P V) : Prop where
  object : s.object = []
  handled : s.clients.values = s.clients.handled
  producers : ∀ producer, s.phase (some producer) = .outside ∧ s.clients.pending producer = none
  consumer : s.phase none = .asleep .waitForValueWithTimeout

/-- How many steps a producer has left, where a notification makes up for those of the consumer. -/
def producerLeft : Phase (List V) (QueueMethod V) × Option V → ℕ
  | (.outside,pending) => pending.elim 0 fun _ => 70
  | (.leaving,pending) => pending.elim 0 (fun _ => 70) + 1
  | (.notifying,pending) => pending.elim 0 (fun _ => 70) + 66
  | (.writing _ _,_) => 67
  | (.reading _,_) => 68
  | (.locking _,_) => 69
  | _ => 0

/-- How many steps the consumer has left until it pops or sleeps. -/
def consumerLeft (isEmpty : Bool) : Consumer V → Phase (List V) (QueueMethod V) → ℕ
  | _,.notifying => 90
  | .popping,.writing _ _ => 1
  | .popping,.reading _ => 2
  | .popping,.locking _ => 3
  | .popping,.outside => 4
  | .popping,.leaving => 5
  | .handling _,.outside => 6
  | .handling _,.leaving => 7
  | .taking,.writing _ _ => 8
  | .taking,.reading _ => 9
  | .taking,.locking _ => 10
  | .taking,.outside => 11
  | .taking,.leaving => 12
  | .waiting,.writing _ _ => if isEmpty then 20 else 13
  | .waiting,.reading _ => if isEmpty then 21 else 14
  | .waiting,.testing _ timedOut => if timedOut then 22 else 15
  | .waiting,.waking _ timedOut => if timedOut then 23 else 16
  | .waiting,.locking _ => 17
  | .waiting,.outside => 18
  | .waiting,.leaving => 19
  | _,_ => 0

def producers (s : Locked P V) (producer : P) : Phase (List V) (QueueMethod V) × Option V :=
  (s.phase (some producer),s.clients.pending producer)

variable [Fintype P]

/-- The values that are not popped yet. -/
def unpopped (s : Locked P V) : ℕ :=
  (Finset.univ.sum fun producer => (s.clients.pending producer).elim 0 fun _ => 1) + s.object.length

def steps (s : Locked P V) : ℕ :=
  consumerLeft s.object.isEmpty s.clients.consumer (s.phase none) +
    Finset.univ.sum fun producer => producerLeft (producers s producer)

def rank (s : Locked P V) : ℕ ×ₗ ℕ := toLex (unpopped s,steps s)

omit [DecidableEq P] in
theorem rank_lt {s t : Locked P V} (hunpopped : unpopped t = unpopped s) (hsteps : steps t < steps s) :
    rank t < rank s :=
  Prod.Lex.toLex_lt_toLex.mpr (.inr ⟨hunpopped,hsteps⟩)

omit [Fintype P] in
theorem producers_move (s : Locked P V) (producer : P) (p : Phase (List V) (QueueMethod V)) :
    producers (s.move (some producer) p) = Function.update (producers s) producer (p,s.clients.pending producer) := by
  funext other
  by_cases hother : other = producer
  · subst hother
    simp [producers, State.move]
  · simp [producers, State.move, hother]

/-- A producer goes on, the queue being as it was. -/
theorem rank_producer {s t : Locked P V} {producer : P} {p : Phase (List V) (QueueMethod V)}
    (hphase : t.phase = (s.move (some producer) p).phase) (hobject : t.object = s.object)
    (hclients : t.clients = s.clients)
    (hlt : producerLeft (p,s.clients.pending producer) < producerLeft (producers s producer)) : rank t < rank s := by
  apply rank_lt
  · simp only [unpopped, hobject, hclients]
  · have hconsumer : t.phase none = s.phase none := by rw [hphase]; rfl
    have hproducers : producers t = Function.update (producers s) producer (p,s.clients.pending producer) := by
      rw [← producers_move]
      funext other
      simp only [producers, hphase, hclients, State.move]
    unfold steps
    rw [hobject, hclients, hconsumer, hproducers]
    exact Nat.add_lt_add_left (sum_update_lt hlt (Finset.mem_univ producer)) _

/-- The consumer goes on, the queue being as it was. -/
theorem rank_consumer {s t : Locked P V} {p : Phase (List V) (QueueMethod V)}
    (hphase : t.phase = (s.move none p).phase) (hobject : t.object = s.object)
    (hpending : t.clients.pending = s.clients.pending)
    (hlt : consumerLeft s.object.isEmpty t.clients.consumer p <
      consumerLeft s.object.isEmpty s.clients.consumer (s.phase none)) : rank t < rank s := by
  apply rank_lt
  · simp only [unpopped, hobject, hpending]
  · have hconsumer : t.phase none = p := by rw [hphase]; rfl
    have hproducers : producers t = producers s := by
      funext other
      simp only [producers, hphase, hpending, State.move]
      rfl
    unfold steps
    rw [hobject, hconsumer, hproducers]
    exact Nat.add_lt_add_right hlt _

omit [Fintype P] in
/-- Only the consumer waits. -/
theorem awaits_consumer {s : Locked P V} (hs : Sound AtomicQueue threads s) {u : Option P} {method : QueueMethod V}
    (h : (s.phase u).awaits = some method) :
    u = none ∧ s.clients.consumer = .waiting ∧ method = .waitForValueWithTimeout := by
  have hneeds := hs.awaits u method h
  have hcall := hs.called u method (Phase.method_of_awaits h)
  obtain rfl := threads_singleWaiter.single _ u method hcall hneeds
  simp only [threads, call] at hcall
  split at hcall <;> cases hcall <;> first | exact ⟨rfl,by assumption,rfl⟩ | cases hneeds

omit [Fintype P] in
/-- The call of a producer. -/
theorem called_producer {s : Locked P V} (hs : Sound AtomicQueue threads s) {producer : P} {method : QueueMethod V}
    (h : (s.phase (some producer)).method = some method) :
    ∃ value, s.clients.pending producer = some value ∧ method = .pushAndNotify value := by
  obtain ⟨value,hvalue,rfl⟩ := Option.map_eq_some_iff.mp (hs.called (some producer) method h)
  exact ⟨value,hvalue,rfl⟩

omit [DecidableEq P] [Fintype P] in
/-- Whether the queue is empty matters to the consumer when it has the mutex. -/
theorem consumerLeft_isEmpty {p : Phase (List V) (QueueMethod V)} (h : p.holds = false) (b b' : Bool)
    (consumer : Consumer V) : consumerLeft b consumer p = consumerLeft b' consumer p := by
  cases p <;> cases h <;> cases consumer <;> rfl

/-- The value of a producer comes into the queue. -/
theorem rank_push {s : Locked P V} (hs : Sound AtomicQueue threads s) {producer : P} {value : V} {seen : List V}
    (hat : s.phase (some producer) = .writing (.pushAndNotify value) seen)
    (hpending : s.clients.pending producer = some value) :
    rank ({ s with object := s.object ++ [value], clients := s.clients.resume (some producer) .none }.move
      (some producer) .notifying) < rank s := by
  have hheld : (s.phase (some producer)).holds = true := by rw [hat]; rfl
  have hconsumer : (s.phase none).holds = false := by
    apply Bool.eq_false_iff.mpr
    intro h
    exact hs.alone hheld (by rintro ⟨⟩) ((hs.mutex none).mpr h)
  apply rank_lt
  · have hsum := sum_update_add (fun pending => pending.elim 0 fun _ => 1) s.clients.pending none
      (Finset.mem_univ producer)
    simp only [hpending, Option.elim_some, Option.elim_none] at hsum
    simp only [unpopped, State.move, resume, List.length_append, List.length_singleton]
    omega
  · have hproducers : ∀ other, producers ({ s with
        object := s.object ++ [value], clients := s.clients.resume (some producer) .none }.move (some producer)
          .notifying) other = Function.update (producers s) producer (.notifying,none) other := by
      intro other
      by_cases hother : other = producer
      · subst hother
        simp [producers, State.move, resume]
      · simp [producers, State.move, resume, hother]
    have hlt : producerLeft ((.notifying,none) : Phase (List V) (QueueMethod V) × Option V) <
        producerLeft (producers s producer) := by
      simp [producers, hat, producerLeft]
    unfold steps
    simp only [hproducers]
    apply Nat.add_lt_add_of_le_of_lt _ (sum_update_lt hlt (Finset.mem_univ producer))
    exact (consumerLeft_isEmpty hconsumer _ _ _).le

/-- What the consumer called takes effect. -/
theorem rank_take {s : Locked P V} {method : QueueMethod V} {r : QueueResult V × List V}
    (hat : s.phase none = .writing method s.object) (hcall : s.clients.call none = some method)
    (h : AtomicQueue.body method s.object = some r) :
    rank ({ s with object := r.2, clients := s.clients.resume none r.1 }.move none .leaving) < rank s := by
  cases hconsumer : s.clients.consumer with
  | waiting =>
    simp only [call, hconsumer, Option.some.injEq] at hcall
    subst hcall
    cases h
    apply rank_consumer (s := s)
    · rfl
    · rfl
    · rfl
    · cases s.object <;> simp [State.move, resume, hat, hconsumer, consumerLeft]
  | taking =>
    simp only [call, hconsumer, Option.some.injEq] at hcall
    subst hcall
    cases hobject : s.object with
    | nil => rw [hobject] at h; cases h
    | cons value queue_ =>
      rw [hobject] at h
      cases h
      apply rank_consumer (s := s)
      · rfl
      · exact hobject.symm
      · rfl
      · simp [State.move, resume, hat, hconsumer, consumerLeft]
  | handling value => simp [call, hconsumer] at hcall
  | popping =>
    simp only [call, hconsumer, Option.some.injEq] at hcall
    subst hcall
    cases hobject : s.object with
    | nil => rw [hobject] at h; cases h
    | cons value queue_ =>
      rw [hobject] at h
      cases h
      apply Prod.Lex.toLex_lt_toLex.mpr
      refine .inl ?_
      simp only [unpopped, State.move, resume, hobject, List.length_cons]
      omega

theorem rank_write {s : Locked P V} (hs : Sound AtomicQueue threads s) {u : Option P} {method : QueueMethod V}
    {seen : List V} {r : QueueResult V × List V} (hat : s.phase u = .writing method seen)
    (h : AtomicQueue.body method seen = some r) :
    rank ({ s with object := r.2, clients := threads.resume s.clients u r.1 }.move u
      (if AtomicQueue.notifies method then .notifying else .leaving)) < rank s := by
  obtain rfl := hs.seen u method seen hat
  have hmethod : (s.phase u).method = some method := by rw [hat]; rfl
  cases u with
  | some producer =>
    obtain ⟨value,hvalue,rfl⟩ := called_producer hs hmethod
    cases h
    exact rank_push hs hat hvalue
  | none =>
    have hcall := hs.called none method hmethod
    have hquiet : AtomicQueue.notifies method = false := by
      simp only [threads, call] at hcall
      split at hcall <;> cases hcall <;> rfl
    simp only [hquiet]
    exact rank_take hat hcall h

theorem rank_step {s t : Locked P V} (hs : Sound AtomicQueue threads s) {a : Action (Option P) (LoopAction P V)}
    (h : Monitor.Step AtomicQueue threads s a t) (ha : drains a) : rank t < rank s := by
  cases h with
  | @own a c free h =>
    cases a with
    | produce producer value => cases ha
    | handle =>
      have hat := Phase.eq_outside (free none rfl).1
      simp only [threads, step] at h
      split at h <;> cases h
      rename_i value hconsumer
      apply rank_consumer (p := .outside)
      · rw [State.move, ← hat, Function.update_eq_self]
      · rfl
      · rfl
      · simp [hconsumer, hat, consumerLeft]
  | @enter u method hat h =>
    have hphase := Phase.eq_outside hat
    cases u with
    | none =>
      apply rank_consumer rfl rfl rfl
      rw [hphase]
      simp only [threads, call] at h
      split at h <;> cases h <;> rename_i hconsumer <;> simp [State.move, hconsumer, consumerLeft]
    | some producer =>
      obtain ⟨value,hvalue,rfl⟩ := Option.map_eq_some_iff.mp h
      apply rank_producer rfl rfl rfl
      simp [producers, hphase, hvalue, producerLeft]
  | @lock u method hat free =>
    have hmethod : (s.phase u).method = some method := by rw [hat]; rfl
    cases u with
    | none =>
      have hcall := hs.called none method hmethod
      apply rank_consumer rfl rfl rfl
      rw [hat]
      simp only [threads, call] at hcall
      split at hcall <;> cases hcall <;> rename_i hconsumer <;>
        simp [State.move, hconsumer, consumerLeft, Object.entered, AtomicQueue]
    | some producer =>
      obtain ⟨value,hvalue,rfl⟩ := called_producer hs hmethod
      apply rank_producer rfl rfl rfl
      simp [producers, hat, hvalue, producerLeft, Object.entered, AtomicQueue]
  | @pass u method timedOut hat h =>
    obtain ⟨rfl,hconsumer,rfl⟩ := awaits_consumer hs (by rw [hat]; rfl)
    apply rank_consumer rfl rfl rfl
    cases timedOut with
    | true => cases s.object <;> simp [hat, State.move, hconsumer, consumerLeft]
    | false =>
      have hready := h.resolve_left Bool.false_ne_true
      cases hobject : s.object with
      | nil => simp [hobject, Object.ready, AtomicQueue] at hready
      | cons value queue_ => simp [hat, State.move, hconsumer, consumerLeft]
  | @sleep u method hat h =>
    obtain ⟨rfl,hconsumer,rfl⟩ := awaits_consumer hs (by rw [hat]; rfl)
    apply rank_consumer rfl rfl rfl
    simp [hat, hconsumer, consumerLeft]
  | @relock u method timedOut hat free =>
    obtain ⟨rfl,hconsumer,rfl⟩ := awaits_consumer hs (by rw [hat]; rfl)
    apply rank_consumer rfl rfl rfl
    cases timedOut <;> simp [hat, State.move, hconsumer, consumerLeft]
  | @read u method hat =>
    have hmethod : (s.phase u).method = some method := by rw [hat]; rfl
    cases u with
    | none =>
      have hcall := hs.called none method hmethod
      apply rank_consumer rfl rfl rfl
      rw [hat]
      simp only [threads, call] at hcall
      split at hcall <;> cases hcall <;> rename_i hconsumer <;> simp [State.move, hconsumer, consumerLeft]
      split <;> decide
    | some producer =>
      obtain ⟨value,hvalue,rfl⟩ := called_producer hs hmethod
      apply rank_producer rfl rfl rfl
      simp [producers, hat, producerLeft]
  | write hat h => exact rank_write hs hat h
  | @unlock u hat =>
    cases u with
    | none =>
      apply rank_consumer rfl rfl rfl
      cases hconsumer : s.clients.consumer <;> simp [State.move, hconsumer, hat, consumerLeft]
    | some producer =>
      apply rank_producer rfl rfl rfl
      simp [producers, hat, producerLeft]
  | @notifyNone u i hat h =>
    cases u with
    | none =>
      apply rank_consumer rfl rfl rfl
      cases hconsumer : s.clients.consumer <;> simp [State.move, hconsumer, hat, consumerLeft]
    | some producer =>
      apply rank_producer rfl rfl rfl
      simp [producers, hat, producerLeft]
  | @notifyOne u w method i hat h sleeper =>
    have hasleep := Phase.eq_asleep ((hs.waiting w).mp h) sleeper
    obtain ⟨rfl,hconsumer,rfl⟩ := awaits_consumer hs sleeper
    cases u with
    | none => cases hat.symm.trans hasleep
    | some producer =>
      let woken : Locked P V :=
        { s with waiting := s.waiting.erase none }.move none (.waking .waitForValueWithTimeout false)
      have hsum := sum_update_add producerLeft (producers s) (.leaving,s.clients.pending producer)
        (Finset.mem_univ producer)
      have hnotifying : producerLeft (producers s producer) =
          producerLeft ((.leaving,s.clients.pending producer) : Phase (List V) (QueueMethod V) × Option V) + 65 := by
        simp only [producers, hat, producerLeft]
      have hasleepLeft : consumerLeft s.object.isEmpty s.clients.consumer (s.phase none) = 0 := by
        rw [hasleep, hconsumer]
        rfl
      have hwakingLeft : consumerLeft s.object.isEmpty s.clients.consumer
          ((woken.move (some producer) .leaving).phase none) = 16 := by
        rw [hconsumer]
        rfl
      have hproducers : producers (woken.move (some producer) .leaving) =
          Function.update (producers s) producer (.leaving,s.clients.pending producer) :=
        producers_move woken producer .leaving
      have hsteps : steps (woken.move (some producer) .leaving) < steps s := by
        unfold steps
        rw [hproducers, hasleepLeft]
        show consumerLeft s.object.isEmpty s.clients.consumer _ + _ < _
        rw [hwakingLeft]
        omega
      exact rank_lt (s := s) (t := woken.move (some producer) .leaving) rfl hsteps
  | wake hat => cases ha

omit [Fintype P] in
/-- As long as something is left there is a step. -/
theorem exists_drains {s : Locked P V} (hs : Sound AtomicQueue threads s) (hattentive : Attentive AtomicQueue s)
    (hinOrder : InOrder (s.object,s.clients)) (hleft : ¬Drained s) :
    ∃ a, drains a ∧ (Monitor.step AtomicQueue threads s a).isSome = true := by
  by_cases hrest : AtRest AtomicQueue s
  · by_cases hpending : ∃ producer, s.clients.pending producer ≠ none
    · obtain ⟨producer,hproducer⟩ := hpending
      obtain ⟨value,hvalue⟩ := Option.ne_none_iff_exists'.mp hproducer
      refine ⟨.enter (some producer),trivial,?_⟩
      rcases hrest (some producer) with hat | ⟨method,hat,-⟩
      · simp [Monitor.step, hat, Phase.isOutside, threads, call, hvalue]
      · have hawaits : (s.phase (some producer)).awaits = some method := by rw [hat]; rfl
        cases (awaits_consumer hs hawaits).1
    · push Not at hpending
      rcases hrest none with hat | ⟨method,hat,hready⟩
      · cases hconsumer : s.clients.consumer with
        | handling value =>
          refine ⟨.own .handle,trivial,?_⟩
          simp [Monitor.step, threads, mover, hat, Phase.isOutside, call, step, hconsumer]
        | _ =>
          refine ⟨.enter none,trivial,?_⟩
          simp [Monitor.step, hat, Phase.isOutside, threads, call, hconsumer]
      · -- the consumer waits at an empty queue
        have hawaits : (s.phase none).awaits = some method := by rw [hat]; rfl
        obtain ⟨-,hconsumer,rfl⟩ := awaits_consumer hs hawaits
        have hempty : s.object = [] := by
          simpa [Object.ready, AtomicQueue] using hready
        have hvalues := hinOrder.values
        simp only [hempty, hconsumer, unhandled, List.append_nil] at hvalues
        refine absurd ⟨hempty,hvalues,?_,hat⟩ hleft
        intro producer
        refine ⟨(hrest (some producer)).resolve_right ?_,hpending producer⟩
        rintro ⟨method,hmethod,-⟩
        have hwaits : (s.phase (some producer)).awaits = some method := by rw [hmethod]; rfl
        cases (awaits_consumer hs hwaits).1
  · obtain ⟨a,ha,hstep⟩ := exists_internal hs hattentive hinOrder.defined hrest
    refine ⟨a,?_,hstep⟩
    cases a <;> trivial

/-- When no producer comes up with anything more, everything that was pushed is handled in whatever order the
steps come, without any time limit having to end. -/
theorem exec_drains {as : List (Action (Option P) (LoopAction P V))} {s : Locked P V}
    (he : exec (Monitor.step AtomicQueue threads) (State.init [] init) as = some s) :
    Inevitable (Monitor.step AtomicQueue threads) (fun _ a => drains a) Drained s := by
  apply inevitable_of_rank (I := fun s =>
    ∃ as, exec (Monitor.step AtomicQueue threads) (State.init [] init) as = some s) rank ⟨as,he⟩
  · rintro s ⟨as,has⟩ hleft
    obtain ⟨hs,hattentive⟩ := exec_attentive threads_singleWaiter has
    obtain ⟨bs,hbs,-⟩ := exec_refines has
    obtain ⟨a,ha,hstep⟩ := exists_drains hs hattentive (exec_inOrder hbs) hleft
    obtain ⟨t,ht⟩ := Option.isSome_iff_exists.mp hstep
    exact ⟨a,t,ha,ht⟩
  · rintro s a t ⟨as,has⟩ - ha ht
    exact ⟨⟨as ++ [a],exec_concat_eq_some.mpr ⟨s,has,ht⟩⟩,rank_step (exec_sound has) (step_cases ht) ha⟩

theorem exec_drains_twoProducers :
    ∃ s, exec (Monitor.step AtomicQueue threads) (State.init [] init) twoProducers = some s ∧ s.object = [1,2] ∧
      Inevitable (Monitor.step AtomicQueue threads) (fun _ a => drains a) Drained s := by
  refine ⟨_,rfl,rfl,?_⟩
  exact exec_drains (show exec (Monitor.step AtomicQueue threads) (State.init [] init) twoProducers = some _ from rfl)

end QueueLoop

end ModuleGateway.Structures
