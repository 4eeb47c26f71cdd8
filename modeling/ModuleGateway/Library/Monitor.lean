import ModuleGateway.Library.Inevitable
import Mathlib.Data.Fintype.Basic

/-! # An object under a mutex

The methods of the object run under one mutex and share one condition variable. A method takes the mutex,
waits with a time limit until what it needs holds, if it needs anything, reads the object, writes it back,
notifies one waiting thread, if it does that, and gives the mutex back. Each of these is a step, and any other
thread can come in between. The threads that call the methods nevertheless get from them what they would get
if each method were a single step, and no notification is lost.
-/
namespace ModuleGateway.Monitor
open Execution

/-- What a method waits for, what it returns and makes of the object, `none` where that is undefined,
and whether it notifies. -/
structure Object (X M R : Type*) where
  needs : M → Option (X → Bool)
  body : M → X → Option (R × X)
  notifies : M → Bool

/-- The threads, with all that they have besides the object. A thread that is at a call goes on when it has
the result; any other step is of one thread or of none, and leaves the calls of the others as they are. -/
structure Clients (T C A M R : Type*) where
  call : C → T → Option M
  resume : C → T → R → C
  mover : A → Option T
  step : C → A → Option C
  call_resume : ∀ c t r u, u ≠ t → call (resume c t r) u = call c u
  call_step : ∀ c a c' t, step c a = some c' → mover a ≠ some t → call c' t = call c t

/-- Where a thread is in the method it calls. `writing` has the object as it was read, `waking` and
`testing` know whether the time limit has passed. -/
inductive Phase (X M : Type*) where
  | outside
  | locking (method : M)
  | testing (method : M) (timedOut : Bool)
  | asleep (method : M)
  | waking (method : M) (timedOut : Bool)
  | reading (method : M)
  | writing (method : M) (seen : X)
  | notifying
  | leaving

/-- `waiting` are the threads that the condition variable blocks. -/
structure State (T X M C : Type*) where
  object : X
  mutex : Option T
  waiting : List T
  phase : T → Phase X M
  clients : C

/-- A step of the clients, the begin of a call, the next step of a method, a notification of the `i`-th
waiting thread, or a wake-up without one. -/
inductive Action (T A : Type*) where
  | own (a : A)
  | enter (t : T)
  | run (t : T)
  | notify (t : T) (i : ℕ)
  | wake (t : T) (timedOut : Bool)

/-- A step of the clients, or a whole method. -/
inductive AtomicAction (T A : Type*) where
  | own (a : A)
  | perform (t : T)

variable {T X M R C A : Type*} [DecidableEq T] (object : Object X M R) (clients : Clients T C A M R)

namespace Object

/-- Whether the method can go on. -/
def ready (method : M) (x : X) : Bool := (object.needs method).all fun holds => holds x

/-- Behind the mutex. -/
def entered (method : M) : Phase X M :=
  if (object.needs method).isSome then .testing method false else .reading method

end Object

/-- Every method in one step. -/
def atomicStep (s : X × C) : AtomicAction T A → Option (X × C)
  | .own a =>
    if (clients.mover a).all fun t => (clients.call s.2 t).isNone then (clients.step s.2 a).map (Prod.mk s.1)
    else none
  | .perform t =>
    (clients.call s.2 t).bind fun method => (object.body method s.1).map fun r => (r.2,clients.resume s.2 t r.1)

namespace Phase

def isOutside : Phase X M → Bool
  | .outside => true
  | _ => false

/-- The thread has the mutex. -/
def holds : Phase X M → Bool
  | .testing _ _ | .reading _ | .writing _ _ | .notifying | .leaving => true
  | _ => false

def sleeps : Phase X M → Bool
  | .asleep _ => true
  | _ => false

/-- The method whose result is not there yet. -/
def method : Phase X M → Option M
  | .locking m | .testing m _ | .asleep m | .waking m _ | .reading m | .writing m _ => some m
  | _ => none

/-- The method that waits. -/
def awaits : Phase X M → Option M
  | .testing m _ | .asleep m | .waking m _ => some m
  | _ => none

theorem eq_outside {p : Phase X M} (h : p.isOutside = true) : p = .outside := by
  cases p <;> first | rfl | cases h

theorem eq_asleep {p : Phase X M} {m : M} (h : p.sleeps = true) (hm : p.awaits = some m) : p = .asleep m := by
  cases p <;> cases h
  cases hm
  rfl

theorem method_of_awaits {p : Phase X M} {m : M} (h : p.awaits = some m) : p.method = some m := by
  cases p <;> first | exact h | cases h

theorem awake_of_holds {p : Phase X M} (h : p.holds = true) : p.sleeps = false := by
  cases p <;> first | rfl | cases h

end Phase

namespace State

def init (x : X) (c : C) : State T X M C := ⟨x,none,[],fun _ => .outside,c⟩

def move (s : State T X M C) (t : T) (phase : Phase X M) : State T X M C :=
  { s with phase := Function.update s.phase t phase }

/-- The next step of the method that the thread is in. -/
def run (s : State T X M C) (t : T) : Option (State T X M C) :=
  match s.phase t with
  | .locking m => if s.mutex.isNone then some ({ s with mutex := some t }.move t (object.entered m)) else none
  | .testing m timedOut =>
    if timedOut || object.ready m s.object then some (s.move t (.reading m))
    else some ({ s with mutex := none, waiting := s.waiting ++ [t] }.move t (.asleep m))
  | .waking m timedOut =>
    if s.mutex.isNone then some ({ s with mutex := some t }.move t (.testing m timedOut)) else none
  | .reading m => some (s.move t (.writing m s.object))
  | .writing m seen =>
    (object.body m seen).map fun r =>
      { s with object := r.2, clients := clients.resume s.clients t r.1 }.move t
        (if object.notifies m then .notifying else .leaving)
  | .leaving => some ({ s with mutex := none }.move t .outside)
  | _ => none

/-- `notify_one`, which does nothing when no thread is waiting. -/
def notify (s : State T X M C) (t : T) (i : ℕ) : Option (State T X M C) :=
  match s.phase t,s.waiting with
  | .notifying,[] => some (s.move t .leaving)
  | .notifying,u :: us =>
    (u :: us)[i]?.bind fun woken =>
      (s.phase woken).awaits.map fun m =>
        ({ s with waiting := (u :: us).erase woken }.move woken (.waking m false)).move t .leaving
  | _,_ => none

/-- The end of the time limit, or a spurious wake-up. -/
def wake (s : State T X M C) (t : T) (timedOut : Bool) : Option (State T X M C) :=
  match s.phase t with
  | .asleep m => some ({ s with waiting := s.waiting.erase t }.move t (.waking m timedOut))
  | _ => none

end State

def step (s : State T X M C) : Action T A → Option (State T X M C)
  | .own a =>
    if (clients.mover a).all fun t => (s.phase t).isOutside && (clients.call s.clients t).isNone then
      (clients.step s.clients a).map fun clients => { s with clients }
    else none
  | .enter t =>
    if (s.phase t).isOutside then (clients.call s.clients t).map fun m => s.move t (.locking m) else none
  | .run t => s.run object clients t
  | .notify t i => s.notify t i
  | .wake t timedOut => s.wake t timedOut

/-! ## What a step can do -/

/-- One constructor for every kind of step. -/
inductive Step (s : State T X M C) : Action T A → State T X M C → Prop where
  | own {a : A} {c : C}
      (free : ∀ t, clients.mover a = some t → (s.phase t).isOutside = true ∧ clients.call s.clients t = none)
      (h : clients.step s.clients a = some c) : Step s (.own a) { s with clients := c }
  | enter {t : T} {m : M} (at_ : (s.phase t).isOutside = true) (h : clients.call s.clients t = some m) :
      Step s (.enter t) (s.move t (.locking m))
  | lock {t : T} {m : M} (at_ : s.phase t = .locking m) (free : s.mutex = none) :
      Step s (.run t) ({ s with mutex := some t }.move t (object.entered m))
  | pass {t : T} {m : M} {timedOut : Bool} (at_ : s.phase t = .testing m timedOut)
      (h : timedOut = true ∨ object.ready m s.object = true) : Step s (.run t) (s.move t (.reading m))
  | sleep {t : T} {m : M} (at_ : s.phase t = .testing m false) (h : object.ready m s.object = false) :
      Step s (.run t) ({ s with mutex := none, waiting := s.waiting ++ [t] }.move t (.asleep m))
  | relock {t : T} {m : M} {timedOut : Bool} (at_ : s.phase t = .waking m timedOut) (free : s.mutex = none) :
      Step s (.run t) ({ s with mutex := some t }.move t (.testing m timedOut))
  | read {t : T} {m : M} (at_ : s.phase t = .reading m) : Step s (.run t) (s.move t (.writing m s.object))
  | write {t : T} {m : M} {seen : X} {r : R × X} (at_ : s.phase t = .writing m seen) (h : object.body m seen = some r) :
      Step s (.run t) ({ s with object := r.2, clients := clients.resume s.clients t r.1 }.move t
        (if object.notifies m then .notifying else .leaving))
  | unlock {t : T} (at_ : s.phase t = .leaving) : Step s (.run t) ({ s with mutex := none }.move t .outside)
  | notifyNone {t : T} {i : ℕ} (at_ : s.phase t = .notifying) (h : s.waiting = []) :
      Step s (.notify t i) (s.move t .leaving)
  | notifyOne {t u : T} {m : M} {i : ℕ} (at_ : s.phase t = .notifying) (h : u ∈ s.waiting)
      (sleeper : (s.phase u).awaits = some m) :
      Step s (.notify t i) (({ s with waiting := s.waiting.erase u }.move u (.waking m false)).move t .leaving)
  | wake {t : T} {m : M} {timedOut : Bool} (at_ : s.phase t = .asleep m) :
      Step s (.wake t timedOut) ({ s with waiting := s.waiting.erase t }.move t (.waking m timedOut))

variable {object : Object X M R} {clients : Clients T C A M R} {s t : State T X M C}

theorem step_run {u : T} (h : s.run object clients u = some t) : Step object clients s (.run u) t := by
  unfold State.run at h
  split at h <;> rename_i hat
  · obtain ⟨hfree,rfl⟩ := Option.ite_some_none_eq_some.mp h
    exact .lock hat (Option.isNone_iff_eq_none.mp hfree)
  · split at h
    · rename_i hpass
      cases h
      exact .pass hat (Bool.or_eq_true_iff.mp hpass)
    · rename_i hsleep
      cases h
      obtain ⟨rfl,hready⟩ := Bool.or_eq_false_iff.mp (Bool.eq_false_iff.mpr hsleep)
      exact .sleep hat hready
  · obtain ⟨hfree,rfl⟩ := Option.ite_some_none_eq_some.mp h
    exact .relock hat (Option.isNone_iff_eq_none.mp hfree)
  · cases h
    exact .read hat
  · obtain ⟨r,hbody,rfl⟩ := Option.map_eq_some_iff.mp h
    exact .write hat hbody
  · cases h
    exact .unlock hat
  · cases h

theorem step_notify {u : T} {i : ℕ} (h : s.notify u i = some t) : Step object clients s (.notify u i) t := by
  unfold State.notify at h
  split at h
  · rename_i hat hwaiting
    cases h
    exact .notifyNone hat hwaiting
  · rename_i hat hwaiting
    obtain ⟨woken,hwoken,h⟩ := Option.bind_eq_some_iff.mp h
    obtain ⟨m,hm,rfl⟩ := Option.map_eq_some_iff.mp h
    rw [← hwaiting] at hwoken ⊢
    exact .notifyOne hat (List.mem_of_getElem? hwoken) hm
  · cases h

theorem step_cases {a : Action T A} (h : step object clients s a = some t) : Step object clients s a t := by
  cases a with
  | own a =>
    obtain ⟨hfree,h⟩ := Option.ite_none_right_eq_some.mp h
    obtain ⟨c,hc,rfl⟩ := Option.map_eq_some_iff.mp h
    refine .own ?_ hc
    intro u hu
    simpa [hu] using hfree
  | enter u =>
    obtain ⟨hat,h⟩ := Option.ite_none_right_eq_some.mp h
    obtain ⟨m,hm,rfl⟩ := Option.map_eq_some_iff.mp h
    exact .enter hat hm
  | run u => exact step_run h
  | notify u i => exact step_notify h
  | wake u timedOut =>
    simp only [Monitor.step, State.wake] at h
    split at h
    · cases h
      exact .wake ‹_›
    · cases h

/-! ## Mutual exclusion -/

/-- The thread that has the mutex is the one past it, and it is alone with the object. -/
structure Sound (object : Object X M R) (clients : Clients T C A M R) (s : State T X M C) : Prop where
  mutex : ∀ t, s.mutex = some t ↔ (s.phase t).holds = true
  seen : ∀ t m x, s.phase t = .writing m x → x = s.object
  called : ∀ t m, (s.phase t).method = some m → clients.call s.clients t = some m
  waiting : ∀ t, t ∈ s.waiting ↔ (s.phase t).sleeps = true
  nodup : s.waiting.Nodup
  awaits : ∀ t m, (s.phase t).awaits = some m → (object.needs m).isSome = true

omit [DecidableEq T] in
theorem Sound.init (x : X) (c : C) : Sound object clients (State.init x c : State T X M C) where
  mutex _ := by simp [State.init, Phase.holds]
  seen _ _ _ h := by cases h
  called _ _ h := by cases h
  waiting _ := by simp [State.init, Phase.sleeps]
  nodup := List.nodup_nil
  awaits _ _ h := by cases h

/-- A thread goes to another phase; what it changes beside it does not concern the others. -/
structure Moves (object : Object X M R) (clients : Clients T C A M R) (s : State T X M C) (u : T) (p : Phase X M)
    (t : State T X M C) : Prop where
  phase : t.phase = Function.update s.phase u p
  mutex : t.mutex = some u ↔ p.holds = true
  mutex_others : ∀ v, v ≠ u → (t.mutex = some v ↔ s.mutex = some v)
  seen : ∀ m x, p = .writing m x → x = t.object
  kept : t.object = s.object ∨ s.mutex = some u
  called : ∀ m, p.method = some m → clients.call t.clients u = some m
  called_others : ∀ v, v ≠ u → clients.call t.clients v = clients.call s.clients v
  waiting : u ∈ t.waiting ↔ p.sleeps = true
  waiting_others : ∀ v, v ≠ u → (v ∈ t.waiting ↔ v ∈ s.waiting)
  nodup : t.waiting.Nodup
  awaits : ∀ m, p.awaits = some m → (object.needs m).isSome = true

theorem Sound.moves (hs : Sound object clients s) {u : T} {p : Phase X M} (h : Moves object clients s u p t) :
    Sound object clients t := by
  have hself : t.phase u = p := by rw [h.phase, Function.update_self]
  have hothers : ∀ v, v ≠ u → t.phase v = s.phase v := fun v hv => by rw [h.phase, Function.update_of_ne hv]
  constructor
  · intro v
    by_cases hv : v = u
    · subst hv
      rw [hself]
      exact h.mutex
    · rw [hothers v hv, h.mutex_others v hv]
      exact hs.mutex v
  · intro v m x hwriting
    by_cases hv : v = u
    · subst hv
      exact h.seen m x (hself.symm.trans hwriting)
    · rw [hothers v hv] at hwriting
      have hmutex : s.mutex = some v := (hs.mutex v).mpr (by rw [hwriting]; rfl)
      rcases h.kept with hkept | hu
      · exact (hs.seen v m x hwriting).trans hkept.symm
      · exact absurd (Option.some.inj (hmutex.symm.trans hu)) hv
  · intro v m hm
    by_cases hv : v = u
    · subst hv
      exact h.called m (by rwa [hself] at hm)
    · rw [h.called_others v hv]
      exact hs.called v m (by rwa [hothers v hv] at hm)
  · intro v
    by_cases hv : v = u
    · subst hv
      rw [hself]
      exact h.waiting
    · rw [hothers v hv, h.waiting_others v hv]
      exact hs.waiting v
  · exact h.nodup
  · intro v m hm
    by_cases hv : v = u
    · subst hv
      exact h.awaits m (by rwa [hself] at hm)
    · exact hs.awaits v m (by rwa [hothers v hv] at hm)

omit [DecidableEq T] in
theorem Sound.mem_waiting (hs : Sound object clients s) {u : T} {p : Phase X M} (h : s.phase u = p)
    (hp : p.sleeps = false) : u ∉ s.waiting := by
  rw [hs.waiting u, h, hp]
  exact Bool.false_ne_true

/-- A thread that has the mutex and keeps it. -/
theorem Sound.moves_on (hs : Sound object clients s) {u : T} {p : Phase X M} (hheld : (s.phase u).holds = true)
    (hholds : p.holds = true) (hseen : ∀ m x, p = .writing m x → x = s.object)
    (hcalled : ∀ m, p.method = some m → (s.phase u).method = some m) (hawaits : p.awaits = none) :
    Moves object clients s u p (s.move u p) := by
  constructor
  · rfl
  · exact iff_of_true ((hs.mutex u).mpr hheld) hholds
  · exact fun _ _ => Iff.rfl
  · exact hseen
  · exact .inl rfl
  · exact fun m hm => hs.called u m (hcalled m hm)
  · exact fun _ _ => rfl
  · rw [Phase.awake_of_holds hholds]
    exact iff_of_false (hs.mem_waiting rfl (Phase.awake_of_holds hheld)) Bool.false_ne_true
  · exact fun _ _ => Iff.rfl
  · exact hs.nodup
  · intro m hm
    rw [hawaits] at hm
    cases hm

omit [DecidableEq T] in
theorem Sound.alone (hs : Sound object clients s) {u v : T} (hu : (s.phase u).holds = true) (hv : v ≠ u) :
    s.mutex ≠ some v := by
  intro h
  exact hv (Option.some.inj (h.symm.trans ((hs.mutex u).mpr hu)))

/-- A thread takes the mutex. -/
theorem Sound.moves_in (hs : Sound object clients s) {u : T} {p : Phase X M} (hfree : s.mutex = none)
    (hawake : (s.phase u).sleeps = false) (hholds : p.holds = true) (hwriting : ∀ m x, p ≠ .writing m x)
    (hcalled : ∀ m, p.method = some m → (s.phase u).method = some m)
    (hawaits : ∀ m, p.awaits = some m → (object.needs m).isSome = true) :
    Moves object clients s u p ({ s with mutex := some u }.move u p) := by
  constructor
  · rfl
  · exact iff_of_true rfl hholds
  · intro v hv
    rw [hfree]
    exact iff_of_false (fun h => hv (Option.some.inj h).symm) (by rintro ⟨⟩)
  · exact fun m x hp => absurd hp (hwriting m x)
  · exact .inl rfl
  · exact fun m hm => hs.called u m (hcalled m hm)
  · exact fun _ _ => rfl
  · rw [Phase.awake_of_holds hholds]
    exact iff_of_false (hs.mem_waiting rfl hawake) Bool.false_ne_true
  · exact fun _ _ => Iff.rfl
  · exact hs.nodup
  · exact hawaits

/-- A thread that does not have the mutex, and the others that wait. -/
theorem Sound.moves_outside (hs : Sound object clients s) {u : T} {p : Phase X M} {waiting : List T}
    (hheld : (s.phase u).holds = false) (hholds : p.holds = false)
    (hcalled : ∀ m, p.method = some m → clients.call s.clients u = some m)
    (hself : u ∈ waiting ↔ p.sleeps = true) (hothers : ∀ v, v ≠ u → (v ∈ waiting ↔ v ∈ s.waiting))
    (hnodup : waiting.Nodup) (hawaits : ∀ m, p.awaits = some m → (object.needs m).isSome = true) :
    Moves object clients s u p ({ s with waiting := waiting }.move u p) := by
  constructor
  · rfl
  · rw [hholds]
    exact iff_of_false (fun h => by simp [(hs.mutex u).mp h] at hheld) Bool.false_ne_true
  · exact fun _ _ => Iff.rfl
  · rintro m x rfl
    cases hholds
  · exact .inl rfl
  · exact hcalled
  · exact fun _ _ => rfl
  · exact hself
  · exact hothers
  · exact hnodup
  · exact hawaits

/-- A thread gives the mutex back. -/
theorem Sound.moves_out (hs : Sound object clients s) {u : T} {p : Phase X M} {waiting : List T}
    (hheld : (s.phase u).holds = true) (hholds : p.holds = false)
    (hcalled : ∀ m, p.method = some m → (s.phase u).method = some m)
    (hself : u ∈ waiting ↔ p.sleeps = true) (hothers : ∀ v, v ≠ u → (v ∈ waiting ↔ v ∈ s.waiting))
    (hnodup : waiting.Nodup) (hawaits : ∀ m, p.awaits = some m → (object.needs m).isSome = true) :
    Moves object clients s u p ({ s with mutex := none, waiting := waiting }.move u p) := by
  constructor
  · rfl
  · rw [hholds]
    exact iff_of_false (by rintro ⟨⟩) Bool.false_ne_true
  · intro v hv
    exact iff_of_false (by rintro ⟨⟩) (hs.alone hheld hv)
  · rintro m x rfl
    cases hholds
  · exact .inl rfl
  · exact fun m hm => hs.called u m (hcalled m hm)
  · exact fun _ _ => rfl
  · exact hself
  · exact hothers
  · exact hnodup
  · exact hawaits

/-- A waiting thread is woken up. -/
theorem Sound.moves_awake (hs : Sound object clients s) {u : T} {m : M} (timedOut : Bool) (h : s.phase u = .asleep m) :
    Moves object clients s u (.waking m timedOut)
      ({ s with waiting := s.waiting.erase u }.move u (.waking m timedOut)) := by
  apply hs.moves_outside
  · rw [h]; rfl
  · rfl
  · rintro _ ⟨⟩
    exact hs.called u m (by rw [h]; rfl)
  · exact iff_of_false hs.nodup.not_mem_erase Bool.false_ne_true
  · exact fun v hv => List.mem_erase_of_ne hv
  · exact hs.nodup.erase u
  · rintro _ ⟨⟩
    exact hs.awaits u m (by rw [h]; rfl)

/-- The thread that has the mutex writes the object. -/
theorem Sound.moves_write (hs : Sound object clients s) {u : T} {m : M} {seen : X} (h : s.phase u = .writing m seen)
    (r : R × X) : Moves object clients s u (if object.notifies m then .notifying else .leaving)
      ({ s with object := r.2, clients := clients.resume s.clients u r.1 }.move u
        (if object.notifies m then .notifying else .leaving)) := by
  have hheld : (s.phase u).holds = true := by rw [h]; rfl
  have hmutex := (hs.mutex u).mpr hheld
  have hwaiting : u ∉ s.waiting := hs.mem_waiting h rfl
  constructor
  · rfl
  · refine iff_of_true hmutex ?_
    split <;> rfl
  · exact fun _ _ => Iff.rfl
  · intro m x hp
    split at hp <;> cases hp
  · exact .inr hmutex
  · intro m hm
    split at hm <;> cases hm
  · exact fun v hv => clients.call_resume _ _ _ _ hv
  · refine iff_of_false hwaiting ?_
    split <;> exact Bool.false_ne_true
  · exact fun _ _ => Iff.rfl
  · exact hs.nodup
  · intro m hm
    split at hm <;> cases hm

theorem Object.entered_holds (m : M) : (object.entered m : Phase X M).holds = true := by
  unfold entered
  split <;> rfl

/-- Every step keeps it. -/
theorem Sound.step (hs : Sound object clients s) {a : Action T A} (h : Step object clients s a t) :
    Sound object clients t := by
  cases h with
  | @own a _ free h =>
    refine ⟨hs.mutex,hs.seen,?_,hs.waiting,hs.nodup,hs.awaits⟩
    intro u m (hm : (s.phase u).method = some m)
    by_cases hu : clients.mover a = some u
    · rw [Phase.eq_outside (free u hu).1] at hm
      cases hm
    · exact (clients.call_step _ _ _ u h hu).trans (hs.called u m hm)
  | @enter u m hat h =>
    have hphase := Phase.eq_outside hat
    apply hs.moves
    apply hs.moves_outside
    · rw [hphase]; rfl
    · rfl
    · rintro _ ⟨⟩
      exact h
    · exact iff_of_false (hs.mem_waiting hphase rfl) Bool.false_ne_true
    · exact fun _ _ => Iff.rfl
    · exact hs.nodup
    · rintro _ ⟨⟩
  | @lock u m hat free =>
    apply hs.moves
    apply hs.moves_in free
    · rw [hat]; rfl
    · exact Object.entered_holds m
    · intro _ _ h
      unfold Object.entered at h
      split at h <;> cases h
    · intro _ h
      rw [hat]
      unfold Object.entered at h
      split at h <;> exact h
    · intro _ h
      unfold Object.entered at h
      split at h
      · cases h
        assumption
      · cases h
  | pass hat h =>
    apply hs.moves
    apply hs.moves_on
    · rw [hat]; rfl
    · rfl
    · rintro _ _ ⟨⟩
    · rintro m hm
      rw [hat]
      exact hm
    · rfl
  | @sleep u m hat h =>
    have hwaiting := hs.mem_waiting hat rfl
    apply hs.moves
    apply hs.moves_out
    · rw [hat]; rfl
    · rfl
    · rintro _ ⟨⟩
      rw [hat]; rfl
    · exact iff_of_true (by simp) rfl
    · intro v hv
      simp [hv]
    · rw [← List.concat_eq_append]
      exact hs.nodup.concat hwaiting
    · rintro _ ⟨⟩
      exact hs.awaits u m (by rw [hat]; rfl)
  | @relock u m timedOut hat free =>
    apply hs.moves
    apply hs.moves_in free
    · rw [hat]; rfl
    · rfl
    · rintro _ _ ⟨⟩
    · rintro _ ⟨⟩
      rw [hat]; rfl
    · rintro _ ⟨⟩
      exact hs.awaits u m (by rw [hat]; rfl)
  | read hat =>
    apply hs.moves
    apply hs.moves_on
    · rw [hat]; rfl
    · rfl
    · rintro _ _ ⟨⟩
      rfl
    · rintro m hm
      rw [hat]
      exact hm
    · rfl
  | write hat h => exact hs.moves (hs.moves_write hat _)
  | unlock hat =>
    apply hs.moves
    apply hs.moves_out
    · rw [hat]; rfl
    · rfl
    · rintro _ ⟨⟩
    · exact iff_of_false (hs.mem_waiting hat rfl) Bool.false_ne_true
    · exact fun _ _ => Iff.rfl
    · exact hs.nodup
    · rintro _ ⟨⟩
  | notifyNone hat h =>
    apply hs.moves
    apply hs.moves_on
    · rw [hat]; rfl
    · rfl
    · rintro _ _ ⟨⟩
    · rintro m ⟨⟩
    · rfl
  | @notifyOne u v m _ hat h sleeper =>
    have hasleep := Phase.eq_asleep ((hs.waiting v).mp h) sleeper
    have hne : u ≠ v := by
      rintro rfl
      cases hat.symm.trans hasleep
    have hwoken := hs.moves (hs.moves_awake false hasleep)
    apply hwoken.moves
    have hphase : ({ s with waiting := s.waiting.erase v }.move v (.waking m false)).phase u = .notifying :=
      (Function.update_of_ne hne _ _).trans hat
    apply hwoken.moves_on
    · rw [hphase]; rfl
    · rfl
    · rintro _ _ ⟨⟩
    · rintro m ⟨⟩
    · rfl
  | wake hat => exact hs.moves (hs.moves_awake _ hat)

theorem exec_sound {x : X} {c : C} {as : List (Action T A)}
    (he : exec (step object clients) (State.init x c) as = some s) : Sound object clients s :=
  exec_invariant (.init x c) (fun _ _ _ hs ht => hs.step (step_cases ht)) he

/-! ## Each method as a single step -/

/-- A step is a step of the clients or a whole method, or changes nothing that the clients see. -/
theorem Step.refines (hs : Sound object clients s) {a : Action T A} (h : Step object clients s a t) :
    (t.object,t.clients) = (s.object,s.clients) ∨
      ∃ b, atomicStep object clients (s.object,s.clients) b = some (t.object,t.clients) ∧
        ∀ a', b = .own a' → a = .own a' := by
  cases h with
  | @own a c free h =>
    refine .inr ⟨.own a,?_,by rintro _ ⟨⟩; rfl⟩
    have hfree : ((clients.mover a).all fun u => (clients.call s.clients u).isNone) = true := by
      cases hmover : clients.mover a with
      | none => rfl
      | some u => simp [(free u hmover).2]
    simp only [atomicStep, hfree, h, if_true, Option.map_some]
  | @write u m seen r hat h =>
    refine .inr ⟨.perform u,?_,by rintro _ ⟨⟩⟩
    have hcall := hs.called u m (by rw [hat]; rfl)
    rw [hs.seen u m seen hat] at h
    simp only [atomicStep, hcall, h, Option.bind_some, Option.map_some, State.move]
  | _ => exact .inl rfl

/-- What the threads do over the mutex they do over the object itself, with the same steps of their own. -/
theorem exec_refines {x : X} {c : C} {as : List (Action T A)}
    (he : exec (step object clients) (State.init x c) as = some s) :
    ∃ bs, exec (atomicStep object clients) (x,c) bs = some (s.object,s.clients) ∧
      ∀ a, AtomicAction.own a ∈ bs → Action.own a ∈ as := by
  refine (exec_history_invariant (I := fun as s => Sound object clients s ∧
    ∃ bs, exec (atomicStep object clients) (x,c) bs = some (s.object,s.clients) ∧
      ∀ a, AtomicAction.own a ∈ bs → Action.own a ∈ as) ?_ ?_ (guarded_true _ as) he).2
  · exact ⟨.init x c,[],rfl,by rintro _ ⟨⟩⟩
  · rintro as s a t ⟨hs,bs,hbs,hown⟩ - ht
    have hstep := step_cases ht
    refine ⟨hs.step hstep,?_⟩
    rcases hstep.refines hs with hsame | ⟨b,hb,hfrom⟩
    · exact ⟨bs,hsame.symm ▸ hbs,fun a ha => List.mem_append_left _ (hown a ha)⟩
    · refine ⟨bs ++ [b],exec_concat_eq_some.mpr ⟨_,hbs,hb⟩,?_⟩
      intro a ha
      rcases List.mem_append.mp ha with ha | ha
      · exact List.mem_append_left _ (hown a ha)
      · rw [hfrom a (List.mem_singleton.mp ha).symm]
        exact List.mem_append_right _ (List.mem_singleton_self _)

/-- No call meets an object for which its method is undefined. -/
def Defined (object : Object X M R) (clients : Clients T C A M R) (s : X × C) : Prop :=
  ∀ t m, clients.call s.2 t = some m → (object.body m s.1).isSome = true

omit [DecidableEq T] in
/-- Then no method is undefined for what it has read. -/
theorem Sound.defined (hs : Sound object clients s) (hdefined : Defined object clients (s.object,s.clients)) {u : T}
    {m : M} {seen : X} (h : s.phase u = .writing m seen) : (object.body m seen).isSome = true := by
  rw [hs.seen u m seen h]
  exact hdefined u m (hs.called u m (by rw [h]; rfl))

/-! ## No notification is lost -/

/-- One thread waits, with methods that do not notify, and whatever lets it go on notifies. -/
structure SingleWaiter (object : Object X M R) (clients : Clients T C A M R) (waiter : T) : Prop where
  single : ∀ c t m, clients.call c t = some m → (object.needs m).isSome = true → t = waiter
  quiet : ∀ m, (object.needs m).isSome = true → object.notifies m = false
  signals : ∀ c t m x r awaited, clients.call c t = some m → object.body m x = some r →
    (object.needs awaited).isSome = true → object.ready awaited x = false → object.ready awaited r.2 = true →
      object.notifies m = true

/-- Whoever sleeps although it could go on is about to be notified. -/
def Attentive (object : Object X M R) (s : State T X M C) : Prop :=
  ∀ u m, s.phase u = .asleep m → object.ready m s.object = true → ∃ v, s.phase v = .notifying

omit [DecidableEq T] in
theorem SingleWaiter.asleep {waiter : T} (hclients : SingleWaiter object clients waiter) (hs : Sound object clients s)
    {u : T} {m : M} (h : s.phase u = .asleep m) : u = waiter :=
  hclients.single s.clients u m (hs.called u m (by rw [h]; rfl)) (hs.awaits u m (by rw [h]; rfl))

theorem State.phase_move (s : State T X M C) (u : T) (p : Phase X M) (v : T) :
    (s.move u p).phase v = if v = u then p else s.phase v :=
  Function.update_apply s.phase u p v

/-- A thread that is not about to notify goes on and does not begin to sleep. -/
theorem Attentive.moves (hattentive : Attentive object s) {u : T} {p : Phase X M}
    (hphase : t.phase = Function.update s.phase u p) (hobject : t.object = s.object) (hbefore : s.phase u ≠ .notifying)
    (hasleep : ∀ m, p = .asleep m → object.ready m s.object = false) : Attentive object t := by
  intro v m hv hready
  rw [hobject] at hready
  by_cases hvu : v = u
  · subst hvu
    rw [hphase, Function.update_self] at hv
    rw [hasleep m hv] at hready
    cases hready
  · rw [hphase, Function.update_of_ne hvu] at hv
    obtain ⟨w,hw⟩ := hattentive v m hv hready
    refine ⟨w,?_⟩
    rw [hphase, Function.update_of_ne ?_]
    · exact hw
    · rintro rfl
      exact hbefore hw

theorem Attentive.step {waiter : T} (hclients : SingleWaiter object clients waiter) (hs : Sound object clients s)
    (hattentive : Attentive object s) {a : Action T A} (h : Step object clients s a t) : Attentive object t := by
  cases h with
  | own free h => exact hattentive
  | @enter u m hat h =>
    apply hattentive.moves
    · rfl
    · rfl
    · rw [Phase.eq_outside hat]
      rintro ⟨⟩
    · rintro _ ⟨⟩
  | @lock u m hat free =>
    apply hattentive.moves
    · rfl
    · rfl
    · rw [hat]
      rintro ⟨⟩
    · intro _ h
      unfold Object.entered at h
      split at h <;> cases h
  | @sleep u m hat h =>
    apply hattentive.moves
    · rfl
    · rfl
    · rw [hat]
      rintro ⟨⟩
    · rintro _ ⟨⟩
      exact h
  | pass hat h | relock hat free | read hat | unlock hat =>
    apply hattentive.moves
    · rfl
    · rfl
    · rw [hat]
      rintro ⟨⟩
    · rintro _ ⟨⟩
  | @write u m seen r hat h =>
    intro v awaited hv hready
    have hne : v ≠ u := by
      rintro rfl
      rw [State.phase_move, if_pos rfl] at hv
      split at hv <;> cases hv
    rw [State.phase_move, if_neg hne] at hv
    rw [hs.seen u m seen hat] at h
    cases hbefore : object.ready awaited s.object with
    | true =>
      -- the thread that is about to notify would have the mutex beside the one that writes
      obtain ⟨w,hw⟩ := hattentive v awaited hv hbefore
      have hheld : (s.phase w).holds = true := by rw [hw]; rfl
      have hwriter : s.mutex = some u := (hs.mutex u).mpr (by rw [hat]; rfl)
      obtain rfl : w = u := by
        by_contra hwu
        exact hs.alone hheld (Ne.symm hwu) hwriter
      cases hw.symm.trans hat
    | false =>
      have hcall := hs.called u m (by rw [hat]; rfl)
      have hneeds := hs.awaits v awaited (by rw [hv]; rfl)
      refine ⟨u,?_⟩
      rw [State.phase_move, if_pos rfl, if_pos (hclients.signals _ u m _ r awaited hcall h hneeds hbefore hready)]
  | @notifyNone u i hat h =>
    intro v awaited hv hready
    have hne : v ≠ u := by
      rintro rfl
      rw [State.phase_move, if_pos rfl] at hv
      cases hv
    rw [State.phase_move, if_neg hne] at hv
    have hmem := (hs.waiting v).mpr (by rw [hv]; rfl)
    rw [h] at hmem
    cases hmem
  | @notifyOne u w m i hat h sleeper =>
    intro v awaited hv hready
    rw [State.phase_move] at hv
    split at hv
    · cases hv
    · rw [State.phase_move] at hv
      split at hv
      · cases hv
      · rename_i hvw
        have hasleep := Phase.eq_asleep ((hs.waiting w).mp h) sleeper
        exact absurd ((hclients.asleep hs hv).trans (hclients.asleep hs hasleep).symm) hvw
  | @wake u m timedOut hat =>
    intro v awaited hv hready
    rw [State.phase_move] at hv
    split at hv
    · cases hv
    · rename_i hvu
      exact absurd ((hclients.asleep hs hv).trans (hclients.asleep hs hat).symm) hvu

theorem exec_attentive {waiter : T} (hclients : SingleWaiter object clients waiter) {x : X} {c : C}
    {as : List (Action T A)} (he : exec (step object clients) (State.init x c) as = some s) :
    Sound object clients s ∧ Attentive object s := by
  apply exec_invariant (I := fun s => Sound object clients s ∧ Attentive object s) ?_ ?_ he
  · exact ⟨.init x c,by rintro _ _ ⟨⟩⟩
  · rintro s a t ⟨hs,hattentive⟩ ht
    have hstep := step_cases ht
    exact ⟨hs.step hstep,hattentive.step hclients hs hstep⟩

/-! ## Every call comes to its end -/

/-- The steps of the methods, the others being the begin of a call, a step of the clients, the end of a time
limit and a spurious wake-up. -/
def Action.Internal : Action T A → Prop
  | .run _ | .notify _ _ => True
  | _ => False

/-- Every call has returned, or waits for what does not hold. -/
def AtRest (object : Object X M R) (s : State T X M C) : Prop :=
  ∀ u, s.phase u = .outside ∨ ∃ m, s.phase u = .asleep m ∧ object.ready m s.object = false

namespace Phase

/-- How many steps are left; a notification makes up for those of the thread that it wakes. -/
def left (object : Object X M R) : Phase X M → ℕ
  | .outside | .asleep _ => 0
  | .leaving => 1
  | .writing m _ => if object.notifies m then 8 else 2
  | .reading m => if object.notifies m then 9 else 3
  | .testing _ _ => 4
  | .waking _ _ => 5
  | .notifying => 7
  | .locking _ => 10

end Phase

def rank [Fintype T] (object : Object X M R) (s : State T X M C) : ℕ :=
  Finset.univ.sum fun u => (s.phase u).left object

theorem rank_move [Fintype T] (object : Object X M R) {u : T} {p : Phase X M}
    (hphase : t.phase = Function.update s.phase u p) :
    rank object t + (s.phase u).left object = rank object s + p.left object := by
  unfold rank
  rw [hphase]
  exact sum_update_add _ _ _ (Finset.mem_univ u)

theorem rank_move_lt [Fintype T] {u : T} {p : Phase X M} (hphase : t.phase = Function.update s.phase u p)
    (hlt : p.left object < (s.phase u).left object) : rank object t < rank object s := by
  have := rank_move object hphase
  omega

theorem Step.rank_lt [Fintype T] {waiter : T} (hclients : SingleWaiter object clients waiter)
    (hs : Sound object clients s) {a : Action T A} (h : Step object clients s a t) (ha : a.Internal) :
    rank object t < rank object s := by
  cases h with
  | own free h | enter hat h | wake hat => cases ha
  | @lock u m hat free =>
    apply rank_move_lt rfl
    rw [hat]
    unfold Object.entered
    cases hnotifies : object.notifies m <;> split <;> simp [Phase.left, hnotifies]
  | @pass u m timedOut hat h =>
    apply rank_move_lt rfl
    rw [hat]
    simp [Phase.left, hclients.quiet m (hs.awaits u m (by rw [hat]; rfl))]
  | @read u m hat | @write u m seen r hat h =>
    apply rank_move_lt rfl
    rw [hat]
    cases hnotifies : object.notifies m <;> simp [Phase.left, hnotifies]
  | @notifyOne u w m i hat h sleeper =>
    have hasleep := Phase.eq_asleep ((hs.waiting w).mp h) sleeper
    have hne : u ≠ w := by
      rintro rfl
      cases hat.symm.trans hasleep
    let woken := { s with waiting := s.waiting.erase w }.move w (.waking m false)
    have hnotifying : woken.phase u = .notifying := (Function.update_of_ne hne _ _).trans hat
    have hwoken : rank object woken + 0 = rank object s + 5 := by
      have h := rank_move object (s := s) (t := woken) rfl
      rwa [hasleep] at h
    have hleft : rank object (woken.move u .leaving) + 7 = rank object woken + 1 := by
      have h := rank_move object (s := woken) (t := woken.move u .leaving) rfl
      rwa [hnotifying] at h
    show rank object (woken.move u .leaving) < _
    omega
  | _ =>
    apply rank_move_lt rfl
    rw [‹s.phase _ = _›]
    simp [Phase.left]

/-- The thread that has the mutex has a step. -/
theorem Sound.goes_on (hs : Sound object clients s) (hdefined : Defined object clients (s.object,s.clients)) {u : T}
    (hheld : (s.phase u).holds = true) :
    ∃ a : Action T A, a.Internal ∧ (Monitor.step object clients s a).isSome = true := by
  cases hphase : s.phase u with
  | testing m timedOut =>
    refine ⟨.run u,trivial,?_⟩
    simp only [Monitor.step, State.run, hphase]
    split <;> rfl
  | reading m => exact ⟨.run u,trivial,by simp only [Monitor.step, State.run, hphase, Option.isSome_some]⟩
  | writing m seen =>
    have hbody := hs.defined hdefined hphase
    exact ⟨.run u,trivial,by simp only [Monitor.step, State.run, hphase, Option.isSome_map, hbody]⟩
  | leaving => exact ⟨.run u,trivial,by simp only [Monitor.step, State.run, hphase, Option.isSome_some]⟩
  | notifying =>
    refine ⟨.notify u 0,trivial,?_⟩
    cases hwaiting : s.waiting with
    | nil => simp only [Monitor.step, State.notify, hphase, hwaiting, Option.isSome_some]
    | cons w ws =>
      have hsleeps := (hs.waiting w).mp (by rw [hwaiting]; exact List.mem_cons_self)
      cases hw : s.phase w <;> rw [hw] at hsleeps <;> cases hsleeps
      simp only [Monitor.step, State.notify, hphase, hwaiting, List.getElem?_cons_zero, Option.bind_some, hw,
        Phase.awaits, Option.map_some, Option.isSome_some]
  | _ => rw [hphase] at hheld; cases hheld

/-- As long as a call is not at its end, some method has a step. -/
theorem exists_internal (hs : Sound object clients s) (hattentive : Attentive object s)
    (hdefined : Defined object clients (s.object,s.clients)) (hrest : ¬AtRest object s) :
    ∃ a : Action T A, a.Internal ∧ (Monitor.step object clients s a).isSome = true := by
  cases hmutex : s.mutex with
  | some u => exact hs.goes_on hdefined ((hs.mutex u).mp hmutex)
  | none =>
    obtain ⟨u,hu⟩ := not_forall.mp hrest
    cases hphase : s.phase u with
    | outside => exact absurd (.inl hphase) hu
    | locking m =>
      refine ⟨.run u,trivial,?_⟩
      simp only [Monitor.step, State.run, hphase, hmutex, Option.isNone_none, if_true, Option.isSome_some]
    | waking m timedOut =>
      refine ⟨.run u,trivial,?_⟩
      simp only [Monitor.step, State.run, hphase, hmutex, Option.isNone_none, if_true, Option.isSome_some]
    | asleep m =>
      cases hready : object.ready m s.object with
      | false => exact absurd (.inr ⟨m,hphase,hready⟩) hu
      | true =>
        obtain ⟨v,hv⟩ := hattentive u m hphase hready
        exact hs.goes_on (u := v) hdefined (by rw [hv]; rfl)
    | _ => exact hs.goes_on (u := u) hdefined (by rw [hphase]; rfl)

/-- Whatever the order of the steps, every call comes to its end. -/
theorem exec_atRest [Fintype T] {waiter : T} (hclients : SingleWaiter object clients waiter) {x : X} {c : C}
    (hdefined : ∀ bs y, exec (atomicStep object clients) (x,c) bs = some y → Defined object clients y)
    {as : List (Action T A)} (he : exec (step object clients) (State.init x c) as = some s) :
    Inevitable (step object clients) (fun _ a => a.Internal) (AtRest object) s := by
  apply inevitable_of_rank (I := fun s => ∃ as, exec (step object clients) (State.init x c) as = some s)
    (rank object) ⟨as,he⟩
  · rintro s ⟨as,has⟩ hrest
    obtain ⟨hs,hattentive⟩ := exec_attentive hclients has
    obtain ⟨bs,hbs,-⟩ := exec_refines has
    obtain ⟨a,ha,hmoves⟩ := exists_internal hs hattentive (hdefined bs _ hbs) hrest
    obtain ⟨t,ht⟩ := Option.isSome_iff_exists.mp hmoves
    exact ⟨a,t,ha,ht⟩
  · rintro s a t ⟨as,has⟩ - ha ht
    exact ⟨⟨as ++ [a],exec_concat_eq_some.mpr ⟨s,has,ht⟩⟩,(step_cases ht).rank_lt hclients (exec_sound has) ha⟩

end ModuleGateway.Monitor
