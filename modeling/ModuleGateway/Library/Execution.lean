import Mathlib.Data.Option.Basic
import Mathlib.Data.List.Induction

/-! # Executions of deterministic partial step functions

An action carries every choice of the environment and of the schedule, so a run
is a list of actions. `none` is a disabled action. Invariants may speak of the
history, the list of actions already taken, so that specifications computed from
the history need no extra state component.
-/
namespace ModuleGateway.Execution

variable {σ τ α : Type*}

/-- The state after a list of actions, `none` as soon as one is disabled. -/
def exec (step : σ → α → Option σ) : σ → List α → Option σ
  | s, [] => some s
  | s, a :: as => (step s a).bind fun t => exec step t as

/-- Every action of the run meets `guard` in the state in which it is taken. -/
def Guarded (step : σ → α → Option σ) (guard : σ → α → Prop) : σ → List α → Prop
  | _, [] => True
  | s, a :: as => guard s a ∧ ∀ t, step s a = some t → Guarded step guard t as

instance decidableGuarded (step : σ → α → Option σ) (guard : σ → α → Prop)
    [∀ s a, Decidable (guard s a)] : ∀ s as, Decidable (Guarded step guard s as)
  | _, [] => .isTrue trivial
  | s, a :: as =>
    match h : step s a with
    | none => decidable_of_iff (guard s a) (by simp [Guarded, h])
    | some t =>
      have := decidableGuarded step guard t as
      decidable_of_iff (guard s a ∧ Guarded step guard t as) (by simp [Guarded, h])

variable {step : σ → α → Option σ} {guard : σ → α → Prop}

@[simp] theorem exec_nil (s : σ) : exec step s [] = some s := rfl

theorem exec_cons_eq_some {s u : σ} {a : α} {as : List α} :
    exec step s (a :: as) = some u ↔ ∃ t, step s a = some t ∧ exec step t as = some u := by
  simp only [exec, Option.bind_eq_some_iff]

theorem exec_append_eq_some {s u : σ} {as bs : List α} :
    exec step s (as ++ bs) = some u ↔ ∃ t, exec step s as = some t ∧ exec step t bs = some u := by
  induction as generalizing s with
  | nil => simp
  | cons a as ih =>
    simp only [List.cons_append, exec_cons_eq_some, ih]
    constructor
    · rintro ⟨t, hs, v, hv, hu⟩
      exact ⟨v, ⟨t, hs, hv⟩, hu⟩
    · rintro ⟨v, ⟨t, hs, hv⟩, hu⟩
      exact ⟨t, hs, v, hv, hu⟩

theorem exec_concat_eq_some {s u : σ} {a : α} {as : List α} :
    exec step s (as ++ [a]) = some u ↔ ∃ t, exec step s as = some t ∧ step t a = some u := by
  simp only [exec_append_eq_some, exec_cons_eq_some, exec_nil, Option.some.injEq, exists_eq_right]

/-- A map that every step commutes with takes runs to runs. -/
theorem exec_map {step' : τ → α → Option τ} (f : σ → τ) (h : ∀ s a, (step s a).map f = step' (f s) a)
    (s : σ) (as : List α) : (exec step s as).map f = exec step' (f s) as := by
  induction as generalizing s with
  | nil => rfl
  | cons a as ih =>
    rw [exec, exec, ← h, Option.map_bind, Option.bind_map]
    exact congrArg (step s a).bind (funext ih)

theorem Guarded.cons {s t : σ} {a : α} {as : List α} (ha : guard s a) (hs : step s a = some t)
    (h : Guarded step guard t as) : Guarded step guard s (a :: as) := by
  refine ⟨ha,fun u hu => ?_⟩
  obtain rfl : t = u := Option.some.inj (hs.symm.trans hu)
  exact h

theorem guarded_append {s t : σ} {as bs : List α} (h : Guarded step guard s (as ++ bs))
    (he : exec step s as = some t) : Guarded step guard s as ∧ Guarded step guard t bs := by
  induction as generalizing s with
  | nil =>
    obtain rfl : s = t := Option.some.inj he
    exact ⟨trivial, h⟩
  | cons a as ih =>
    obtain ⟨u, hu, hr⟩ := exec_cons_eq_some.mp he
    have hrest := ih (h.2 u hu) hr
    refine ⟨⟨h.1, fun v hv => ?_⟩, hrest.2⟩
    obtain rfl : u = v := Option.some.inj (hu.symm.trans hv)
    exact hrest.1

theorem Guarded.of_append {s t : σ} {as bs : List α} (h : Guarded step guard s (as ++ bs))
    (he : exec step s as = some t) : Guarded step guard s as := (guarded_append h he).1

theorem Guarded.last {s t : σ} {a : α} {as : List α} (h : Guarded step guard s (as ++ [a]))
    (he : exec step s as = some t) : guard t a := (guarded_append h he).2.1

theorem Guarded.and_mem {p : α → Prop} {s : σ} {as : List α} (h : Guarded step guard s as)
    (hp : ∀ a ∈ as, p a) : Guarded step (fun s a => guard s a ∧ p a) s as := by
  induction as generalizing s with
  | nil => trivial
  | cons a as ih =>
    exact ⟨⟨h.1,hp a List.mem_cons_self⟩,fun t ht => ih (h.2 t ht) fun b hb => hp b (List.mem_cons_of_mem a hb)⟩

theorem guarded_of_forall_mem {s : σ} {as : List α} (h : ∀ a ∈ as, ∀ s, guard s a) :
    Guarded step guard s as := by
  induction as generalizing s with
  | nil => trivial
  | cons a as ih =>
    exact ⟨h a List.mem_cons_self s,fun _ _ => ih fun b hb => h b (List.mem_cons_of_mem a hb)⟩

theorem guarded_concat_iff {s t : σ} {a : α} {as : List α} (he : exec step s as = some t) :
    Guarded step guard s (as ++ [a]) ↔ Guarded step guard s as ∧ guard t a := by
  induction as generalizing s with
  | nil =>
    obtain rfl : s = t := Option.some.inj he
    exact ⟨fun h => ⟨trivial,h.1⟩,fun h => ⟨h.2,fun _ _ => trivial⟩⟩
  | cons b as ih =>
    obtain ⟨u,hu,hr⟩ := exec_cons_eq_some.mp he
    rw [List.cons_append]
    constructor
    · intro h
      obtain ⟨hrest,ha⟩ := (ih hr).mp (h.2 u hu)
      exact ⟨.cons h.1 hu hrest,ha⟩
    · rintro ⟨h,ha⟩
      exact .cons h.1 hu ((ih hr).mpr ⟨h.2 u hu,ha⟩)

/-- Two guards that agree on the actions that are enabled. -/
theorem guarded_congr {guard' : σ → α → Prop} (h : ∀ s a t, step s a = some t → (guard s a ↔ guard' s a))
    {s t : σ} {as : List α} (he : exec step s as = some t) :
    Guarded step guard s as ↔ Guarded step guard' s as := by
  induction as generalizing s with
  | nil => exact Iff.rfl
  | cons a as ih =>
    obtain ⟨u,hu,hr⟩ := exec_cons_eq_some.mp he
    constructor
    · intro hg
      exact .cons ((h s a u hu).mp hg.1) hu ((ih hr).mp (hg.2 u hu))
    · intro hg
      exact .cons ((h s a u hu).mpr hg.1) hu ((ih hr).mpr (hg.2 u hu))

/-- A run is guarded when every action of it is, in the state that its prefix leads to. -/
theorem guarded_iff_forall_split {s : σ} {as : List α} : Guarded step guard s as ↔
    ∀ bs a cs t, as = bs ++ a :: cs → exec step s bs = some t → guard t a := by
  constructor
  · rintro h bs a cs t rfl ht
    exact (guarded_append h ht).2.1
  · intro h
    induction as generalizing s with
    | nil => trivial
    | cons a as ih =>
      refine ⟨h [] a as s rfl rfl,fun t ht => ih fun bs b cs u has hu => ?_⟩
      exact h (a :: bs) b cs u (by rw [has, List.cons_append]) (exec_cons_eq_some.mpr ⟨t,ht,hu⟩)

/-- A run is guarded when every state of it is good, and no step between good states breaks the guard. -/
theorem guarded_of_forall_prefix {P : σ → Prop} {s₀ s : σ} {as : List α} (he : exec step s₀ as = some s)
    (hall : ∀ bs t, bs <+: as → exec step s₀ bs = some t → P t)
    (hstep : ∀ bs s a t, exec step s₀ bs = some s → step s a = some t → P s → P t → guard s a) :
    Guarded step guard s₀ as := by
  refine guarded_iff_forall_split.mpr ?_
  rintro bs a cs t rfl ht
  obtain ⟨u,hu,hrest⟩ := exec_append_eq_some.mp he
  obtain rfl : t = u := Option.some.inj (ht.symm.trans hu)
  obtain ⟨v,hv,-⟩ := exec_cons_eq_some.mp hrest
  have hprefix : bs ++ [a] <+: bs ++ a :: cs := ⟨cs,by simp⟩
  have hafter := hall _ v hprefix (exec_concat_eq_some.mpr ⟨t,ht,hv⟩)
  exact hstep bs t a v ht hv (hall bs t (List.prefix_append _ _) ht) hafter

/-- The induction over a guarded run, with the actions taken so far in the invariant. -/
theorem exec_history_invariant {I : List α → σ → Prop} {s₀ : σ} (h0 : I [] s₀)
    (hstep : ∀ as s a t, I as s → guard s a → step s a = some t → I (as ++ [a]) t)
    {as : List α} {s : σ} (hg : Guarded step guard s₀ as) (he : exec step s₀ as = some s) :
    I as s := by
  induction as using List.reverseRecOn generalizing s with
  | nil =>
    obtain rfl : s₀ = s := Option.some.inj he
    exact h0
  | append_singleton as a ih =>
    obtain ⟨t, ht, hs⟩ := exec_concat_eq_some.mp he
    exact hstep as t a s (ih (hg.of_append ht) ht) (hg.last ht) hs

theorem exec_guarded_invariant {I : σ → Prop} {s₀ : σ} (h0 : I s₀)
    (hstep : ∀ s a t, I s → guard s a → step s a = some t → I t)
    {as : List α} {s : σ} (hg : Guarded step guard s₀ as) (he : exec step s₀ as = some s) : I s :=
  exec_history_invariant (I := fun _ s => I s) h0 (fun _ s a t => hstep s a t) hg he

theorem guarded_true (s : σ) (as : List α) : Guarded step (fun _ _ => True) s as :=
  guarded_of_forall_mem fun _ _ _ => trivial

/-- Unconditional invariants: what one step preserves holds of every reachable state. -/
theorem exec_invariant {I : σ → Prop} {s₀ : σ} (h0 : I s₀)
    (hstep : ∀ s a t, I s → step s a = some t → I t)
    {as : List α} {s : σ} (he : exec step s₀ as = some s) : I s :=
  exec_guarded_invariant h0 (fun s a t hs _ => hstep s a t hs) (guarded_true s₀ as) he

/-- A specification that follows every guarded step of the code stays related to it. -/
theorem exec_simulation {R : σ → τ → Prop} {abstract : τ → α → τ} {s₀ : σ} {c₀ : τ} (h0 : R s₀ c₀)
    (hstep : ∀ s c a t, R s c → guard s a → step s a = some t → R t (abstract c a))
    {as : List α} {s : σ} (hg : Guarded step guard s₀ as) (he : exec step s₀ as = some s) :
    R s (as.foldl abstract c₀) := by
  refine exec_history_invariant (I := fun as s => R s (as.foldl abstract c₀)) h0 ?_ hg he
  intro as s a t hs ha ht
  rw [List.foldl_append]
  exact hstep s _ a t hs ha ht

/-- What follows every guarded step in steps of its own follows every guarded run. -/
theorem exec_forward {γ : Type*} {step' : τ → γ → Option τ} {R : σ → τ → Prop} {s₀ : σ} {c₀ : τ} (h0 : R s₀ c₀)
    (hstep : ∀ s c a t, R s c → guard s a → step s a = some t → ∃ bs d, exec step' c bs = some d ∧ R t d)
    {as : List α} {s : σ} (hg : Guarded step guard s₀ as) (he : exec step s₀ as = some s) :
    ∃ bs c, exec step' c₀ bs = some c ∧ R s c := by
  refine exec_guarded_invariant (I := fun s => ∃ bs c, exec step' c₀ bs = some c ∧ R s c) ⟨[],c₀,rfl,h0⟩ ?_ hg he
  rintro s a t ⟨bs,c,hbs,hc⟩ ha ht
  obtain ⟨cs,d,hcs,hd⟩ := hstep s c a t hc ha ht
  exact ⟨bs ++ cs,d,exec_append_eq_some.mpr ⟨c,hbs,hcs⟩,hd⟩

section Observe
variable {ω : Type*}

/-- What an observer who sees every step of a run has gathered at its end. -/
def observe (step : σ → α → Option σ) (see : σ → α → σ → ω → ω) : σ → ω → List α → ω
  | _, o, [] => o
  | s, o, a :: as =>
    match step s a with
    | none => o
    | some t => observe step see t (see s a t o) as

variable {see : σ → α → σ → ω → ω}

theorem observe_append {s t : σ} {o : ω} {as bs : List α} (he : exec step s as = some t) :
    observe step see s o (as ++ bs) = observe step see t (observe step see s o as) bs := by
  induction as generalizing s o with
  | nil =>
    obtain rfl : s = t := Option.some.inj he
    rfl
  | cons a as ih =>
    obtain ⟨u,hu,hr⟩ := exec_cons_eq_some.mp he
    simp only [List.cons_append, observe, hu]
    exact ih hr

theorem observe_concat {s t u : σ} {o : ω} {a : α} {as : List α} (he : exec step s as = some t)
    (ha : step t a = some u) :
    observe step see s o (as ++ [a]) = see t a u (observe step see s o as) := by
  rw [observe_append he]
  simp only [observe, ha]

/-- What a step put at the end of a queue, if it did not take the front away. -/
def appended {γ : Type*} (before after : List γ) : List γ := after.drop before.length

theorem appended_append {γ : Type*} (l l' : List γ) : appended l (l ++ l') = l' := List.drop_left

theorem appended_of_length_le {γ : Type*} {l l' : List γ} (h : l'.length ≤ l.length) : appended l l' = [] :=
  List.drop_eq_nil_of_le h

/-- An observation and the state it was made of, kept together along a guarded run. -/
theorem exec_observe_invariant {I : σ → ω → Prop} {s₀ : σ} {o₀ : ω} (h0 : I s₀ o₀)
    (hstep : ∀ s o a t, I s o → guard s a → step s a = some t → I t (see s a t o))
    {as : List α} {s : σ} (hg : Guarded step guard s₀ as) (he : exec step s₀ as = some s) :
    I s (observe step see s₀ o₀ as) := by
  induction as using List.reverseRecOn generalizing s with
  | nil =>
    obtain rfl : s₀ = s := Option.some.inj he
    exact h0
  | append_singleton as a ih =>
    obtain ⟨t,ht,hs⟩ := exec_concat_eq_some.mp he
    rw [observe_concat ht hs]
    exact hstep t _ a s (ih (hg.of_append ht) ht) (hg.last ht) hs

/-- The step with its observer, for guards that look at the observation too. -/
def watched (step : σ → α → Option σ) (see : σ → α → σ → ω → ω) (s : σ × ω) (a : α) : Option (σ × ω) :=
  (step s.1 a).map fun t => (t,see s.1 a t s.2)

theorem watched_eq_some {s t : σ × ω} {a : α} : watched step see s a = some t ↔
    step s.1 a = some t.1 ∧ t.2 = see s.1 a t.1 s.2 := by
  obtain ⟨t,o⟩ := t
  simp only [watched, Option.map_eq_some_iff, Prod.mk.injEq]
  constructor
  · rintro ⟨u,hu,rfl,rfl⟩
    exact ⟨hu,rfl⟩
  · rintro ⟨hu,rfl⟩
    exact ⟨t,hu,rfl,rfl⟩

theorem exec_watched {s t : σ} {o : ω} {as : List α} (he : exec step s as = some t) :
    exec (watched step see) (s,o) as = some (t,observe step see s o as) := by
  induction as generalizing s o with
  | nil =>
    obtain rfl : s = t := Option.some.inj he
    rfl
  | cons a as ih =>
    obtain ⟨u,hu,hr⟩ := exec_cons_eq_some.mp he
    simp only [observe, hu]
    exact exec_cons_eq_some.mpr ⟨(u,see s a u o),watched_eq_some.mpr ⟨hu,rfl⟩,ih hr⟩

theorem exec_watched_eq_some {s : σ} {o : ω} {as : List α} {t : σ × ω} :
    exec (watched step see) (s,o) as = some t ↔ exec step s as = some t.1 ∧ t.2 = observe step see s o as := by
  constructor
  · intro he
    have hfst : ∀ p a, (watched step see p a).map Prod.fst = step p.1 a := by simp [watched, Function.comp_def]
    have hrun : exec step s as = some t.1 := by rw [← exec_map Prod.fst hfst (s,o) as, he, Option.map_some]
    have hseen := he.symm.trans (exec_watched hrun)
    exact ⟨hrun,congrArg Prod.snd (Option.some.inj hseen)⟩
  · rintro ⟨hrun,hseen⟩
    rw [exec_watched hrun, ← hseen]

/-- What is observed stays good exactly while every step meets the guard. The invariant is one of the states
with what was observed of them. -/
theorem observe_iff_guarded {I : σ → ω → Prop} {P : ω → Prop} {guard : σ × ω → α → Prop} {s₀ s : σ} {o₀ : ω}
    (h0 : I s₀ o₀) (hI : ∀ s o a t, I s o → step s a = some t → I t (see s a t o)) (hP : P o₀)
    (hstep : ∀ s o a t, I s o → step s a = some t → (P (see s a t o) ↔ P o ∧ guard (s,o) a))
    {as : List α} (he : exec step s₀ as = some s) :
    P (observe step see s₀ o₀ as) ↔ Guarded (watched step see) guard (s₀,o₀) as := by
  induction as using List.reverseRecOn generalizing s with
  | nil => exact iff_of_true hP trivial
  | append_singleton as a ih =>
    obtain ⟨t,ht,hs⟩ := exec_concat_eq_some.mp he
    have hI : I t (observe step see s₀ o₀ as) :=
      exec_observe_invariant h0 (fun s o a t hs _ => hI s o a t hs) (guarded_true s₀ as) ht
    rw [observe_concat ht hs, hstep t _ a s hI hs, guarded_concat_iff (exec_watched ht), ih ht]

end Observe

/-- A loop that may fail, where no round of it does. -/
theorem foldlM_eq_some_foldl {γ δ : Type*} {f : γ → δ → Option γ} {g : γ → δ → γ} {l : List δ}
    (h : ∀ x ∈ l, ∀ r, f r x = some (g r x)) (r : γ) : l.foldlM f r = some (l.foldl g r) := by
  induction l generalizing r with
  | nil => rfl
  | cons x l ih =>
    rw [List.foldlM_cons, h x List.mem_cons_self, List.foldl_cons]
    exact ih (fun y hy => h y (List.mem_cons_of_mem x hy)) (g r x)

end ModuleGateway.Execution
