import ModuleGateway.Library.Execution

/-! # The steps of a run

A step occurs in a run when some prefix of the run leads to the state it is taken in. What
is known of every step that occurs can be used in an induction over the run, so a
property of the final state may speak of what happened on the way to it. A component takes a
list of steps of its own, maybe none, with every step of the system it is part of.
-/
namespace ModuleGateway.Execution

variable {σ α : Type*} {step : σ → α → Option σ} {s₀ s t : σ} {a : α} {as bs : List α}

/-- The run `as` takes action `a` from `s` to `t`. -/
def Occurs (step : σ → α → Option σ) (s₀ : σ) (as : List α) (s : σ) (a : α) (t : σ) : Prop :=
  ∃ bs cs, as = bs ++ a :: cs ∧ exec step s₀ bs = some s ∧ step s a = some t

theorem Occurs.step_eq (h : Occurs step s₀ as s a t) : step s a = some t := by
  obtain ⟨-,-,-,-,hstep⟩ := h
  exact hstep

/-- The induction over a run, with the run so far. -/
theorem exec_run_invariant {I : List α → σ → Prop} (h0 : I [] s₀)
    (hstep : ∀ as s a t, exec step s₀ as = some s → I as s → step s a = some t → I (as ++ [a]) t)
    (he : exec step s₀ as = some s) : I as s := by
  induction as using List.reverseRecOn generalizing s with
  | nil =>
    obtain rfl : s₀ = s := Option.some.inj he
    exact h0
  | append_singleton as a ih =>
    obtain ⟨t,ht,hs⟩ := exec_concat_eq_some.mp he
    exact hstep as t a s ht (ih ht) hs

/-- The induction over a run in which every step is known to occur. -/
theorem exec_occurs_invariant {I : σ → Prop} (h0 : I s₀)
    (hstep : ∀ s a t, Occurs step s₀ as s a t → I s → I t) (he : exec step s₀ as = some s) : I s := by
  have hguarded : Guarded step (fun s a => ∀ t, step s a = some t → Occurs step s₀ as s a t) s₀ as := by
    refine guarded_iff_forall_split.mpr ?_
    intro bs a cs s has hexec t hst
    exact ⟨bs,cs,has,hexec,hst⟩
  exact exec_guarded_invariant h0 (fun s a t hs hoccurs hst => hstep s a t (hoccurs t hst) hs) hguarded he

/-! ## A component -/

section Projected
variable {τ β : Type*} {step' : τ → β → Option τ} {share : σ → α → σ → List β} {f : σ → τ}

/-- The steps that a component takes in a run of the system, `share` of them in each step. -/
def projected (step : σ → α → Option σ) (share : σ → α → σ → List β) (s : σ) (as : List α) : List β :=
  observe step (fun s a t bs => bs ++ share s a t) s [] as

theorem projected_concat {u : σ} (he : exec step s as = some t) (hu : step t a = some u) :
    projected step share s (as ++ [a]) = projected step share s as ++ share t a u :=
  observe_concat he hu

/-- When every step is a run of the component, so is every run. -/
theorem exec_projected {I : σ → Prop} (h0 : I s₀) (hI : ∀ s a t, I s → step s a = some t → I t)
    (h : ∀ s a t, I s → step s a = some t → exec step' (f s) (share s a t) = some (f t))
    (he : exec step s₀ as = some s) : exec step' (f s₀) (projected step share s₀ as) = some (f s) := by
  have hrun : I s ∧ exec step' (f s₀) (projected step share s₀ as) = some (f s) := by
    refine exec_run_invariant (I := fun as s => I s ∧
      exec step' (f s₀) (projected step share s₀ as) = some (f s)) ⟨h0,rfl⟩ ?_ he
    rintro as s a t hexec ⟨hs,hprojected⟩ hst
    refine ⟨hI s a t hs hst,?_⟩
    rw [projected_concat hexec hst]
    exact exec_append_eq_some.mpr ⟨f s,hprojected,h s a t hs hst⟩
  exact hrun.2

end Projected

end ModuleGateway.Execution
