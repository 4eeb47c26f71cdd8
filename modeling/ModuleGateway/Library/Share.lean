import ModuleGateway.Library.Execution

/-! # The share of one party in a run

`share` tells which actions of a run belong to one party, and what they are where the party is
alone. If every step of the whole system is a step of the party alone or nothing that it could
see, then the actions that belong to it are a run of their own, and whatever the others do in
between changes nothing that the party sees.
-/
namespace ModuleGateway.Execution

variable {σ τ α β ω : Type*} {step : σ → α → Option σ} {step' : τ → β → Option τ} {share : σ → α → Option β}
  {guard : σ → α → Prop}

/-- The actions of a run that belong to the party. -/
def alone (step : σ → α → Option σ) (share : σ → α → Option β) (s : σ) (as : List α) : List β :=
  observe step (fun s a _ bs => bs ++ (share s a).toList) s [] as

/-- A value at the end of a record, unless it is the last one already. -/
def record [DecidableEq ω] (values : List ω) (x : ω) : List ω :=
  if values.getLast? = some x then values else values ++ [x]

/-- The values that are seen in a run, one after the other. -/
def changes [DecidableEq ω] (step : σ → α → Option σ) (view : σ → ω) (s : σ) (as : List α) : List ω :=
  observe step (fun _ _ t values => record values (view t)) s [view s] as

/-- `R` relates a state of the system to one in which there is only the party. -/
structure Separates (step : σ → α → Option σ) (step' : τ → β → Option τ) (share : σ → α → Option β)
    (guard : σ → α → Prop) (R : σ → τ → Prop) : Prop where
  own : ∀ s t a b s', R s t → guard s a → step s a = some s' → share s a = some b →
    ∃ t', step' t b = some t' ∧ R s' t'
  others : ∀ s t a s', R s t → guard s a → step s a = some s' → share s a = none → R s' t

section Record
variable [DecidableEq ω]

theorem record_getLast? (values : List ω) (x : ω) : (record values x).getLast? = some x := by
  unfold record
  split
  · assumption
  · exact List.getLast?_concat

theorem record_of_getLast? {values : List ω} {x : ω} (h : values.getLast? = some x) : record values x = values :=
  if_pos h

/-- The last value recorded is the one seen at the end. -/
theorem changes_getLast? {view : σ → ω} {s t : σ} {as : List α} (he : exec step s as = some t) :
    (changes step view s as).getLast? = some (view t) := by
  refine exec_observe_invariant (I := fun t (values : List ω) => values.getLast? = some (view t)) rfl ?_
    (guarded_true s as) he
  intro _ values _ t _ _ _
  exact record_getLast? values (view t)

/-- An observer beside the run sees the same. -/
theorem changes_watched {see : σ → α → σ → τ → τ} {view : σ → ω} {s t : σ} {o : τ} {as : List α}
    (he : exec step s as = some t) :
    changes (watched step see) (fun s => view s.1) (s,o) as = changes step view s as := by
  induction as using List.reverseRecOn generalizing t with
  | nil => rfl
  | append_singleton as a ih =>
    obtain ⟨u,hu,ht⟩ := exec_concat_eq_some.mp he
    have hplain : changes step view s (as ++ [a]) = record (changes step view s as) (view t) := observe_concat hu ht
    have hstep : watched step see (u,observe step see s o as) a = some (t,see u a t (observe step see s o as)) :=
      watched_eq_some.mpr ⟨ht,rfl⟩
    have hwatched : changes (watched step see) (fun s => view s.1) (s,o) (as ++ [a]) =
        record (changes (watched step see) (fun s => view s.1) (s,o) as) (view t) :=
      observe_concat (exec_watched hu) hstep
    rw [hplain, hwatched, ih hu]

end Record

namespace Separates
variable {R : σ → τ → Prop}

/-- The actions of the party are a run of their own. -/
theorem exec_alone (h : Separates step step' share guard R) {s₀ : σ} {t₀ : τ} (h0 : R s₀ t₀) {as : List α} {s : σ}
    (hg : Guarded step guard s₀ as) (he : exec step s₀ as = some s) :
    ∃ t, exec step' t₀ (alone step share s₀ as) = some t ∧ R s t := by
  refine exec_observe_invariant (I := fun s bs => ∃ t, exec step' t₀ bs = some t ∧ R s t) ⟨t₀,rfl,h0⟩ ?_ hg he
  rintro s bs a s' ⟨t,ht,hst⟩ ha hs'
  cases hb : share s a with
  | none =>
    refine ⟨t,?_,h.others s t a s' hst ha hs' hb⟩
    rw [Option.toList_none, List.append_nil]
    exact ht
  | some b =>
    obtain ⟨t',ht',hst'⟩ := h.own s t a b s' hst ha hs' hb
    exact ⟨t',exec_concat_eq_some.mpr ⟨t,ht,ht'⟩,hst'⟩

/-- What the party sees changes in the same way where it is alone. -/
theorem changes_alone [DecidableEq ω] (h : Separates step step' share guard R) {view : σ → ω} {view' : τ → ω}
    (hview : ∀ s t, R s t → view' t = view s) {s₀ : σ} {t₀ : τ} (h0 : R s₀ t₀) {as : List α} {s : σ}
    (hg : Guarded step guard s₀ as) (he : exec step s₀ as = some s) :
    changes step' view' t₀ (alone step share s₀ as) = changes step view s₀ as := by
  induction as using List.reverseRecOn generalizing s with
  | nil => exact congrArg (fun x => [x]) (hview s₀ t₀ h0)
  | append_singleton as a ih =>
    obtain ⟨s',hs,hs'⟩ := exec_concat_eq_some.mp he
    obtain ⟨t,ht,hst⟩ := h.exec_alone h0 (hg.of_append hs) hs
    have hsame := ih (hg.of_append hs) hs
    have halone : alone step share s₀ (as ++ [a]) = alone step share s₀ as ++ (share s' a).toList :=
      observe_concat hs hs'
    have hchanges : changes step view s₀ (as ++ [a]) = record (changes step view s₀ as) (view s) :=
      observe_concat hs hs'
    rw [halone, hchanges]
    cases hb : share s' a with
    | none =>
      have hst' := h.others s' t a s hst (hg.last hs) hs' hb
      have hstill : view s = view s' := (hview s t hst').symm.trans (hview s' t hst)
      rw [Option.toList_none, List.append_nil, hstill, record_of_getLast? (changes_getLast? hs)]
      exact hsame
    | some b =>
      obtain ⟨t',ht',hst'⟩ := h.own s' t a b s hst (hg.last hs) hs' hb
      have hnext : changes step' view' t₀ (alone step share s₀ as ++ [b]) =
          record (changes step' view' t₀ (alone step share s₀ as)) (view' t') := observe_concat ht ht'
      rw [Option.toList_some, hnext, hsame, hview s t' hst']

end Separates

end ModuleGateway.Execution
