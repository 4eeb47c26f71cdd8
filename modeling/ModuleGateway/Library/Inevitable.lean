import ModuleGateway.Library.Execution
import Mathlib.Algebra.Order.BigOperators.Group.Finset
import Mathlib.Order.WellFounded

/-! # Where the steps of a part of the system lead

Some of the actions are a system's own, the others come from outside. A property is inevitable
when the own steps lead to it in whatever order they are taken, as long as nothing comes from outside:
there always is one until then, and they do not go on for ever. A rank that every own step lowers proves it.
-/
namespace ModuleGateway.Execution

variable {σ α : Type*} {step : σ → α → Option σ} {own : σ → α → Prop} {I P Q : σ → Prop} {s : σ}

/-- Every order of the own steps leads to `P`. -/
inductive Inevitable (step : σ → α → Option σ) (own : σ → α → Prop) (P : σ → Prop) : σ → Prop where
  | here {s : σ} (h : P s) : Inevitable step own P s
  | next {s : σ} (moves : ∃ a t, own s a ∧ step s a = some t)
      (h : ∀ a t, own s a → step s a = some t → Inevitable step own P t) : Inevitable step own P s

/-- The invariant `I` and a rank that every own step lowers until `P` holds. -/
theorem inevitable_of_rank {γ : Type*} [LT γ] [WellFoundedLT γ] (rank : σ → γ) (hs : I s)
    (hmoves : ∀ s, I s → ¬P s → ∃ a t, own s a ∧ step s a = some t)
    (hstep : ∀ s a t, I s → ¬P s → own s a → step s a = some t → I t ∧ rank t < rank s) :
    Inevitable step own P s := by
  induction hrank : rank s using (wellFounded_lt (α := γ)).induction generalizing s with
  | _ r ih =>
    by_cases hP : P s
    · exact .here hP
    · apply Inevitable.next (hmoves s hs hP)
      intro a t ha ht
      obtain ⟨hI,hlower⟩ := hstep s a t hs hP ha ht
      exact ih (rank t) (hrank ▸ hlower) hI rfl

section Parts
variable {ι γ : Type*} [DecidableEq ι] {parts : Finset ι} {i : ι}

/-- What the sum over all the parts is after one of them went on. -/
theorem sum_update_add (left : γ → ℕ) (state : ι → γ) (x : γ) (hi : i ∈ parts) :
    (parts.sum fun j => left (Function.update state i x j)) + left (state i) =
      (parts.sum fun j => left (state j)) + left x := by
  rw [← Finset.add_sum_erase parts _ hi, ← Finset.add_sum_erase parts (fun j => left (state j)) hi,
    Function.update_self]
  have hothers : (parts.erase i).sum (fun j => left (Function.update state i x j)) =
      (parts.erase i).sum fun j => left (state j) := by
    apply Finset.sum_congr rfl
    intro j hj
    rw [Function.update_of_ne (Finset.ne_of_mem_erase hj)]
  omega

/-- A part of the system that gets nearer to its end lowers the sum over all the parts. -/
theorem sum_update_lt {left : γ → ℕ} {state : ι → γ} {x : γ} (hlt : left x < left (state i)) (hi : i ∈ parts) :
    (parts.sum fun j => left (Function.update state i x j)) < parts.sum fun j => left (state j) := by
  have := sum_update_add left state x hi
  omega

end Parts

/-- What the own steps keep also holds there. -/
theorem Inevitable.and_invariant (h : Inevitable step own P s) (hs : I s)
    (hI : ∀ s a t, I s → own s a → step s a = some t → I t) : Inevitable step own (fun s => P s ∧ I s) s := by
  induction h with
  | here hP => exact .here ⟨hP,hs⟩
  | next moves _ ih =>
    apply Inevitable.next moves
    intro a t ha ht
    exact ih a t ha ht (hI _ a t hs ha ht)

theorem Inevitable.mono (h : Inevitable step own P s) (hPQ : ∀ s, P s → Q s) : Inevitable step own Q s := by
  induction h with
  | here hP => exact .here (hPQ _ hP)
  | next moves _ ih => exact .next moves ih

end ModuleGateway.Execution
