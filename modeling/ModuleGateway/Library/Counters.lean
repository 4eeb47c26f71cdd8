import Mathlib.Data.List.Chain
import Mathlib.Data.List.Nodup
import Mathlib.Data.UInt

/-! # Counters that advance by one

Counters of 32 bits wrap around, so as many of them as there are in a row are distinct
and no more.
-/
namespace ModuleGateway.Counters

/-- Every counter is the successor of the one before, modulo `2 ^ 32`. -/
def Consecutive (l : List UInt32) : Prop := l.IsChain fun c d => d = c + 1

instance (l : List UInt32) : Decidable (Consecutive l) :=
  inferInstanceAs (Decidable (List.IsChain _ l))

theorem consecutive_concat {l : List UInt32} {c : UInt32} :
    Consecutive (l ++ [c]) ↔ Consecutive l ∧ ∀ last ∈ l.getLast?, c = last + 1 := by
  unfold Consecutive
  rw [List.isChain_append]
  simp

/-- The counter `i` places after the first one. -/
theorem Consecutive.getElem {c : UInt32} {l : List UInt32} (h : Consecutive (c :: l)) (i : ℕ)
    (hi : i < (c :: l).length) : (c :: l)[i] = c + UInt32.ofNat i := by
  induction i with
  | zero => simp
  | succ i ih =>
    have hnext := List.isChain_iff_getElem.mp h i hi
    rw [hnext, ih (Nat.lt_of_succ_lt hi), UInt32.ofNat_add, ← UInt32.add_assoc]
    rfl

theorem ofNat_inj_of_lt {i j : ℕ} (hi : i < 2 ^ 32) (hj : j < 2 ^ 32) (h : UInt32.ofNat i = UInt32.ofNat j) :
    i = j := by
  have hnat := congrArg UInt32.toNat h
  rwa [UInt32.toNat_ofNat_of_lt' hi, UInt32.toNat_ofNat_of_lt' hj] at hnat

theorem Consecutive.nodup {l : List UInt32} (h : Consecutive l) (hlength : l.length ≤ 2 ^ 32) : l.Nodup := by
  cases l with
  | nil => exact List.nodup_nil
  | cons c l =>
    rw [List.nodup_iff_injective_get]
    intro i j hij
    have hi := h.getElem i i.isLt
    have hj := h.getElem j j.isLt
    have hsame : c + UInt32.ofNat i = c + UInt32.ofNat j := hi.symm.trans (hij.trans hj)
    have hnumbers := UInt32.add_right_inj c |>.mp hsame
    exact Fin.ext (ofNat_inj_of_lt (i.isLt.trans_le hlength) (j.isLt.trans_le hlength) hnumbers)

end ModuleGateway.Counters
