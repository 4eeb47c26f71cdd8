import Mathlib.Data.List.Pairwise

/-! # Numbered items in order

Items carry a key and a number. The items of one key are in order when their numbers increase; where
an item of one key stands among those of another one does not matter.
-/
namespace ModuleGateway.KeyOrder

variable {κ ν : Type*} [LT ν] {l l' : List (κ × ν)} {x : κ × ν}

def Ordered (l : List (κ × ν)) : Prop := l.Pairwise fun x y => x.1 = y.1 → x.2 < y.2

theorem Ordered.nil : Ordered ([] : List (κ × ν)) := List.Pairwise.nil

theorem ordered_iff [DecidableEq κ] :
    Ordered l ↔ ∀ k, ((l.filter fun x => x.1 = k).map Prod.snd).Pairwise (· < ·) := by
  constructor
  · intro h k
    rw [List.pairwise_map]
    refine (List.Pairwise.filter _ h).imp_of_mem ?_
    intro x y hx hy hxy
    have hkx : x.1 = k := by simpa using (List.mem_filter.mp hx).2
    have hky : y.1 = k := by simpa using (List.mem_filter.mp hy).2
    exact hxy (hkx.trans hky.symm)
  · intro h
    induction l with
    | nil => exact .nil
    | cons x l ih =>
      refine List.pairwise_cons.mpr ⟨?_,ih ?_⟩
      · intro y hy hxy
        have hx := h x.1
        rw [List.filter_cons_of_pos (by simp), List.map_cons, List.pairwise_cons] at hx
        refine hx.1 y.2 (List.mem_map_of_mem ?_)
        exact List.mem_filter.mpr ⟨hy,by simpa using hxy.symm⟩
      · intro k
        have hsub : ((l.filter fun y => y.1 = k).map Prod.snd).Sublist
            (((x :: l).filter fun y => y.1 = k).map Prod.snd) := ((List.sublist_cons_self x l).filter _).map _
        exact (h k).sublist hsub

theorem Ordered.sublist (h : Ordered l) (hsub : l'.Sublist l) : Ordered l' := List.Pairwise.sublist hsub h

/-- A new item at the end, with a number beyond those of its key. -/
theorem Ordered.concat (h : Ordered l) (hx : ∀ y ∈ l, y.1 = x.1 → y.2 < x.2) : Ordered (l ++ [x]) := by
  refine List.pairwise_append.mpr ⟨h,List.pairwise_singleton _ _,?_⟩
  intro y hy z hz
  obtain rfl := List.mem_singleton.mp hz
  exact hx y hy

/-- An item moves to the end past items of other keys. -/
theorem Ordered.rotate {rest : List (κ × ν)} (h : Ordered (l ++ x :: rest)) (hx : ∀ y ∈ rest, y.1 ≠ x.1) :
    Ordered (l ++ (rest ++ [x])) := by
  rw [← List.append_assoc]
  apply Ordered.concat
  · exact h.sublist ((List.sublist_cons_self x rest).append_left l)
  · intro y hy hyx
    obtain hy | hy := List.mem_append.mp hy
    · exact (List.pairwise_append.mp h).2.2 y hy x List.mem_cons_self hyx
    · exact absurd hyx (hx y hy)

end ModuleGateway.KeyOrder
