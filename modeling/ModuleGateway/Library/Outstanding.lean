import Mathlib.Data.List.Nodup

/-! # What is outstanding

Items are added at the end of a list and taken out by key, the first one with the key. As long
as no key is added twice, an item is outstanding exactly if its key is not retired later on.
-/
namespace ModuleGateway.Outstanding

variable {α κ : Type*} [DecidableEq κ] (key : α → κ)

inductive Event (α κ : Type*) where
  | add (a : α)
  | retire (k : κ)
deriving DecidableEq

/-- One event on the list. -/
def update (l : List α) : Event α κ → List α
  | .add a => l ++ [a]
  | .retire k => l.eraseP fun a => key a = k

def retired : List (Event α κ) → List κ
  | [] => []
  | .add _ :: events => retired events
  | .retire k :: events => k :: retired events

/-- The items that are added. -/
def added : List (Event α κ) → List α
  | [] => []
  | .add a :: events => a :: added events
  | .retire _ :: events => added events

/-- Those of them that are not retired after they were added. -/
def unretired : List (Event α κ) → List α
  | [] => []
  | .add a :: events => if key a ∈ retired events then unretired events else a :: unretired events
  | .retire _ :: events => unretired events

theorem unretired_sublist (events : List (Event α κ)) : (unretired key events).Sublist (added events) := by
  induction events with
  | nil => exact .slnil
  | cons event events ih =>
    cases event with
    | add a =>
      rw [unretired, added]
      split
      · exact ih.cons a
      · exact ih.cons_cons a
    | retire k => exact ih

/-- With distinct keys the first item with a key is the only one. -/
theorem eraseP_eq_filter {l : List α} (h : (l.map key).Nodup) (k : κ) :
    (l.eraseP fun a => key a = k) = l.filter fun a => key a ≠ k := by
  induction l with
  | nil => rfl
  | cons a l ih =>
    obtain ⟨hnotin,hrest⟩ := List.nodup_cons.mp h
    by_cases ha : key a = k
    · have hall : ∀ b ∈ l, decide (key b ≠ k) = true := by
        intro b hb
        have hne : key b ≠ k := fun hk => hnotin ((ha.trans hk.symm) ▸ List.mem_map_of_mem hb)
        exact decide_eq_true hne
      rw [List.eraseP_cons_of_pos (by simpa using ha), List.filter_cons_of_neg (by simpa using ha),
        List.filter_eq_self.mpr hall]
    · rw [List.eraseP_cons_of_neg (by simpa using ha), List.filter_cons_of_pos (by simpa using ha), ih hrest]

/-- What the events leave of the list, then what they add and do not retire. -/
theorem foldl_update {l : List α} (events : List (Event α κ)) (h : ((l ++ added events).map key).Nodup) :
    events.foldl (update key) l = (l.filter fun a => key a ∉ retired events) ++ unretired key events := by
  induction events generalizing l with
  | nil => simp [retired, unretired]
  | cons event events ih =>
    rw [List.foldl_cons]
    cases event with
    | add a =>
      have hrest : ((l ++ [a] ++ added events).map key).Nodup := by
        rw [List.append_assoc]
        exact h
      rw [update, ih hrest, retired, unretired, List.filter_append, List.append_assoc]
      congr 1
      by_cases ha : key a ∈ retired events
      · simp [ha]
      · simp [ha]
    | retire k =>
      have hl : (l.map key).Nodup := by
        rw [List.map_append] at h
        exact h.of_append_left
      have hrest : (((l.filter fun a => key a ≠ k) ++ added events).map key).Nodup :=
        h.sublist ((List.filter_sublist.append_right _).map key)
      rw [update, eraseP_eq_filter key hl, ih hrest, retired, unretired, List.filter_filter]
      congr 1
      refine List.filter_congr fun a _ => ?_
      simp [Bool.and_comm]

end ModuleGateway.Outstanding
