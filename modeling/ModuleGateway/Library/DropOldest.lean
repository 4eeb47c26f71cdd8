import Mathlib.Data.List.Basic
import Mathlib.Order.MinMax

/-! # Queues that lose their oldest element when they are full

The abstract queue is the list of everything that was ever put into it and the number
of elements at its front that are gone, whether they were taken or overtaken. What can
still be taken is the rest, so elements come out in the order in which they went in.
-/
namespace ModuleGateway

/-- A queue of at most `capacity` elements with its history, oldest first. -/
structure DropOldest (α : Type*) (capacity : ℕ) where
  history : List α
  gone : ℕ
  gone_le : gone ≤ history.length
  length_le : history.length - gone ≤ capacity

namespace DropOldest
variable {α : Type*} {capacity : ℕ}

def empty : DropOldest α capacity := ⟨[],0,Nat.le_refl 0,Nat.zero_le capacity⟩

/-- What can still be taken. -/
def pending (q : DropOldest α capacity) : List α := q.history.drop q.gone

/-- The last `capacity` elements are kept. -/
def put (q : DropOldest α capacity) (a : α) : DropOldest α capacity where
  history := q.history ++ [a]
  gone := max q.gone (q.history.length + 1 - capacity)
  gone_le := by
    have := q.gone_le
    rw [List.length_append, List.length_singleton]
    omega
  length_le := by
    rw [List.length_append, List.length_singleton]
    omega

/-- The oldest element, if there is one, and the queue without it. -/
def take (q : DropOldest α capacity) : DropOldest α capacity where
  history := q.history
  gone := min (q.gone + 1) q.history.length
  gone_le := Nat.min_le_right _ _
  length_le := by
    have := q.length_le
    omega

@[simp] theorem pending_empty : (empty : DropOldest α capacity).pending = [] := rfl

@[simp] theorem length_pending (q : DropOldest α capacity) :
    q.pending.length = q.history.length - q.gone := List.length_drop

theorem length_pending_le (q : DropOldest α capacity) : q.pending.length ≤ capacity := by
  rw [length_pending]
  exact q.length_le

@[simp] theorem pending_take (q : DropOldest α capacity) : q.take.pending = q.pending.tail := by
  simp only [pending, take, List.tail_drop]
  have hle := q.gone_le
  by_cases h : q.gone + 1 ≤ q.history.length
  · rw [Nat.min_eq_left h]
  · rw [Nat.min_eq_right (by omega), List.drop_length, List.drop_eq_nil_of_le (by omega)]

/-- Only a full queue loses its oldest element. -/
theorem pending_put (q : DropOldest α capacity) (a : α) :
    (q.put a).pending =
      if (q.pending ++ [a]).length > capacity then (q.pending ++ [a]).tail else q.pending ++ [a] := by
  have hle := q.gone_le
  have hlength := q.length_le
  have hdrop : q.pending ++ [a] = (q.history ++ [a]).drop q.gone :=
    (List.drop_append_of_le_length hle).symm
  rw [hdrop]
  simp only [pending, put, List.length_drop, List.length_append, List.length_singleton, List.tail_drop]
  split
  · rw [Nat.max_eq_right (by omega)]
    congr 1
    omega
  · rw [Nat.max_eq_left (by omega)]

end DropOldest

end ModuleGateway
