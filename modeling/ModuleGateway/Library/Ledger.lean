import Mathlib.Data.List.Basic

/-! # Ledgers of a queue

What went through a queue and stayed: the entries in their order, and how many of them were taken
from the front. Discarding the queue strikes the entries that were not taken.
-/
namespace ModuleGateway

structure Ledger (α : Type*) where
  entries : List α
  taken : ℕ
  taken_le : taken ≤ entries.length

namespace Ledger
variable {α : Type*} (l : Ledger α)

def empty : Ledger α := ⟨[],0,Nat.zero_le _⟩

def pending : List α := l.entries.drop l.taken

def handedOut : List α := l.entries.take l.taken

def put (a : α) : Ledger α where
  entries := l.entries ++ [a]
  taken := l.taken
  taken_le := by
    have := l.taken_le
    rw [List.length_append]
    omega

/-- The oldest entry that is pending, if there is one. -/
def take : Ledger α where
  entries := l.entries
  taken := min (l.taken + 1) l.entries.length
  taken_le := Nat.min_le_right _ _

def discard : Ledger α where
  entries := l.handedOut
  taken := l.taken
  taken_le := by
    have := l.taken_le
    rw [handedOut, List.length_take]
    omega

@[simp] theorem pending_empty : (empty : Ledger α).pending = [] := rfl

@[simp] theorem pending_put (a : α) : (l.put a).pending = l.pending ++ [a] :=
  List.drop_append_of_le_length l.taken_le

@[simp] theorem handedOut_put (a : α) : (l.put a).handedOut = l.handedOut :=
  List.take_append_of_le_length l.taken_le

@[simp] theorem pending_take : l.take.pending = l.pending.tail := by
  simp only [pending, take, List.tail_drop]
  by_cases h : l.taken + 1 ≤ l.entries.length
  · rw [Nat.min_eq_left h]
  · rw [Nat.min_eq_right (by omega), List.drop_length, List.drop_eq_nil_of_le (by omega)]

@[simp] theorem pending_discard : l.discard.pending = [] := by
  simp [pending, discard, handedOut]

end Ledger

end ModuleGateway
