import Mathlib.Data.List.Induction
import Mathlib.Tactic.Ring

/-! # Streams of length-prefixed frames

A frame is the little-endian length of its payload on `width` bytes, then the
payload. `progress` cuts the first bytes of a stream into the payloads they
complete and the number of bytes of the frame that is still open.
-/
namespace ModuleGateway.LengthPrefix

def encodeLE : ℕ → ℕ → List UInt8
  | 0, _ => []
  | width + 1, n => UInt8.ofNat n :: encodeLE width (n / 256)

def decodeLE : List UInt8 → ℕ
  | [] => 0
  | b :: bs => b.toNat + 256 * decodeLE bs

@[simp] theorem length_encodeLE (width n : ℕ) : (encodeLE width n).length = width := by
  induction width generalizing n with
  | zero => rfl
  | succ width ih => simp [encodeLE, ih]

theorem decodeLE_encodeLE {width n : ℕ} (h : n < 256 ^ width) :
    decodeLE (encodeLE width n) = n := by
  induction width generalizing n with
  | zero =>
    obtain rfl : n = 0 := by simpa using h
    rfl
  | succ width ih =>
    have hd : n / 256 < 256 ^ width := Nat.div_lt_of_lt_mul (by rwa [← pow_succ'])
    have hb : (UInt8.ofNat n).toNat = n % 256 := UInt8.toNat_ofNat'
    rw [encodeLE, decodeLE, hb, ih hd, Nat.mod_add_div]

section Frames
variable (width : ℕ)

def frame (payload : List UInt8) : List UInt8 := encodeLE width payload.length ++ payload

def stream (payloads : List (List UInt8)) : List UInt8 := payloads.flatMap (frame width)

@[simp] theorem length_frame (payload : List UInt8) :
    (frame width payload).length = width + payload.length := by
  simp [frame]

@[simp] theorem stream_nil : stream width [] = [] := rfl

@[simp] theorem stream_cons (payload : List UInt8) (rest : List (List UInt8)) :
    stream width (payload :: rest) = frame width payload ++ stream width rest := rfl

/-- The payloads completed by the first `n` bytes and the bytes of the open frame. -/
def progress : List (List UInt8) → ℕ → List (List UInt8) × ℕ
  | [], n => ([],n)
  | payload :: rest, n =>
    if width + payload.length ≤ n then
      let tail := progress rest (n - (width + payload.length))
      (payload :: tail.1,tail.2)
    else ([],n)

def completed (payloads : List (List UInt8)) (n : ℕ) : List (List UInt8) :=
  (progress width payloads n).1

/-- Bytes of the open frame among the first `n` bytes. -/
def opened (payloads : List (List UInt8)) (n : ℕ) : ℕ := (progress width payloads n).2

/-- The frames not yet completed, the open one first. -/
def outstanding (payloads : List (List UInt8)) (n : ℕ) : List (List UInt8) :=
  payloads.drop (completed width payloads n).length

/-- A cut strictly inside the length of a frame. -/
def EndsInHeader (payloads : List (List UInt8)) (n : ℕ) : Prop :=
  0 < opened width payloads n ∧ opened width payloads n < width

instance (payloads : List (List UInt8)) (n : ℕ) : Decidable (EndsInHeader width payloads n) :=
  inferInstanceAs (Decidable (_ ∧ _))

variable {width}

theorem progress_of_lt {payload : List UInt8} {rest : List (List UInt8)} {n : ℕ}
    (h : n < width + payload.length) : progress width (payload :: rest) n = ([],n) := by
  rw [progress, if_neg (by omega)]

theorem progress_of_le {payload : List UInt8} {rest : List (List UInt8)} {n : ℕ} :
    progress width (payload :: rest) (width + payload.length + n) =
      (payload :: (progress width rest n).1,(progress width rest n).2) := by
  rw [progress, if_pos (by omega), Nat.add_sub_cancel_left]

theorem progress_zero (hw : 0 < width) (payloads : List (List UInt8)) :
    progress width payloads 0 = ([],0) := by
  cases payloads with
  | nil => rfl
  | cons payload rest => exact progress_of_lt (by omega)

theorem completed_of_lt {payload : List UInt8} {rest : List (List UInt8)} {n : ℕ}
    (h : n < width + payload.length) : completed width (payload :: rest) n = [] := by
  rw [completed, progress_of_lt h]

theorem opened_of_lt {payload : List UInt8} {rest : List (List UInt8)} {n : ℕ}
    (h : n < width + payload.length) : opened width (payload :: rest) n = n := by
  rw [opened, progress_of_lt h]

theorem outstanding_of_lt {payload : List UInt8} {rest : List (List UInt8)} {n : ℕ}
    (h : n < width + payload.length) :
    outstanding width (payload :: rest) n = payload :: rest := by
  rw [outstanding, completed_of_lt h, List.length_nil, List.drop_zero]

/-- A later cut is found from the earlier one by looking at the open frames alone. -/
theorem progress_add (payloads : List (List UInt8)) (m n : ℕ) :
    progress width payloads (m + n) =
      (completed width payloads m ++ completed width (outstanding width payloads m)
          (opened width payloads m + n),
        opened width (outstanding width payloads m) (opened width payloads m + n)) := by
  induction payloads generalizing m with
  | nil => simp [completed, opened, outstanding, progress]
  | cons payload rest ih =>
    by_cases h : width + payload.length ≤ m
    · obtain ⟨k,rfl⟩ := Nat.exists_eq_add_of_le h
      have hk := ih k
      simp only [completed, opened, outstanding] at hk ⊢
      rw [Nat.add_assoc, progress_of_le, progress_of_le, hk]
      simp
    · have hm : progress width (payload :: rest) m = ([],m) := progress_of_lt (Nat.lt_of_not_le h)
      simp only [completed, opened, outstanding, hm, List.length_nil, List.drop_zero,
        List.nil_append]

theorem completed_add (payloads : List (List UInt8)) (m n : ℕ) :
    completed width payloads (m + n) = completed width payloads m ++
      completed width (outstanding width payloads m) (opened width payloads m + n) := by
  rw [completed, progress_add]

theorem opened_add (payloads : List (List UInt8)) (m n : ℕ) :
    opened width payloads (m + n) =
      opened width (outstanding width payloads m) (opened width payloads m + n) := by
  rw [opened, progress_add]

theorem outstanding_add (payloads : List (List UInt8)) (m n : ℕ) :
    outstanding width payloads (m + n) =
      outstanding width (outstanding width payloads m) (opened width payloads m + n) := by
  rw [outstanding, completed_add, List.length_append, ← List.drop_drop]
  rfl

/-- Dropping the first bytes of a stream leaves the open frame's tail and the later frames. -/
theorem drop_stream (payloads : List (List UInt8)) (n : ℕ) :
    (stream width payloads).drop n =
      (stream width (outstanding width payloads n)).drop (opened width payloads n) := by
  induction payloads generalizing n with
  | nil => simp [outstanding]
  | cons payload rest ih =>
    by_cases h : width + payload.length ≤ n
    · obtain ⟨k,rfl⟩ := Nat.exists_eq_add_of_le h
      have hf : (frame width payload).length = width + payload.length := length_frame ..
      have hk := ih k
      simp only [outstanding, opened, completed] at hk ⊢
      rw [progress_of_le, stream_cons, ← hf, List.drop_length_add_append, hk]
      rfl
    · have hn : progress width (payload :: rest) n = ([],n) := progress_of_lt (Nat.lt_of_not_le h)
      simp only [outstanding, opened, completed, hn, List.length_nil, List.drop_zero]

end Frames

end ModuleGateway.LengthPrefix
