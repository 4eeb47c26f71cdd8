import ModuleGateway.Structures.SettingsFile

/-! # Keys of module paths

A key of the module paths is read with `std::stoi`. It is the decimal text of its module number exactly when it
has none of what `std::stoi` passes over: blanks and a plus sign in front, leading zeros, and whatever stands
after the digits.
-/
namespace ModuleGateway.Structures

/-! ## Decimal texts -/

/-- The digits of a positive number. -/
def isPositive : List Char → Bool
  | [] => false
  | c :: digits => c.isDigit && c != '0' && digits.all Char.isDigit

/-- The text of an integer as `std::to_string` writes it. -/
def isDecimal (text : String) : Bool :=
  match text.toList with
  | ['0'] => true
  | '-' :: digits => isPositive digits
  | digits => isPositive digits

variable {c : Char} {digits rest : List Char} {n : ℕ} {key : String}

theorem toNat_of_isDigit (h : c.isDigit = true) : 48 ≤ c.toNat ∧ c.toNat ≤ 57 := by
  simp only [Char.isDigit, Bool.and_eq_true, decide_eq_true_eq, UInt32.le_iff_toNat_le] at h
  exact h

theorem digitChar_of_isDigit (h : c.isDigit = true) : Nat.digitChar (c.toNat - '0'.toNat) = c := by
  have hle := toNat_of_isDigit h
  have hzero : '0'.toNat = 48 := rfl
  refine Char.toNat_inj.mp ?_
  rw [Nat.toNat_digitChar_of_lt_ten (by omega)]
  omega

/-- Further digits after a number that is not zero. -/
theorem toDigits_append_digits (hall : digits.all Char.isDigit = true) (hn : 0 < n) :
    Nat.toDigits 10 n ++ digits = Nat.toDigits 10 (Nat.ofDigitChars 10 digits n) := by
  induction digits generalizing n with
  | nil => rw [List.append_nil, Nat.ofDigitChars_nil]
  | cons c digits ih =>
    rw [List.all_cons, Bool.and_eq_true] at hall
    have hle := toNat_of_isDigit hall.1
    have hzero : '0'.toNat = 48 := rfl
    have hd : c.toNat - '0'.toNat < 10 := by omega
    have hone : Nat.toDigits 10 n ++ [c] = Nat.toDigits 10 (10*n + (c.toNat - '0'.toNat)) := by
      rw [← Nat.toDigits_append_toDigits (by decide) hn hd, Nat.toDigits_of_lt_base hd,
        digitChar_of_isDigit hall.1]
    rw [Nat.ofDigitChars_cons, ← ih hall.2 (by omega), ← hone, List.append_assoc, List.singleton_append]

theorem isPositive_cons (h : isPositive digits = true) :
    ∃ c rest, digits = c :: rest ∧ c.isDigit = true ∧ 0 < c.toNat - '0'.toNat ∧ rest.all Char.isDigit = true := by
  cases digits with
  | nil => cases h
  | cons c rest =>
    simp only [isPositive, Bool.and_eq_true, bne_iff_ne] at h
    have hle := toNat_of_isDigit h.1.1
    have hzero : '0'.toNat = 48 := rfl
    have hne : c.toNat ≠ '0'.toNat := fun heq => h.1.2 (Char.toNat_inj.mp heq)
    exact ⟨c,rest,rfl,h.1.1,by omega,h.2⟩

theorem all_of_isPositive (h : isPositive digits = true) : digits.all Char.isDigit = true ∧ digits ≠ [] := by
  obtain ⟨c,rest,rfl,hc,-,hrest⟩ := isPositive_cons h
  refine ⟨?_,List.cons_ne_nil _ _⟩
  rw [List.all_cons, hc, hrest]
  rfl

/-- The digits of a positive number are those it is written with. -/
theorem toDigits_ofDigitChars (h : isPositive digits = true) :
    Nat.toDigits 10 (Nat.ofDigitChars 10 digits 0) = digits := by
  obtain ⟨c,rest,rfl,hc,hpos,hrest⟩ := isPositive_cons h
  have hle := toNat_of_isDigit hc
  have hzero : '0'.toNat = 48 := rfl
  rw [Nat.ofDigitChars_cons, Nat.mul_zero, Nat.zero_add, ← toDigits_append_digits hrest hpos,
    Nat.toDigits_of_lt_base (by omega), digitChar_of_isDigit hc, List.singleton_append]

theorem ofDigitChars_pos (hall : digits.all Char.isDigit = true) (hn : 0 < n) :
    0 < Nat.ofDigitChars 10 digits n := by
  induction digits generalizing n with
  | nil => exact hn
  | cons c digits ih =>
    rw [List.all_cons, Bool.and_eq_true] at hall
    rw [Nat.ofDigitChars_cons]
    exact ih hall.2 (by omega)

theorem ofDigitChars_pos_of_isPositive (h : isPositive digits = true) : 0 < Nat.ofDigitChars 10 digits 0 := by
  obtain ⟨c,rest,rfl,-,hpos,hrest⟩ := isPositive_cons h
  rw [Nat.ofDigitChars_cons, Nat.mul_zero, Nat.zero_add]
  exact ofDigitChars_pos hrest hpos

/-- A positive number is written without a leading zero. -/
theorem isPositive_toDigits (hn : 0 < n) : isPositive (Nat.toDigits 10 n) = true := by
  induction n using Nat.strongRecOn with
  | ind n ih =>
    by_cases hlt : n < 10
    · rw [Nat.toDigits_of_lt_base hlt]
      have hdigit : (Nat.digitChar n).isDigit = true := by
        rw [Nat.isDigit_digitChar]
        exact decide_eq_true hlt
      have hne : Nat.digitChar n ≠ '0' := fun h => Nat.ne_of_gt hn (Nat.digitChar_eq_zero.mp h)
      simp [isPositive, hdigit, hne]
    · have hsmaller := ih (n / 10) (by omega) (by omega)
      have hmod : n % 10 < 10 := Nat.mod_lt _ (by decide)
      have hsplit : Nat.toDigits 10 n = Nat.toDigits 10 (n / 10) ++ Nat.toDigits 10 (n % 10) := by
        rw [Nat.toDigits_append_toDigits (by decide) (by omega) hmod]
        exact congrArg _ (by omega)
      obtain ⟨c,rest,hcons,hc,hpos,hrest⟩ := isPositive_cons hsmaller
      have hlast : (Nat.toDigits 10 (n % 10)).all Char.isDigit = true :=
        List.all_eq_true.mpr fun d hd => Nat.isDigit_of_mem_toDigits (by decide) (by decide) hd
      have hzero : c ≠ '0' := by
        rintro rfl
        exact absurd hpos (by decide)
      rw [hsplit, hcons, List.cons_append]
      simp [isPositive, hc, hzero, List.all_append, hrest, hlast]

/-! ## `std::stoi` -/

theorem toList_toString (number : ℤ) : (toString number).toList =
    if 0 ≤ number then Nat.toDigits 10 number.toNat else '-' :: Nat.toDigits 10 (-number).toNat := by
  rw [Int.toString_eq_repr, Int.repr_eq_if]
  split
  · exact Nat.toList_repr
  · rw [String.toList_append, Nat.toList_repr]
    rfl

theorem stoi_digits (h : key.toList = c :: rest) (hc : c.isDigit = true) :
    stoi key = stoiDigits false (c :: rest) := by
  have hle := toNat_of_isDigit hc
  have hspace : isspace c = false := by
    have hblank : c ≠ ' ' := by
      rintro rfl
      exact absurd hc (by decide)
    simp only [isspace, hblank, decide_false, Bool.false_or, Bool.and_eq_false_iff, decide_eq_false_iff_not]
    omega
  unfold stoi
  rw [h, List.dropWhile_cons_of_neg (by simp [hspace])]
  split
  · rename_i heq
    obtain ⟨rfl,-⟩ := List.cons.inj heq
    exact absurd hc (by decide)
  · rename_i heq
    obtain ⟨rfl,-⟩ := List.cons.inj heq
    exact absurd hc (by decide)
  · rfl

theorem stoi_minus (h : key.toList = '-' :: rest) : stoi key = stoiDigits true rest := by
  unfold stoi
  rw [h]
  rfl

theorem checkedInt_eq_ok_iff {number value : ℤ} : checkedInt value = .ok number ↔ IsInt value ∧ number = value := by
  unfold checkedInt
  split
  · rename_i hint
    exact ⟨fun h => ⟨hint,(Except.ok.inj h).symm⟩,fun h => congrArg Except.ok h.2.symm⟩
  · rename_i hint
    exact iff_of_false nofun fun h => hint h.1

theorem stoiDigits_of_all {negative : Bool} (hall : digits.all Char.isDigit = true) (hne : digits ≠ []) :
    stoiDigits negative digits = checkedInt
      (if negative then -(Nat.ofDigitChars 10 digits 0 : ℤ) else (Nat.ofDigitChars 10 digits 0 : ℤ)) := by
  have htake : digits.takeWhile Char.isDigit = digits := by
    have happend : (digits ++ []).takeWhile Char.isDigit = digits ++ [].takeWhile Char.isDigit :=
      List.takeWhile_append_of_pos (List.all_eq_true.mp hall)
    simpa only [List.append_nil, List.takeWhile_nil] using happend
  simp only [stoiDigits, htake, List.isEmpty_iff, hne, if_false]

/-- `std::stoi` returns a number of type `int`. -/
theorem isInt_of_stoi {number : ℤ} (h : stoi key = .ok number) : IsInt number := by
  have hdigits (negative : Bool) (text : List Char) (hd : stoiDigits negative text = .ok number) :
      IsInt number := by
    simp only [stoiDigits] at hd
    split at hd
    · cases hd
    · obtain ⟨hint,rfl⟩ := checkedInt_eq_ok_iff.mp hd
      exact hint
  unfold stoi at h
  split at h <;> exact hdigits _ _ h

theorem moduleNumber_eq_ok_iff {number : ℤ} : moduleNumber key = .ok number ↔ stoi key = .ok number := by
  unfold moduleNumber
  split <;> simp [*]

/-- The text of a number of type `int` is read back. -/
theorem stoi_toString {number : ℤ} (h : IsInt number) : stoi (toString number) = .ok number := by
  have htext := toList_toString number
  have hall (m : ℕ) : (Nat.toDigits 10 m).all Char.isDigit = true :=
    List.all_eq_true.mpr fun d hd => Nat.isDigit_of_mem_toDigits (by decide) (by decide) hd
  split at htext
  · rename_i hnonneg
    obtain ⟨c,rest,hcons⟩ := List.exists_cons_of_ne_nil (Nat.toDigits_ne_nil (n := number.toNat) (b := 10))
    have hc : c.isDigit = true := by
      have hdigits := hall number.toNat
      rw [hcons, List.all_cons, Bool.and_eq_true] at hdigits
      exact hdigits.1
    have hvalue : ((number.toNat : ℕ) : ℤ) = number := Int.toNat_of_nonneg hnonneg
    rw [stoi_digits (htext.trans hcons) hc, ← hcons, stoiDigits_of_all (hall _) Nat.toDigits_ne_nil,
      Nat.ofDigitChars_ten_toDigits]
    simp only [Bool.false_eq_true, if_false, hvalue]
    exact checkedInt_eq_ok_iff.mpr ⟨h,rfl⟩
  · have hvalue : -(((-number).toNat : ℕ) : ℤ) = number := by omega
    rw [stoi_minus htext, stoiDigits_of_all (hall _) Nat.toDigits_ne_nil, Nat.ofDigitChars_ten_toDigits]
    simp only [if_true, hvalue]
    exact checkedInt_eq_ok_iff.mpr ⟨h,rfl⟩

theorem isDecimal_toString (number : ℤ) : isDecimal (toString number) = true := by
  have htext := toList_toString number
  unfold isDecimal
  rw [htext]
  rcases Int.lt_trichotomy number 0 with hneg | rfl | hpos
  · rw [if_neg (by omega)]
    exact isPositive_toDigits (by omega)
  · rfl
  · rw [if_pos (by omega)]
    have hpositive := isPositive_toDigits (n := number.toNat) (by omega)
    obtain ⟨c,rest,hcons,hc,-,-⟩ := isPositive_cons hpositive
    rw [hcons] at hpositive ⊢
    split
    · rfl
    · rename_i heq
      obtain ⟨rfl,-⟩ := List.cons.inj heq
      exact absurd hc (by decide)
    · exact hpositive

/-- A key that is a decimal text is the text of its module number. -/
theorem eq_toString_of_isDecimal {number : ℤ} (h : stoi key = .ok number) (hdecimal : isDecimal key = true) :
    key = toString number := by
  refine String.toList_inj.mp ?_
  rw [toList_toString]
  unfold isDecimal at hdecimal
  split at hdecimal
  · rename_i hkey
    rw [stoi_digits hkey rfl, stoiDigits_of_all rfl (List.cons_ne_nil _ _)] at h
    obtain rfl : number = 0 := (checkedInt_eq_ok_iff.mp h).2
    exact hkey
  · rename_i digits hkey
    obtain ⟨hall,hne⟩ := all_of_isPositive hdecimal
    have hpos := ofDigitChars_pos_of_isPositive hdecimal
    rw [stoi_minus hkey, stoiDigits_of_all hall hne] at h
    have hnumber := (checkedInt_eq_ok_iff.mp h).2
    simp only [if_true] at hnumber
    rw [hkey, if_neg (by omega)]
    have hvalue : (-number).toNat = Nat.ofDigitChars 10 digits 0 := by omega
    rw [hvalue, toDigits_ofDigitChars hdecimal]
  · obtain ⟨c,rest,hcons,hc,-,-⟩ := isPositive_cons hdecimal
    obtain ⟨hall,hne⟩ := all_of_isPositive hdecimal
    rw [stoi_digits hcons hc, ← hcons, stoiDigits_of_all hall hne] at h
    have hnumber := (checkedInt_eq_ok_iff.mp h).2
    simp only [Bool.false_eq_true, if_false] at hnumber
    rw [if_pos (by omega)]
    have hvalue : number.toNat = Nat.ofDigitChars 10 key.toList 0 := by omega
    rw [hvalue, toDigits_ofDigitChars hdecimal]

/-- What `std::stoi` makes of a key has the key for its text exactly when the key is a decimal text. -/
theorem eq_toString_iff {number : ℤ} (h : stoi key = .ok number) :
    key = toString number ↔ isDecimal key = true := by
  constructor
  · rintro rfl
    exact isDecimal_toString number
  · exact eq_toString_of_isDecimal h

end ModuleGateway.Structures
