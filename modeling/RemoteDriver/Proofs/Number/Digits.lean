import RemoteDriver.Number.Reading

/-!
# Whole numbers as text and back

What is written as the digits of a whole number, with a minus before them where it is negative, is
read as that number (`digits?_toString`, `intWithin?_toString`).
-/

namespace RemoteDriver.Number

/-! ## Digits -/

/-- The decimal digits are those of the library. -/
theorem isDigit_eq (c : Char) : isDigit c = c.isDigit := by
  have bounds : c.isDigit = (decide (0x30 ≤ c.toNat) && decide (c.toNat ≤ 0x39)) := rfl
  rw [bounds, isDigit, digitValue?]
  by_cases h : 0x30 ≤ c.toNat ∧ c.toNat ≤ 0x39
  · simp [h]
  · rw [if_neg h, ← Bool.decide_and, decide_eq_false h]
    rfl

/-- A digit has its distance from zero as its value. -/
theorem digitValue?_of_isDigit {c : Char} (h : isDigit c = true) :
    digitValue? c = some (c.toNat - 0x30) := by
  unfold isDigit digitValue? at h
  unfold digitValue?
  dsimp only at h ⊢
  split at h
  · next digit => rw [if_pos digit]
  · cases h

/-- A digit is no sign, no point and no letter. -/
theorem ne_of_isDigit {c d : Char} (h : isDigit c = true) (no : isDigit d = false) : c ≠ d := by
  intro same
  rw [same, no] at h
  cases h

/-- The number that digits stand for is the one that the library reads. -/
theorem digitsFrom_eq (acc : Nat) {s : List Char} (h : s.all isDigit = true) :
    digitsFrom acc s = Nat.ofDigitChars 10 s acc := by
  induction s generalizing acc with
  | nil => simp [digitsFrom]
  | cons c r ih =>
    simp only [List.all_cons, Bool.and_eq_true] at h
    rw [digitsFrom, digitValue?_of_isDigit h.1, Nat.ofDigitChars_cons, ih _ h.2, Option.getD_some,
      Nat.mul_comm]
    rfl

theorem tenTo_succ (n : Nat) : tenTo (n + 1) = tenTo n * 10 := rfl

/-- More digits have more room. -/
theorem tenTo_le {m n : Nat} (h : m ≤ n) : tenTo m ≤ tenTo n :=
  Nat.pow_le_pow_right (by decide) h

/-- So many digits stand for a number below that power of ten. -/
theorem digitsFrom_lt {s : List Char} (h : s.all isDigit = true) (acc : Nat) :
    digitsFrom acc s < (acc + 1) * tenTo s.length := by
  induction s generalizing acc with
  | nil => simp [digitsFrom, tenTo]
  | cons c r ih =>
    simp only [List.all_cons, Bool.and_eq_true] at h
    have value : (digitValue? c).getD 0 ≤ 9 := by
      unfold digitValue?
      dsimp only
      split
      · simp only [Option.getD_some]
        omega
      · simp
    have step := ih h.2 (acc * 10 + (digitValue? c).getD 0)
    rw [digitsFrom, List.length_cons, tenTo_succ]
    calc digitsFrom (acc * 10 + (digitValue? c).getD 0) r
        < (acc * 10 + (digitValue? c).getD 0 + 1) * tenTo r.length := step
      _ ≤ ((acc + 1) * 10) * tenTo r.length := Nat.mul_le_mul_right _ (by omega)
      _ = (acc + 1) * (tenTo r.length * 10) := by
        rw [Nat.mul_assoc, Nat.mul_comm 10]

/-- Digits are read as the number that they stand for. -/
theorem digits?_of_all {s : List Char} (some : s ≠ []) (h : s.all isDigit = true) :
    digits? s = .some (digitsFrom 0 s) := by
  rw [digits?, if_pos ⟨some, h⟩]

/-! ## Written numbers -/

/-- The digits of a number are digits. -/
theorem all_isDigit_toDigits (n : Nat) : (Nat.toDigits 10 n).all isDigit = true := by
  rw [List.all_eq_true]
  intro c hc
  rw [isDigit_eq]
  exact Nat.isDigit_of_mem_toDigits (by decide) (by decide) hc

/-- A written number stands for itself. -/
theorem digitsFrom_toDigits (n : Nat) : digitsFrom 0 (Nat.toDigits 10 n) = n := by
  rw [digitsFrom_eq 0 (all_isDigit_toDigits n), Nat.ofDigitChars_ten_toDigits]

/-- A natural number is read from its digits. -/
theorem digits?_toDigits (n : Nat) : digits? (Nat.toDigits 10 n) = some n := by
  rw [digits?_of_all Nat.toDigits_ne_nil (all_isDigit_toDigits n), digitsFrom_toDigits]

/-- Digits have no sign. -/
theorem signed_of_all {s : List Char} (h : s.all isDigit = true) : signed s = (false, s) := by
  unfold signed
  split
  · exact absurd (List.all_eq_true.mp h '-' (List.mem_cons_self ..)) (by decide)
  · exact absurd (List.all_eq_true.mp h '+' (List.mem_cons_self ..)) (by decide)
  · rfl

/-- A whole number is read from its digits and its sign, if it lies in the range. -/
theorem intWithin?_toString {low high n : Int} (above : low ≤ n) (below : n ≤ high) :
    intWithin? low high (toString n).toList = some n := by
  cases n with
  | ofNat m =>
    have digits : (toString (Int.ofNat m)).toList = Nat.toDigits 10 m := Nat.toList_repr
    rw [digits, intWithin?, signed_of_all (all_isDigit_toDigits m)]
    dsimp only
    rw [digits?_toDigits]
    simp only [Bool.false_eq_true, if_false]
    rw [if_pos ⟨above, below⟩]
    rfl
  | negSucc m =>
    have digits : (toString (Int.negSucc m)).toList = '-' :: Nat.toDigits 10 (m + 1) := by
      show ("-" ++ (m + 1).repr).toList = _
      rw [String.toList_append, Nat.toList_repr]
      rfl
    rw [digits, intWithin?, signed]
    dsimp only
    rw [digits?_toDigits]
    simp only [if_true]
    rw [if_pos ⟨above, below⟩]
    rfl

end RemoteDriver.Number
