import RemoteDriver.Proofs.Number.Digits
import RemoteDriver.Proofs.Time.Calendar
import RemoteDriver.Time.Rfc3339

/-!
# Instants as text and back

The text of an instant is read as that instant (`read?_write`).
-/

namespace RemoteDriver.Time.Rfc3339

open Number (digitValue? isDigit tenTo)

/-! ## Numbers of a fixed width -/

/-- The digit of a number stands for it. -/
theorem digitValue?_digit {n : Nat} (h : n < 10) :
    digitValue? (Char.ofNat (0x30 + n)) = some n := by
  have all : ∀ m ∈ List.range 10, digitValue? (Char.ofNat (0x30 + m)) = some m := by decide
  exact all n (List.mem_range.2 h)

/-- A number below ten is written as a digit. -/
theorem isDigit_digit {n : Nat} (h : n < 10) : isDigit (Char.ofNat (0x30 + n)) = true := by
  rw [isDigit, digitValue?_digit h]
  rfl

/-- A number can be read in two parts. -/
theorem number?_add (a b acc : Nat) (s : List Char) :
    number? (a + b) acc s = (number? a acc s).bind fun (n, rest) => number? b n rest := by
  induction a generalizing acc s with
  | zero => simp [number?]
  | succ a ih =>
    rw [Nat.succ_add]
    cases s with
    | nil => rfl
    | cons c r =>
      rw [number?, number?]
      cases digitValue? c with
      | none => rfl
      | some d => exact ih _ r

/-- The last digits of a number are read as what they stand for. -/
theorem number?_padded (width acc n : Nat) (rest : List Char) :
    number? width acc (padded width n ++ rest)
      = some (acc * tenTo width + n % tenTo width, rest) := by
  induction width generalizing n rest with
  | zero => simp [number?, padded, tenTo, Nat.mod_one]
  | succ width ih =>
    rw [padded, List.append_assoc, number?_add, ih]
    have last : n % 10 < 10 := Nat.mod_lt _ (by decide)
    simp only [Option.bind_some, List.singleton_append, number?, digitValue?_digit last, bind]
    have split : n % tenTo (width + 1) = n / 10 % tenTo width * 10 + n % 10 := by
      rw [Number.tenTo_succ, Nat.mul_comm (tenTo width), Nat.mod_mul, Nat.mul_comm 10, Nat.add_comm]
    rw [split, Nat.add_mul, Nat.mul_assoc, ← Number.tenTo_succ, Nat.add_assoc]

/-- A number that fits its width is read as itself. -/
theorem number?_padded_of_lt {width n : Nat} (h : n < tenTo width) (rest : List Char) :
    number? width 0 (padded width n ++ rest) = some (n, rest) := by
  rw [number?_padded, Nat.zero_mul, Nat.zero_add, Nat.mod_eq_of_lt h]

theorem after?_cons (c : Char) (s : List Char) : after? c (c :: s) = some s := if_pos rfl

/-! ## The fraction of a second -/

/-- A number with zeros in front of it is all digits. -/
theorem all_isDigit_padded (width n : Nat) : ∀ c ∈ padded width n, isDigit c = true := by
  induction width generalizing n with
  | zero => simp [padded]
  | succ width ih =>
    intro c hc
    rw [padded, List.mem_append, List.mem_singleton] at hc
    rcases hc with hc | rfl
    · exact ih _ c hc
    · exact isDigit_digit (Nat.mod_lt _ (by decide))

/-- The digits of a fraction end where the text does not go on with digits. -/
theorem fraction?_padded (width n : Nat) :
    fraction? ('.' :: padded (width + 1) n ++ ['Z'])
      = some (nanoseconds 100000000 (padded (width + 1) n), ['Z']) := by
  have digits := all_isDigit_padded (width + 1) n
  have ends : isDigit 'Z' = false := by decide
  have before : (padded (width + 1) n ++ ['Z']).takeWhile isDigit = padded (width + 1) n := by
    rw [List.takeWhile_append_of_pos digits, List.takeWhile_cons, ends]
    simp
  have after : (padded (width + 1) n ++ ['Z']).dropWhile isDigit = ['Z'] := by
    rw [List.dropWhile_append_of_pos digits, List.dropWhile_cons, ends]
    simp
  have some : padded (width + 1) n ≠ [] := by simp [padded]
  rw [List.cons_append, fraction?]
  simp only [before, after, if_neg some]

/-- The digits after the second are read as nanoseconds. -/
theorem fraction?_fractionText {ms : Nat} (h : ms < 1000) :
    fraction? (fractionText ms ++ ['Z']) = some (ms * 1000000, ['Z']) := by
  have digit (n : Nat) : digitValue? (Char.ofNat (0x30 + n % 10)) = some (n % 10) :=
    digitValue?_digit (Nat.mod_lt _ (by decide))
  unfold fractionText
  split
  · next none =>
    subst none
    rfl
  split
  · next hundreds =>
    rw [fraction?_padded]
    simp only [padded, List.nil_append, nanoseconds, digit, Option.getD_some, Option.some.injEq,
      Prod.mk.injEq, and_true]
    omega
  split
  · next tens =>
    rw [fraction?_padded]
    simp only [padded, List.nil_append, List.cons_append, nanoseconds, digit, Option.getD_some,
      Option.some.injEq, Prod.mk.injEq, and_true]
    omega
  · rw [fraction?_padded]
    simp only [padded, List.nil_append, List.cons_append, nanoseconds, digit, Option.getD_some,
      Option.some.injEq, Prod.mk.injEq, and_true]
    omega

/-! ## Instants -/

/-- What is read is handed on. -/
theorem bind_of_eq {α β : Type} {o : Option α} {a : α} (h : o = some a) (k : α → Option β) :
    o.bind k = k a := by
  rw [h, Option.bind_some]

/-- The parts of an instant make it up. -/
theorem instant_of_parts {date : Date} {ms : Nat}
    (number : date.number = epochDay + ms / 86400000) :
    (unixSeconds date (ms / 1000 % 86400 / 3600) (ms / 1000 % 86400 / 60 % 60)
        (ms / 1000 % 86400 % 60) 0 * 1000000000 + ((ms % 1000 * 1000000 : Nat) : Int)).tdiv 1000000
      = ms := by
  have seconds : unixSeconds date (ms / 1000 % 86400 / 3600) (ms / 1000 % 86400 / 60 % 60)
      (ms / 1000 % 86400 % 60) 0 = (ms / 1000 : Nat) := by
    rw [unixSeconds, number]
    omega
  rw [seconds, Int.tdiv_eq_ediv_of_nonneg (by omega)]
  omega

/-- A date and a time of the day in universal time are read as the instant that they make up. -/
theorem read?_parts {date : Date} {hour minute second ms : Nat} (valid : date.isValid = true)
    (year : date.year < tenTo 4) (month : date.month < tenTo 2) (day : date.day < tenTo 2)
    (hours : hour ≤ 23) (minutes : minute ≤ 59) (seconds : second ≤ 59) (fraction : ms < 1000) :
    read? (padded 4 date.year ++ '-' :: padded 2 date.month ++ '-' :: padded 2 date.day
        ++ 'T' :: padded 2 hour ++ ':' :: padded 2 minute
        ++ ':' :: padded 2 second ++ fractionText ms ++ ['Z'])
      = some ((unixSeconds date hour minute second 0 * 1000000000
          + ((ms * 1000000 : Nat) : Int)).tdiv 1000000) := by
  have two {n bound : Nat} (small : n ≤ bound) (room : bound < 100) : n < tenTo 2 :=
    Nat.lt_of_le_of_lt small room
  have sound : date.isValid = true ∧ hour ≤ 23 ∧ minute ≤ 59 ∧ second ≤ 60 :=
    ⟨valid, hours, minutes, Nat.le_succ_of_le seconds⟩
  have universal : offset? ['Z'] = some 0 := rfl
  have ordinary : second ≠ 60 := Nat.ne_of_lt (Nat.lt_succ_of_le seconds)
  simp only [List.append_assoc, List.cons_append]
  -- the date
  refine (bind_of_eq (number?_padded_of_lt year _) _).trans ?_
  refine (bind_of_eq (after?_cons '-' _) _).trans ?_
  refine (bind_of_eq (number?_padded_of_lt month _) _).trans ?_
  refine (bind_of_eq (after?_cons '-' _) _).trans ?_
  refine (bind_of_eq (number?_padded_of_lt day _) _).trans ?_
  refine (if_pos (show 'T'.toNat < 128 by decide)).trans ?_
  refine (bind_of_eq rfl _).trans ?_
  -- the time of the day
  refine (bind_of_eq (number?_padded_of_lt (two hours (by decide)) _) _).trans ?_
  refine (bind_of_eq (after?_cons ':' _) _).trans ?_
  refine (bind_of_eq (number?_padded_of_lt (two minutes (by decide)) _) _).trans ?_
  refine (bind_of_eq (after?_cons ':' _) _).trans ?_
  refine (bind_of_eq (number?_padded_of_lt (two seconds (by decide)) _) _).trans ?_
  refine (bind_of_eq (fraction?_fractionText fraction) _).trans ?_
  refine (bind_of_eq universal _).trans ?_
  refine (bind_of_eq (if_pos sound) _).trans ?_
  exact if_neg ordinary

/-- The text of an instant is read as that instant. -/
theorem read?_write {ms : Nat} (h : hasText ms = true) : read? (write ms) = some (ms : Int) := by
  have bound : (ms : Int) < endOfYears := by
    simp only [hasText, Bool.and_eq_true, decide_eq_true_eq] at h
    exact h.2
  rw [endOfYears] at bound
  have early : epochDay + ms / 86400000 < daysBeforeYear 10000 := by
    have : daysBeforeYear 10000 = 3652425 := by decide
    rw [this, epochDay]
    omega
  have year : (Date.ofNumber (epochDay + ms / 86400000)).year < tenTo 4 := yearOf_lt early
  have small := ofNumber_small (epochDay + ms / 86400000)
  have read := read?_parts (isValid_ofNumber (epochDay + ms / 86400000)) year small.1 small.2
    (show ms / 1000 % 86400 / 3600 ≤ 23 by omega) (show ms / 1000 % 86400 / 60 % 60 ≤ 59 by omega)
    (show ms / 1000 % 86400 % 60 ≤ 59 by omega) (show ms % 1000 < 1000 by omega)
  rw [instant_of_parts (number_ofNumber (epochDay + ms / 86400000))] at read
  exact read

end RemoteDriver.Time.Rfc3339
