import RemoteDriver.Time.Calendar

/-!
# Days and dates

The date of a day number is a date of the calendar, and its number is that day number
(`isValid_ofNumber`, `number_ofNumber`).
-/

namespace RemoteDriver.Time

/-! ## Years -/

/-- The length of a year. -/
def yearLength (leap : Bool) : Nat := if leap then 366 else 365

/-- A year begins when the year before it has passed. -/
theorem daysBeforeYear_succ (year : Nat) :
    daysBeforeYear (year + 1) = daysBeforeYear year + yearLength (isLeap year) := by
  have fourth : (year + 1 + 3) / 4 = (year + 3) / 4 + if year % 4 = 0 then 1 else 0 := by
    split <;> omega
  have hundredth : (year + 1 + 99) / 100 = (year + 99) / 100 + if year % 100 = 0 then 1 else 0 := by
    split <;> omega
  have era : (year + 1 + 399) / 400 = (year + 399) / 400 + if year % 400 = 0 then 1 else 0 := by
    split <;> omega
  have centuries : (year + 99) / 100 ≤ 365 * year + (year + 3) / 4 := by omega
  have more : year % 100 = 0 → year % 4 = 0 := by omega
  have most : year % 400 = 0 → year % 100 = 0 := by omega
  unfold daysBeforeYear yearLength isLeap
  rw [fourth, hundredth, era]
  generalize (year + 3) / 4 = a at centuries ⊢
  generalize (year + 99) / 100 = b at centuries ⊢
  generalize (year + 399) / 400 = c
  by_cases h4 : year % 4 = 0
  · by_cases h100 : year % 100 = 0
    · by_cases h400 : year % 400 = 0
      · simp only [h4, h100, h400, if_true, decide_true, ne_eq, not_true, or_true, and_true]
        omega
      · simp only [h4, h100, h400, if_true, if_false, decide_false, ne_eq, not_true, or_false,
          and_false, Bool.false_eq_true]
        omega
    · have h400 : ¬ year % 400 = 0 := fun h => h100 (most h)
      simp only [h4, h100, h400, if_true, if_false, decide_true, ne_eq, not_false_eq_true, true_or,
        and_true]
      omega
  · have h100 : ¬ year % 100 = 0 := fun h => h4 (more h)
    have h400 : ¬ year % 400 = 0 := fun h => h100 (most h)
    simp only [h4, h100, h400, if_false, decide_false, false_and, Bool.false_eq_true]
    omega

/-- Four hundred years have 146097 days, and no beginning of a year strays far from that mean. -/
theorem daysBeforeYear_bounds (year : Nat) :
    146097 * year ≤ 400 * daysBeforeYear year + 396
      ∧ 400 * daysBeforeYear year ≤ 146097 * year + 699 := by
  unfold daysBeforeYear
  omega

/-- The year of a day is the one that has begun and not ended by then. -/
theorem yearOf_spec (n : Nat) :
    daysBeforeYear (yearOf n) ≤ n ∧ n < daysBeforeYear (yearOf n + 1) := by
  unfold yearOf
  dsimp only
  have mean : 146097 * (n * 400 / 146097) ≤ 400 * n
      ∧ 400 * n < 146097 * (n * 400 / 146097) + 146097 := by omega
  generalize n * 400 / 146097 = guess at mean ⊢
  split
  · next early =>
    cases guess with
    | zero => exact absurd early (by simp [daysBeforeYear])
    | succ before =>
      have bounds := daysBeforeYear_bounds before
      refine ⟨?_, early⟩
      rw [Nat.add_sub_cancel]
      omega
  · split
    · next late =>
      have bounds := daysBeforeYear_bounds (guess + 1 + 1)
      exact ⟨late, by omega⟩
    · next notEarly notLate => exact ⟨Nat.not_lt.mp notEarly, Nat.not_le.mp notLate⟩

/-- Years follow one another. -/
theorem daysBeforeYear_mono {a b : Nat} (h : a ≤ b) : daysBeforeYear a ≤ daysBeforeYear b := by
  induction h with
  | refl => exact Nat.le_refl _
  | step _ ih =>
    rw [daysBeforeYear_succ]
    omega

/-- A day before a year lies in a year before it. -/
theorem yearOf_lt {n year : Nat} (h : n < daysBeforeYear year) : yearOf n < year := by
  rcases Nat.lt_or_ge (yearOf n) year with before | after
  · exact before
  · have begun := (yearOf_spec n).1
    have later := daysBeforeYear_mono after
    omega

/-! ## Months -/

/-- The month of a day among months of these lengths, and the day in it. -/
theorem monthAndDay_spec (month : Nat) (lengths : List Nat) (n : Nat)
    (h : n < lengths.foldl (· + ·) 0) :
    ∃ i day, monthAndDay month lengths n = (month + i, day + 1) ∧ i < lengths.length
      ∧ day < lengths.getD i 0 ∧ (lengths.take i).foldl (· + ·) 0 + day = n := by
  induction lengths generalizing month n with
  | nil => exact absurd h (Nat.not_lt_zero n)
  | cons length rest ih =>
    rw [monthAndDay]
    split
    · next within => exact ⟨0, n, rfl, by simp, by simpa using within, by simp⟩
    · next beyond =>
      rw [List.foldl_cons, Nat.add_comm 0 length, List.foldl_assoc] at h
      obtain ⟨i, day, found, inside, short, total⟩ := ih (month + 1) (n - length) (by omega)
      refine ⟨i + 1, day, ?_, ?_, ?_, ?_⟩
      · rw [found, Nat.add_assoc, Nat.add_comm 1 i]
      · simpa using inside
      · simpa using short
      · rw [List.take_succ_cons, List.foldl_cons, Nat.add_comm 0 length, List.foldl_assoc]
        omega

/-- The months of a year make up the year. -/
theorem sum_monthLengths (leap : Bool) :
    (monthLengths leap).foldl (· + ·) 0 = yearLength leap := by
  cases leap <;> decide

/-! ## Dates -/

/-- What is known of the date of a day: how it was found. -/
theorem ofNumber_spec (n : Nat) :
    ∃ i day, Date.ofNumber n = ⟨yearOf n, 1 + i, day + 1⟩ ∧ i < 12
      ∧ day < (monthLengths (isLeap (yearOf n))).getD i 0
      ∧ daysBeforeYear (yearOf n)
          + (((monthLengths (isLeap (yearOf n))).take i).foldl (· + ·) 0 + day) = n := by
  have ⟨begun, unfinished⟩ := yearOf_spec n
  rw [daysBeforeYear_succ, ← sum_monthLengths] at unfinished
  obtain ⟨i, day, found, inside, short, total⟩ :=
    monthAndDay_spec 1 (monthLengths (isLeap (yearOf n))) (n - daysBeforeYear (yearOf n)) (by omega)
  refine ⟨i, day, ?_, inside, short, by omega⟩
  rw [Date.ofNumber, found]

/-- The date of a day is a date of the calendar. -/
theorem isValid_ofNumber (n : Nat) : (Date.ofNumber n).isValid = true := by
  obtain ⟨i, day, found, inside, short, _⟩ := ofNumber_spec n
  rw [found, Date.isValid, monthLength]
  simp only [Bool.and_eq_true, decide_eq_true_eq]
  rw [if_neg (by omega), Nat.add_sub_cancel_left]
  omega

/-- The number of the date of a day is that of the day. -/
theorem number_ofNumber (n : Nat) : (Date.ofNumber n).number = n := by
  obtain ⟨i, day, found, _, _, total⟩ := ofNumber_spec n
  rw [found, Date.number, daysBeforeMonth, Nat.add_sub_cancel_left, Nat.add_sub_cancel]
  dsimp only
  omega

/-- Numbers of months and days have at most two digits. -/
theorem ofNumber_small (n : Nat) : (Date.ofNumber n).month < 100 ∧ (Date.ofNumber n).day < 100 := by
  obtain ⟨i, day, found, inside, short, _⟩ := ofNumber_spec n
  have month : ∀ leap : Bool, ∀ j ∈ List.range 12, (monthLengths leap).getD j 0 ≤ 31 := by decide
  have days := month (isLeap (yearOf n)) i (List.mem_range.mpr inside)
  rw [found]
  dsimp only
  omega

end RemoteDriver.Time
