/-!
# Calendar days

The Gregorian calendar from the year zero on.  Days are numbered from the first of January of the
year zero; the number of a date and the date of a number are inverse to each other on valid dates.
-/

namespace RemoteDriver.Time

/-- A day of the calendar. -/
structure Date where
  /-- The year, from zero on. -/
  year : Nat
  /-- The month, from one to twelve. -/
  month : Nat
  /-- The day of the month, from one on. -/
  day : Nat
deriving DecidableEq, Repr

/-- Whether a year has a twenty-ninth of February. -/
def isLeap (year : Nat) : Bool := year % 4 = 0 ∧ (year % 100 ≠ 0 ∨ year % 400 = 0)

/-- The lengths of the months. -/
def monthLengths (leap : Bool) : List Nat :=
  [31, if leap then 29 else 28, 31, 30, 31, 30, 31, 31, 30, 31, 30, 31]

/-- The number of days from the year zero to the beginning of a year. -/
def daysBeforeYear (year : Nat) : Nat :=
  365 * year + (year + 3) / 4 - (year + 99) / 100 + (year + 399) / 400

/-- The length of a month; zero if there is no such month. -/
def monthLength (year month : Nat) : Nat :=
  if month = 0 then 0 else (monthLengths (isLeap year)).getD (month - 1) 0

/-- The number of days from the beginning of a year to the beginning of a month. -/
def daysBeforeMonth (leap : Bool) (month : Nat) : Nat :=
  ((monthLengths leap).take (month - 1)).foldl (· + ·) 0

namespace Date

/-- Whether the calendar has this date. -/
def isValid (d : Date) : Bool :=
  1 ≤ d.month && d.month ≤ 12 && 1 ≤ d.day && d.day ≤ monthLength d.year d.month

/-- The number of a day, zero for the first of January of the year zero. -/
def number (d : Date) : Nat :=
  daysBeforeYear d.year + daysBeforeMonth (isLeap d.year) d.month + (d.day - 1)

end Date

/-- The year that a day lies in.  The average length of a year leads to the right year or to one
of its neighbours. -/
def yearOf (n : Nat) : Nat :=
  let guess := n * 400 / 146097
  if n < daysBeforeYear guess then guess - 1
  else if daysBeforeYear (guess + 1) ≤ n then guess + 1
  else guess

/-- The month and the day of the month of a day counted from the beginning of its year, the
lengths of the months from `month` on being given. -/
def monthAndDay (month : Nat) : List Nat → Nat → Nat × Nat
  | [], n => (month, n + 1)
  | length :: rest, n =>
    if n < length then (month, n + 1) else monthAndDay (month + 1) rest (n - length)

/-- The date of a day number. -/
def Date.ofNumber (n : Nat) : Date :=
  let year := yearOf n
  let (month, day) := monthAndDay 1 (monthLengths (isLeap year)) (n - daysBeforeYear year)
  ⟨year, month, day⟩

/-- The number of the day that instants are counted from, the first of January 1970. -/
def epochDay : Nat := 719528

example : (Date.mk 1970 1 1).number = epochDay := by decide
example : Date.ofNumber epochDay = ⟨1970, 1, 1⟩ := by decide

end RemoteDriver.Time
