import RemoteDriver.Number.Reading
import RemoteDriver.Time.Calendar

/-!
# Instants as RFC 3339 text

An instant is a number of milliseconds since the beginning of 1970.  It is written in universal
time, with as many digits after the second as it needs.  Reading accepts any offset, any single
ASCII character between date and time, and any number of digits after the second, of which nine
count.
-/

namespace RemoteDriver.Time.Rfc3339

/-! ## Writing -/

/-- The last `width` decimal digits of a number. -/
def padded : (width : Nat) → Nat → List Char
  | 0, _ => []
  | width + 1, n => padded width (n / 10) ++ [Char.ofNat (0x30 + n % 10)]

/-- The digits after the second, without zeros at the end. -/
def fractionText (ms : Nat) : List Char :=
  if ms = 0 then []
  else if ms % 100 = 0 then '.' :: padded 1 (ms / 100)
  else if ms % 10 = 0 then '.' :: padded 2 (ms / 10)
  else '.' :: padded 3 ms

/-- The first instant after the year 9999. -/
def endOfYears : Int := 253402300800000

/-- Whether an instant has a text: it lies in 1970 or later and before the year 10000. -/
def hasText (ms : Int) : Bool := 0 ≤ ms && ms < endOfYears

/-- The text of an instant that has one. -/
def write (ms : Nat) : List Char :=
  let date := Date.ofNumber (epochDay + ms / 86400000)
  let second := ms / 1000 % 86400
  padded 4 date.year ++ '-' :: padded 2 date.month ++ '-' :: padded 2 date.day
    ++ 'T' :: padded 2 (second / 3600) ++ ':' :: padded 2 (second / 60 % 60)
    ++ ':' :: padded 2 (second % 60) ++ fractionText (ms % 1000) ++ ['Z']

/-! ## Reading -/

/-- A number of exactly `width` digits at the front of a text, and the rest, read on from
`acc`. -/
def number? : (width acc : Nat) → List Char → Option (Nat × List Char)
  | 0, acc, s => some (acc, s)
  | width + 1, acc, c :: r => do number? width (acc * 10 + (← Number.digitValue? c)) r
  | _ + 1, _, [] => none

/-- The rest of a text that begins with `c`. -/
def after? (c : Char) : List Char → Option (List Char)
  | [] => none
  | d :: r => if d = c then some r else none

/-- Nanoseconds of the digits after a point, the first digit counting `weight`. -/
def nanoseconds (weight : Nat) : List Char → Nat
  | [] => 0
  | c :: r => (Number.digitValue? c).getD 0 * weight + nanoseconds (weight / 10) r

/-- The fraction of a second at the front of a text: a point and at least one digit, or
nothing. -/
def fraction? : List Char → Option (Nat × List Char)
  | '.' :: r =>
    let digits := r.takeWhile Number.isDigit
    if digits = [] then none
    else some (nanoseconds 100000000 digits, r.dropWhile Number.isDigit)
  | s => some (0, s)

/-- The offset from universal time in seconds that ends a text. -/
def offset? (s : List Char) : Option Int :=
  match s with
  | ['Z'] => some 0
  | ['z'] => some 0
  | sign :: r => do
    guard (sign = '+' ∨ sign = '-')
    let (hour, r) ← number? 2 0 r
    let (minute, r) ← number? 2 0 (← after? ':' r)
    guard (hour ≤ 23 ∧ minute ≤ 59 ∧ r = [])
    let seconds : Int := hour * 3600 + minute * 60
    return if sign = '-' then -seconds else seconds
  | [] => none

/-- Seconds since the beginning of 1970, in universal time. -/
def unixSeconds (date : Date) (hour minute second : Nat) (offset : Int) : Int :=
  ((date.number : Int) - epochDay) * 86400 + (hour * 3600 + minute * 60 + second : Nat) - offset

/-- Whether a day is the last one of a month.  The day before the year zero is one; an offset
leads no further back. -/
def isLastOfMonth (day : Int) : Bool :=
  let date := Date.ofNumber day.toNat
  day = -1 || (0 ≤ day && date.year ≤ 9999 && date.day = monthLength date.year date.month)

/-- Whether a second is the last one of a month of the calendar, so that a leap second may follow
it. -/
def endsMonth (seconds : Int) : Bool :=
  isLastOfMonth (seconds / 86400 + epochDay) && seconds % 86400 = 86399

/-- The instant of a text in milliseconds; parts of a millisecond are cut off toward 1970.  A
sixtieth second is read only where a leap second can be, as the last nanosecond before it. -/
def read? (s : List Char) : Option Int := do
  let (year, s) ← number? 4 0 s
  let (month, s) ← number? 2 0 (← after? '-' s)
  let (day, s) ← number? 2 0 (← after? '-' s)
  let s ← match s with
    | c :: r => if c.toNat < 128 then some r else none
    | [] => none
  let (hour, s) ← number? 2 0 s
  let (minute, s) ← number? 2 0 (← after? ':' s)
  let (second, s) ← number? 2 0 (← after? ':' s)
  let (nanos, s) ← fraction? s
  let offset ← offset? s
  let date : Date := ⟨year, month, day⟩
  guard (date.isValid ∧ hour ≤ 23 ∧ minute ≤ 59 ∧ second ≤ 60)
  if second = 60 then
    let seconds := unixSeconds date hour minute 59 offset
    guard (endsMonth seconds)
    return (seconds * 1000000000 + 999999999).tdiv 1000000
  else
    let seconds := unixSeconds date hour minute second offset
    return (seconds * 1000000000 + nanos).tdiv 1000000

end RemoteDriver.Time.Rfc3339
