import RemoteDriver.Number.Double

/-!
# Reading numbers

Texts of whole numbers and of doubles, as they stand inside strings: no blanks around them, a sign
allowed in front, leading zeros allowed.  A double may be written without digits before or after
its point, and the names of the infinities and of what is no number are read in either case.
-/

namespace RemoteDriver

namespace Number

/-- The value of a decimal digit. -/
def digitValue? (c : Char) : Option Nat :=
  let n := c.toNat
  if 0x30 ≤ n ∧ n ≤ 0x39 then some (n - 0x30) else none

/-- Whether a character is a decimal digit. -/
def isDigit (c : Char) : Bool := (digitValue? c).isSome

/-- The number that digits stand for, read on from `acc`; characters that are no digits count as
zeros. -/
def digitsFrom (acc : Nat) : List Char → Nat
  | [] => acc
  | c :: r => digitsFrom (acc * 10 + (digitValue? c).getD 0) r

/-- The number that one or more digits and nothing else stand for. -/
def digits? (s : List Char) : Option Nat :=
  if s ≠ [] ∧ s.all isDigit then some (digitsFrom 0 s) else none

/-- A sign taken off the front of a text: whether it was a minus, and the rest. -/
def signed : List Char → Bool × List Char
  | '-' :: r => (true, r)
  | '+' :: r => (false, r)
  | s => (false, s)

/-- The whole number of a text with an optional sign, if it lies from `low` to `high`. -/
def intWithin? (low high : Int) (s : List Char) : Option Int :=
  let (negative, rest) := signed s
  match digits? rest with
  | some n =>
    let value : Int := if negative then -n else n
    if low ≤ value ∧ value ≤ high then some value else none
  | none => none

/-- The number of a text with an optional plus sign, if it is at most `high`. -/
def natWithin? (high : Nat) (s : List Char) : Option Nat :=
  match s with
  | '-' :: _ => none
  | _ =>
    match digits? (signed s).2 with
    | some n => if n ≤ high then some n else none
    | none => none

end Number

namespace Double

/-- The double nearest to `n * 10 ^ exponent`.  A number of so many digits that it lies beyond
the largest double, or so small that it lies below half the smallest, needs no power of ten. -/
def ofDecimal (negative : Bool) (n : Nat) (exponent : Int) : Double :=
  let size : Int := (toString n).length + exponent
  if n = 0 then zero negative
  else if 400 < size then infinity negative
  else if size < -400 then zero negative
  else if 0 ≤ exponent then ofRatio negative (n * Number.tenTo exponent.toNat) 1
  else ofRatio negative n (Number.tenTo (-exponent).toNat)

/-- A text in lower case, as far as ASCII letters go. -/
def lowered (s : List Char) : List Char := s.map Char.toLower

/-- The exponent after a mantissa: nothing, or `e` in either case with a signed number. -/
def exponentOf? : List Char → Option Int
  | [] => some 0
  | c :: r =>
    if c = 'e' ∨ c = 'E' then
      let (negative, digits) := Number.signed r
      (Number.digits? digits).map fun n => if negative then -(n : Int) else n
    else none

/-- The finite double of an unsigned text: digits with an optional point, at least one digit, and
an optional exponent. -/
def ofUnsigned? (negative : Bool) (s : List Char) : Option Double :=
  let whole := s.takeWhile Number.isDigit
  let afterWhole := s.dropWhile Number.isDigit
  let (fraction, rest) := match afterWhole with
    | '.' :: r => (r.takeWhile Number.isDigit, r.dropWhile Number.isDigit)
    | r => ([], r)
  if whole = [] ∧ fraction = [] then none
  else
    (exponentOf? rest).map fun exponent =>
      ofDecimal negative (Number.digitsFrom 0 (whole ++ fraction)) (exponent - fraction.length)

/-- The double that a text stands for. -/
def ofText? (s : List Char) : Option Double :=
  let (negative, rest) := Number.signed s
  let name := String.ofList (lowered rest)
  if name = "inf" ∨ name = "infinity" then some (infinity negative)
  else if name = "nan" then some (nan negative)
  else ofUnsigned? negative rest

end Double

end RemoteDriver
