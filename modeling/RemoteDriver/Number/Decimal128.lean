import RemoteDriver.Number.Reading

/-!
# Decimal numbers of 128 bits

A decimal number has a sign, a coefficient of at most thirty-four digits and an exponent of ten;
besides there are two infinities and data that are no number.  The coefficient and the exponent
are kept apart, so that `1.0` and `1.00` are different data.

A text whose coefficient has too many digits, or whose exponent is out of range, is read only if
moving zeros between the two makes it fit.
-/

namespace RemoteDriver

/-- A decimal number of 128 bits. -/
inductive Decimal128
  /-- `coefficient * 10 ^ exponent` with a sign. -/
  | finite (negative : Bool) (coefficient : Nat) (exponent : Int)
  /-- The infinity of a sign. -/
  | infinity (negative : Bool)
  /-- What is no number, with a sign and the mark that it raises a signal. -/
  | nan (negative signalling : Bool)
deriving DecidableEq, Repr

namespace Decimal128

/-- The most digits of a coefficient. -/
def maxDigits : Nat := 34

/-- The smallest exponent. -/
def minExponent : Int := -6176

/-- The largest exponent. -/
def maxExponent : Int := 6111

/-! ## Reading -/

/-- Whether every character is a zero. -/
def allZeros (s : List Char) : Bool := s.all (· == '0')

/-- A coefficient with its exponent, brought to at most `maxDigits` digits by cutting zeros off
its end. -/
def fitDigits (digits : List Char) (exponent : Int) : Option (List Char × Int) :=
  let surplus := digits.length - maxDigits
  if allZeros (digits.drop maxDigits) then some (digits.take maxDigits, exponent + surplus)
  else none

/-- A coefficient with its exponent, the exponent raised to `minExponent` by cutting zeros off
the coefficient's end. -/
def fitLow (digits : List Char) (exponent : Int) : Option (List Char × Int) :=
  if minExponent ≤ exponent then some (digits, exponent)
  else if digits = ['0'] then some (digits, minExponent)
  else
    let surplus := (minExponent - exponent).toNat
    let kept := digits.length - surplus
    if surplus ≤ digits.length ∧ allZeros (digits.drop kept) then
      some (digits.take kept, minExponent)
    else none

/-- A coefficient with its exponent, the exponent lowered to `maxExponent` by writing zeros at
the coefficient's end. -/
def fitHigh (digits : List Char) (exponent : Int) : Option (List Char × Int) :=
  if exponent ≤ maxExponent then some (digits, exponent)
  else if digits = ['0'] then some (digits, maxExponent)
  else
    let surplus := (exponent - maxExponent).toNat
    if digits.length + surplus ≤ maxDigits then
      some (digits ++ List.replicate surplus '0', maxExponent)
    else none

/-- The coefficient of a text before its exponent, and the count of its digits after the
point. -/
def coefficientOf (s : List Char) : List Char × Nat :=
  match s.span (· ≠ '.') with
  | (whole, '.' :: fraction) => (whole ++ fraction, fraction.length)
  | (whole, _) => (whole, 0)

/-- A text without the zeros at its front; the number zero keeps one. -/
def significant (s : List Char) : List Char :=
  match s.dropWhile (· == '0') with
  | [] => ['0']
  | r => r

/-- The finite decimal of an unsigned text in lower case. -/
def ofUnsigned? (negative : Bool) (s : List Char) : Option Decimal128 := do
  let (mantissa, exponent) ← match s.span (· ≠ 'e') with
    | (mantissa, 'e' :: text) =>
      (Number.intWithin? (-32768) 32767 text).map fun exponent => (mantissa, exponent)
    | (mantissa, _) => some (mantissa, 0)
  let (digits, fraction) := coefficientOf mantissa
  -- exponents are words of sixteen bits
  guard (-32768 ≤ exponent - fraction)
  let (digits, exponent) ← fitDigits (significant digits) (exponent - fraction)
  guard (exponent ≤ 32767)
  let (digits, exponent) ← fitLow digits exponent
  let (digits, exponent) ← fitHigh digits exponent
  let coefficient ← Number.natWithin? (Number.twoTo 128 - 1) digits
  return .finite negative coefficient exponent

/-- The decimal that a text stands for. -/
def ofText? (s : List Char) : Option Decimal128 :=
  let (negative, rest) := Number.signed s
  let rest := Double.lowered rest
  let name := String.ofList rest
  if name = "nan" then some (.nan negative false)
  else if name = "snan" then some (.nan negative true)
  else if name = "inf" ∨ name = "infinity" then some (.infinity negative)
  else ofUnsigned? negative rest

/-! ## Writing -/

/-- The digits of a whole number. -/
def digitsOf (n : Nat) : List Char := (toString n).toList

/-- The text of a coefficient and an exponent: without an exponent as long as that takes no
more than five zeros between the point and the first digit, and with one otherwise. -/
def finiteText (coefficient : Nat) (exponent : Int) : List Char :=
  let digits := digitsOf coefficient
  let n := digits.length
  let leading := exponent + n - 1
  if exponent ≤ 0 ∧ -6 ≤ leading then
    let places := (-exponent).toNat
    if places = 0 then digits
    else if n ≤ places then '0' :: '.' :: (List.replicate (places - n) '0' ++ digits)
    else digits.take (n - places) ++ '.' :: digits.drop (n - places)
  else
    let mantissa := match digits with
      | c :: d :: r => c :: '.' :: d :: r
      | r => r
    let sign := if 0 < leading then ['+'] else if leading < 0 then ['-'] else []
    mantissa ++ 'E' :: (sign ++ digitsOf leading.natAbs)

/-- The text of a decimal.  What is no number has one text, whatever its sign. -/
def text : Decimal128 → String
  | .finite negative coefficient exponent =>
    String.ofList ((if negative then ['-'] else []) ++ finiteText coefficient exponent)
  | .infinity negative => if negative then "-Infinity" else "Infinity"
  | .nan _ _ => "NaN"

end Decimal128

end RemoteDriver
