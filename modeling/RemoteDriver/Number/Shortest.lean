import RemoteDriver.Number.Double

/-!
# Shortest decimal text of a double

The fewest decimal digits that read back as the same double.  The reals that round to a double
form an interval around it, whose ends belong to it when the significand is even.  For one, two,
… seventeen digits the two neighbours of the double on the decimal grid of that many digits are
tried; the first grid with a neighbour inside the interval decides, and of two neighbours inside
the nearer one is taken.

Two forms are written: the *wire form* with an exponent for large and small numbers, and the
*plain form* that never has one.
-/

namespace RemoteDriver

/-- A decimal number `digits * 10 ^ (exponent - n + 1)`, with `n` the count of the digits, so that
`exponent` is the decimal exponent of the first digit. -/
structure Decimal where
  /-- The digits as characters, without a zero at the end. -/
  digits : List Char
  /-- The exponent of ten that the first digit stands at. -/
  exponent : Int
deriving DecidableEq, Repr

/-- Where a double lies halfway between two decimals that both read back as it. -/
inductive Tie
  /-- The decimal with an even last digit is taken. -/
  | toEven
  /-- The decimal of larger magnitude is taken. -/
  | up
deriving DecidableEq, Repr

/-! ## The two forms of a decimal -/

namespace Decimal

/-- A run of `n` zeros. -/
def zeros (n : Nat) : List Char := List.replicate n '0'

/-- A decimal without an exponent; `fraction` tells whether a whole number gets `.0`. -/
def plain (fraction : Bool) (d : Decimal) : List Char :=
  let n := d.digits.length
  if d.exponent < 0 then '0' :: '.' :: (zeros (-d.exponent - 1).toNat ++ d.digits)
  else
    let whole := d.exponent.toNat + 1
    if n ≤ whole then
      d.digits ++ zeros (whole - n) ++ (if fraction then ['.', '0'] else [])
    else d.digits.take whole ++ '.' :: d.digits.drop whole

/-- A decimal with an exponent: one digit, the others after a point, and the exponent with its
sign. -/
def scientific (d : Decimal) : List Char :=
  let mantissa := match d.digits with
    | [] => ['0']
    | [c] => [c]
    | c :: r => c :: '.' :: r
  let sign := if d.exponent < 0 then '-' else '+'
  mantissa ++ 'e' :: sign :: (toString d.exponent.natAbs).toList

end Decimal

/-! ## The digits of a double -/

namespace Double

/-- The decimal place of the leading digit of the quotient `num / den`, for positive numbers: the
largest `k` with `10 ^ k * den ≤ num`. -/
def leadingDigit (num den : Nat) : Int :=
  let guess : Int := ((toString num).length : Int) - ((toString den).length : Int)
  if 0 ≤ guess then
    if Number.tenTo guess.toNat * den ≤ num then guess else guess - 1
  else
    if den ≤ Number.tenTo (-guess).toNat * num then guess else guess - 1

/-- The magnitude and the two ends of the interval of a finite double, each as a count of
quarters of its last place; and the numerator and denominator of such a quarter. -/
def interval (d : Double) : (Nat × Nat × Nat) × (Nat × Nat) :=
  let m := d.significand
  let low := if d.fractionBits = 0 ∧ 1 < d.exponentBits then 4 * m - 1 else 4 * m - 2
  let quarter := d.scale - 2
  ((4 * m, low, 4 * m + 2),
    if 0 ≤ quarter then (Number.twoTo quarter.toNat, 1)
    else (1, Number.twoTo (-quarter).toNat))

/-- The decimals of `count` digits next to the double that read back as it, the better one. -/
def decimalOf? (tie : Tie) (d : Double) (count : Nat) : Option Decimal :=
  let ((value, low, high), (unitNum, unitDen)) := d.interval
  let first := leadingDigit (value * unitNum) unitDen
  let step := first - (count - 1 : Nat)
  -- both sides of every comparison are multiplied by the denominators of the step and the unit
  let (stepNum, stepDen) : Nat × Nat :=
    if 0 ≤ step then (Number.tenTo step.toNat * unitDen, unitNum)
    else (unitDen, unitNum * Number.tenTo (-step).toNat)
  let scaled := value * stepDen
  let below := scaled / stepNum
  let inside (n : Nat) : Bool :=
    let x := n * stepNum
    if d.significand % 2 = 0 then decide (low * stepDen ≤ x ∧ x ≤ high * stepDen)
    else decide (low * stepDen < x ∧ x < high * stepDen)
  let pick (n : Nat) : Option Decimal :=
    let text := (toString n).toList
    some ⟨(text.reverse.dropWhile (· == '0')).reverse, first + text.length - count⟩
  let rest := scaled - below * stepNum
  if rest = 0 then pick below
  else
    match inside below, inside (below + 1) with
    | true, true =>
      if 2 * rest < stepNum then pick below
      else if stepNum < 2 * rest then pick (below + 1)
      else
        match tie with
        | .toEven => if below % 2 = 0 then pick below else pick (below + 1)
        | .up => pick (below + 1)
    | true, false => pick below
    | false, true => pick (below + 1)
    | false, false => none

/-- The shortest decimal of a finite double that is not zero. -/
def shortest (tie : Tie) (d : Double) : Decimal :=
  match (List.range 17).findSome? fun n => decimalOf? tie d (n + 1) with
  | some decimal => decimal
  | none => ⟨[], 0⟩

/-! ## The two texts of a double -/

/-- The minus sign of a double, if it has one. -/
def signText (d : Double) : List Char := if d.negative then ['-'] else []

/-- The wire form of a finite double: digits with at least one after the point while the first
digit stands between the fifth place after the point and the sixteenth before it, and with an
exponent otherwise. -/
def wireText (d : Double) : String :=
  String.ofList <| d.signText ++
    if d.isZero then ['0', '.', '0']
    else
      let decimal := shortest .toEven d
      if -5 ≤ decimal.exponent ∧ decimal.exponent ≤ 15 then decimal.plain true
      else decimal.scientific

/-- The plain form of a double: all digits and no exponent; `fraction` tells whether a whole
number is written with `.0`. -/
def plainText (fraction : Bool) (d : Double) : String :=
  if d.isNaN then "NaN"
  else String.ofList <| d.signText ++
    if d.isInfinite then ['i', 'n', 'f']
    else if d.isZero then (if fraction then ['0', '.', '0'] else ['0'])
    else (shortest .up d).plain fraction

end Double

end RemoteDriver
