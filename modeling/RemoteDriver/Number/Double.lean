import RemoteDriver.Number.Range

/-!
# Doubles

The binary floating-point numbers of 64 bits, held as their bits, so that two doubles are equal
exactly when they are the same datum.  A finite double is `significand * 2 ^ scale`, and the one
way to make a double here is `ofRatio`, which rounds an exact quotient to the nearest double and
sends a tie to the even significand.  Products and quotients of doubles are rounded from their
exact values in this way.
-/

namespace RemoteDriver

/-- A double, given by its 64 bits. -/
structure Double where
  /-- Sign bit, eleven exponent bits and fifty-two fraction bits. -/
  bits : UInt64
deriving DecidableEq, Repr, Inhabited

namespace Double

/-! ## Parts -/

/-- The sign bit. -/
def signBit : Nat := 0x8000000000000000

/-- The leading bit of a significand, which most doubles do not store: the bit after the
fraction. -/
def leadingUnit : Nat := 0x10000000000000

/-- Whether the sign bit is set. -/
def negative (d : Double) : Bool := decide (signBit ≤ d.bits.toNat)

/-- The exponent bits as a number. -/
def exponentBits (d : Double) : Nat := d.bits.toNat / leadingUnit % 2048

/-- The fraction bits as a number. -/
def fractionBits (d : Double) : Nat := d.bits.toNat % leadingUnit

/-- Whether the double is a number and not an infinity. -/
def isFinite (d : Double) : Bool := decide (d.exponentBits < 2047)

/-- Whether the double is no number. -/
def isNaN (d : Double) : Bool := decide (d.exponentBits = 2047) && decide (d.fractionBits ≠ 0)

/-- Whether the double is one of the two infinities. -/
def isInfinite (d : Double) : Bool := decide (d.exponentBits = 2047) && decide (d.fractionBits = 0)

/-- Whether the double is one of the two zeros. -/
def isZero (d : Double) : Bool := decide (d.exponentBits = 0) && decide (d.fractionBits = 0)

/-- Whether the double is finite, not zero and held with fewer than fifty-three bits. -/
def isSubnormal (d : Double) : Bool := decide (d.exponentBits = 0) && decide (d.fractionBits ≠ 0)

/-- The significand of a finite double, with the leading bit that is not stored. -/
def significand (d : Double) : Nat :=
  if d.exponentBits = 0 then d.fractionBits else leadingUnit + d.fractionBits

/-- The power of two that the significand of a finite double is multiplied by. -/
def scale (d : Double) : Int := (if d.exponentBits = 0 then 1 else d.exponentBits) - 1075

/-- Numerator and denominator of the magnitude of a finite double. -/
def ratio (d : Double) : Nat × Nat :=
  if 0 ≤ d.scale then (d.significand * Number.twoTo d.scale.toNat, 1)
  else (d.significand, Number.twoTo (-d.scale).toNat)

/-! ## Making doubles -/

/-- The double of a sign and the other sixty-three bits. -/
def ofMagnitude (negative : Bool) (magnitude : Nat) : Double :=
  ⟨UInt64.ofNat (if negative then signBit + magnitude else magnitude)⟩

/-- The infinity of a sign. -/
def infinity (negative : Bool) : Double := ofMagnitude negative (2047 * leadingUnit)

/-- The zero of a sign. -/
def zero (negative : Bool) : Double := ofMagnitude negative 0

/-- The datum that is no number, of a sign. -/
def nan (negative : Bool) : Double :=
  ofMagnitude negative (2047 * leadingUnit + leadingUnit / 2)

/-- The quotient `num / den` rounded to a whole number, a tie going to the even one. -/
def roundDiv (num den : Nat) : Nat :=
  let q := num / den
  let r := num % den
  if 2 * r < den then q
  else if den < 2 * r then q + 1
  else q + q % 2

/-- The place of the leading bit of the quotient `num / den`, for positive numbers: the largest
`k` with `2 ^ k * den ≤ num`. -/
def leadingBit (num den : Nat) : Int :=
  let guess : Int := (Nat.log2 num : Int) - (Nat.log2 den : Int)
  if 0 ≤ guess then
    if Number.twoTo guess.toNat * den ≤ num then guess else guess - 1
  else
    if den ≤ Number.twoTo (-guess).toNat * num then guess else guess - 1

/-- The double nearest to `num / den` with the given sign; an infinity where no finite double is
large enough.  The quotient is measured in units of `2 ^ unit`, the distance of neighbouring
doubles at its size, and the count of units continues the exponent bits. -/
def ofRatio (negative : Bool) (num den : Nat) : Double :=
  if num = 0 then zero negative
  else
    let unit := max (-1074) (leadingBit num den - 52)
    let count :=
      if 0 ≤ unit then roundDiv num (den * Number.twoTo unit.toNat)
      else roundDiv (num * Number.twoTo (-unit).toNat) den
    let magnitude := (unit + 1074).toNat * leadingUnit + count
    if 2047 * leadingUnit ≤ magnitude then infinity negative else ofMagnitude negative magnitude

/-- The double nearest to a whole number. -/
def ofInt (n : Int) : Double := ofRatio (decide (n < 0)) n.natAbs 1

/-- The product of two finite doubles. -/
def mul (a b : Double) : Double :=
  let (an, ad) := a.ratio
  let (bn, bd) := b.ratio
  ofRatio (a.negative != b.negative) (an * bn) (ad * bd)

/-- The quotient of two finite doubles, the second not zero. -/
def div (a b : Double) : Double :=
  let (an, ad) := a.ratio
  let (bn, bd) := b.ratio
  ofRatio (a.negative != b.negative) (an * bd) (ad * bn)

/-! ## Whole numbers and comparison -/

/-- The whole number that a finite double is, if it is one. -/
def toInt? (d : Double) : Option Int :=
  if d.isFinite then
    let (num, den) := d.ratio
    if num % den = 0 then
      some (if d.negative then -(num / den : Nat) else (num / den : Nat))
    else none
  else none

/-- Equality of doubles as numbers: the two zeros are equal, and what is no number equals
nothing. -/
def sameNumber (a b : Double) : Bool :=
  !a.isNaN && !b.isNaN && (a == b || (a.isZero && b.isZero))

example : ofRatio false 1 1 = ⟨0x3FF0000000000000⟩ := by decide
example : ofRatio true 1 10 = ⟨0xBFB999999999999A⟩ := by decide

end Double

end RemoteDriver
