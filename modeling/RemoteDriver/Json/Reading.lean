import RemoteDriver.Json.Basic
import RemoteDriver.Json.Written

/-!
# Reading JSON

The value of a written text.  A text has no value if it nests deeper than `maxDepth`, holds a
number beyond the doubles or a string with an unpaired surrogate.  A name that is written
repeatedly counts once, in its first place and with its last value.

Whole numbers are exact as long as they fit into 64 bits.  Any other literal is a double, made
from at most 64 bits of leading digits and a power of ten, each rounded on its own.
-/

namespace RemoteDriver.Json

/-! ## Numbers -/

namespace Literal

/-- The largest number of leading digits that is kept. -/
def maxSignificand : Nat := Number.maxUInt64

/-- Digits read on from `acc` until the next one would exceed `maxSignificand`, and the count of
digits left. -/
def accumulate (acc : Nat) : List Char → Nat × Nat
  | [] => (acc, 0)
  | c :: r =>
    let next := acc * 10 + (Number.digitValue? c).getD 0
    if next ≤ maxSignificand then accumulate next r else (acc, r.length + 1)

/-- The power of ten with the given exponent, rounded to a double. -/
def powerOfTen (n : Nat) : Double := Double.ofRatio false (Number.tenTo n) 1

/-- `f` scaled by a power of ten, in steps of at most 308 decimal places, each rounded; nothing if
the result is too large. -/
def scaled? (f : Double) (exponent : Int) : Option Double :=
  if exponent.natAbs ≤ 308 then
    if 0 ≤ exponent then
      let g := f.mul (powerOfTen exponent.natAbs)
      if g.isInfinite then none else some g
    else some (f.div (powerOfTen exponent.natAbs))
  else if f.isZero then some f
  else if 0 ≤ exponent then none
  else scaled? (f.div (powerOfTen 308)) (exponent + 308)
termination_by exponent.natAbs
decreasing_by omega

/-- A double with the sign of the literal. -/
def withSign (negative : Bool) (f : Double) : Double :=
  if negative then ⟨f.bits ^^^ 0x8000000000000000⟩ else f

/-- The exponent of a literal; nothing if it has more than 31 bits. -/
def exponentValue? (digits : List Char) : Option Nat :=
  let n := Number.digitsFrom 0 digits
  if (n : Int) ≤ Number.maxInt32 then some n else none

/-- The double of a literal with `significand` as its leading digits and `places` as the exponent
of the last of them. -/
def double? (l : Literal) (significand : Nat) (places : Int) : Option Double :=
  let result := match l.exponent with
    | none => scaled? (Double.ofRatio false significand 1) places
    | some (negative, digits) =>
      match exponentValue? digits with
      | none => if significand ≠ 0 ∧ !negative then none else some (Double.zero false)
      | some n =>
        let exponent := if negative then places - n else places + n
        scaled? (Double.ofRatio false significand 1) exponent
  result.map (withSign l.negative)

/-- The value of a literal, if there is one. -/
def value? (l : Literal) : Option Number :=
  let (significand, dropped) := accumulate 0 l.whole
  if l.fraction = [] then
    if l.exponent = none ∧ dropped = 0 then
      if !l.negative then some (.whole significand)
      else if 0 < significand ∧ significand ≤ Number.twoTo 63 then some (.whole (-significand))
      else some (.double (withSign true (Double.ofRatio false significand 1)))
    else (l.double? significand dropped).map .double
  else
    let (significand, ignored) := accumulate significand l.fraction
    let used := l.fraction.length - ignored
    (l.double? significand (dropped - used)).map .double

end Literal

/-! ## Values -/

/-- How many arrays and objects may stand inside each other. -/
def maxDepth : Nat := 127

namespace Written

mutual

/-- The value of a tree that may nest `depth` arrays and objects. -/
def value (depth : Nat) : Written → Option Json
  | .null => some .null
  | .boolean b => some (.boolean b)
  | .number l => l.value?.map .number
  | .string s => s.map .string
  | .array items =>
    match depth with
    | 0 => none
    | depth + 1 => (values depth items).map .array
  | .object members =>
    match depth with
    | 0 => none
    | depth + 1 => (namedValues depth members).map fun ms => .object (distinct ms)

/-- The values of trees, if all have one. -/
def values (depth : Nat) : List Written → Option (List Json)
  | [] => some []
  | w :: ws =>
    match value depth w, values depth ws with
    | some v, some vs => some (v :: vs)
    | _, _ => none

/-- The members of trees with names, if all have a name and a value. -/
def namedValues (depth : Nat) : List (Option String × Written) → Option (List (String × Json))
  | [] => some []
  | (k, w) :: ws =>
    match k, value depth w, namedValues depth ws with
    | some k, some v, some vs => some ((k, v) :: vs)
    | _, _, _ => none

end

end Written

/-- What messages say about a text that is not JSON, whatever is wrong with it. -/
def unreadable : String := "<json>"

/-- The value of a text. -/
def ofText? (s : String) : Option Json := (Written.ofText? s).bind (Written.value maxDepth)

end RemoteDriver.Json
