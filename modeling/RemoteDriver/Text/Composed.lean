import RemoteDriver.Text.Canonical
import RemoteDriver.Text.Combining

/-!
# Composed texts

Texts that differ only in how their marks are written have one composed form: characters are taken
apart, marks are ordered by their combining classes, and what can be made of two characters is
made.  Syllables of Hangul are made of their letters by calculation.
-/

namespace RemoteDriver.Text

/-! ## Hangul -/

/-- The number of the first syllable. -/
def firstSyllable : Nat := 0xAC00

/-- How many syllables there are. -/
def syllableCount : Nat := 11172

/-- The letters of a syllable: one of nineteen that begin it, one of twenty-one vowels, and one of
twenty-seven at its end or none. -/
def lettersOf? (c : Char) : Option (List Char) :=
  let n := c.toNat - firstSyllable
  if firstSyllable ≤ c.toNat ∧ n < syllableCount then
    let last := if n % 28 = 0 then [] else [Char.ofNat (0x11A7 + n % 28)]
    some (Char.ofNat (0x1100 + n / 588) :: Char.ofNat (0x1161 + n % 588 / 28) :: last)
  else none

/-- The syllable of two letters, or of a syllable that has no end yet and a letter. -/
def syllable? (a b : Char) : Option Char :=
  let lead := a.toNat - 0x1100
  let vowel := b.toNat - 0x1161
  let whole := a.toNat - firstSyllable
  let last := b.toNat - 0x11A7
  if 0x1100 ≤ a.toNat ∧ lead < 19 ∧ 0x1161 ≤ b.toNat ∧ vowel < 21 then
    some (Char.ofNat (firstSyllable + (lead * 21 + vowel) * 28))
  else if firstSyllable ≤ a.toNat ∧ whole < syllableCount ∧ whole % 28 = 0 ∧ 0x11A7 < b.toNat
      ∧ last < 28 then
    some (Char.ofNat (a.toNat + last))
  else none

/-! ## Taking apart -/

/-- What a character stands for, which may stand for something again. -/
def parts (c : Char) : List Char :=
  if c.toNat < 0xC0 then [c]
  else match lettersOf? c with
    | some letters => letters
    | none =>
      match compounds.find? (·.whole == c) <|> apart.find? (·.whole == c) with
      | some u => [u.first, u.second]
      | none =>
        match replacements.lookup c.toNat with
        | some other => [other]
        | none => [c]

/-- What characters stand for in the end: no character stands for others more than three times
over. -/
def takenApart (s : List Char) : List Char := ((s.flatMap parts).flatMap parts).flatMap parts

/-! ## Order -/

/-- A character put in front of an ordered text: it moves behind the marks of lower classes. -/
def placed (c : Char) : List Char → List Char
  | [] => [c]
  | d :: r =>
    if 0 < combiningClass d ∧ combiningClass d < combiningClass c then d :: placed c r
    else c :: d :: r

/-- A text with its marks in order. -/
def ordered (s : List Char) : List Char := s.foldr placed []

/-! ## Making -/

/-- The character that two others make. -/
def compound? (a b : Char) : Option Char :=
  match syllable? a b with
  | some c => some c
  | none => (compounds.find? fun u => u.second == b && u.first == a).map (·.whole)

/-- A text read on from a character and the marks after it that it could not take up, the latest
first.  A mark is out of reach behind one of its own or of a higher class. -/
def composedFrom (base : Char) (marks : List Char) : List Char → List Char
  | [] => base :: marks.reverse
  | c :: r =>
    let reached := match marks with
      | [] => true
      | d :: _ => combiningClass d < combiningClass c
    match if reached then compound? base c else none with
    | some whole => composedFrom whole marks r
    | none =>
      if combiningClass c = 0 then base :: (marks.reverse ++ composedFrom c [] r)
      else composedFrom base (c :: marks) r

/-- An ordered text with everything made that can be made. -/
def madeWhole : List Char → List Char
  | [] => []
  | c :: r => if combiningClass c = 0 then composedFrom c [] r else c :: madeWhole r

/-- The composed form of a text. -/
def composed (s : List Char) : List Char := madeWhole (ordered (takenApart s))

end RemoteDriver.Text
