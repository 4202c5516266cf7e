/-!
# Punycode

The ASCII form of a label of a host name that has characters beyond ASCII: the ASCII characters
first, and then where and which the others are, as numbers with digits of varying weight.
-/

namespace RemoteDriver.Url.Punycode

/-- The digit of a number below thirty-six. -/
def digit (n : Nat) : Char := if n < 26 then Char.ofNat (0x61 + n) else Char.ofNat (0x30 + n - 26)

/-- How far a bias moves a difference down: each step divides by thirty-five. -/
def reduce (k delta : Nat) : Nat × Nat :=
  if 455 < delta then reduce (k + 36) (delta / 35) else (k, delta)
termination_by delta
decreasing_by omega

/-- The bias after a difference has been written. -/
def adapt (delta points : Nat) (first : Bool) : Nat :=
  let delta := if first then delta / 700 else delta / 2
  let (k, delta) := reduce 0 (delta + delta / points)
  k + 36 * delta / (delta + 38)

/-- The least digit that ends a number, at weight `k`. -/
def threshold (bias k : Nat) : Nat :=
  if k ≤ bias then 1 else if bias + 26 ≤ k then 26 else k - bias

/-- No digit of a number has weight zero. -/
theorem one_le_threshold (bias k : Nat) : 1 ≤ threshold bias k := by
  unfold threshold
  split
  · omega
  · split <;> omega

/-- The digits of a difference, from the digit of weight `k` on. -/
def differenceFrom (bias k q : Nat) : List Char :=
  let t := threshold bias k
  if q < t then [digit q]
  else digit (t + (q - t) % (36 - t)) :: differenceFrom bias (k + 36) ((q - t) / (36 - t))
termination_by q
decreasing_by
  have one := one_le_threshold bias k
  have : (q - threshold bias k) / (36 - threshold bias k) ≤ q - threshold bias k :=
    Nat.div_le_self _ _
  omega

/-- How far the writing of a label has come. -/
structure Progress where
  /-- The difference gathered since the last number. -/
  delta : Nat
  /-- The bias of the next number. -/
  bias : Nat
  /-- How many characters have been handled. -/
  handled : Nat
  /-- The digits so far. -/
  written : List Char

/-- Writes the characters equal to `point` in the label, in order. -/
def writePoint (basic point : Nat) (p : Progress) : List Nat → Progress
  | [] => p
  | c :: rest =>
    if c < point then writePoint basic point { p with delta := p.delta + 1 } rest
    else if c = point then
      writePoint basic point
        { delta := 0
          bias := adapt p.delta (p.handled + 1) (p.handled = basic)
          handled := p.handled + 1
          written := p.written ++ differenceFrom p.bias 36 p.delta } rest
    else writePoint basic point p rest

/-- Writes the characters of the points in `points`, which increase, from `start` on. -/
def writePoints (basic : Nat) (label : List Nat) : Nat → List Nat → Progress → Progress
  | _, [], p => p
  | start, point :: rest, p =>
    let p := { p with delta := p.delta + (point - start) * (p.handled + 1) }
    let p := writePoint basic point p label
    writePoints basic label (point + 1) rest { p with delta := p.delta + 1 }

/-- The ASCII form of a label, without the mark in front that tells it apart from other
labels. -/
def encode (label : List Char) : List Char :=
  let numbers := label.map Char.toNat
  let basic := label.filter fun c => c.toNat < 0x80
  let points := ((numbers.filter (0x80 ≤ ·)).mergeSort (· ≤ ·)).eraseDups
  let head := if basic = [] then [] else basic ++ ['-']
  head ++ (writePoints basic.length numbers 0x80 points ⟨0, 72, basic.length, []⟩).written

/-! ## Reading -/

/-- The value of a digit. -/
def value? (c : Char) : Option Nat :=
  let n := c.toNat
  if 0x61 ≤ n ∧ n ≤ 0x7A then some (n - 0x61)
  else if 0x30 ≤ n ∧ n ≤ 0x39 then some (n - 0x30 + 26)
  else none

/-- The bound of the numbers that are reckoned with. -/
def bound : Nat := 4294967296

/-- How far the reading of a label has come. -/
structure Reading where
  /-- The characters so far. -/
  chars : List Char
  /-- The number of the character that was put in last. -/
  point : Nat
  /-- The place after that character. -/
  start : Nat
  /-- The place that the digits of the current number lead to so far, counted on through all
  characters that might be put in. -/
  place : Nat
  /-- The bias of the current number. -/
  bias : Nat
  /-- The weight of the next digit. -/
  weight : Nat
  /-- The position of the next digit, in steps of thirty-six. -/
  position : Nat

/-- What is known after the ASCII characters of a label. -/
def Reading.ofBasic (basic : List Char) : Reading := ⟨basic, 0x80, 0, 0, 72, 1, 36⟩

/-- One more digit.  One below the threshold ends its number, and a character is put in. -/
def Reading.next? (r : Reading) (c : Char) : Option Reading := do
  let d ← value? c
  let place := r.place + d * r.weight
  let t := threshold r.bias r.position
  if bound ≤ place then none
  else if d < t then
    let points := r.chars.length + 1
    let point := r.point + place / points
    let here := place % points
    if point.isValidChar then
      some {
        chars := r.chars.take here ++ Char.ofNat point :: r.chars.drop here
        point := point
        start := here + 1
        place := here + 1
        bias := adapt (place - r.start) points (r.start = 0)
        weight := 1
        position := 36 }
    else none
  else if bound ≤ r.weight * (36 - t) then none
  else some { r with
    place := place
    weight := r.weight * (36 - t)
    position := r.position + 36 }

/-- The ASCII characters of a written label and the digits after them. -/
def basicAndDigits (s : List Char) : List Char × List Char :=
  let digits := (s.reverse.takeWhile (· ≠ '-')).reverse
  let basic := s.take (s.length - digits.length - 1)
  if basic = [] then ([], s) else (basic, digits)

/-- The label that a text in lower case is the ASCII form of. -/
def decode? (s : List Char) : Option (List Char) := do
  let (basic, digits) := basicAndDigits s
  let r ← digits.foldlM Reading.next? (Reading.ofBasic basic)
  if r.position = 36 then some r.chars else none

end RemoteDriver.Url.Punycode
