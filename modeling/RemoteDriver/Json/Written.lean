import RemoteDriver.Number.Reading
import RemoteDriver.Text.Hex

/-!
# JSON as it is written

The tree of a JSON text before it has a value: number literals are kept as their digits, names
may repeat, nesting may go to any depth, and a string may hold an escaped surrogate without its
partner, which stands for no character.  What a reader ignores has to be written correctly but
needs no value, so the tree comes first and values are taken from the parts that are used.
-/

namespace RemoteDriver.Json

/-- A number as it is written. -/
structure Literal where
  /-- Whether a minus sign stands in front. -/
  negative : Bool
  /-- The digits before the point. -/
  whole : List Char
  /-- The digits after the point, none if there is no point. -/
  fraction : List Char
  /-- Whether the exponent is negative, and its digits, if there is one. -/
  exponent : Option (Bool × List Char)
deriving DecidableEq, Repr

/-- A written JSON text as a tree. -/
inductive Written
  /-- The word `null`. -/
  | null
  /-- One of the words `true` and `false`. -/
  | boolean (b : Bool)
  /-- A number literal. -/
  | number (literal : Literal)
  /-- A string, `none` where it stands for no text. -/
  | string (s : Option String)
  /-- An array. -/
  | array (items : List Written)
  /-- An object, with its members as often as they were written. -/
  | object (members : List (Option String × Written))
deriving Repr, Inhabited

namespace Written

/-! ## Strings -/

/-- One part of a written string: a character, or half of a pair of surrogates. -/
inductive Part
  /-- A character. -/
  | char (c : Char)
  /-- A number between 0xD800 and 0xDFFF. -/
  | surrogate (n : Nat)
deriving DecidableEq, Repr

/-- The text of the parts of a string, pairs of surrogates put together. -/
def textOf : List Part → Option (List Char)
  | [] => some []
  | .char c :: r => (textOf r).map (c :: ·)
  | .surrogate high :: .surrogate low :: r =>
    if high < 0xDC00 ∧ 0xDC00 ≤ low then
      (textOf r).map (Char.ofNat (0x10000 + (high - 0xD800) * 0x400 + (low - 0xDC00)) :: ·)
    else none
  | .surrogate _ :: _ => none

/-- The part that four hexadecimal digits stand for. -/
def hexPart? (a b c d : Char) : Option Part := do
  let a ← Text.Hex.value? a
  let b ← Text.Hex.value? b
  let c ← Text.Hex.value? c
  let d ← Text.Hex.value? d
  let n := ((a * 16 + b) * 16 + c) * 16 + d
  return if 0xD800 ≤ n ∧ n ≤ 0xDFFF then .surrogate n else .char (Char.ofNat n)

/-- The character that a letter after a backslash stands for. -/
def escape? (c : Char) : Option Char :=
  if c = '"' ∨ c = '\\' ∨ c = '/' then some c
  else if c = 'b' then some (Char.ofNat 8)
  else if c = 'f' then some (Char.ofNat 12)
  else if c = 'n' then some '\n'
  else if c = 'r' then some '\r'
  else if c = 't' then some '\t'
  else none

/-- The parts of a string up to its closing quote, and what follows. -/
def parts? : List Char → Option (List Part × List Char)
  | [] => none
  | '"' :: r => some ([], r)
  | '\\' :: 'u' :: a :: b :: c :: d :: r => do
    let p ← hexPart? a b c d
    let (ps, rest) ← parts? r
    return (p :: ps, rest)
  | '\\' :: c :: r => do
    let c ← escape? c
    let (ps, rest) ← parts? r
    return (.char c :: ps, rest)
  | c :: r =>
    if c = '\\' ∨ c.toNat < 0x20 then none
    else do
      let (ps, rest) ← parts? r
      return (.char c :: ps, rest)

/-- The text of a string that begins after its opening quote, and what follows. -/
def string? (s : List Char) : Option (Option String × List Char) :=
  (parts? s).map fun (ps, rest) => ((textOf ps).map String.ofList, rest)

/-! ## Numbers -/

/-- Digits at the front of a text, at least one, and what follows. -/
def digits? (s : List Char) : Option (List Char × List Char) :=
  let digits := s.takeWhile Number.isDigit
  if digits = [] then none else some (digits, s.dropWhile Number.isDigit)

/-- The digits before the point: a single zero, or digits that do not begin with one. -/
def whole? : List Char → Option (List Char × List Char)
  | '0' :: r =>
    match r with
    | c :: _ => if Number.isDigit c then none else some (['0'], r)
    | [] => some (['0'], r)
  | s => digits? s

/-- The digits after the point, if there is one. -/
def fraction? : List Char → Option (List Char × List Char)
  | '.' :: r => digits? r
  | s => some ([], s)

/-- The exponent, if there is one. -/
def exponent? : List Char → Option (Option (Bool × List Char) × List Char)
  | c :: r =>
    if c = 'e' ∨ c = 'E' then
      let (negative, r) := Number.signed r
      (digits? r).map fun (digits, rest) => (some (negative, digits), rest)
    else some (none, c :: r)
  | [] => some (none, [])

/-- A number literal at the front of a text, and what follows. -/
def literal? (s : List Char) : Option (Literal × List Char) := do
  let (negative, s) := match s with
    | '-' :: r => (true, r)
    | s => (false, s)
  let (whole, s) ← whole? s
  let (fraction, s) ← fraction? s
  let (exponent, s) ← exponent? s
  return (⟨negative, whole, fraction, exponent⟩, s)

/-! ## Values -/

/-- Whether a character may stand between the parts of a text. -/
def isBlank (c : Char) : Bool := c = ' ' || c = '\n' || c = '\t' || c = '\r'

/-- A text without the blanks at its front. -/
def skip (s : List Char) : List Char := s.dropWhile isBlank

mutual

/-- The value at the front of a text, and what follows.  Every value takes a character, so that
the length of the text is fuel enough. -/
def value? : (fuel : Nat) → List Char → Option (Written × List Char)
  | 0, _ => none
  | fuel + 1, s =>
    match skip s with
    | 'n' :: 'u' :: 'l' :: 'l' :: r => some (.null, r)
    | 't' :: 'r' :: 'u' :: 'e' :: r => some (.boolean true, r)
    | 'f' :: 'a' :: 'l' :: 's' :: 'e' :: r => some (.boolean false, r)
    | '"' :: r => (string? r).map fun (s, rest) => (.string s, rest)
    | '[' :: r =>
      match skip r with
      | ']' :: rest => some (.array [], rest)
      | _ => (items? fuel r).map fun (items, rest) => (.array items, rest)
    | '\x7b' :: r =>
      match skip r with
      | '\x7d' :: rest => some (.object [], rest)
      | _ => (members? fuel r).map fun (members, rest) => (.object members, rest)
    | r => (literal? r).map fun (literal, rest) => (.number literal, rest)

/-- One or more values with commas between them up to the closing bracket, and what follows. -/
def items? : (fuel : Nat) → List Char → Option (List Written × List Char)
  | 0, _ => none
  | fuel + 1, s =>
    match value? fuel s with
    | none => none
    | some (v, r) =>
      match skip r with
      | ']' :: rest => some ([v], rest)
      | ',' :: rest => (items? fuel rest).map fun (vs, rest) => (v :: vs, rest)
      | _ => none

/-- One or more members with commas between them up to the closing brace, and what follows. -/
def members? : (fuel : Nat) → List Char → Option (List (Option String × Written) × List Char)
  | 0, _ => none
  | fuel + 1, s =>
    match skip s with
    | '"' :: r =>
      match string? r with
      | none => none
      | some (k, r) =>
        match skip r with
        | ':' :: r =>
          match value? fuel r with
          | none => none
          | some (v, r) =>
            match skip r with
            | '\x7d' :: rest => some ([(k, v)], rest)
            | ',' :: rest => (members? fuel rest).map fun (ms, rest) => ((k, v) :: ms, rest)
            | _ => none
        | _ => none
    | _ => none

end

/-- The tree of a text that holds one value and nothing else but blanks. -/
def ofText? (s : String) : Option Written :=
  match value? (s.toList.length + 1) s.toList with
  | some (v, rest) => if skip rest = [] then some v else none
  | none => none

end Written

end RemoteDriver.Json
