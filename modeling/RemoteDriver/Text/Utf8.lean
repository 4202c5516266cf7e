/-!
# UTF-8

The bytes of a text, and the text of bytes that need not be well formed.
-/

namespace RemoteDriver.Text.Utf8

/-- The bytes of a text. -/
def encode (s : List Char) : List UInt8 := s.flatMap String.utf8EncodeChar

/-- The character that stands in for bytes that are not UTF-8. -/
def replacement : Char := Char.ofNat 0xFFFD

/-- Bytes that continue a character. -/
def isContinuation (b : UInt8) : Bool := 0x80 ≤ b.toNat && b.toNat ≤ 0xBF

/-- Whether `b` may come second after the leading byte `lead`.  Overlong forms, surrogates and
numbers beyond the last character are shut out here. -/
def isSecond (lead b : UInt8) : Bool :=
  let n := b.toNat
  match lead.toNat with
  | 0xE0 => 0xA0 ≤ n && n ≤ 0xBF
  | 0xED => 0x80 ≤ n && n ≤ 0x9F
  | 0xF0 => 0x90 ≤ n && n ≤ 0xBF
  | 0xF4 => 0x80 ≤ n && n ≤ 0x8F
  | _ => isContinuation b

/-- How many bytes a character with this leading byte has; zero if none leads with it. -/
def width (lead : UInt8) : Nat :=
  let n := lead.toNat
  if n < 0x80 then 1
  else if 0xC2 ≤ n && n ≤ 0xDF then 2
  else if 0xE0 ≤ n && n ≤ 0xEF then 3
  else if 0xF0 ≤ n && n ≤ 0xF4 then 4
  else 0

/-- What stands at the front of a byte sequence: the character, or `none` for the longest front
part that begins a character without finishing it; and how many bytes this takes after the
first. -/
def front (lead : UInt8) (rest : List UInt8) : Option Char × Nat :=
  match width lead, rest with
  | 1, _ => (some (Char.ofNat lead.toNat), 0)
  | 2, b :: _ =>
    if isContinuation b then (some (Char.ofNat ((lead.toNat - 0xC0) * 64 + (b.toNat - 0x80))), 1)
    else (none, 0)
  | 3, b :: r =>
    if !isSecond lead b then (none, 0)
    else match r with
      | c :: _ =>
        if isContinuation c then
          (some (Char.ofNat (((lead.toNat - 0xE0) * 64 + (b.toNat - 0x80)) * 64
            + (c.toNat - 0x80))), 2)
        else (none, 1)
      | [] => (none, 1)
  | 4, b :: r =>
    if !isSecond lead b then (none, 0)
    else match r with
      | c :: r =>
        if !isContinuation c then (none, 1)
        else match r with
          | d :: _ =>
            if isContinuation d then
              (some (Char.ofNat ((((lead.toNat - 0xF0) * 64 + (b.toNat - 0x80)) * 64
                + (c.toNat - 0x80)) * 64 + (d.toNat - 0x80))), 3)
            else (none, 2)
          | [] => (none, 2)
      | [] => (none, 1)
  | _, _ => (none, 0)

/-- The characters of a byte sequence, `none` standing for each faulty part of it. -/
def characters : List UInt8 → List (Option Char)
  | [] => []
  | b :: r =>
    let (c, n) := front b r
    c :: characters (r.drop n)
termination_by bytes => bytes.length
decreasing_by simp only [List.length_cons, List.length_drop]; omega

/-- The text of bytes, with `replacement` for each faulty part. -/
def decodeLossy (bytes : List UInt8) : List Char :=
  (characters bytes).map (·.getD replacement)

/-- The text of bytes that are well formed. -/
def decode? (bytes : List UInt8) : Option (List Char) :=
  (characters bytes).mapM id

end RemoteDriver.Text.Utf8
