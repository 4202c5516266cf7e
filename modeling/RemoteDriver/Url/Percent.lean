import RemoteDriver.Text.Hex
import RemoteDriver.Text.Utf8

/-!
# Percent-encoding

Characters that a part of a URL may not hold are written as the bytes of their UTF-8 form, each
after a percent sign.  Which ones those are differs from part to part; controls and everything
beyond ASCII are among them everywhere.
-/

namespace RemoteDriver.Url.Percent

/-- Whether a character is encoded in every part. -/
def isControl (c : Char) : Bool := c.toNat < 0x20 || 0x7F ≤ c.toNat

/-- Whether a character is encoded in the fragment. -/
def inFragment (c : Char) : Bool :=
  isControl c || c == ' ' || c == '"' || c == '<' || c == '>' || c.toNat == 0x60

/-- Whether a character is encoded in the query; the schemes of the web also encode the
apostrophe. -/
def inQuery (special : Bool) (c : Char) : Bool :=
  isControl c || c == ' ' || c == '"' || c == '#' || c == '<' || c == '>'
    || (special && c.toNat == 0x27)

/-- Whether a character is encoded in the path. -/
def inPath (c : Char) : Bool :=
  inFragment c || c == '#' || c == '?' || c.toNat == 0x7B || c.toNat == 0x7D

/-- Whether a character is encoded in a user name or a password. -/
def inUserInfo (c : Char) : Bool :=
  inPath c || c == '/' || c == ':' || c == ';' || c == '=' || c == '@' || c == '[' || c == '\\'
    || c == ']' || c == '^' || c == '|'

/-- A byte after a percent sign. -/
def encodeByte (b : UInt8) : List Char :=
  let upper (n : Nat) : Char := if n < 10 then Char.ofNat (0x30 + n) else Char.ofNat (0x37 + n)
  ['%', upper (b.toNat / 16), upper (b.toNat % 16)]

/-- A text with the characters of a set encoded. -/
def encode (set : Char → Bool) (s : List Char) : List Char :=
  s.flatMap fun c => if set c then (String.utf8EncodeChar c).flatMap encodeByte else [c]

/-- The bytes of a text with every percent sign that two hexadecimal digits follow decoded. -/
def decodeBytes : List UInt8 → List UInt8
  | 0x25 :: a :: b :: r =>
    match Text.Hex.value? (Char.ofNat a.toNat), Text.Hex.value? (Char.ofNat b.toNat) with
    | some hi, some lo => UInt8.ofNat (hi * 16 + lo) :: decodeBytes r
    | _, _ => 0x25 :: decodeBytes (a :: b :: r)
  | b :: r => b :: decodeBytes r
  | [] => []
termination_by bytes => bytes.length

/-- The bytes of a text, percent signs decoded. -/
def decode (s : List Char) : List UInt8 := decodeBytes (Text.Utf8.encode s)

end RemoteDriver.Url.Percent
