import RemoteDriver.Json.Basic
import RemoteDriver.Number.Shortest
import RemoteDriver.Text.Hex

/-!
# Writing JSON

The compact form: no blanks, members in order, and in strings only the quote, the backslash and
the control characters below the space escaped.
-/

namespace RemoteDriver.Json

/-- How one character stands in a string. -/
def escapedChar (c : Char) : List Char :=
  if c = '"' then ['\\', '"']
  else if c = '\\' then ['\\', '\\']
  else if 0x20 ≤ c.toNat then [c]
  else if c.toNat = 8 then ['\\', 'b']
  else if c = '\t' then ['\\', 't']
  else if c = '\n' then ['\\', 'n']
  else if c.toNat = 12 then ['\\', 'f']
  else if c = '\r' then ['\\', 'r']
  else ['\\', 'u', '0', '0', Text.Hex.digit (c.toNat / 16), Text.Hex.digit (c.toNat % 16)]

/-- The characters of a string and its closing quote, before what follows. -/
def writeChars : List Char → List Char → List Char
  | [], rest => '"' :: rest
  | c :: s, rest => escapedChar c ++ writeChars s rest

/-- A string in quotes, before what follows. -/
def writeString (s : String) (rest : List Char) : List Char := '"' :: writeChars s.toList rest

/-- The text of a whole number. -/
def intText (n : Int) : List Char :=
  (if n < 0 then ['-'] else []) ++ (toString n.natAbs).toList

/-- The text of a number. -/
def Number.text : Number → List Char
  | .whole n => intText n
  | .double d => if d.isFinite then d.wireText.toList else ['n', 'u', 'l', 'l']

mutual

/-- The text of a value, before what follows. -/
def write : Json → List Char → List Char
  | .null, rest => 'n' :: 'u' :: 'l' :: 'l' :: rest
  | .boolean true, rest => 't' :: 'r' :: 'u' :: 'e' :: rest
  | .boolean false, rest => 'f' :: 'a' :: 'l' :: 's' :: 'e' :: rest
  | .number n, rest => n.text ++ rest
  | .string s, rest => writeString s rest
  | .array items, rest => '[' :: writeItems items (']' :: rest)
  | .object members, rest =>
    Char.ofNat 0x7B :: writeMembers members (Char.ofNat 0x7D :: rest)

/-- The values of an array with commas between them, before what follows. -/
def writeItems : List Json → List Char → List Char
  | [], rest => rest
  | [v], rest => write v rest
  | v :: w :: vs, rest => write v (',' :: writeItems (w :: vs) rest)

/-- The members of an object with commas between them, before what follows. -/
def writeMembers : List (String × Json) → List Char → List Char
  | [], rest => rest
  | [(k, v)], rest => writeString k (':' :: write v rest)
  | (k, v) :: m :: ms, rest =>
    writeString k (':' :: write v (',' :: writeMembers (m :: ms) rest))

end

/-- The compact text of a value. -/
def text (v : Json) : String := String.ofList (write v [])

end RemoteDriver.Json
