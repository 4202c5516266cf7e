import RemoteDriver.Text.Hex
import RemoteDriver.Text.SpelledOut

/-!
# Quoted texts

A text between double quotes, as descriptions of values and messages show it.  The quote and the
backslash are marked by a backslash, the usual controls have letters, and characters that would
not show are written by their number in braces.
-/

namespace RemoteDriver.Text

/-- How one character stands in a quoted text. -/
def quotedChar (c : Char) : List Char :=
  if c = '"' then ['\\', '"']
  else if c = '\\' then ['\\', '\\']
  else if c = '\n' then ['\\', 'n']
  else if c = '\r' then ['\\', 'r']
  else if c = '\t' then ['\\', 't']
  else if c.toNat = 0 then ['\\', '0']
  else if isSpelledOut c then
    '\\' :: 'u' :: Char.ofNat 0x7B :: (Hex.natDigits c.toNat ++ [Char.ofNat 0x7D])
  else [c]

/-- A text between double quotes. -/
def quoted (s : String) : String :=
  String.ofList ('"' :: (s.toList.flatMap quotedChar ++ ['"']))

/-- A text that may be absent, as descriptions show it. -/
def quotedOption : Option String → String
  | none => "None"
  | some s => "Some(" ++ quoted s ++ ")"

end RemoteDriver.Text
