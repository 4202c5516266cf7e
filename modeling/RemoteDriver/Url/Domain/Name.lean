import RemoteDriver.Url.Domain.Direction
import RemoteDriver.Url.Domain.Joiner
import RemoteDriver.Url.Domain.Reading
import RemoteDriver.Url.Punycode

/-!
# Domain names

A domain name is kept in ASCII.  A label with other characters is written in Punycode, with `xn--`
in front; a label that comes in Punycode already has to be plain: its characters stand for
themselves, and so it is what they are written as.
-/

namespace RemoteDriver.Url.Domain

/-- What stands in front of a label that has characters beyond ASCII. -/
def sign : List Char := "xn--".toList

/-- Whether a text has no characters beyond ASCII. -/
def isAscii (s : List Char) : Bool := s.all (·.toNat < 0x80)

/-- The label that a label stands for: itself, unless it has the sign in front. -/
def unsigned? (label : List Char) : Option (List Char) :=
  if label.take 4 = sign then
    let written := label.drop 4
    if isAscii written ∧ written ≠ [] ∧ written.getLast? ≠ some '-' ∧ written.length ≤ 2000 then
      (Punycode.decode? written).filter isPlain
    else none
  else some label

/-- Whether a label may be part of a name: it begins with no mark, its joiners have a reason, and
it is not too long to be written. -/
def isWellFormed (label : List Char) : Bool :=
  !label.head?.any Text.isMark && joinersFit [] label && (isAscii label || label.length ≤ 1000)

/-- The ASCII form of a label. -/
def signed (label : List Char) : List Char :=
  if isAscii label then label else sign ++ Punycode.encode label

/-- The ASCII form of a name, if it is one. -/
def ascii? (s : List Char) : Option (List Char) := do
  let name ← read? s
  let labels ← (Text.pieces '.' name).mapM unsigned?
  if labels.all isWellFormed && directionsFit labels then
    some (Text.joined '.' (labels.map signed))
  else none

end RemoteDriver.Url.Domain
