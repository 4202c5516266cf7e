import RemoteDriver.Text.Blank
import RemoteDriver.Url.Basic

/-!
# Query pairs

A query as names with values: pairs stand between ampersands, the first equals sign separates
name and value, a plus sign is a blank, and bytes that are not UTF-8 become the replacement
character.
-/

namespace RemoteDriver.Url

/-- The text of a name or a value in a query. -/
def formDecoded (s : List Char) : String :=
  String.ofList (Text.Utf8.decodeLossy
    (Percent.decode (s.map fun c => if c = '+' then ' ' else c)))

/-- The name and the value of a piece between ampersands. -/
def pairOf (piece : List Char) : String × String :=
  match Text.cut? '=' piece with
  | some (name, value) => (formDecoded name, formDecoded value)
  | none => (formDecoded piece, "")

/-- The names and values of the query, in order. -/
def queryPairs (u : Url) : List (String × String) :=
  ((Text.pieces '&' (u.query.getD [])).filter (· ≠ [])).map pairOf

end RemoteDriver.Url
