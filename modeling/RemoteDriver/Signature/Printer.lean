import RemoteDriver.Signature.Basic

/-!
# Writing signatures

The parameters with commas between them.  Where parameters that are passed by name only follow
positional ones directly, a star alone is written before the first of them.
-/

namespace RemoteDriver.Signature

/-- The text of one parameter. -/
def Param.text (p : Param) : List Char :=
  match p.kind with
  | .variadicPositional => '*' :: p.name.toList
  | .variadicKeyword => '*' :: '*' :: p.name.toList
  | _ =>
    match p.default with
    | some default => p.name.toList ++ '=' :: default.toList
    | none => p.name.toList

/-- The pieces of a parameter list, with a star of its own before the first parameter that is
passed by name only if no star has been written before it. -/
def writtenPieces : (starred : Bool) → List Param → List (List Char)
  | _, [] => []
  | starred, p :: rest =>
    if p.kind = .keywordOnly ∧ !starred then ['*'] :: p.text :: writtenPieces true rest
    else p.text :: writtenPieces starred rest

/-- Pieces with a comma and a blank between them. -/
def listed : List (List Char) → List Char
  | [] => []
  | [p] => p
  | p :: q :: rest => p ++ ',' :: ' ' :: listed (q :: rest)

/-- The text of a signature. -/
def text (s : Signature) : String :=
  String.ofList (listed (writtenPieces (s.has .variadicPositional) s.params))

end RemoteDriver.Signature
